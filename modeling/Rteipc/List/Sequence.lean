import Rteipc.List

namespace Rteipc

open Data

/-! The lists of a program as sequences: any number of lists share the memory
their nodes lie in, and what is in no list changes in any way in between. -/

abbrev ListPtr := Nat

structure ListWorld where
  mem : NodeMem
  lists : ListPtr → ListT

/-- `elsewhere` is any change of a node: allocated, written to or freed. -/
inductive ListOp where
  | listPush (list : ListPtr) (node : NodePtr)
  | listPop (list : ListPtr)
  | listRemove (list : ListPtr) (node : NodePtr)
  | elsewhere (node : NodePtr) (cell : Option NodeT)
deriving DecidableEq, Repr

def ListWorld.start (mem : NodeMem) : ListWorld := ⟨mem, fun _ => listInit⟩

def ListWorld.change (w : ListWorld) (list : ListPtr) (changed : NodeMem × ListT) : ListWorld :=
  ⟨changed.1, Function.update w.lists list changed.2⟩

/-- One call, with the node it returns. -/
def ListWorld.call (w : ListWorld) : ListOp → Except Fault (ListWorld × Option NodePtr)
  | .listPush list node => (listPush w.mem (w.lists list) (some node)).map fun pushed => (w.change list pushed, none)
  | .listPop list => (listPop w.mem (w.lists list)).map fun popped => (w.change list popped.1, popped.2)
  | .listRemove list node => (listRemove w.mem (w.lists list) (some node)).map fun left => (w.change list left, none)
  | .elsewhere node cell => .ok ({ w with mem := Function.update w.mem node cell }, none)

/-- Calls in order, with what each returns. -/
def ListWorld.calls (w : ListWorld) : List ListOp → Except Fault (ListWorld × List (Option NodePtr))
  | [] => .ok (w, [])
  | op :: ops => do
      let (w, returned) ← w.call op
      let (w, later) ← w.calls ops
      .ok (w, returned :: later)

/-! ## Sequences -/

/-- What the lists are for. -/
structure Sequences where
  live : NodePtr → Bool
  nodes : ListPtr → List NodePtr

def Sequences.start (mem : NodeMem) : Sequences := ⟨fun node => (mem node).isSome, fun _ => []⟩

def Sequences.Free (s : Sequences) (node : NodePtr) : Prop := ∀ list, node ∉ s.nodes list

def Sequences.set (s : Sequences) (list : ListPtr) (nodes : List NodePtr) : Sequences :=
  { s with nodes := Function.update s.nodes list nodes }

/-- What each operation is on the sequences: a node that is in no list is
appended, the last node is taken off, a node that is in the list is taken out. -/
inductive SeqStep : Sequences → ListOp × Option NodePtr → Sequences → Prop
  | push {s : Sequences} {list : ListPtr} {node : NodePtr} (free : s.Free node) (live : s.live node = true) :
      SeqStep s (.listPush list node, none) (s.set list (s.nodes list ++ [node]))
  | pop {s : Sequences} {list : ListPtr} :
      SeqStep s (.listPop list, (s.nodes list).getLast?) (s.set list (s.nodes list).dropLast)
  | remove {s : Sequences} {list : ListPtr} {node : NodePtr} (member : node ∈ s.nodes list) :
      SeqStep s (.listRemove list node, none) (s.set list ((s.nodes list).erase node))
  | elsewhere {s : Sequences} {node : NodePtr} {cell : Option NodeT} (free : s.Free node) :
      SeqStep s (.elsewhere node cell, none) { s with live := Function.update s.live node cell.isSome }

/-- The lists hold the sequences, and no node is in two of them. -/
structure ListWorld.Represents (w : ListWorld) (s : Sequences) : Prop where
  live : ∀ node, s.live node = (w.mem node).isSome
  lists : ∀ list, (w.lists list).Represents w.mem (s.nodes list)
  apart : ∀ list other node, node ∈ s.nodes list → node ∈ s.nodes other → list = other

variable {w : ListWorld} {s after : Sequences} {list : ListPtr}

theorem ListWorld.start_represents (mem : NodeMem) : (ListWorld.start mem).Represents (.start mem) :=
  ⟨fun _ => rfl, fun _ => listInit_represents, fun _ _ _ member => by cases member⟩

/-- An operation on one list leaves the others as they are. -/
theorem ListWorld.Represents.change (represents : w.Represents s) {changed : NodeMem × ListT}
    {nodes touched : List NodePtr} (own : changed.2.Represents changed.1 nodes) (frame : Frame w.mem changed.1 touched)
    (kept : ∀ node ∈ nodes, node ∈ touched)
    (outside : ∀ node ∈ touched, ∀ other, other ≠ list → node ∉ s.nodes other) :
    (w.change list changed).Represents (s.set list nodes) := by
  constructor
  · intro node
    have same : changed.1 node = none ↔ w.mem node = none := frame.live node
    show s.live node = (changed.1 node).isSome
    rw [represents.live node, Bool.eq_iff_iff, Option.isSome_iff_ne_none, Option.isSome_iff_ne_none, ne_eq, ne_eq, same]
  · intro other
    show (Function.update w.lists list changed.2 other).Represents changed.1 (Function.update s.nodes list nodes other)
    by_cases same : other = list
    · subst same
      rwa [Function.update_self, Function.update_self]
    · rw [Function.update_of_ne same, Function.update_of_ne same]
      exact (represents.lists other).congr fun node member =>
        frame.same node fun inside => outside node inside other same member
  · intro first second node inFirst inSecond
    change node ∈ Function.update s.nodes list nodes first at inFirst
    change node ∈ Function.update s.nodes list nodes second at inSecond
    by_cases isFirst : first = list
    · by_cases isSecond : second = list
      · rw [isFirst, isSecond]
      · rw [isFirst, Function.update_self] at inFirst
        rw [Function.update_of_ne isSecond] at inSecond
        exact (outside node (kept node inFirst) second isSecond inSecond).elim
    · rw [Function.update_of_ne isFirst] at inFirst
      by_cases isSecond : second = list
      · rw [isSecond, Function.update_self] at inSecond
        exact (outside node (kept node inSecond) first isFirst inFirst).elim
      · rw [Function.update_of_ne isSecond] at inSecond
        exact represents.apart first second node inFirst inSecond

theorem ListWorld.Represents.outside (represents : w.Represents s) {node : NodePtr} (member : node ∈ s.nodes list) :
    ∀ other, other ≠ list → node ∉ s.nodes other :=
  fun other differ also => differ (represents.apart other list node also member)

theorem ListWorld.call_refines (represents : w.Represents s) {event : ListOp × Option NodePtr}
    (step : SeqStep s event after) :
    ∃ next, w.call event.1 = .ok (next, event.2) ∧ next.Represents after := by
  cases step with
  | @push list node free live =>
      have allocated : w.mem node ≠ none := by
        rwa [represents.live, Option.isSome_iff_ne_none] at live
      obtain ⟨mem, pushed, returned, own, frame⟩ := listPush_spec (represents.lists list) (free list) allocated
      refine ⟨w.change list (mem, pushed), by simp only [call, returned, Except.map],
        represents.change own frame (fun _ => id) ?_⟩
      intro touched inside other differ
      rcases List.mem_append.mp inside with old | new
      · exact represents.outside old other differ
      · rw [List.mem_singleton.mp new]
        exact free other
  | @pop list =>
      rcases List.eq_nil_or_concat' (s.nodes list) with empty | ⟨front, node, split⟩
      · have own := represents.lists list
        rw [empty] at own
        refine ⟨w.change list (w.mem, w.lists list), by simp only [call, listPop_empty own, Except.map, empty]; rfl, ?_⟩
        rw [empty]
        exact represents.change own ⟨fun _ _ => rfl, fun _ => Iff.rfl⟩ (fun _ => id) nofun
      · have own := represents.lists list
        rw [split] at own
        obtain ⟨mem, shrunk, returned, left, frame⟩ := listPop_concat own
        refine ⟨w.change list (mem, shrunk), ?_, ?_⟩
        · simp only [call, returned, Except.map, split, List.getLast?_concat]
        · rw [split, List.dropLast_concat]
          refine represents.change left frame (fun _ member => List.mem_append_left _ member) fun node inside => ?_
          exact represents.outside (split ▸ inside)
  | @remove list node member =>
      obtain ⟨front, back, split⟩ := List.append_of_mem member
      have own := represents.lists list
      rw [split] at own
      have notBefore : node ∉ front := fun before =>
        (List.nodup_append.mp own.linked.nodup).2.2 node before node (.head _) rfl
      obtain ⟨mem, shrunk, returned, left, frame⟩ := listRemove_spec own
      refine ⟨w.change list (mem, shrunk), by simp only [call, returned, Except.map], ?_⟩
      rw [split, List.erase_append_right _ notBefore, List.erase_cons_head]
      refine represents.change left frame (fun other kept => ?_) fun node inside => represents.outside (split ▸ inside)
      rcases List.mem_append.mp kept with before | behind
      · exact List.mem_append_left _ before
      · exact List.mem_append_right _ (.tail _ behind)
  | @elsewhere node cell free =>
      refine ⟨_, rfl, ?_, fun list => ?_, represents.apart⟩
      · intro other
        show Function.update s.live node cell.isSome other = (Function.update w.mem node cell other).isSome
        by_cases same : other = node
        · rw [same, Function.update_self, Function.update_self]
        · rw [Function.update_of_ne same, Function.update_of_ne same, represents.live]
      · refine (represents.lists list).congr fun other member => Function.update_of_ne ?_ _ _
        intro same
        exact free list (same ▸ member)

theorem ListWorld.calls_refine (represents : w.Represents s) {events : List (ListOp × Option NodePtr)}
    (run : Reaches SeqStep s events after) :
    ∃ last, w.calls (events.map Prod.fst) = .ok (last, events.map Prod.snd) ∧ last.Represents after := by
  induction run generalizing w with
  | nil s => exact ⟨w, rfl, represents⟩
  | cons first _ ih =>
      obtain ⟨next, returned, still⟩ := call_refines represents first
      obtain ⟨last, later, final⟩ := ih still
      exact ⟨last, by simp only [List.map_cons, calls, returned, ok_bind, later], final⟩

/-! ## Well-formedness -/

/-- Both ends are NULL together, and the chains from them visit the same nodes
in opposite order, each once. -/
structure ListT.WellFormed (list : ListT) (mem : NodeMem) (nodes : List NodePtr) : Prop where
  ends : list.head = none ↔ list.tail = none
  forward : Chain (fun node => (mem node).map Link.next) list.head nodes
  backward : Chain (fun node => (mem node).map Link.prev) list.tail nodes.reverse
  once : nodes.Nodup

theorem ListT.Represents.wellFormed {list : ListT} {mem : NodeMem} {nodes : List NodePtr}
    (represents : list.Represents mem nodes) : list.WellFormed mem nodes where
  ends := by rw [represents.head, represents.tail, List.head?_eq_none_iff, List.getLast?_eq_none_iff]
  forward := represents.head ▸ represents.linked.segment.forward
  backward := represents.tail ▸ represents.linked.segment.backward
  once := represents.linked.nodup

/-! ## Iteration -/

section Iteration

variable {State : Type} (world : State → ListWorld) (body : NodePtr → State → Except Fault State)

/-- The loop of `list_each`, with the nodes its body is given; `none` is the fuel used up. -/
def eachLoop : Nat → Option IteratorT → State → Except Fault (Option (State × List NodePtr))
  | 0, _, _ => .ok none
  | fuel + 1, it, st => do
      let (it, node) ← iteratorNext (world st).mem it
      match node with
      | none => .ok (some (st, []))
      | some node => do
          let st ← body node st
          let rest ← eachLoop fuel it st
          .ok (rest.map fun (st, visited) => (st, node :: visited))

def listEach (alloc : Bool) (fuel : Nat) (st : State) (list : ListPtr) :
    Except Fault (Option (State × List NodePtr)) :=
  eachLoop world body fuel (iteratorNew alloc ((world st).lists list)) st

/-- Given a node of the list, the body returns with the list as it was, or with
that node taken out. The rest of the state and memory it may change. -/
def Careful (list : ListPtr) : Prop :=
  ∀ node st s, (world st).Represents s → node ∈ s.nodes list →
    ∃ next after, body node st = .ok next ∧ (world next).Represents after ∧
      (after.nodes list = s.nodes list ∨ after.nodes list = (s.nodes list).erase node)

variable {world body}

/-- The iterator is at the part not yet visited, whatever the body has left of
the part before it. -/
theorem eachLoop_visits (careful : Careful world body list) {rest : List NodePtr} {fuel : Nat}
    (enough : rest.length < fuel) {st : State} (represents : (world st).Represents s) {done : List NodePtr}
    (split : s.nodes list = done ++ rest) :
    ∃ last after, eachLoop world body fuel (some ⟨rest.head?⟩) st = .ok (some (last, rest)) ∧
      (world last).Represents after := by
  induction rest generalizing fuel st s done with
  | nil =>
      cases fuel with
      | zero => cases enough
      | succ fuel => exact ⟨st, s, rfl, represents⟩
  | cons node rest ih =>
      cases fuel with
      | zero => cases enough
      | succ fuel =>
          have linked := (represents.lists list).linked
          rw [split] at linked
          obtain ⟨next, after, returned, still, left⟩ := careful node st s represents
            (split ▸ List.mem_append_right _ (.head _))
          have notBefore : node ∉ done := fun before =>
            (List.nodup_append.mp linked.nodup).2.2 node before node (.head _) rfl
          have behind : ∃ before, after.nodes list = before ++ rest := by
            rcases left with same | removed
            · exact ⟨done ++ [node], by rw [same, split, List.append_assoc]; rfl⟩
            · exact ⟨done, by rw [removed, split, List.erase_append_right _ notBefore, List.erase_cons_head]⟩
          obtain ⟨before, resplit⟩ := behind
          obtain ⟨last, final, visited, represented⟩ := ih (Nat.lt_of_succ_lt_succ enough) still resplit
          refine ⟨last, final, ?_, represented⟩
          simp only [eachLoop, iteratorNext, List.head?_cons, readNode_live linked.cell, ok_bind, returned, visited,
            Option.map_some]

/-- A body that removes the nodes it chooses to. -/
def removing (chosen : NodePtr → Bool) (list : ListPtr) (node : NodePtr) (w : ListWorld) : Except Fault ListWorld :=
  if chosen node then (w.call (.listRemove list node)).map Prod.fst else .ok w

theorem removing_careful (chosen : NodePtr → Bool) (list : ListPtr) : Careful id (removing chosen list) list := by
  intro node w s represents member
  by_cases isChosen : chosen node = true
  · obtain ⟨next, returned, still⟩ := ListWorld.call_refines represents (.remove member)
    refine ⟨next, _, ?_, still, .inr (Function.update_self _ _ _)⟩
    rw [removing, if_pos isChosen]
    exact congrArg (Except.map Prod.fst) returned
  · exact ⟨w, s, by rw [removing, if_neg isChosen], represents, .inl rfl⟩

end Iteration

/-- From empty lists in any memory, the calls return what the operations on
sequences return and leave every list well formed and holding its sequence;
`list_each` visits that sequence, also when its body removes what it was given. -/
theorem list_implements_sequence {mem : NodeMem} {events : List (ListOp × Option NodePtr)} {s : Sequences}
    (run : Reaches SeqStep (.start mem) events s) :
    ∃ w, (ListWorld.start mem).calls (events.map Prod.fst) = .ok (w, events.map Prod.snd) ∧
      ∀ list, (w.lists list).WellFormed w.mem (s.nodes list) ∧
        (listEmpty (w.lists list) = true ↔ s.nodes list = []) ∧
        ∀ {State : Type} (world : State → ListWorld) (body : NodePtr → State → Except Fault State) (st : State),
          world st = w → Careful world body list → ∀ fuel, (s.nodes list).length < fuel →
            ∃ last, listEach world body true fuel st list = .ok (some (last, s.nodes list)) := by
  obtain ⟨w, returned, represents⟩ := ListWorld.calls_refine (ListWorld.start_represents mem) run
  refine ⟨w, returned, fun list => ⟨(represents.lists list).wellFormed, (represents.lists list).empty, ?_⟩⟩
  intro State world body st isWorld careful fuel enough
  subst isWorld
  obtain ⟨last, _, visited, -⟩ := eachLoop_visits careful enough represents (List.nil_append _).symm
  refine ⟨last, ?_⟩
  rw [listEach, iteratorNew, if_pos rfl, (represents.lists list).head]
  exact visited

/-- Two nodes are pushed, the first is removed, and the other is popped. -/
theorem list_implements_sequence_two :
    ∃ (s : Sequences) (w : ListWorld), (ListWorld.start fun _ => some ⟨none, none⟩).calls
        [.listPush 0 1, .listPush 0 2, .listRemove 0 1, .listPop 0] = .ok (w, [none, none, none, some 2]) ∧
      ∀ list, (w.lists list).WellFormed w.mem (s.nodes list) ∧
        (listEmpty (w.lists list) = true ↔ s.nodes list = []) ∧
        ∀ {State : Type} (world : State → ListWorld) (body : NodePtr → State → Except Fault State) (st : State),
          world st = w → Careful world body list → ∀ fuel, (s.nodes list).length < fuel →
            ∃ last, listEach world body true fuel st list = .ok (some (last, s.nodes list)) :=
  ⟨_, @list_implements_sequence (fun _ => some ⟨none, none⟩)
    [(.listPush 0 1, none), (.listPush 0 2, none), (.listRemove 0 1, none), (.listPop 0, some 2)] _
    (.cons (.push (by simp [Sequences.Free, Sequences.start]) rfl)
      (.cons (.push (by
          intro list
          by_cases same : list = 0 <;> simp [Sequences.set, Sequences.start, same]) rfl)
        (.cons (.remove (by decide)) (.cons .pop (.nil _)))))⟩

end Rteipc
