import Rteipc.Endpoint.Binding
import Rteipc.Endpoint.Uri
import Rteipc.List.Sequence

namespace Rteipc

open Data

/-! The names of the open loops: `lo_list` of `ep_loop.c` as the linked list it
is, next to the endpoints that `rteipc_open` and `rteipc_close` work on. -/

/-- What `lookup_lo` and `loop_close` read of a `struct loop`. -/
structure LoopObject where
  self : EpPtr
  name : List UInt8
deriving DecidableEq, Repr

/-- `lo_list` with the memory of its nodes, the `struct loop` that each is the
`entry` of, and the `data` of the loop endpoints. -/
structure LoHeap where
  mem : NodeMem
  list : ListT
  loops : NodePtr → Option LoopObject
  data : EpPtr → Option NodePtr

def LoHeap.start : LoHeap := ⟨fun _ => none, listInit, fun _ => none, fun _ => none⟩

/-- `lookup_lo`; the first `none` is the fuel used up. -/
def lookupLoFrom (lo : LoHeap) (name : List UInt8) :
    Nat → Option IteratorT → Except Fault (Option (Option NodePtr))
  | 0, _ => .ok none
  | fuel + 1, it => do
      let (it, n) ← iteratorNext lo.mem it
      match n with
      | none => .ok (some none)
      | some n =>
          match lo.loops n with
          | none => .error .useAfterFree
          | some object => if object.name = name then .ok (some (some n)) else lookupLoFrom lo name fuel it

def lookupLoNode (lo : LoHeap) (name : List UInt8) (fuel : Nat) : Except Fault (Option (Option NodePtr)) :=
  lookupLoFrom lo name fuel (iteratorNew true lo.list)

/-- The end of `loop_open`, with the object that `calloc` has returned. -/
def LoHeap.push (lo : LoHeap) (entry : NodePtr) (self : EpPtr) (name : List UInt8) : Except Fault LoHeap := do
  let (mem, list) ← listPush (Function.update lo.mem entry (some ⟨none, none⟩)) lo.list (some entry)
  .ok ⟨mem, list, Function.update lo.loops entry (some ⟨self, name⟩), Function.update lo.data self (some entry)⟩

/-- `loop_close` -/
def LoHeap.remove (lo : LoHeap) (self : EpPtr) : Except Fault LoHeap :=
  match lo.data self with
  | none => .error .nullDereference
  | some entry => do
      let (mem, list) ← listRemove lo.mem lo.list (some entry)
      .ok ⟨Function.update mem entry none, list, Function.update lo.loops entry none, lo.data⟩

/-- An open loop: the descriptor and the name it was opened with, its endpoint and its node. -/
structure OpenLoop where
  id : Int
  name : List UInt8
  ep : EpPtr
  entry : NodePtr
deriving DecidableEq, Repr

/-! ## The list in memory -/

structure LoHeap.Holds (lo : LoHeap) (rows : List OpenLoop) : Prop where
  list : lo.list.Represents lo.mem (rows.map OpenLoop.entry)
  objects : ∀ row ∈ rows, lo.loops row.entry = some ⟨row.ep, row.name⟩
  data : ∀ row ∈ rows, lo.data row.ep = some row.entry

variable {lo : LoHeap} {rows front back : List OpenLoop} {row : OpenLoop} {name : List UInt8}

theorem LoHeap.start_holds : LoHeap.start.Holds [] := ⟨listInit_represents, nofun, nofun⟩

theorem lookupLoFrom_eq {done rest : List OpenLoop} (holds : lo.Holds (done ++ rest)) {fuel : Nat}
    (enough : rest.length < fuel) :
    lookupLoFrom lo name fuel (some ⟨(rest.map OpenLoop.entry).head?⟩) =
      .ok (some ((rest.find? fun row => row.name = name).map OpenLoop.entry)) := by
  induction rest generalizing done fuel with
  | nil =>
      cases fuel with
      | zero => cases enough
      | succ fuel => rfl
  | cons row rest ih =>
      cases fuel with
      | zero => cases enough
      | succ fuel =>
          have linked := holds.list.linked
          rw [List.map_append, List.map_cons] at linked
          have object := holds.objects row (List.mem_append_right _ (.head _))
          simp only [lookupLoFrom, iteratorNext, List.map_cons, List.head?_cons, readNode_live linked.cell, ok_bind, object]
          by_cases named : row.name = name
          · have first : (row :: rest).find? (fun row => row.name = name) = some row :=
              List.find?_cons_of_pos (by simpa using named)
            rw [if_pos named, first]
            rfl
          · rw [if_neg named]
            rw [← List.singleton_append, ← List.append_assoc] at holds
            rw [ih holds (Nat.lt_of_succ_lt_succ enough), List.find?_cons_of_neg]
            rwa [decide_eq_true_iff]

theorem LoHeap.Holds.lookup (holds : lo.Holds rows) (name : List UInt8) {fuel : Nat} (enough : rows.length < fuel) :
    lookupLoNode lo name fuel = .ok (some ((rows.find? fun row => row.name = name).map OpenLoop.entry)) := by
  rw [lookupLoNode, iteratorNew, if_pos rfl, holds.list.head]
  exact @lookupLoFrom_eq lo name [] rows holds fuel enough

theorem LoHeap.Holds.push (holds : lo.Holds rows) (unused : lo.mem row.entry = none)
    (unopened : ∀ other ∈ rows, other.ep ≠ row.ep) :
    ∃ next, lo.push row.entry row.ep row.name = .ok next ∧ next.Holds (rows ++ [row]) := by
  have fresh : row.entry ∉ rows.map OpenLoop.entry := fun member => holds.list.linked.live member unused
  have apart : ∀ other ∈ rows, other.entry ≠ row.entry := fun other member same =>
    fresh (same ▸ List.mem_map_of_mem member)
  have old : lo.list.Represents (Function.update lo.mem row.entry (some ⟨none, none⟩)) (rows.map OpenLoop.entry) :=
    holds.list.congr fun other member => Function.update_of_ne (fun same : other = row.entry => fresh (same ▸ member)) _ _
  have live : Function.update lo.mem row.entry (some (⟨none, none⟩ : NodeT)) row.entry ≠ none := by
    rw [Function.update_self]
    nofun
  obtain ⟨mem, list, pushed, represents, -⟩ := listPush_spec old fresh live
  refine ⟨_, by rw [LoHeap.push, pushed]; rfl, ?_, ?_, ?_⟩
  · rw [List.map_append]
    exact represents
  · intro other member
    rcases List.mem_append.mp member with before | new
    · exact (Function.update_of_ne (apart other before) _ _).trans (holds.objects other before)
    · rw [List.mem_singleton.mp new]
      exact Function.update_self _ _ _
  · intro other member
    rcases List.mem_append.mp member with before | new
    · exact (Function.update_of_ne (unopened other before) _ _).trans (holds.data other before)
    · rw [List.mem_singleton.mp new]
      exact Function.update_self _ _ _

theorem LoHeap.Holds.remove (holds : lo.Holds (front ++ row :: back)) :
    ∃ next, lo.remove row.ep = .ok next ∧ next.Holds (front ++ back) := by
  have data := holds.data row (List.mem_append_right _ (.head _))
  have list := holds.list
  rw [List.map_append, List.map_cons] at list
  obtain ⟨mem, shrunk, removed, represents, -⟩ := listRemove_spec list
  have nodup := List.nodup_append.mp list.linked.nodup
  have kept : ∀ other ∈ front ++ back, other ∈ front ++ row :: back := by
    intro other member
    rcases List.mem_append.mp member with before | behind
    · exact List.mem_append_left _ before
    · exact List.mem_append_right _ (.tail _ behind)
  have apart : ∀ other ∈ front ++ back, other.entry ≠ row.entry := by
    intro other member same
    rcases List.mem_append.mp member with before | behind
    · exact nodup.2.2 other.entry (List.mem_map_of_mem before) row.entry (.head _) same
    · exact (List.nodup_cons.mp nodup.2.1).1 (same ▸ List.mem_map_of_mem behind)
  refine ⟨_, by rw [LoHeap.remove, data]; simp only [removed, ok_bind]; rfl, ?_, ?_, ?_⟩
  · rw [← List.map_append] at represents
    refine represents.congr fun node member => Function.update_of_ne ?_ _ _
    obtain ⟨other, listed, isNode⟩ := List.mem_map.mp member
    exact isNode ▸ apart other listed
  · intro other member
    exact (Function.update_of_ne (apart other member) _ _).trans (holds.objects other (kept other member))
  · exact fun other member => holds.data other (kept other member)

/-! ## Opening and closing -/

/-- `entry` is the node in the object that `calloc` returns. -/
inductive LoopCall where
  | rteipcOpen (outcome : OpenOutcome) (uri : List UInt8) (entry : NodePtr)
  | rteipcClose (id : Int)

/-- The endpoints, `lo_list` in memory, and the loops that the callers have open:
the descriptors they were given for the names they asked for. -/
structure LoopSession (Table Cb Arg : Type) where
  st : EpState Table Cb Arg
  lo : LoHeap
  names : List (Int × List UInt8)

section Sessions

variable {Table Cb Arg : Type} (tbl : DescTable Table)

def LoopSession.start : LoopSession Table Cb Arg := ⟨.start tbl, .start, []⟩

/-- The loop endpoint under a descriptor. -/
def loopAt (st : EpState Table Cb Arg) (id : Int) : Option EpPtr :=
  (findEndpoint tbl st id).filter fun ep => (st.cores.get ep).any fun core => core.type = .loop

/-- A call on the endpoints, with what `loop_open` and `loop_close` do to the list in it. -/
def LoopSession.call (s : LoopSession Table Cb Arg) : LoopCall → Except Fault (LoopSession Table Cb Arg)
  | .rteipcOpen outcome uri entry => do
      let (st, ret) ← rteipcOpen tbl s.st outcome uri
      match parseUri uri with
      | some (.loop, path) =>
          if ret < 0 then .ok { s with st }
          else do
            let lo ← s.lo.push entry s.st.cores.next path
            .ok ⟨st, lo, s.names ++ [(ret, uri)]⟩
      | _ => .ok { s with st }
  | .rteipcClose id => do
      let st ← rteipcClose tbl s.st id
      match loopAt tbl s.st id with
      | some ep => do
          let lo ← s.lo.remove ep
          .ok ⟨st, lo, s.names.filter fun opened => opened.1 ≠ id⟩
      | none => .ok { s with st }

/-- Memory that `calloc` returns is not in use. A call that does not return ends the run. -/
inductive LoopStep : Except Fault (LoopSession Table Cb Arg) → LoopCall →
    Except Fault (LoopSession Table Cb Arg) → Prop
  | rteipcOpen {s : LoopSession Table Cb Arg} {outcome : OpenOutcome} {uri : List UInt8} {entry : NodePtr}
      (unused : s.lo.mem entry = none) :
      LoopStep (.ok s) (.rteipcOpen outcome uri entry) (s.call tbl (.rteipcOpen outcome uri entry))
  | rteipcClose {s : LoopSession Table Cb Arg} {id : Int} :
      LoopStep (.ok s) (.rteipcClose id) (s.call tbl (.rteipcClose id))

def IsOpenLoop (st : EpState Table Cb Arg) (ep : EpPtr) : Prop :=
  ∃ core, st.cores.get ep = some core ∧ core.type = .loop

/-- The rows are the open loops: they have the descriptors and names of the
callers, each open loop endpoint is in one, and `lo_list` is their nodes. -/
structure LoopsNamed (s : LoopSession Table Cb Arg) (rows : List OpenLoop) : Prop where
  names : s.names = rows.map fun row => (row.id, row.name)
  found : ∀ row ∈ rows, findEndpoint tbl s.st row.id = some row.ep
  endpoints : ∀ ep, IsOpenLoop s.st ep ↔ ∃ row ∈ rows, row.ep = ep
  once : (rows.map OpenLoop.ep).Nodup
  list : s.lo.list.WellFormed s.lo.mem (rows.map OpenLoop.entry)
  objects : ∀ row ∈ rows, s.lo.loops row.entry = some ⟨row.ep, row.name⟩
  lengths : ∀ row ∈ rows, 1 ≤ row.name.length ∧ row.name.length ≤ 15
  distinct : (rows.map OpenLoop.name).Nodup
  lookup : ∀ name fuel, rows.length < fuel →
    lookupLoNode s.lo name fuel = .ok (some ((rows.find? fun row => row.name = name).map OpenLoop.entry))

/-- Loop names identify the open loops. -/
def NamesIdentify : Except Fault (LoopSession Table Cb Arg) → Prop
  | .ok s => ∃ rows, LoopsNamed tbl s rows
  | .error _ => False

/-- A name does not overrun `protocol[16]`. -/
def LoopCall.Scans : LoopCall → Prop
  | .rteipcOpen _ uri _ => (uri.takeWhile (· ≠ 58)).length ≤ 15
  | .rteipcClose _ => True

/-- What the calls keep. -/
structure NamesInv (s : LoopSession Table Cb Arg) (rows : List OpenLoop) : Prop where
  inv : EpInv tbl s.st
  names : s.names = rows.map fun row => (row.id, row.name)
  found : ∀ row ∈ rows, tbl.get s.st.epTbl row.id = some row.ep
  endpoints : ∀ ep, IsOpenLoop s.st ep ↔ ∃ row ∈ rows, row.ep = ep
  once : (rows.map OpenLoop.ep).Nodup
  holds : s.lo.Holds rows
  loList : s.st.loList.map (fun lo => (lo.self, lo.name)) = rows.map fun row => (row.ep, row.name)
  lengths : ∀ row ∈ rows, 1 ≤ row.name.length ∧ row.name.length ≤ 15
  distinct : (rows.map OpenLoop.name).Nodup

variable {tbl} {s : LoopSession Table Cb Arg}

theorem NamesInv.loopsNamed (inv : NamesInv tbl s rows) : LoopsNamed tbl s rows where
  names := inv.names
  found := inv.found
  endpoints := inv.endpoints
  once := inv.once
  list := inv.holds.list.wellFormed
  objects := inv.holds.objects
  lengths := inv.lengths
  distinct := inv.distinct
  lookup name _ enough := inv.holds.lookup name enough

theorem NamesInv.start (laws : tbl.Resolves) : NamesInv tbl (.start tbl : LoopSession Table Cb Arg) [] where
  inv := .start laws
  names := rfl
  found := nofun
  endpoints _ := iff_of_false (fun ⟨_, live, _⟩ => nomatch live) nofun
  once := .nil
  holds := LoHeap.start_holds
  loList := rfl
  lengths := nofun
  distinct := .nil

/-- The lookup in `loop_open` goes by the same names. -/
theorem NamesInv.lookup_none (inv : NamesInv tbl s rows) (unused : lookupLo s.st.loList name = none) :
    ∀ row ∈ rows, row.name ≠ name := by
  intro row member same
  have listed : (row.ep, row.name) ∈ s.st.loList.map fun lo => (lo.self, lo.name) :=
    inv.loList ▸ List.mem_map_of_mem member
  obtain ⟨node, isNode, pair⟩ := List.mem_map.mp listed
  have absent := List.find?_eq_none.mp unused node isNode
  rw [decide_eq_true_iff] at absent
  exact absent ((Prod.mk.inj pair).2.trans same)

/-! ## What each call keeps -/

variable {st next : EpState Table Cb Arg} {id : Int} {ep : EpPtr} {core : EpCore}

def EpCore.label (core : EpCore) : Int × EpType := (core.id, core.type)

/-- What an endpoint keeps while others come and go. -/
theorem label_live (same : (next.cores.get ep).map EpCore.label = (st.cores.get ep).map EpCore.label)
    (live : st.cores.get ep = some core) :
    ∃ kept, next.cores.get ep = some kept ∧ kept.id = core.id ∧ kept.type = core.type := by
  rw [live, Option.map_some, Option.map_eq_some_iff] at same
  obtain ⟨kept, keptLive, sameLabel⟩ := same
  obtain ⟨sameId, sameType⟩ := Prod.mk.inj sameLabel
  exact ⟨kept, keptLive, sameId, sameType⟩

theorem EpInv.found_kept (inv : EpInv tbl st) (after : EpInv tbl next) (found : tbl.get st.epTbl id = some ep)
    (same : (next.cores.get ep).map EpCore.label = (st.cores.get ep).map EpCore.label) :
    tbl.get next.epTbl id = some ep := by
  obtain ⟨core, live, named⟩ := inv.resolves id ep found
  obtain ⟨kept, keptLive, sameId, -⟩ := label_live same live
  rw [← named, ← sameId]
  exact after.registered ep kept keptLive

theorem isOpenLoop_congr (same : (next.cores.get ep).map EpCore.label = (st.cores.get ep).map EpCore.label) :
    IsOpenLoop next ep ↔ IsOpenLoop st ep := by
  constructor
  · intro ⟨core, live, isLoop⟩
    obtain ⟨kept, keptLive, -, sameType⟩ := label_live same.symm live
    exact ⟨kept, keptLive, sameType.trans isLoop⟩
  · intro ⟨core, live, isLoop⟩
    obtain ⟨kept, keptLive, -, sameType⟩ := label_live same live
    exact ⟨kept, keptLive, sameType.trans isLoop⟩

theorem rteipcClose_live (returned : rteipcClose tbl st id = .ok next) (found : findEndpoint tbl st id = some ep)
    (live : st.cores.get ep = some core) :
    next.loList = (if core.type = .loop then st.loList.filter fun lo => lo.self ≠ ep else st.loList) ∧
      next.cores.get ep = none ∧
      ∀ other, other ≠ ep → (next.cores.get other).map EpCore.label = (st.cores.get other).map EpCore.label := by
  simp only [rteipcClose, found, deref_live live, ok_bind, closeEndpoint_eq] at returned
  obtain ⟨closed, unregistered, same⟩ := bind_ok returned
  cases same
  obtain ⟨read, -, unbound⟩ := bind_ok unregistered
  obtain ⟨isClosed, -⟩ | ⟨_, _, _, _, _, _, -, -, -, -, -, -, isClosed⟩ := unbindEndpoint_cases unbound
  · subst isClosed
    refine ⟨rfl, Heap.get_free_self, fun other differ => ?_⟩
    rw [destroyEndpoint, Heap.get_free_of_ne differ, Heap.get_modify_of_ne differ]
  · subst isClosed
    refine ⟨rfl, Heap.get_free_self, fun other differ => ?_⟩
    rw [destroyEndpoint, Heap.get_free_of_ne differ]
    refine (Heap.map_get_modify ?_).trans ((Heap.map_get_modify ?_).trans ?_)
    · exact fun _ => rfl
    · exact fun _ => rfl
    · rw [Heap.get_modify_of_ne differ]

theorem NamesInv.same (inv : NamesInv tbl s rows) (after : EpInv tbl next)
    (kept : ∀ ep, IsOpenLoop s.st ep → (next.cores.get ep).map EpCore.label = (s.st.cores.get ep).map EpCore.label)
    (noNew : ∀ ep, IsOpenLoop next ep → IsOpenLoop s.st ep) (loList : next.loList = s.st.loList) :
    NamesInv tbl { s with st := next } rows where
  inv := after
  names := inv.names
  found row member :=
    inv.inv.found_kept after (inv.found row member) (kept row.ep ((inv.endpoints row.ep).mpr ⟨row, member, rfl⟩))
  endpoints ep := by
    refine Iff.trans ⟨noNew ep, fun isOpen => ?_⟩ (inv.endpoints ep)
    exact (isOpenLoop_congr (kept ep isOpen)).mpr isOpen
  once := inv.once
  holds := inv.holds
  loList := loList ▸ inv.loList
  lengths := inv.lengths
  distinct := inv.distinct

theorem NamesInv.row_live (inv : NamesInv tbl s rows) (member : row ∈ rows) : row.ep ≠ s.st.cores.next := by
  obtain ⟨core, live, -⟩ := inv.inv.resolves _ _ (inv.found row member)
  exact Heap.live_ne_next live

theorem withEndpoint_label {alloc : DtblAlloc} {type : EpType} (old : ep ≠ st.cores.next) :
    ((withEndpoint tbl st alloc type).cores.get ep).map EpCore.label = (st.cores.get ep).map EpCore.label := by
  rw [withEndpoint_get, if_neg old]

theorem NamesInv.opened (inv : NamesInv tbl s rows) {outcome : OpenOutcome} {entry : NodePtr}
    (unused : s.lo.mem entry = none) (opens : LoopOpens s.st.loList outcome name)
    (after : EpInv tbl { withEndpoint tbl s.st outcome.desc .loop with
      loList := s.st.loList ++ newLoops .loop s.st.cores.next name }) :
    ∃ lo, s.lo.push entry s.st.cores.next name = .ok lo ∧
      NamesInv tbl
        ⟨{ withEndpoint tbl s.st outcome.desc .loop with loList := s.st.loList ++ newLoops .loop s.st.cores.next name },
          lo, s.names ++ [((tbl.set outcome.desc s.st.epTbl s.st.cores.next).2, name)]⟩
        (rows ++ [⟨(tbl.set outcome.desc s.st.epTbl s.st.cores.next).2, name, s.st.cores.next, entry⟩]) := by
  have old : ∀ other ∈ rows, other.ep ≠ s.st.cores.next := fun other => inv.row_live
  obtain ⟨given, short, untaken, -⟩ := opens
  have unnamed := inv.lookup_none untaken
  obtain ⟨lo, pushed, holds⟩ := @LoHeap.Holds.push s.lo rows
    ⟨(tbl.set outcome.desc s.st.epTbl s.st.cores.next).2, name, s.st.cores.next, entry⟩ inv.holds unused old
  refine ⟨lo, pushed, after, ?_, ?_, ?_, ?_, holds, ?_, ?_, ?_⟩
  · rw [List.map_append, inv.names]
    rfl
  · intro other member
    rcases List.mem_append.mp member with before | new
    · exact inv.inv.found_kept after (inv.found other before) (withEndpoint_label (old other before))
    · rw [List.mem_singleton.mp new]
      exact after.registered _ _ withEndpoint_new
  · intro ep
    by_cases isNew : ep = s.st.cores.next
    · subst isNew
      exact iff_of_true ⟨_, withEndpoint_new, rfl⟩ ⟨_, List.mem_append_right _ (.head _), rfl⟩
    · refine (isOpenLoop_congr (withEndpoint_label isNew)).trans ((inv.endpoints ep).trans ?_)
      constructor
      · intro ⟨other, member, same⟩
        exact ⟨other, List.mem_append_left _ member, same⟩
      · intro ⟨other, member, same⟩
        rcases List.mem_append.mp member with before | new
        · exact ⟨other, before, same⟩
        · rw [List.mem_singleton.mp new] at same
          exact (isNew same.symm).elim
  · rw [List.map_append, List.map_singleton, ← List.concat_eq_append]
    refine List.Nodup.concat (fun member => ?_) inv.once
    obtain ⟨other, listed, same⟩ := List.mem_map.mp member
    exact old other listed same
  · rw [List.map_append, List.map_append, inv.loList]
    rfl
  · intro other member
    rcases List.mem_append.mp member with before | new
    · exact inv.lengths other before
    · rw [List.mem_singleton.mp new]
      exact ⟨Nat.pos_of_ne_zero given, Nat.le_of_lt_succ short⟩
  · rw [List.map_append, List.map_singleton, ← List.concat_eq_append]
    refine List.Nodup.concat (fun member => ?_) inv.distinct
    obtain ⟨other, listed, same⟩ := List.mem_map.mp member
    exact unnamed other listed same

theorem NamesInv.rteipcOpen (laws : tbl.Resolves) (inv : NamesInv tbl s rows) (outcome : OpenOutcome) {uri : List UInt8}
    {entry : NodePtr} (unused : s.lo.mem entry = none) (scans : (uri.takeWhile (· ≠ 58)).length ≤ 15) :
    ∃ next rows, s.call tbl (.rteipcOpen outcome uri entry) = .ok next ∧ NamesInv tbl next rows := by
  rw [← scanUri_protocol] at scans
  obtain ⟨st, ret, returned, after, -⟩ := inv.inv.rteipcOpen_short laws outcome (Nat.not_lt.mpr scans)
  simp only [LoopSession.call, returned, ok_bind]
  obtain ⟨failed, cores, -, loList, -⟩ | ⟨type, path, reached, succeeded, isNext, given⟩ := rteipcOpen_cases returned
  · refine ⟨{ s with st }, rows, ?_, inv.same after (fun ep _ => by rw [cores])
      (fun ep => (isOpenLoop_congr (by rw [cores])).mp) loList⟩
    subst failed
    split
    next => rfl
    next => rfl
  · have parsed : parseUri uri = some (type, path) := by
      rw [opensBackend] at reached
      split at reached
      · cases reached
      · split at reached
        · cases reached
        · exact reached
    have registered : ¬ret < 0 := by
      rw [opensBackend, if_neg (Nat.not_lt.mpr scans)] at reached
      intro negative
      rw [if_pos (by rw [← given]; simp [negative])] at reached
      cases reached
    by_cases isLoop : type = .loop
    · subst isLoop
      obtain ⟨-, refused, -⟩ | ⟨-, -, opens⟩ :=
        openEndpoint_cases (withEndpoint tbl s.st outcome.desc .loop) outcome .loop s.st.cores.next path
      · exact (refused succeeded).elim
      · have short := (opens rfl).2.1
        have isUri : path = uri := by
          have cut := parseUri_loop parsed
          rw [cut, List.length_take] at short
          rw [cut]
          exact List.take_of_length_le (by unfold maxLoopName at short; omega)
        subst isNext given isUri
        obtain ⟨lo, pushed, kept⟩ := inv.opened unused (opens rfl) after
        exact ⟨_, _, by simp only [parsed, if_neg registered, pushed, ok_bind], kept⟩
    · refine ⟨{ s with st }, rows, ?_, ?_⟩
      · rw [parsed]
        split
        next found => exact (isLoop (Prod.mk.inj (Option.some.inj found)).1).elim
        next => rfl
      · subst isNext
        refine inv.same after (fun ep isOpen => ?_) (fun ep isOpen => ?_) ?_
        · obtain ⟨core, live, -⟩ := isOpen
          exact withEndpoint_label (Heap.live_ne_next live)
        · obtain ⟨core, live, named⟩ := isOpen
          obtain ⟨-, isNew⟩ | ⟨-, old⟩ := withEndpoint_live live
          · rw [isNew] at named
            exact (isLoop named).elim
          · exact ⟨core, old, named⟩
        · show s.st.loList ++ newLoops type s.st.cores.next path = s.st.loList
          rw [newLoops, if_neg isLoop, List.append_nil]

theorem filter_split {α : Type} {p : α → Bool} {front back : List α} {middle : α} (out : p middle = false)
    (others : ∀ other ∈ front ++ back, p other = true) :
    (front ++ middle :: back).filter p = front ++ back := by
  rw [List.filter_append, List.filter_cons_of_neg (by simp [out]),
    List.filter_eq_self.mpr fun other member => others other (List.mem_append_left _ member),
    List.filter_eq_self.mpr fun other member => others other (List.mem_append_right _ member)]

theorem NamesInv.closed (inv : NamesInv tbl s (front ++ row :: back)) (after : EpInv tbl next)
    (loList : next.loList = s.st.loList.filter fun lo => lo.self ≠ row.ep) (gone : next.cores.get row.ep = none)
    (kept : ∀ other, other ≠ row.ep → (next.cores.get other).map EpCore.label = (s.st.cores.get other).map EpCore.label) :
    ∃ lo, s.lo.remove row.ep = .ok lo ∧
      NamesInv tbl ⟨next, lo, s.names.filter fun opened => opened.1 ≠ row.id⟩ (front ++ back) := by
  obtain ⟨lo, removed, holds⟩ := inv.holds.remove
  have sub : (front ++ back).Sublist (front ++ row :: back) :=
    (List.Sublist.refl front).append (List.sublist_cons_self row back)
  have own := inv.found row (List.mem_append_right _ (.head _))
  have apart : ∀ other ∈ front ++ back, other.ep ≠ row.ep := by
    intro other member same
    have nodup := inv.once
    rw [List.map_append, List.map_cons, List.nodup_append] at nodup
    rcases List.mem_append.mp member with before | behind
    · exact nodup.2.2 other.ep (List.mem_map_of_mem before) row.ep (.head _) same
    · exact (List.nodup_cons.mp nodup.2.1).1 (same ▸ List.mem_map_of_mem behind)
  have otherId : ∀ other ∈ front ++ back, other.id ≠ row.id := by
    intro other member same
    have found := inv.found other (sub.subset member)
    rw [same, own] at found
    exact apart other member (Option.some.inj found).symm
  refine ⟨lo, removed, after, ?_, ?_, ?_, inv.once.sublist (sub.map _), holds, ?_, ?_, inv.distinct.sublist (sub.map _)⟩
  · rw [inv.names, List.filter_map, filter_split (by simp) (by simpa using otherId)]
  · exact fun other member =>
      inv.inv.found_kept after (inv.found other (sub.subset member)) (kept other.ep (apart other member))
  · intro ep
    by_cases same : ep = row.ep
    · subst same
      refine iff_of_false (fun ⟨core, live, _⟩ => ?_) fun ⟨other, member, same⟩ => apart other member same
      rw [gone] at live
      cases live
    · refine (isOpenLoop_congr (kept ep same)).trans ((inv.endpoints ep).trans ?_)
      constructor
      · intro ⟨other, member, isEp⟩
        rcases List.mem_append.mp member with before | behind
        · exact ⟨other, List.mem_append_left _ before, isEp⟩
        · rcases List.mem_cons.mp behind with isRow | later
          · exact (same (isEp.symm.trans (congrArg OpenLoop.ep isRow))).elim
          · exact ⟨other, List.mem_append_right _ later, isEp⟩
      · intro ⟨other, member, isEp⟩
        exact ⟨other, sub.subset member, isEp⟩
  · have pairs : (s.st.loList.filter fun lo => lo.self ≠ row.ep).map (fun lo => (lo.self, lo.name)) =
        (s.st.loList.map fun lo => (lo.self, lo.name)).filter fun pair => pair.1 ≠ row.ep := by
      rw [List.filter_map]
      rfl
    show next.loList.map (fun lo => (lo.self, lo.name)) = _
    rw [loList, pairs, inv.loList, List.filter_map, filter_split (by simp) (by simpa using apart)]
  · exact fun other member => inv.lengths other (sub.subset member)

theorem NamesInv.rteipcClose (laws : tbl.Resolves) (inv : NamesInv tbl s rows) (id : Int) :
    ∃ next rows, s.call tbl (.rteipcClose id) = .ok next ∧ NamesInv tbl next rows := by
  obtain ⟨st, returned, after⟩ := inv.inv.rteipcClose laws id
  simp only [LoopSession.call, returned, ok_bind]
  cases found : findEndpoint tbl s.st id with
  | none =>
      simp only [Rteipc.rteipcClose, found] at returned
      cases returned
      exact ⟨s, rows, by simp only [loopAt, found]; rfl, inv⟩
  | some ep =>
      obtain ⟨core, live⟩ := inv.inv.find found
      obtain ⟨loList, gone, kept⟩ := rteipcClose_live returned found live
      by_cases isLoop : core.type = .loop
      · obtain ⟨row, member, isEp⟩ := (inv.endpoints ep).mp ⟨core, live, isLoop⟩
        subst isEp
        have sameId : row.id = id := by
          obtain ⟨_, live', named⟩ := inv.inv.resolves id row.ep found
          obtain ⟨_, live'', named'⟩ := inv.inv.resolves row.id row.ep (inv.found row member)
          cases live'.symm.trans live''
          exact named'.symm.trans named
        subst sameId
        obtain ⟨front, back, split⟩ := List.append_of_mem member
        subst split
        rw [if_pos isLoop] at loList
        obtain ⟨lo, removed, closed⟩ := inv.closed after loList gone kept
        have here : loopAt tbl s.st row.id = some row.ep := by
          simp [loopAt, found, live, isLoop]
        exact ⟨_, _, by simp only [here, removed, ok_bind], closed⟩
      · have none : loopAt tbl s.st id = none := by
          simp [loopAt, found, live, isLoop]
        rw [if_neg isLoop] at loList
        refine ⟨{ s with st }, rows, by simp only [none], inv.same after (fun other isOpen => ?_) (fun other isOpen => ?_) loList⟩
        · refine kept other fun same => ?_
          obtain ⟨_, live', named⟩ := isOpen
          rw [same, live] at live'
          cases live'
          exact isLoop named
        · have differ : other ≠ ep := fun same => by
            obtain ⟨_, live', -⟩ := isOpen
            rw [same, gone] at live'
            cases live'
          exact (isOpenLoop_congr (kept other differ)).mp isOpen

/-- Whether a call keeps the names depends on what it scans. -/
def SessionInv (tbl : DescTable Table) : Except Fault (LoopSession Table Cb Arg) → Prop
  | .ok s => ∃ rows, NamesInv tbl s rows
  | .error _ => True

theorem call_overflows {outcome : OpenOutcome} {uri : List UInt8} {entry : NodePtr}
    (long : ¬(uri.takeWhile (· ≠ 58)).length ≤ 15) : s.call tbl (.rteipcOpen outcome uri entry) = .error .overflow := by
  rw [← scanUri_protocol, Nat.not_le] at long
  rw [LoopSession.call, rteipcOpen, if_pos long]
  rfl

theorem LoopStep.exact (laws : tbl.Resolves) {before after : Except Fault (LoopSession Table Cb Arg)} {call : LoopCall}
    (inv : SessionInv tbl before) (step : LoopStep tbl before call after) :
    SessionInv tbl after ∧ (NamesIdentify tbl after ↔ call.Scans) := by
  cases step with
  | @rteipcOpen s outcome uri entry unused =>
      obtain ⟨rows, inv⟩ := inv
      by_cases scans : (uri.takeWhile (· ≠ 58)).length ≤ 15
      · obtain ⟨next, rows, returned, kept⟩ := inv.rteipcOpen laws outcome unused scans
        rw [returned]
        exact ⟨⟨rows, kept⟩, iff_of_true ⟨rows, kept.loopsNamed⟩ scans⟩
      · rw [call_overflows scans]
        exact ⟨trivial, iff_of_false id scans⟩
  | @rteipcClose s id =>
      obtain ⟨rows, inv⟩ := inv
      obtain ⟨next, rows, returned, kept⟩ := inv.rteipcClose laws id
      rw [returned]
      exact ⟨⟨rows, kept⟩, iff_of_true ⟨rows, kept.loopsNamed⟩ trivial⟩

/-- Along any sequence of openings and closings, the names identify the open
loops in every state reached, and no call overruns its buffers, exactly when
every name that is opened has at most 15 characters before its first colon. -/
theorem loop_names_identify_iff (laws : tbl.Resolves) (calls : List LoopCall) :
    Always (LoopStep tbl) (NamesIdentify tbl) (.ok (.start tbl : LoopSession Table Cb Arg)) calls ↔
      Guarded (LoopStep tbl) (fun _ call => call.Scans) (.ok (.start tbl : LoopSession Table Cb Arg)) calls := by
  have start : SessionInv tbl (.ok (.start tbl : LoopSession Table Cb Arg)) := ⟨[], .start laws⟩
  have named : NamesIdentify tbl (.ok (.start tbl : LoopSession Table Cb Arg)) := ⟨[], (NamesInv.start laws).loopsNamed⟩
  exact @always_iff_guarded _ _ (LoopStep tbl) (SessionInv tbl) _ _
    (fun _ _ _ inv step => (LoopStep.exact laws inv step).1)
    (fun _ _ _ inv _ step => (LoopStep.exact laws inv step).2) _ _ start named

end Sessions

def LoopCall.opens (name : String) (entry : NodePtr) : LoopCall :=
  .rteipcOpen ⟨true, .succeeds, true, true⟩ (ascii name) entry

/-- Two loops are opened and the first is closed. -/
theorem loop_names_identify_iff_two :
    Always (LoopStep growingTable) (NamesIdentify growingTable)
        (.ok (.start growingTable : LoopSession (List (Option EpPtr)) Unit Unit))
        [.opens "a" 1, .opens "b" 2, .rteipcClose 0] ↔
      Guarded (LoopStep growingTable) (fun _ call => call.Scans)
        (.ok (.start growingTable : LoopSession (List (Option EpPtr)) Unit Unit))
        [.opens "a" 1, .opens "b" 2, .rteipcClose 0] :=
  loop_names_identify_iff growingTable_resolves _

/-- A name of 16 characters overruns `protocol` before it can be refused. -/
theorem loop_name_overruns :
    ¬∀ (tbl : DescTable (List (Option EpPtr))), tbl.Resolves → ∀ calls,
      Always (LoopStep tbl) (NamesIdentify tbl) (.ok (.start tbl : LoopSession (List (Option EpPtr)) Unit Unit)) calls := by
  intro all
  have always := all growingTable growingTable_resolves [.opens "loopback-switch1" 1]
  have opened := always.2 _ (.rteipcOpen rfl)
  rw [call_overflows (by decide +kernel)] at opened
  exact opened

end Rteipc
