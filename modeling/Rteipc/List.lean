import Rteipc.Data.Links
import Rteipc.Data.Run
import Rteipc.Endpoint

namespace Rteipc

open Data

/-! The linked list of `list.c`, on nodes that lie anywhere in memory. A pointer
is `none` for NULL; memory is `none` where nothing is allocated. -/

abbrev NodePtr := Nat

/-- `node_t` -/
abbrev NodeT := Link NodePtr

abbrev NodeMem := NodePtr → Option NodeT

/-- `list_t` -/
structure ListT where
  head : Option NodePtr
  tail : Option NodePtr
deriving DecidableEq, Repr

/-- `iterator_t` -/
structure IteratorT where
  next : Option NodePtr
deriving DecidableEq, Repr

/-- `LIST_INITIALIZER` -/
def listInit : ListT := ⟨none, none⟩

def listEmpty (list : ListT) : Bool := list.head = none

/-- `*node` -/
def readNode (mem : NodeMem) (node : Option NodePtr) : Except Fault NodeT :=
  match node with
  | none => .error .nullDereference
  | some node =>
      match mem node with
      | none => .error .useAfterFree
      | some cell => .ok cell

/-- An assignment through `node` -/
def writeNode (mem : NodeMem) (node : Option NodePtr) (change : NodeT → NodeT) : Except Fault NodeMem :=
  match node with
  | none => .error .nullDereference
  | some pointer =>
      match mem pointer with
      | none => .error .useAfterFree
      | some cell => .ok (Function.update mem pointer (some (change cell)))

/-- `alloc` tells whether there is memory for the iterator. -/
def iteratorNew (alloc : Bool) (list : ListT) : Option IteratorT :=
  if alloc then some ⟨list.head⟩ else none

def iteratorNext (mem : NodeMem) (it : Option IteratorT) : Except Fault (Option IteratorT × Option NodePtr) :=
  match it with
  | none => .error .nullDereference
  | some it =>
      match it.next with
      | none => .ok (some it, none)
      | some cur => do
          let cell ← readNode mem (some cur)
          .ok (some ⟨cell.next⟩, some cur)

def listPush (mem : NodeMem) (list : ListT) (node : Option NodePtr) : Except Fault (NodeMem × ListT) :=
  if node = none then .ok (mem, list)
  else if listEmpty list then do
    let mem ← writeNode mem node fun _ => ⟨none, none⟩
    .ok (mem, ⟨node, node⟩)
  else do
    let mem ← writeNode mem node fun _ => ⟨list.tail, none⟩
    let mem ← writeNode mem list.tail fun cell => { cell with next := node }
    .ok (mem, { list with tail := node })

def listPop (mem : NodeMem) (list : ListT) : Except Fault ((NodeMem × ListT) × Option NodePtr) :=
  let node := list.tail
  if listEmpty list then .ok ((mem, list), none)
  else do
    let cell ← readNode mem node
    let (mem, list) ←
      if cell.prev.isSome then do
        let mem ← writeNode mem cell.prev fun before => { before with next := none }
        .ok (mem, { list with tail := cell.prev })
      else .ok (mem, ⟨none, none⟩)
    let mem ← writeNode mem node fun _ => ⟨none, none⟩
    .ok ((mem, list), node)

def listRemove (mem : NodeMem) (list : ListT) (node : Option NodePtr) : Except Fault (NodeMem × ListT) := do
  let cell ← readNode mem node
  let (mem, list) ←
    if cell.prev.isSome then do
      let mem ← writeNode mem cell.prev fun before => { before with next := cell.next }
      .ok (mem, list)
    else .ok (mem, { list with head := cell.next })
  let cell ← readNode mem node
  let (mem, list) ←
    if cell.next.isSome then do
      let mem ← writeNode mem cell.next fun behind => { behind with prev := cell.prev }
      .ok (mem, list)
    else .ok (mem, { list with tail := cell.prev })
  let mem ← writeNode mem node fun _ => ⟨none, none⟩
  .ok (mem, list)

/-! ## What a list represents -/

/-- The list at work: its nodes, linked, with both ends known. -/
structure ListT.Represents (list : ListT) (mem : NodeMem) (nodes : List NodePtr) : Prop where
  linked : Linked mem nodes
  head : list.head = nodes.head?
  tail : list.tail = nodes.getLast?

variable {mem after : NodeMem} {list : ListT} {nodes front back : List NodePtr} {node : NodePtr} {cell : NodeT}

theorem writeNode_live {change : NodeT → NodeT} (live : mem node = some cell) :
    writeNode mem (some node) change = .ok (Function.update mem node (some (change cell))) := by
  simp only [writeNode, live]

theorem readNode_live (live : mem node = some cell) : readNode mem (some node) = .ok cell := by
  simp only [readNode, live]

theorem writeNode_next {next : Option NodePtr} (live : mem node ≠ none) :
    writeNode mem (some node) (fun cell => { cell with next := next }) = .ok (setNext mem (some node) next) := by
  obtain ⟨cell, found⟩ := Option.ne_none_iff_exists'.mp live
  rw [writeNode_live found, setNext, found, Option.map_some]

theorem writeNode_prev {prev : Option NodePtr} (live : mem node ≠ none) :
    writeNode mem (some node) (fun cell => { cell with prev := prev }) = .ok (setPrev mem (some node) prev) := by
  obtain ⟨cell, found⟩ := Option.ne_none_iff_exists'.mp live
  rw [writeNode_live found, setPrev, found, Option.map_some]

theorem listInit_represents : listInit.Represents mem [] := ⟨.nil, rfl, rfl⟩

theorem ListT.Represents.congr (represents : list.Represents mem nodes)
    (same : ∀ node ∈ nodes, after node = mem node) : list.Represents after nodes :=
  ⟨represents.linked.congr same, represents.head, represents.tail⟩

theorem ListT.Represents.empty (represents : list.Represents mem nodes) :
    listEmpty list = true ↔ nodes = [] := by
  rw [listEmpty, decide_eq_true_iff, represents.head, List.head?_eq_none_iff]

/-- An operation touches the nodes of its list and the one it is given, and frees nothing. -/
structure Frame (mem after : NodeMem) (nodes : List NodePtr) : Prop where
  same : ∀ node, node ∉ nodes → after node = mem node
  live : ∀ node, after node = none ↔ mem node = none

theorem Frame.trans {last : NodeMem} (first : Frame mem after nodes) (second : Frame after last nodes) :
    Frame mem last nodes :=
  ⟨fun node outside => (second.same node outside).trans (first.same node outside),
    fun node => (second.live node).trans (first.live node)⟩

theorem Frame.update (live : mem node ≠ none) (inside : node ∈ nodes) :
    Frame mem (Function.update mem node (some cell)) nodes := by
  constructor
  · intro other outside
    exact Function.update_of_ne (fun same : other = node => outside (same ▸ inside)) _ _
  · intro other
    by_cases same : other = node
    · subst same
      simp [live]
    · rw [Function.update_of_ne same]

theorem Frame.setNext {pointer next : Option NodePtr} (inside : ∀ node, pointer = some node → node ∈ nodes) :
    Frame mem (setNext mem pointer next) nodes :=
  ⟨fun node outside => setNext_of_ne fun same => outside (inside node same), fun _ => setNext_live⟩

theorem Frame.setPrev {pointer prev : Option NodePtr} (inside : ∀ node, pointer = some node → node ∈ nodes) :
    Frame mem (setPrev mem pointer prev) nodes :=
  ⟨fun node outside => setPrev_of_ne fun same => outside (inside node same), fun _ => setPrev_live⟩

/-! ## The operations -/

theorem listPush_spec (represents : list.Represents mem nodes) (fresh : node ∉ nodes) (live : mem node ≠ none) :
    ∃ after pushed, listPush mem list (some node) = .ok (after, pushed) ∧
      pushed.Represents after (nodes ++ [node]) ∧ Frame mem after (nodes ++ [node]) := by
  obtain ⟨cell, found⟩ := Option.ne_none_iff_exists'.mp live
  have linked := represents.linked.concat fresh
  have frame : Frame mem (setNext (Function.update mem node (some ⟨nodes.getLast?, none⟩)) nodes.getLast?
      (some node)) (nodes ++ [node]) :=
    (Frame.update live (List.mem_append_right _ (.head _))).trans
      (.setNext fun last isLast => List.mem_append_left _ (List.mem_of_getLast? isLast))
  cases last : nodes.getLast? with
  | none =>
      obtain rfl := List.getLast?_eq_none_iff.mp last
      have empty := represents.empty.mpr rfl
      refine ⟨_, ⟨some node, some node⟩, ?_, ⟨linked, rfl, rfl⟩, frame⟩
      simp only [listPush, reduceCtorEq, if_false, if_pos empty, writeNode_live found]
      rfl
  | some tail =>
      have inside := List.mem_of_getLast? last
      have nonempty : listEmpty list ≠ true := fun empty => by
        rw [represents.empty.mp empty] at last
        cases last
      have tailLive : Function.update mem node (some ⟨nodes.getLast?, none⟩) tail ≠ none := by
        rw [Function.update_of_ne fun same : tail = node => fresh (same ▸ inside)]
        exact represents.linked.live inside
      refine ⟨_, ⟨list.head, some node⟩, ?_, ⟨linked, ?_, List.getLast?_concat.symm⟩, frame⟩
      · rw [last] at tailLive
        simp only [listPush, reduceCtorEq, if_false, nonempty, writeNode_live found, represents.tail, last,
          writeNode_next tailLive, bind, Except.bind]
      · rw [represents.head, List.head?_append]
        cases nodes with
        | nil => cases inside
        | cons first rest => rfl

theorem ListT.Represents.ends (represents : list.Represents mem (front ++ node :: back)) :
    (if back.head?.isSome then (if front.getLast?.isSome then list else { list with head := back.head? })
      else
        { (if front.getLast?.isSome then list else { list with head := back.head? } : ListT) with
          tail := front.getLast? }) =
      ⟨(front ++ back).head?, (front ++ back).getLast?⟩ := by
  obtain ⟨-, head, tail⟩ := represents
  cases list with
  | mk listHead listTail =>
      subst head tail
      cases back with
      | nil =>
          cases front with
          | nil => rfl
          | cons first rest => simp
      | cons second later =>
          cases front with
          | nil => simp
          | cons first rest => simp [List.getLast?_append, List.getLast?_cons]

/-- What `list_remove` does to a node whose neighbours, where there are any, are other live nodes. -/
theorem listRemove_eq {prev next : Option NodePtr} (cell : mem node = some ⟨prev, next⟩)
    (prevLive : ∀ other, prev = some other → mem other ≠ none)
    (nextLive : ∀ other, next = some other → mem other ≠ none)
    (prevOther : prev ≠ some node) (nextOther : next ≠ some node) :
    listRemove mem list (some node) =
      .ok (Function.update (setPrev (setNext mem prev next) next prev) node (some ⟨none, none⟩),
        if next.isSome then (if prev.isSome then list else { list with head := next })
        else { (if prev.isSome then list else { list with head := next } : ListT) with tail := prev }) := by
  have found : setNext mem prev next node = some ⟨prev, next⟩ := by rw [setNext_of_ne prevOther, cell]
  have foundLast : setPrev (setNext mem prev next) next prev node = some ⟨prev, next⟩ := by
    rw [setPrev_of_ne nextOther, found]
  have nextStill : ∀ other, next = some other → setNext mem prev next other ≠ none :=
    fun other isNext gone => nextLive other isNext (setNext_live.mp gone)
  cases prev with
  | none =>
      cases next with
      | none =>
          simp only [listRemove, readNode_live cell, ok_bind, Option.isSome_none, Bool.false_eq_true, if_false,
            writeNode_live cell, setNext_none, setPrev_none]
      | some behind =>
          rw [setNext_none] at foundLast
          simp only [listRemove, readNode_live cell, ok_bind, Option.isSome_none, Option.isSome_some,
            Bool.false_eq_true, if_false, if_true, writeNode_prev (nextLive behind rfl), writeNode_live foundLast,
            setNext_none]
  | some before =>
      cases next with
      | none =>
          simp only [listRemove, readNode_live cell, ok_bind, Option.isSome_none, Option.isSome_some,
            Bool.false_eq_true, if_false, if_true, writeNode_next (prevLive before rfl), readNode_live found,
            writeNode_live found, setPrev_none]
      | some behind =>
          simp only [listRemove, readNode_live cell, ok_bind, Option.isSome_some, if_true,
            writeNode_next (prevLive before rfl), readNode_live found, writeNode_prev (nextStill behind rfl),
            writeNode_live foundLast]

theorem listRemove_spec (represents : list.Represents mem (front ++ node :: back)) :
    ∃ after shrunk, listRemove mem list (some node) = .ok (after, shrunk) ∧
      shrunk.Represents after (front ++ back) ∧ Frame mem after (front ++ node :: back) := by
  have nodup := List.nodup_append.mp represents.linked.nodup
  have notBefore : ∀ other ∈ front, other ≠ node := fun other member => nodup.2.2 other member node (.head _)
  have notBehind : ∀ other ∈ back, other ≠ node := fun other member same =>
    (List.nodup_cons.mp nodup.2.1).1 (same ▸ member)
  have cell := represents.linked.cell
  have live : ∀ other ∈ front ++ node :: back, mem other ≠ none := fun other member => represents.linked.live member
  have prevOther : front.getLast? ≠ some node := fun same => notBefore node (List.mem_of_getLast? same) rfl
  have nextOther : back.head? ≠ some node := fun same => notBehind node (List.mem_of_head? same) rfl
  have unlinked : Linked (Function.update (setPrev (setNext mem front.getLast? back.head?) back.head? front.getLast?)
      node (some ⟨none, none⟩)) (front ++ back) := by
    refine represents.linked.remove.congr fun other member => Function.update_of_ne ?_ _ _
    rcases List.mem_append.mp member with before | behind
    · exact notBefore other before
    · exact notBehind other behind
  have frame : Frame mem (Function.update (setPrev (setNext mem front.getLast? back.head?) back.head? front.getLast?)
      node (some ⟨none, none⟩)) (front ++ node :: back) := by
    refine .trans (.setNext ?_) (.trans (.setPrev ?_) (.update ?_ ?_))
    · exact fun last isLast => List.mem_append_left _ (List.mem_of_getLast? isLast)
    · exact fun first isFirst => List.mem_append_right _ (.tail _ (List.mem_of_head? isFirst))
    · rw [setPrev_of_ne nextOther, setNext_of_ne prevOther, cell]
      nofun
    · exact List.mem_append_right _ (.head _)
  refine ⟨_, ⟨(front ++ back).head?, (front ++ back).getLast?⟩, ?_, ⟨unlinked, rfl, rfl⟩, frame⟩
  rw [listRemove_eq cell (fun last isLast => live last (List.mem_append_left _ (List.mem_of_getLast? isLast)))
    (fun first isFirst => live first (List.mem_append_right _ (.tail _ (List.mem_of_head? isFirst)))) prevOther nextOther,
    represents.ends]

theorem listPop_empty (represents : list.Represents mem []) : listPop mem list = .ok ((mem, list), none) := by
  rw [listPop, if_pos (represents.empty.mpr rfl)]

theorem listPop_concat (represents : list.Represents mem (front ++ [node])) :
    ∃ after shrunk, listPop mem list = .ok ((after, shrunk), some node) ∧
      shrunk.Represents after front ∧ Frame mem after (front ++ [node]) := by
  have nonempty : listEmpty list ≠ true := fun empty =>
    List.append_ne_nil_of_right_ne_nil front (List.cons_ne_nil node []) (represents.empty.mp empty)
  have tail : list.tail = some node := by rw [represents.tail, List.getLast?_concat]
  have cell := represents.linked.cell
  have notBefore : node ∉ front := fun member =>
    (List.nodup_append.mp represents.linked.nodup).2.2 node member node (.head _) rfl
  have prevOther : front.getLast? ≠ some node := fun same => notBefore (List.mem_of_getLast? same)
  have found : setNext mem front.getLast? none node = some ⟨front.getLast?, none⟩ := by
    rw [setNext_of_ne prevOther, cell, List.head?_nil]
  have unlinked : Linked (Function.update (setNext mem front.getLast? none) node (some ⟨none, none⟩)) front := by
    have removed := represents.linked.remove
    rw [List.head?_nil, setPrev_none, List.append_nil] at removed
    exact removed.congr fun other member =>
      Function.update_of_ne (fun same : other = node => notBefore (same ▸ member)) _ _
  have frame : Frame mem (Function.update (setNext mem front.getLast? none) node (some ⟨none, none⟩))
      (front ++ [node]) := by
    refine .trans (.setNext fun last isLast => List.mem_append_left _ (List.mem_of_getLast? isLast)) (.update ?_ ?_)
    · rw [found]
      nofun
    · exact List.mem_append_right _ (.head _)
  refine ⟨_, ⟨front.head?, front.getLast?⟩, ?_, ⟨unlinked, rfl, rfl⟩, frame⟩
  cases last : front.getLast? with
  | none =>
      rw [last, setNext_none] at found
      obtain rfl := List.getLast?_eq_none_iff.mp last
      simp only [listPop, nonempty, tail, readNode_live found, ok_bind, Option.isSome_none, Bool.false_eq_true,
        if_false, writeNode_live found, setNext_none, List.head?_nil]
  | some before =>
      rw [last] at found
      have live := represents.linked.live (List.mem_append_left _ (List.mem_of_getLast? last))
      have head : list.head = front.head? := by
        rw [represents.head, List.head?_append]
        cases front with
        | nil => cases last
        | cons first rest => rfl
      rw [last, List.head?_nil] at cell
      simp only [listPop, nonempty, tail, readNode_live cell, ok_bind, Option.isSome_some, Bool.false_eq_true,
        if_false, if_true, writeNode_next live, writeNode_live found, head]

end Rteipc
