import Mathlib.Data.List.Induction
import Mathlib.Data.List.Nodup
import Mathlib.Logic.Function.Basic

namespace Rteipc.Data

/-! Doubly linked chains in a memory of cells with two links each. -/

structure Link (Ptr : Type*) where
  prev : Option Ptr
  next : Option Ptr
deriving DecidableEq, Repr

variable {Ptr : Type*}

/-- From the start, the links lead through the nodes in order and then to nothing. -/
def Chain (link : Ptr → Option (Option Ptr)) : Option Ptr → List Ptr → Prop
  | start, [] => start = none
  | start, node :: rest => start = some node ∧ ∃ after, link node = some after ∧ Chain link after rest

/-- Both links of the nodes of a part of a chain, which lies between `prev` and `next`. -/
def Segment (memory : Ptr → Option (Link Ptr)) : Option Ptr → List Ptr → Option Ptr → Prop
  | _, [], _ => True
  | prev, node :: rest, next =>
      memory node = some ⟨prev, rest.head?.or next⟩ ∧ Segment memory (some node) rest next

/-- A whole chain, each of its nodes once. -/
structure Linked (memory : Ptr → Option (Link Ptr)) (nodes : List Ptr) : Prop where
  nodup : nodes.Nodup
  segment : Segment memory none nodes none

section Segments

variable {memory after : Ptr → Option (Link Ptr)} {nodes front back : List Ptr} {prev next : Option Ptr}
  {node : Ptr}

theorem Segment.congr (segment : Segment memory prev nodes next)
    (same : ∀ node ∈ nodes, after node = memory node) : Segment after prev nodes next := by
  induction nodes generalizing prev with
  | nil => trivial
  | cons node rest ih =>
      obtain ⟨cell, following⟩ := segment
      refine ⟨?_, ih following fun other member => same other (.tail _ member)⟩
      rw [same node (.head _), cell]

theorem segment_append :
    Segment memory prev (front ++ back) next ↔
      Segment memory prev front (back.head?.or next) ∧ Segment memory (front.getLast?.or prev) back next := by
  induction front generalizing prev with
  | nil => simp [Segment]
  | cons node rest ih =>
      have last : ((node :: rest).getLast?).or prev = (rest.getLast?).or (some node) := by
        cases rest with
        | nil => rfl
        | cons second rest =>
            rw [List.getLast?_cons_cons, List.getLast?_cons, Option.some_or, Option.some_or]
      rw [List.cons_append, Segment, Segment, ih, last, List.head?_append, Option.or_assoc, and_assoc]

/-- The cell of a node in a chain, by what stands before it and after it. -/
theorem Linked.cell (linked : Linked memory (front ++ node :: back)) :
    memory node = some ⟨front.getLast?, back.head?⟩ := by
  have cell := (segment_append.mp linked.segment).2.1
  rwa [Option.or_none, Option.or_none] at cell

theorem Linked.nil : Linked memory [] := ⟨List.nodup_nil, trivial⟩

theorem Linked.congr (linked : Linked memory nodes) (same : ∀ node ∈ nodes, after node = memory node) :
    Linked after nodes :=
  ⟨linked.nodup, linked.segment.congr same⟩

theorem Linked.live (linked : Linked memory nodes) (member : node ∈ nodes) : memory node ≠ none := by
  obtain ⟨front, back, split⟩ := List.append_of_mem member
  rw [split] at linked
  rw [linked.cell]
  nofun

/-! ## The two directions -/

theorem Segment.forward (segment : Segment memory prev nodes none) :
    Chain (fun node => (memory node).map Link.next) nodes.head? nodes := by
  induction nodes generalizing prev with
  | nil => rfl
  | cons node rest ih =>
      obtain ⟨cell, following⟩ := segment
      rw [Option.or_none] at cell
      exact ⟨rfl, rest.head?, by simp only [cell, Option.map_some], ih following⟩

theorem Segment.backward (segment : Segment memory none nodes next) :
    Chain (fun node => (memory node).map Link.prev) nodes.getLast? nodes.reverse := by
  induction nodes using List.reverseRecOn generalizing next with
  | nil => rfl
  | append_singleton front node ih =>
      obtain ⟨before, cell, -⟩ := segment_append.mp segment
      rw [Option.or_none] at cell
      rw [List.reverse_concat, List.getLast?_concat]
      exact ⟨rfl, front.getLast?, by simp only [cell, Option.map_some], ih before⟩

end Segments

/-! ## Changing links -/

section Changes

variable [DecidableEq Ptr] {memory : Ptr → Option (Link Ptr)} {nodes front back : List Ptr}
  {prev next other : Option Ptr} {node : Ptr}

/-- `pointer->next = next`, if there is a pointer. -/
def setNext (memory : Ptr → Option (Link Ptr)) (pointer next : Option Ptr) : Ptr → Option (Link Ptr) :=
  match pointer with
  | none => memory
  | some node => Function.update memory node ((memory node).map fun cell => { cell with next := next })

/-- `pointer->prev = prev`, if there is a pointer. -/
def setPrev (memory : Ptr → Option (Link Ptr)) (pointer prev : Option Ptr) : Ptr → Option (Link Ptr) :=
  match pointer with
  | none => memory
  | some node => Function.update memory node ((memory node).map fun cell => { cell with prev := prev })

@[simp] theorem setNext_none : setNext memory none next = memory := rfl

@[simp] theorem setPrev_none : setPrev memory none prev = memory := rfl

theorem setNext_of_ne {pointer : Option Ptr} (differ : pointer ≠ some node) :
    setNext memory pointer next node = memory node := by
  cases pointer with
  | none => rfl
  | some pointer => exact Function.update_of_ne (fun same => differ (congrArg some same.symm)) _ _

theorem setPrev_of_ne {pointer : Option Ptr} (differ : pointer ≠ some node) :
    setPrev memory pointer prev node = memory node := by
  cases pointer with
  | none => rfl
  | some pointer => exact Function.update_of_ne (fun same => differ (congrArg some same.symm)) _ _

theorem setNext_live {pointer : Option Ptr} : setNext memory pointer next node = none ↔ memory node = none := by
  by_cases same : pointer = some node
  · subst same
    simp [setNext]
  · rw [setNext_of_ne same]

theorem setPrev_live {pointer : Option Ptr} : setPrev memory pointer prev node = none ↔ memory node = none := by
  by_cases same : pointer = some node
  · subst same
    simp [setPrev]
  · rw [setPrev_of_ne same]

theorem Segment.setNext (segment : Segment memory prev nodes other) (nodup : nodes.Nodup) :
    Segment (setNext memory nodes.getLast? next) prev nodes next := by
  induction nodes using List.reverseRecOn with
  | nil => trivial
  | append_singleton front node _ =>
      obtain ⟨before, cell, -⟩ := segment_append.mp segment
      rw [List.getLast?_concat]
      refine segment_append.mpr ⟨before.congr fun first member => setNext_of_ne ?_, ?_, trivial⟩
      · intro same
        cases same
        exact (List.nodup_append.mp nodup).2.2 node member node (.head _) rfl
      · simp [Data.setNext, cell]

theorem Segment.setPrev (segment : Segment memory other nodes next) (nodup : nodes.Nodup) :
    Segment (setPrev memory nodes.head? prev) prev nodes next := by
  cases nodes with
  | nil => trivial
  | cons node rest =>
      obtain ⟨cell, following⟩ := segment
      refine ⟨by simp [Data.setPrev, cell], following.congr fun later member => setPrev_of_ne ?_⟩
      intro same
      cases same
      exact (List.nodup_cons.mp nodup).1 member

/-- Its neighbours linked to each other, a node is out of the chain. -/
theorem Linked.remove (linked : Linked memory (front ++ node :: back)) :
    Linked (setPrev (setNext memory front.getLast? back.head?) back.head? front.getLast?) (front ++ back) := by
  have nodup := List.nodup_append.mp linked.nodup
  obtain ⟨before, -, behind⟩ := segment_append.mp linked.segment
  have apart : ∀ first ∈ front, ∀ second ∈ back, first ≠ second := fun first member second later =>
    nodup.2.2 first member second (.tail _ later)
  refine ⟨List.nodup_append.mpr ⟨nodup.1, (List.nodup_cons.mp nodup.2.1).2, apart⟩, segment_append.mpr ⟨?_, ?_⟩⟩
  · rw [Option.or_none]
    refine (before.setNext nodup.1).congr fun first member => setPrev_of_ne fun same => ?_
    exact apart first member first (List.mem_of_head? same) rfl
  · have relinked : Segment (setNext memory front.getLast? back.head?) (some node) back none :=
      behind.congr fun second member => setNext_of_ne fun same =>
        apart second (List.mem_of_getLast? same) second member rfl
    rw [Option.or_none]
    exact relinked.setPrev (List.nodup_cons.mp nodup.2.1).2

theorem Linked.concat (linked : Linked memory nodes) (fresh : node ∉ nodes) :
    Linked (setNext (Function.update memory node (some ⟨nodes.getLast?, none⟩)) nodes.getLast? (some node))
      (nodes ++ [node]) := by
  have old : Segment (Function.update memory node (some ⟨nodes.getLast?, none⟩)) none nodes none :=
    linked.segment.congr fun other member =>
      Function.update_of_ne (fun same : other = node => fresh (same ▸ member)) _ _
  have once : (nodes ++ [node]).Nodup := by
    rw [← List.concat_eq_append]
    exact linked.nodup.concat fresh
  refine ⟨once, segment_append.mpr ⟨old.setNext linked.nodup, ?_, trivial⟩⟩
  rw [setNext_of_ne fun same => fresh (List.mem_of_getLast? same), Function.update_self, Option.or_none]
  rfl

end Changes

end Rteipc.Data
