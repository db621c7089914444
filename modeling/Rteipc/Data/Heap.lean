import Mathlib.Logic.Function.Basic

namespace Rteipc.Data

/-! A heap whose pointers are never issued twice, so that a pointer to a freed
cell stays dangling. -/

structure Heap (Cell : Type*) where
  get : Nat → Option Cell
  next : Nat
  fresh : ∀ pointer, next ≤ pointer → get pointer = none

namespace Heap

variable {Cell : Type*} (heap : Heap Cell) {pointer other : Nat} {cell : Cell}

def empty : Heap Cell := ⟨fun _ => none, 0, fun _ _ => rfl⟩

/-- The new cell is at `heap.next`. -/
def alloc (cell : Cell) : Heap Cell where
  get pointer := if pointer = heap.next then some cell else heap.get pointer
  next := heap.next + 1
  fresh pointer above := by
    rw [if_neg (by omega)]
    exact heap.fresh pointer (by omega)

def modify (pointer : Nat) (change : Cell → Cell) : Heap Cell where
  get other := if other = pointer then (heap.get other).map change else heap.get other
  next := heap.next
  fresh other above := by
    rw [heap.fresh other above]
    exact ite_self none

def free (pointer : Nat) : Heap Cell where
  get other := if other = pointer then none else heap.get other
  next := heap.next
  fresh other above := by
    rw [heap.fresh other above]
    exact ite_self none

variable {heap}

theorem live_lt (live : heap.get pointer = some cell) : pointer < heap.next := by
  apply Nat.lt_of_not_le
  intro above
  rw [heap.fresh pointer above] at live
  nomatch live

theorem live_ne_next (live : heap.get pointer = some cell) : pointer ≠ heap.next :=
  Nat.ne_of_lt (live_lt live)

theorem get_alloc_next : (heap.alloc cell).get heap.next = some cell := if_pos rfl

theorem get_alloc_of_ne (old : pointer ≠ heap.next) : (heap.alloc cell).get pointer = heap.get pointer :=
  if_neg old

theorem get_modify_self {change : Cell → Cell} :
    (heap.modify pointer change).get pointer = (heap.get pointer).map change := if_pos rfl

theorem get_modify_of_ne {change : Cell → Cell} (differ : other ≠ pointer) :
    (heap.modify pointer change).get other = heap.get other := if_neg differ

theorem get_free_self : (heap.free pointer).get pointer = none := if_pos rfl

theorem get_free_of_ne (differ : other ≠ pointer) : (heap.free pointer).get other = heap.get other :=
  if_neg differ

theorem get_alloc_free : ((heap.alloc cell).free heap.next).get pointer = heap.get pointer := by
  by_cases isNew : pointer = heap.next
  · rw [isNew, get_free_self, heap.fresh _ (Nat.le_refl _)]
  · rw [get_free_of_ne isNew, get_alloc_of_ne isNew]

theorem get_free_some (live : (heap.free pointer).get other = some cell) :
    other ≠ pointer ∧ heap.get other = some cell := by
  by_cases same : other = pointer
  · rw [same, get_free_self] at live
    nomatch live
  · rw [get_free_of_ne same] at live
    exact ⟨same, live⟩

theorem get_modify {change : Cell → Cell} :
    (heap.modify pointer change).get other =
      (heap.get other).map fun cell => if other = pointer then change cell else cell := by
  by_cases same : other = pointer
  · subst same
    simp only [get_modify_self, if_true]
  · rw [get_modify_of_ne same]
    simp only [if_neg same, Option.map_id']

theorem map_get_modify {Field : Type*} {field : Cell → Field} {change : Cell → Cell}
    (same : ∀ cell, field (change cell) = field cell) :
    ((heap.modify pointer change).get other).map field = (heap.get other).map field := by
  rw [get_modify, Option.map_map]
  congr 1
  funext cell
  rw [Function.comp_apply]
  split
  next => exact same cell
  next => rfl

/-! ## The cells as a function -/

theorem get_alloc : (heap.alloc cell).get = Function.update heap.get heap.next (some cell) := by
  funext other
  simp [alloc, Function.update_apply]

theorem get_free : (heap.free pointer).get = Function.update heap.get pointer none := by
  funext other
  simp [free, Function.update_apply]

theorem get_modify_live {change : Cell → Cell} (live : heap.get pointer = some cell) :
    (heap.modify pointer change).get = Function.update heap.get pointer (some (change cell)) := by
  funext other
  by_cases same : other = pointer
  · subst same
    simp [get_modify_self, live]
  · simp [get_modify_of_ne same, same]

end Heap

end Rteipc.Data
