import Mathlib.Data.List.Nodup
import Rteipc.Data.Heap

namespace Rteipc.Data

/-! Cells that are allocated for one purpose and freed together.

A list of pointers, some of them null, owns what was allocated since `before`.
Freeing the list is then possible and leaves the heap of before.
-/

namespace Heap

variable {Cell : Type*} {before after heap : Heap Cell} {pointer : Nat} {pointers rest : List (Option Nat)} {cell : Cell}

/-- A null pointer is passed over, and there is no result where a pointer is not live. -/
def freeAll (heap : Heap Cell) : List (Option Nat) → Option (Heap Cell)
  | [] => some heap
  | none :: rest => heap.freeAll rest
  | some pointer :: rest => if (heap.get pointer).isSome then (heap.free pointer).freeAll rest else none

structure Owns (before after : Heap Cell) (pointers : List (Option Nat)) : Prop where
  later : before.next ≤ after.next
  once : (pointers.filterMap id).Nodup
  new : ∀ pointer, some pointer ∈ pointers → before.get pointer = none ∧ (after.get pointer).isSome = true
  kept : ∀ pointer, some pointer ∉ pointers → after.get pointer = before.get pointer

theorem Owns.refl (heap : Heap Cell) : Owns heap heap [] := ⟨Nat.le_refl _, .nil, nofun, fun _ _ => rfl⟩

theorem Owns.null (owns : Owns before after pointers) : Owns before after (none :: pointers) where
  later := owns.later
  once := owns.once
  new pointer member := owns.new pointer (by simpa using member)
  kept pointer absent := owns.kept pointer (by simpa using absent)

theorem Owns.alloc (owns : Owns before after pointers) :
    Owns before (after.alloc cell) (some after.next :: pointers) where
  later := Nat.le_succ_of_le owns.later
  once := by
    refine List.nodup_cons.mpr ⟨fun member => ?_, owns.once⟩
    obtain ⟨_, listed, rfl⟩ := List.mem_filterMap.mp member
    obtain ⟨_, live⟩ := Option.isSome_iff_exists.mp (owns.new _ listed).2
    exact live_ne_next live rfl
  new pointer member := by
    by_cases isNew : pointer = after.next
    · rw [isNew, get_alloc_next, before.fresh _ owns.later]
      exact ⟨rfl, rfl⟩
    · rw [get_alloc_of_ne isNew]
      exact owns.new pointer (by simpa [isNew] using member)
  kept pointer absent := by
    simp only [List.mem_cons, Option.some.injEq, not_or] at absent
    rw [get_alloc_of_ne absent.1]
    exact owns.kept pointer absent.2

theorem Owns.perm (owns : Owns before after pointers) (same : rest.Perm pointers) : Owns before after rest where
  later := owns.later
  once := (same.filterMap id).nodup_iff.mpr owns.once
  new pointer member := owns.new pointer (same.mem_iff.mp member)
  kept pointer absent := owns.kept pointer fun member => absent (same.mem_iff.mpr member)

theorem Owns.free (owns : Owns before after (some pointer :: pointers)) :
    Owns before (after.free pointer) pointers where
  later := owns.later
  once := (List.nodup_cons.mp owns.once).2
  new other member := by
    have differ : other ≠ pointer := by
      rintro rfl
      exact (List.nodup_cons.mp owns.once).1 (List.mem_filterMap.mpr ⟨_, member, rfl⟩)
    rw [get_free_of_ne differ]
    exact owns.new other (List.mem_cons_of_mem _ member)
  kept other absent := by
    by_cases same : other = pointer
    · rw [same, get_free_self, (owns.new pointer List.mem_cons_self).1]
    · rw [get_free_of_ne same]
      exact owns.kept other (by simp [same, absent])

theorem Owns.skip (owns : Owns before after (none :: pointers)) : Owns before after pointers where
  later := owns.later
  once := owns.once
  new pointer member := owns.new pointer (List.mem_cons_of_mem _ member)
  kept pointer absent := owns.kept pointer (by simpa using absent)

/-- What is owned can be freed, and is then as if it had never been allocated. -/
theorem Owns.freeAll (owns : Owns before after pointers) :
    ∃ freed, after.freeAll pointers = some freed ∧ freed.next = after.next ∧
      ∀ pointer, freed.get pointer = before.get pointer := by
  induction pointers generalizing after with
  | nil => exact ⟨after, rfl, rfl, fun pointer => owns.kept pointer List.not_mem_nil⟩
  | cons first rest ih =>
      cases first with
      | none => exact ih owns.skip
      | some pointer =>
          have live := (owns.new pointer List.mem_cons_self).2
          obtain ⟨freed, all, next, same⟩ := ih owns.free
          refine ⟨freed, ?_, next, same⟩
          rw [Heap.freeAll, if_pos live, all]

theorem freeAll_nulls (nulls : ∀ pointer ∈ pointers, pointer = none) :
    heap.freeAll (pointers ++ rest) = heap.freeAll rest := by
  induction pointers with
  | nil => rfl
  | cons first pointers ih =>
      rw [nulls first List.mem_cons_self, List.cons_append, freeAll]
      exact ih fun pointer member => nulls pointer (List.mem_cons_of_mem _ member)

theorem freeAll_dangling (dangling : ∀ pointer, some pointer ∈ pointers → heap.get pointer = none)
    (left : some pointer ∈ pointers) : heap.freeAll (pointers ++ rest) = none := by
  induction pointers with
  | nil => nomatch left
  | cons first pointers ih =>
      cases first with
      | none =>
          apply ih fun other member => dangling other (List.mem_cons_of_mem _ member)
          simpa using left
      | some other => simp [freeAll, dangling other List.mem_cons_self]

end Heap

end Rteipc.Data
