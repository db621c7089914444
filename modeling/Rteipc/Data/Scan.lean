import Mathlib.Data.List.TakeWhile

namespace Rteipc.Data

/-! Texts that are divided at the first of a character. -/

section Scan

variable {Letter : Type} [DecidableEq Letter] {stop : Letter} {front rest text : List Letter}

private theorem passes (absent : stop ∉ front) : ∀ letter ∈ front, decide (letter ≠ stop) = true :=
  fun _ member => decide_eq_true fun same => absent (same ▸ member)

theorem takeWhile_stop (absent : stop ∉ front) (rest : List Letter) :
    (front ++ stop :: rest).takeWhile (· ≠ stop) = front := by
  rw [List.takeWhile_append_of_pos (passes absent)]
  simp

theorem dropWhile_stop (absent : stop ∉ front) (rest : List Letter) :
    (front ++ stop :: rest).dropWhile (· ≠ stop) = stop :: rest := by
  rw [List.dropWhile_append_of_pos (passes absent)]
  simp

theorem takeWhile_absent (absent : stop ∉ text) : text.takeWhile (· ≠ stop) = text :=
  List.takeWhile_eq_self_iff.mpr (passes absent)

theorem stop_not_mem_takeWhile (text : List Letter) : stop ∉ text.takeWhile (· ≠ stop) := by
  intro member
  have kept := List.mem_takeWhile_imp member
  exact of_decide_eq_true kept rfl

theorem takeWhile_eq_self_iff_absent : text.takeWhile (· ≠ stop) = text ↔ stop ∉ text := by
  refine ⟨fun same => ?_, takeWhile_absent⟩
  rw [← same]
  exact stop_not_mem_takeWhile text

theorem head_dropWhile_stop (text : List Letter) : ∀ letter ∈ (text.dropWhile (· ≠ stop)).head?, letter = stop := by
  intro letter first
  have stopped := List.head?_dropWhile_not (fun letter => decide (letter ≠ stop)) text
  rw [Option.mem_def.mp first] at stopped
  simpa using stopped

/-- A text without the character has nothing left, and one with it begins with it there. -/
theorem dropWhile_stop_cases (text : List Letter) :
    stop ∉ text ∧ text.dropWhile (· ≠ stop) = [] ∨ ∃ rest, text.dropWhile (· ≠ stop) = stop :: rest := by
  cases left : text.dropWhile (· ≠ stop) with
  | nil =>
      have whole := List.takeWhile_append_dropWhile (p := (· ≠ stop)) (l := text)
      rw [left, List.append_nil] at whole
      exact .inl ⟨takeWhile_eq_self_iff_absent.mp whole, rfl⟩
  | cons letter rest =>
      have same : letter = stop := head_dropWhile_stop text letter (by rw [left, List.head?_cons, Option.mem_some_iff])
      rw [same]
      exact .inr ⟨rest, rfl⟩

theorem dropWhile_absent (absent : stop ∉ text) : text.dropWhile (· ≠ stop) = [] := by
  obtain ⟨-, nothing⟩ | ⟨rest, found⟩ := @dropWhile_stop_cases _ _ stop text
  · exact nothing
  · exact (absent ((List.dropWhile_suffix _).subset (found ▸ List.mem_cons_self))).elim

end Scan

end Rteipc.Data
