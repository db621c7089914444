import Mathlib.Data.List.Forall2

namespace Rteipc.Data

/-! A relay between sources and sinks that come and go.

What is taken over from a source is forwarded in order and once.  Only a source
that leaves can take with it what still waits.
-/

variable {Item : Type*}

/-- Of each earlier source a beginning is in `out`, and of the present one all
but what waits. -/
def Relays (past : List (List Item)) (current waiting out : List Item) : Prop :=
  ∃ heads head, List.Forall₂ List.IsPrefix heads past ∧ current = head ++ waiting ∧ out = heads.flatten ++ head

variable {past : List (List Item)} {current waiting out : List Item}

theorem Relays.start : Relays ([] : List (List Item)) [] [] [] := ⟨[], [], .nil, rfl, rfl⟩

theorem Relays.send (relays : Relays past current waiting out) (new : List Item) :
    Relays past (current ++ new) (waiting ++ new) out := by
  obtain ⟨heads, head, earlier, rfl, rfl⟩ := relays
  exact ⟨heads, head, earlier, List.append_assoc _ _ _, rfl⟩

theorem Relays.forward (relays : Relays past current waiting out) : Relays past current [] (out ++ waiting) := by
  obtain ⟨heads, head, earlier, rfl, rfl⟩ := relays
  exact ⟨heads, head ++ waiting, earlier, (List.append_nil _).symm, List.append_assoc _ _ _⟩

theorem Relays.leave (relays : Relays past current waiting out) : Relays (past ++ [current]) [] [] out := by
  obtain ⟨heads, head, earlier, rfl, rfl⟩ := relays
  refine ⟨heads ++ [head], [], List.rel_append earlier (.cons (List.prefix_append _ _) .nil), rfl, ?_⟩
  simp

end Rteipc.Data
