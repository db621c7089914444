import Mathlib.Data.List.Basic

namespace Rteipc.Data

/-! The account of one party's messages.

A message that arrives leaves at once while the party is routed and waits
otherwise.  Routing and emptying let all that waits leave.  Whatever the order
of these operations, what has left followed by what waits is what has arrived.
-/

structure Ledger (Msg : Type*) where
  arrived : List Msg
  gone : List Msg
  waiting : List Msg
  routed : Bool

namespace Ledger

variable {Msg : Type*} (ledger : Ledger Msg)

def start (Msg : Type*) : Ledger Msg := ⟨[], [], [], false⟩

def arrive (msg : Msg) : Ledger Msg :=
  if ledger.routed then { ledger with arrived := ledger.arrived ++ [msg], gone := ledger.gone ++ [msg] }
  else { ledger with arrived := ledger.arrived ++ [msg], waiting := ledger.waiting ++ [msg] }

def flush : Ledger Msg := { ledger with gone := ledger.gone ++ ledger.waiting, waiting := [] }

def route : Ledger Msg := { ledger.flush with routed := true }

def forget : Ledger Msg := { ledger with routed := false }

/-- In order and exactly once, and nothing waits at a routed party. -/
structure Sound : Prop where
  conserved : ledger.gone ++ ledger.waiting = ledger.arrived
  flushed : ledger.routed = true → ledger.waiting = []

variable {ledger}

theorem sound_start : Sound (start Msg) := ⟨rfl, nofun⟩

theorem Sound.arrive (sound : Sound ledger) (msg : Msg) : Sound (ledger.arrive msg) := by
  unfold Ledger.arrive
  cases routed : ledger.routed with
  | true =>
      have none := sound.flushed routed
      have all := sound.conserved
      rw [none, List.append_nil] at all
      exact ⟨by simp [none, all], fun _ => none⟩
  | false => exact ⟨by simp [← sound.conserved], by simp⟩

theorem Sound.flush (sound : Sound ledger) : Sound ledger.flush :=
  ⟨by simp [Ledger.flush, sound.conserved], fun _ => rfl⟩

theorem Sound.route (sound : Sound ledger) : Sound ledger.route :=
  ⟨sound.flush.conserved, fun _ => rfl⟩

theorem Sound.forget (sound : Sound ledger) : Sound ledger.forget := ⟨sound.conserved, nofun⟩

end Ledger

end Rteipc.Data
