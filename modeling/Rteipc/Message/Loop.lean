import Rteipc.Endpoint
import Rteipc.Message.Stream

namespace Rteipc

open Data

/-! The loop that the read callbacks have in common: messages are taken off the
input and handled until `rteipc_msg_drain` returns 0 or -1. -/

/-- A loop over the messages of an input, each of which `onMsg` handles; `done`
is what becomes of the variables at the end. -/
structure DrainLoop {State Result : Type} (malloc : Nat → Bool) (onMsg : State → Nat → List UInt8 → Except Fault State)
    (done : State → Result) (loop : Nat → Evbuffer → State → Except Fault (Result × Evbuffer)) : Prop where
  zero : ∀ buf st, loop 0 buf st = .ok (done st, buf)
  stop : ∀ fuel buf st, (∀ size msg, (rteipcMsgDrain malloc buf).1 ≠ .message size msg) →
    loop (fuel + 1) buf st = .ok (done st, buf)
  next : ∀ fuel buf st size msg rest, rteipcMsgDrain malloc buf = (.message size msg, rest) →
    loop (fuel + 1) buf st = (onMsg st size msg).bind fun st => loop fuel rest st

/-- Handling messages one after the other. -/
def handleMsgs {State : Type} (onMsg : State → Nat → List UInt8 → Except Fault State) :
    State → List (Nat × List UInt8) → Except Fault State
  | st, [] => .ok st
  | st, (size, msg) :: rest => (onMsg st size msg).bind fun st => handleMsgs onMsg st rest

/-- There is memory for the message. -/
def Fetched (malloc : Nat → Bool) (msg : Nat × List UInt8) : Prop := msgFormat.Valid msg ∧ malloc msg.2.length = true

section Loop

variable {State Result : Type} {malloc : Nat → Bool} {onMsg : State → Nat → List UInt8 → Except Fault State}
  {done : State → Result} {loop : Nat → Evbuffer → State → Except Fault (Result × Evbuffer)}
  {msgs next : List (Nat × List UInt8)} {buf rest : Evbuffer}

/-- The beginning of a message is left alone whatever memory there is. -/
theorem drain_waiting_none (valid : ∀ msg ∈ next, msgFormat.Valid msg) (waiting : msgFormat.Waiting [] next rest)
    (size : Nat) (msg : List UInt8) : (rteipcMsgDrain malloc rest).1 ≠ .message size msg := by
  have nothing := FrameFormat.Waiting.decode_none msgFormat_stuck_nil valid waiting
  have empty : msgLength rest = 0 := by
    by_contra complete
    have taken : takeMsg rest = none := nothing
    simp [takeMsg, rteipcMsgDrain, complete, allocates] at taken
  simp [rteipcMsgDrain, empty]

theorem DrainLoop.frames (law : DrainLoop malloc onMsg done loop) (fetched : ∀ msg ∈ msgs, Fetched malloc msg)
    (valid : ∀ msg ∈ next, msgFormat.Valid msg) (waiting : msgFormat.Waiting [] next rest) {fuel : Nat}
    (enough : msgs.length ≤ fuel) (st : State) :
    loop fuel (msgFormat.encodeAll msgs ++ rest) st = (handleMsgs onMsg st msgs).map fun st => (done st, rest) := by
  induction msgs generalizing fuel st with
  | nil =>
      cases fuel with
      | zero => exact law.zero rest st
      | succ fuel => exact law.stop fuel rest st (drain_waiting_none valid waiting)
  | cons msg later ih =>
      obtain ⟨size, payload⟩ := msg
      obtain ⟨⟨told, deliverable⟩, allocated⟩ := fetched _ List.mem_cons_self
      have length : size = payload.length := (Prod.mk.inj told).1
      subst length
      obtain ⟨fuel, rfl⟩ : ∃ less, fuel = less + 1 := Nat.exists_eq_succ_of_ne_zero (by simp at enough; omega)
      have taken : rteipcMsgDrain malloc (frame payload ++ (msgFormat.encodeAll later ++ rest)) =
          (.message payload.length payload, msgFormat.encodeAll later ++ rest) :=
        drain_whole (by have := deliverable.2; omega) (List.length_pos_iff.mp deliverable.1) allocated _
      have following := ih (fun other member => fetched other (List.mem_cons_of_mem _ member))
        (Nat.le_of_succ_le_succ enough)
      rw [FrameFormat.encodeAll_cons, List.append_assoc]
      change loop (fuel + 1) (frame payload ++ (msgFormat.encodeAll later ++ rest)) st = _
      rw [law.next fuel _ st _ _ _ taken, handleMsgs]
      cases onMsg st payload.length payload with
      | error fault => rfl
      | ok after => exact following after

/-- Whatever is in the input, the loop handles what `rteipc_msg_drain` takes off it. -/
theorem DrainLoop.drained (law : DrainLoop malloc onMsg done loop) (fuel : Nat) (buf : Evbuffer) (st : State) :
    loop fuel buf st =
      (handleMsgs onMsg st (msgLoop malloc fuel buf).1).map fun st => (done st, (msgLoop malloc fuel buf).2) := by
  induction fuel generalizing buf st with
  | zero => exact law.zero buf st
  | succ fuel ih =>
      rw [msgLoop]
      cases drained : rteipcMsgDrain malloc buf with
      | mk result rest =>
          cases result with
          | message size msg =>
              rw [law.next fuel buf st size msg rest drained]
              simp only [handleMsgs]
              cases onMsg st size msg with
              | error fault => rfl
              | ok after => exact ih rest after
          | empty =>
              have kept : rest = buf := rteipcMsgDrain_kept drained rfl
              rw [law.stop fuel buf st (by simp [drained]), kept]
              rfl
          | failed =>
              have kept : rest = buf := rteipcMsgDrain_kept drained rfl
              rw [law.stop fuel buf st (by simp [drained]), kept]
              rfl

end Loop

end Rteipc
