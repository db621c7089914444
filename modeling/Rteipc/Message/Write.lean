import Mathlib.Data.List.Basic

namespace Rteipc

/-! `rteipc_msg_write` of `message.c` under any answers of `write`. -/

inductive Errno where
  | eintr
  | eagain
  | other (code : Nat)
deriving DecidableEq, Repr

/-- What one `write` answers. -/
inductive WriteOutcome where
  | written (count : Nat)
  | error (errno : Errno)
deriving DecidableEq, Repr

/-- The bytes a descriptor takes of those it is given: never more than these. -/
def WriteOutcome.taken : WriteOutcome → List UInt8 → List UInt8
  | .written count, asked => asked.take count
  | .error _, _ => []

/-- A call after some of the answers: `ret` is `none` while it is in its loops,
and `left` are the answers it has not used. -/
structure MsgWrite where
  offset : Nat
  accepted : List UInt8
  closed : Bool
  ret : Option Int
  left : List WriteOutcome
deriving DecidableEq, Repr

/-- Both loops, from an offset: the inner one is entered again after EINTR and
EAGAIN, the outer one after a count. -/
def msgWriteLoop (data : List UInt8) (offset : Nat) (accepted : List UInt8)
    (outcomes : List WriteOutcome) : MsgWrite :=
  if offset < data.length then
    match outcomes with
    | [] => ⟨offset, accepted, false, none, []⟩
    | .error .eintr :: rest | .error .eagain :: rest => msgWriteLoop data offset accepted rest
    | .error (.other _) :: rest => ⟨offset, accepted, true, some (-1), rest⟩
    | .written count :: rest =>
        let taken := (WriteOutcome.written count).taken (data.drop offset)
        msgWriteLoop data (offset + taken.length) (accepted ++ taken) rest
  else ⟨offset, accepted, false, some 0, outcomes⟩

def rteipcMsgWrite (data : List UInt8) (outcomes : List WriteOutcome) : MsgWrite :=
  msgWriteLoop data 0 [] outcomes

variable {data : List UInt8} {outcomes : List WriteOutcome}

/-- Taking the next bytes keeps the accepted bytes a prefix that ends at the offset. -/
theorem take_append_taken (data : List UInt8) (offset count : Nat) :
    data.take offset ++ (data.drop offset).take count =
      data.take (offset + ((data.drop offset).take count).length) := by
  rw [List.take_add, List.length_take, ← List.take_eq_take_min]

/-- What is true of a call at every point: the descriptor has the bytes before
the offset, and a returned value tells how far the call has come. -/
structure MsgWrite.Exact (data : List UInt8) (call : MsgWrite) (outcomes : List WriteOutcome) : Prop where
  accepted : call.accepted = data.take call.offset
  within : call.offset ≤ data.length
  whole : call.ret = some 0 → call.offset = data.length
  failed : call.ret = some (-1) → call.offset < data.length ∧
    ∃ before code, outcomes = before ++ .error (.other code) :: call.left
  returns : call.ret = none ∨ call.ret = some 0 ∨ call.ret = some (-1)

theorem MsgWrite.Exact.cons {call : MsgWrite} (exact : call.Exact data outcomes) (outcome : WriteOutcome) :
    call.Exact data (outcome :: outcomes) where
  accepted := exact.accepted
  within := exact.within
  whole := exact.whole
  failed failed := by
    obtain ⟨part, before, code, split⟩ := exact.failed failed
    exact ⟨part, outcome :: before, code, by rw [split, List.cons_append]⟩
  returns := exact.returns

theorem msgWriteLoop_exact (data : List UInt8) (outcomes : List WriteOutcome) (offset : Nat) (accepted : List UInt8)
    (within : offset ≤ data.length) (sent : accepted = data.take offset) :
    (msgWriteLoop data offset accepted outcomes).Exact data outcomes := by
  induction offset, accepted, outcomes using msgWriteLoop.induct_unfolding data with
  | case1 offset accepted more => exact ⟨sent, within, nofun, nofun, .inl rfl⟩
  | case2 offset accepted more rest ih => exact (ih within sent).cons _
  | case3 offset accepted more rest ih => exact (ih within sent).cons _
  | case4 offset accepted more code rest =>
      exact ⟨sent, within, nofun, fun _ => ⟨more, [], code, rfl⟩, .inr (.inr rfl)⟩
  | case5 offset accepted more count rest taken ih =>
      have fits : taken.length ≤ (data.drop offset).length := (List.take_sublist _ _).length_le
      rw [List.length_drop] at fits
      refine (ih (by omega) ?_).cons _
      rw [sent]
      exact take_append_taken data offset count
  | case6 outcomes offset accepted whole =>
      have all := Nat.le_antisymm within (Nat.not_lt.mp whole)
      exact ⟨sent, within, fun _ => all, nofun, .inr (.inl rfl)⟩

/-- The answers a call has used are the first ones, and it has closed the
descriptor if one of them is an error that is not retried. -/
theorem msgWriteLoop_used (data : List UInt8) (outcomes : List WriteOutcome) (offset : Nat) (accepted : List UInt8) :
    ∃ used, outcomes = used ++ (msgWriteLoop data offset accepted outcomes).left ∧
      ((msgWriteLoop data offset accepted outcomes).closed = true ↔ ∃ code, .error (.other code) ∈ used) := by
  induction offset, accepted, outcomes using msgWriteLoop.induct_unfolding data with
  | case1 offset accepted more => exact ⟨[], rfl, by simp⟩
  | case2 offset accepted more rest ih =>
      obtain ⟨used, split, closes⟩ := ih
      exact ⟨.error .eintr :: used, by rw [List.cons_append, ← split], by simpa using closes⟩
  | case3 offset accepted more rest ih =>
      obtain ⟨used, split, closes⟩ := ih
      exact ⟨.error .eagain :: used, by rw [List.cons_append, ← split], by simpa using closes⟩
  | case4 offset accepted more code rest => exact ⟨[.error (.other code)], rfl, by simp⟩
  | case5 offset accepted more count rest taken ih =>
      obtain ⟨used, split, closes⟩ := ih
      exact ⟨.written count :: used, by rw [List.cons_append, ← split], by simpa using closes⟩
  | case6 outcomes offset accepted whole => exact ⟨[], rfl, by simp⟩

theorem rteipcMsgWrite_exact (data : List UInt8) (outcomes : List WriteOutcome) :
    (rteipcMsgWrite data outcomes).Exact data outcomes :=
  msgWriteLoop_exact data outcomes 0 [] (Nat.zero_le _) rfl

/-- At every point of a call the descriptor has taken the bytes before the
offset; a call that returns 0 has had all of them taken, and one that returns
-1 has met an error that is not retried with bytes still to write. -/
theorem rteipc_msg_write_exact (data : List UInt8) (outcomes : List WriteOutcome) :
    (∀ count, (rteipcMsgWrite data (outcomes.take count)).accepted =
      data.take (rteipcMsgWrite data (outcomes.take count)).offset) ∧
    ((rteipcMsgWrite data outcomes).ret = none ∨ (rteipcMsgWrite data outcomes).ret = some 0 ∨
      (rteipcMsgWrite data outcomes).ret = some (-1)) ∧
    ((rteipcMsgWrite data outcomes).ret = some 0 → (rteipcMsgWrite data outcomes).accepted = data) ∧
    ((rteipcMsgWrite data outcomes).ret = some (-1) →
      (∃ before code, outcomes = before ++ .error (.other code) :: (rteipcMsgWrite data outcomes).left) ∧
      (rteipcMsgWrite data outcomes).accepted <+: data ∧ (rteipcMsgWrite data outcomes).accepted ≠ data) := by
  have call := rteipcMsgWrite_exact data outcomes
  refine ⟨fun count => (rteipcMsgWrite_exact data _).accepted, call.returns, ?_, ?_⟩
  · intro whole
    rw [call.accepted, call.whole whole, List.take_length]
  · intro failed
    obtain ⟨part, last⟩ := call.failed failed
    refine ⟨last, ?_, ?_⟩
    · rw [call.accepted]
      exact List.take_prefix _ _
    · intro all
      have lengths := congrArg List.length (call.accepted.symm.trans all)
      rw [List.length_take] at lengths
      omega

example : rteipcMsgWrite [1, 2, 3] [.written 2, .error .eintr, .written 0, .written 9] =
    ⟨3, [1, 2, 3], false, some 0, []⟩ := by decide

end Rteipc
