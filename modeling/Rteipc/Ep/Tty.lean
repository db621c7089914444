import Rteipc.Endpoint
import Rteipc.Message.Stream
import Rteipc.Message.Write

namespace Rteipc

open Data

/-! The TTY endpoint of `ep_tty.c`: what is read from the terminal goes to the
bound endpoint in frames. -/

/-- What one `read` into the 256 bytes of `msg` answers; no bytes are the end of the file. -/
inductive ReadOutcome where
  | failed
  | read (bytes : List UInt8) (fits : bytes.length ≤ 256)
deriving DecidableEq, Repr

/-- The `size_t` that holds what `read` returns. -/
def ReadOutcome.len : ReadOutcome → Nat
  | .failed => 18446744073709551615
  | .read bytes _ => bytes.length

/-- What `read` has put into `msg`. -/
def ReadOutcome.msg : ReadOutcome → List UInt8
  | .failed => []
  | .read bytes _ => bytes

/-- `read` has returned a positive number. -/
def ReadOutcome.isData (outcome : ReadOutcome) : Bool :=
  match outcome with
  | .failed => false
  | .read bytes _ => !bytes.isEmpty

/-- The endpoint with its `struct tty_data`: `event` tells whether `ev` is
added, `bev` is what its half of the pair has been given to send. -/
structure TtyEp where
  fd : Nat
  event : Bool
  bev : Option Evbuffer
deriving DecidableEq, Repr

/-- `evbuffer_add` to a new buffer from the 256 bytes of `msg`. `refused` tells
whether it turns down a length that no memory has; to copy that many bytes is
to read behind `msg`. -/
def evbufferAdd (refused : Bool) (msg : List UInt8) (len : Nat) : Except Fault Evbuffer :=
  if len ≤ 256 then .ok (msg.take len)
  else if refused then .ok []
  else .error .overflow

/-- `len` is unsigned, so `len <= 0` is a test for 0. -/
def upstream (refused : Bool) (self : TtyEp) (outcome : ReadOutcome) : Except Fault TtyEp :=
  match self.bev with
  | none => .ok self
  | some bev =>
      if outcome.len ≤ 0 then .ok { self with event := false }
      else do
        let buf ← evbufferAdd refused outcome.msg outcome.len
        .ok { self with bev := some (rteipcEvbuffer bev buf).1 }

/-- The event loop: `upstream` runs with each answer of `read` until the event is removed. -/
def upstreamAll (refused : Bool) : TtyEp → List ReadOutcome → Except Fault TtyEp
  | self, [] => .ok self
  | self, outcome :: rest =>
      if self.event then do
        let self ← upstream refused self outcome
        upstreamAll refused self rest
      else .ok self

/-! ## What is forwarded -/

/-- The reads that the endpoint is to forward: those before the first that returns 0 or -1. -/
def forwarded (outcomes : List ReadOutcome) : List (List UInt8) :=
  (outcomes.takeWhile ReadOutcome.isData).map ReadOutcome.msg

/-- One frame has been written for each of these reads and nothing else, so
that they are what the other side drains, and the event is there unless a read
has returned 0 or -1. -/
def ForwardsExactly (refused : Bool) (fd : Nat) (outcomes : List ReadOutcome) : Prop :=
  upstreamAll refused ⟨fd, true, some []⟩ outcomes =
      .ok ⟨fd, outcomes.all ReadOutcome.isData, some ((forwarded outcomes).flatMap frame)⟩ ∧
    msgDrainAll allocates ((forwarded outcomes).flatMap frame) = ((forwarded outcomes).map sized, [])

variable {refused : Bool} {self : TtyEp} {fd : Nat} {outcome : ReadOutcome} {outcomes : List ReadOutcome}
  {bev : Evbuffer}

theorem isData_msg (data : outcome.isData = true) : 1 ≤ outcome.msg.length ∧ outcome.msg.length ≤ 256 := by
  cases outcome with
  | failed => cases data
  | read bytes fits =>
      refine ⟨List.length_pos_iff.mpr fun empty => ?_, fits⟩
      rw [ReadOutcome.isData, show bytes = [] from empty] at data
      cases data

theorem upstream_data (data : outcome.isData = true) :
    upstream refused ⟨fd, true, some bev⟩ outcome = .ok ⟨fd, true, some (bev ++ frame outcome.msg)⟩ := by
  cases outcome with
  | failed => cases data
  | read bytes fits =>
      have positive : ¬bytes.length ≤ 0 := Nat.not_le.mpr (isData_msg data).1
      simp only [upstream, ReadOutcome.len, ReadOutcome.msg, if_neg positive, evbufferAdd, if_pos fits,
        List.take_length, bind, Except.bind, rteipcEvbuffer_eq]

/-- The end of the file removes the event. -/
theorem upstream_end : upstream refused ⟨fd, true, some bev⟩ (.read [] (Nat.zero_le _)) = .ok ⟨fd, false, some bev⟩ :=
  rfl

/-- An error does not: it sends an empty frame, or reads behind `msg`. -/
theorem upstream_failed :
    upstream refused ⟨fd, true, some bev⟩ .failed =
      if refused then .ok ⟨fd, true, some (bev ++ frame [])⟩ else .error .overflow := by
  cases refused with
  | true => rfl
  | false => rfl

theorem upstream_fd {after : TtyEp} (ran : upstream refused self outcome = .ok after) : after.fd = self.fd := by
  rw [upstream] at ran
  split at ran
  · cases ran
    rfl
  · split at ran
    · cases ran
      rfl
    · obtain ⟨buf, -, sent⟩ := bind_ok ran
      cases sent
      rfl

theorem upstreamAll_removed (removed : self.event = false) : upstreamAll refused self outcomes = .ok self := by
  cases outcomes with
  | nil => rfl
  | cons outcome rest => rw [upstreamAll, removed]; rfl

theorem upstreamAll_sent {next : TtyEp} (sent : self.bev = some bev)
    (ran : upstreamAll refused self outcomes = .ok next) : ∃ more, next.bev = some (bev ++ more) := by
  induction outcomes generalizing self bev with
  | nil =>
      cases ran
      exact ⟨[], by rw [sent, List.append_nil]⟩
  | cons outcome rest ih =>
      rw [upstreamAll] at ran
      split at ran
      · obtain ⟨middle, first, following⟩ := bind_ok ran
        rw [upstream, sent] at first
        simp only at first
        split at first
        · cases first
          exact ih rfl following
        · obtain ⟨buf, -, written⟩ := bind_ok first
          cases written
          obtain ⟨more, last⟩ := ih rfl following
          exact ⟨frame buf ++ more, by rw [last, rteipcEvbuffer_eq, List.append_assoc]⟩
      · cases ran
        exact ⟨[], by rw [sent, List.append_nil]⟩

/-- From a pending event, and behind what has been sent before, reads are
forwarded as they should be exactly when the first that returns 0 or -1 does
not return -1. -/
theorem upstreamAll_iff (fd : Nat) (bev : Evbuffer) (outcomes : List ReadOutcome) :
    upstreamAll refused ⟨fd, true, some bev⟩ outcomes =
        .ok ⟨fd, outcomes.all ReadOutcome.isData, some (bev ++ (forwarded outcomes).flatMap frame)⟩ ↔
      (outcomes.dropWhile ReadOutcome.isData).head? ≠ some .failed := by
  induction outcomes generalizing bev with
  | nil => simp [upstreamAll, forwarded]
  | cons outcome rest ih =>
      by_cases data : outcome.isData = true
      · have following := ih (bev ++ frame outcome.msg)
        simp only [upstreamAll, upstream_data data, ok_bind, if_true, forwarded, List.takeWhile_cons_of_pos data,
          List.dropWhile_cons_of_pos data, List.all_cons, data, Bool.true_and, List.map_cons, List.flatMap_cons]
        rw [← following, forwarded, List.append_assoc]
      · cases outcome with
        | read bytes fits =>
            have empty : bytes = [] := by simpa [ReadOutcome.isData] using data
            subst empty
            simp [upstreamAll, upstream_end, upstreamAll_removed, forwarded, ReadOutcome.isData, ok_bind]
        | failed =>
            simp only [List.dropWhile_cons_of_neg data, List.head?_cons, ne_eq, not_true_eq_false, iff_false]
            intro ran
            rw [upstreamAll, if_pos rfl, upstream_failed] at ran
            cases refused with
            | false => cases ran
            | true =>
                obtain ⟨more, sent⟩ := upstreamAll_sent rfl ran
                have lengths := congrArg List.length (Option.some.inj sent)
                simp [forwarded, ReadOutcome.isData, frame] at lengths

/-- What is read from the terminal is forwarded exactly if and only if the first
read that does not return a positive number returns 0. -/
theorem upstream_exact_iff (refused : Bool) (fd : Nat) (outcomes : List ReadOutcome) :
    ForwardsExactly refused fd outcomes ↔ (outcomes.dropWhile ReadOutcome.isData).head? ≠ some .failed := by
  have drained : msgDrainAll allocates ((forwarded outcomes).flatMap frame) = ((forwarded outcomes).map sized, []) := by
    refine msgDrainAll_frames fun msg member => ?_
    obtain ⟨outcome, taken, rfl⟩ := List.mem_map.mp member
    have size := isData_msg (List.mem_takeWhile_imp taken)
    exact ⟨size.1, by omega⟩
  have sent := @upstreamAll_iff refused fd [] outcomes
  rw [List.nil_append] at sent
  rw [ForwardsExactly, sent]
  exact and_iff_left drained

/-- A read that fails is followed by an empty frame, and the event stays. -/
theorem upstream_failed_forwarded :
    upstreamAll true ⟨3, true, some []⟩ [.failed] = .ok ⟨3, true, some [0, 0, 0, 0]⟩ ∧
      ¬∀ (refused : Bool) (fd : Nat) (outcomes : List ReadOutcome), ForwardsExactly refused fd outcomes := by
  refine ⟨rfl, fun all => ?_⟩
  have ran := (all true 3 [.failed]).1
  cases ran

end Rteipc
