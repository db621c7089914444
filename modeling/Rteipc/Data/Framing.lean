import Mathlib.Data.List.Infix

namespace Rteipc.Data

/-! Self-delimiting messages in a byte queue.

A format knows how to take one message off the front of a queue.  Whatever the
chunks a stream of frames arrives in, draining after every chunk yields the
messages in order, and what stays in the queue is the part of the next frame
that has arrived.  The stream may end in a tail from which the decoder never
takes anything; the empty tail is the ordinary case.
-/

structure FrameFormat (Msg Byte : Type*) where
  encode : Msg → List Byte
  decode : List Byte → Option (Msg × List Byte)
  Valid : Msg → Prop
  decode_encode : ∀ msg rest, Valid msg → decode (encode msg ++ rest) = some (msg, rest)
  decode_part : ∀ msg part, Valid msg → part <+: encode msg → part ≠ encode msg →
    decode part = none

namespace FrameFormat

variable {Msg Byte : Type*} (format : FrameFormat Msg Byte)

def encodeAll (msgs : List Msg) : List Byte := msgs.flatMap format.encode

/-- Take messages off the queue until none is complete. -/
def drain : Nat → List Byte → List Msg × List Byte
  | 0, queue => ([], queue)
  | fuel + 1, queue =>
      match format.decode queue with
      | none => ([], queue)
      | some (msg, rest) =>
          let (later, left) := drain fuel rest
          (msg :: later, left)

/-- Append each chunk to the queue and drain after it. -/
def deliver (fuel : List Byte → Nat) : List Byte → List (List Byte) → List Msg × List Byte
  | queue, [] => ([], queue)
  | queue, chunk :: chunks =>
      let (now, left) := format.drain (fuel (queue ++ chunk)) (queue ++ chunk)
      let (later, last) := deliver fuel left chunks
      (now ++ later, last)

/-- No part of the tail is ever taken for a message. -/
def Stuck (tail : List Byte) : Prop := ∀ part, part <+: tail → format.decode part = none

/-- The queue holds the beginning of the next frame, or of the tail once all
messages have been taken. -/
def Waiting (tail : List Byte) : List Msg → List Byte → Prop
  | [], queue => queue <+: tail
  | next :: _, queue => queue <+: format.encode next ∧ queue ≠ format.encode next

variable {format} {msgs done left : List Msg} {tail queue bytes : List Byte}

@[simp] theorem encodeAll_nil : format.encodeAll [] = [] := rfl

@[simp] theorem encodeAll_cons (msg : Msg) :
    format.encodeAll (msg :: msgs) = format.encode msg ++ format.encodeAll msgs := rfl

@[simp] theorem encodeAll_append :
    format.encodeAll (done ++ left) = format.encodeAll done ++ format.encodeAll left := by
  simp only [encodeAll, List.flatMap_append]

theorem Waiting.decode_none (stuck : format.Stuck tail) (valid : ∀ msg ∈ left, format.Valid msg)
    (waiting : format.Waiting tail left queue) : format.decode queue = none := by
  cases left with
  | nil => exact stuck queue waiting
  | cons next later =>
      exact format.decode_part next queue (valid next List.mem_cons_self) waiting.1 waiting.2

variable (format) in
/-- The messages of a stream whose frames are complete in its first bytes. -/
def whole : List Msg → List Byte → List Msg
  | [], _ => []
  | msg :: msgs, bytes =>
      if (format.encode msg).length ≤ bytes.length then
        msg :: whole msgs (bytes.drop (format.encode msg).length)
      else []

/-- Bytes of the stream are some whole frames and the beginning of the next. -/
theorem whole_split (arrived : bytes <+: format.encodeAll msgs ++ tail) :
    ∃ left rest, msgs = format.whole msgs bytes ++ left ∧
      bytes = format.encodeAll (format.whole msgs bytes) ++ rest ∧ format.Waiting tail left rest := by
  induction msgs generalizing bytes with
  | nil => exact ⟨[], bytes, rfl, rfl, arrived⟩
  | cons msg msgs ih =>
      rw [encodeAll_cons, List.append_assoc] at arrived
      unfold whole
      split
      next fits =>
        obtain ⟨more, rfl⟩ := List.prefix_of_prefix_length_le (List.prefix_append _ _) arrived fits
        obtain ⟨left, rest, split, bytes, waiting⟩ := ih ((List.prefix_append_right_inj _).mp arrived)
        rw [List.drop_left]
        refine ⟨left, rest, congrArg _ split, ?_, waiting⟩
        rw [encodeAll_cons, List.append_assoc, ← bytes]
      next cut =>
        have inside : bytes <+: format.encode msg :=
          List.prefix_of_prefix_length_le arrived (List.prefix_append _ _) (by omega)
        refine ⟨msg :: msgs, bytes, rfl, rfl, inside, ?_⟩
        rintro rfl
        exact cut (Nat.le_refl _)

theorem whole_prefix (more : List Byte) : format.whole msgs bytes <+: format.whole msgs (bytes ++ more) := by
  induction msgs generalizing bytes with
  | nil => exact List.prefix_rfl
  | cons msg msgs ih =>
      unfold whole
      split
      next fits =>
        have still : (format.encode msg).length ≤ (bytes ++ more).length := by
          rw [List.length_append]
          omega
        rw [if_pos still, List.drop_append_of_le_length fits]
        exact (List.prefix_cons_inj _).mpr ih
      next => exact List.nil_prefix

theorem drain_waiting (stuck : format.Stuck tail) (validDone : ∀ msg ∈ done, format.Valid msg)
    (validLeft : ∀ msg ∈ left, format.Valid msg) (waiting : format.Waiting tail left queue)
    {fuel : Nat} (enough : done.length < fuel) :
    format.drain fuel (format.encodeAll done ++ queue) = (done, queue) := by
  induction done generalizing fuel with
  | nil =>
      cases fuel with
      | zero => cases enough
      | succ fuel =>
          simp only [encodeAll_nil, List.nil_append, drain, waiting.decode_none stuck validLeft]
  | cons msg done ih =>
      cases fuel with
      | zero => cases enough
      | succ fuel =>
          have rest := ih (fun other member => validDone other (List.mem_cons_of_mem _ member))
            (Nat.lt_of_succ_lt_succ enough)
          simp only [encodeAll_cons, List.append_assoc, drain,
            format.decode_encode msg _ (validDone msg List.mem_cons_self), rest]

/-- However the stream is cut into chunks, what has been taken after some of
them is a run of whole messages, and what waits is the beginning of the next. -/
theorem deliver_spec (fuel : List Byte → Nat)
    (enough : ∀ done rest, (∀ msg ∈ done, format.Valid msg) →
      done.length < fuel (format.encodeAll done ++ rest))
    (stuck : format.Stuck tail) (valid : ∀ msg ∈ msgs, format.Valid msg)
    (chunks : List (List Byte)) (waiting : format.Waiting tail msgs queue)
    (arrived : queue ++ chunks.flatten <+: format.encodeAll msgs ++ tail) :
    ∃ done left rest, msgs = done ++ left ∧ format.deliver fuel queue chunks = (done, rest) ∧
      queue ++ chunks.flatten = format.encodeAll done ++ rest ∧
      format.Waiting tail left rest := by
  induction chunks generalizing msgs queue with
  | nil => exact ⟨[], msgs, queue, rfl, rfl, by simp, waiting⟩
  | cons chunk chunks ih =>
      rw [List.flatten_cons, ← List.append_assoc] at arrived
      obtain ⟨left, rest, whole, split, waitingNow⟩ :=
        whole_split ((List.prefix_append (queue ++ chunk) chunks.flatten).trans arrived)
      generalize format.whole msgs (queue ++ chunk) = now at whole split
      subst whole
      have validNow : ∀ msg ∈ now, format.Valid msg := fun msg member =>
        valid msg (List.mem_append_left _ member)
      have validLeft : ∀ msg ∈ left, format.Valid msg := fun msg member =>
        valid msg (List.mem_append_right _ member)
      have following : rest ++ chunks.flatten <+: format.encodeAll left ++ tail := by
        rw [split, encodeAll_append, List.append_assoc, List.append_assoc] at arrived
        exact (List.prefix_append_right_inj _).mp arrived
      obtain ⟨later, last, waitingBytes, rfl, delivered, rejoined, waitingLast⟩ :=
        ih validLeft waitingNow following
      refine ⟨now ++ later, last, waitingBytes, by rw [List.append_assoc], ?_, ?_, waitingLast⟩
      · simp only [deliver]
        rw [split, drain_waiting stuck validNow validLeft waitingNow (enough now rest validNow)]
        simp only [delivered]
      · rw [List.flatten_cons, ← List.append_assoc, split, List.append_assoc, rejoined,
          encodeAll_append, List.append_assoc]

theorem deliver_all (fuel : List Byte → Nat)
    (enough : ∀ done rest, (∀ msg ∈ done, format.Valid msg) →
      done.length < fuel (format.encodeAll done ++ rest))
    (stuck : format.Stuck tail) (valid : ∀ msg ∈ msgs, format.Valid msg)
    (chunks : List (List Byte)) (arrived : chunks.flatten = format.encodeAll msgs ++ tail) :
    format.deliver fuel [] chunks = (msgs, tail) := by
  have start : format.Waiting tail msgs [] := by
    cases msgs with
    | nil => exact List.nil_prefix
    | cons msg rest =>
        refine ⟨List.nil_prefix, fun empty => ?_⟩
        have taken := format.decode_encode msg [] (valid msg List.mem_cons_self)
        rw [← empty, List.append_nil, stuck [] List.nil_prefix] at taken
        cases taken
  obtain ⟨done, left, rest, rfl, delivered, split, waiting⟩ :=
    deliver_spec fuel enough stuck valid chunks start (by rw [List.nil_append, arrived])
  rw [List.nil_append, arrived, encodeAll_append, List.append_assoc] at split
  have remaining := List.append_cancel_left split
  cases left with
  | nil =>
      rw [delivered, List.append_nil, ← remaining, encodeAll_nil, List.nil_append]
  | cons next later =>
      rw [encodeAll_cons, List.append_assoc] at remaining
      have whole : format.encode next <+: rest := ⟨_, remaining⟩
      exact (waiting.2 (waiting.1.eq_of_length_le whole.length_le)).elim

end FrameFormat

end Rteipc.Data
