import Mathlib.Data.List.Count
import Rteipc.Ep.Spi
import Rteipc.Message.Stream

namespace Rteipc

open Data

/-! Which accepted payloads a receiver still gets once an empty one was sent. -/

/-- The library's senders onto one stream. -/
inductive Sender where
  | rteipcSend
  | rteipcEvsend
  | rteipcXfer
  | rteipcEvxfer
  | spidevReply
deriving DecidableEq, Repr

/-- What each writes the payload with, once its lookup has succeeded; none of
them looks at the length. -/
def Sender.writer : Sender → Writer
  | .rteipcSend | .rteipcXfer | .spidevReply => .buffer
  | .rteipcEvsend | .rteipcEvxfer => .evbuffer

def payloads (sends : List (Sender × List UInt8)) : List (List UInt8) := sends.map Prod.snd

def sentStream (sends : List (Sender × List UInt8)) : Evbuffer :=
  writeAll (sends.map fun send => (send.1.writer, send.2))

theorem sentStream_eq (sends : List (Sender × List UInt8)) :
    sentStream sends = (payloads sends).flatMap frame := by
  rw [sentStream, writeAll_eq, payloads, List.map_map]
  rfl

/-- Every non-empty payload sent after an empty one has been drained as often
as it was sent up to then. -/
def StillDrained (sends : List (Sender × List UInt8)) (chunks : List Evbuffer) : Prop :=
  ∀ before sent later, payloads sends = before ++ sent :: later → sent ≠ [] → [] ∈ before →
    (before ++ [sent]).count sent ≤ (receive allocates [] chunks).1.count (sized sent)

theorem msgFormat_stuck_empty (rest : Evbuffer) : msgFormat.Stuck (frame [] ++ rest) := by
  intro part arrived
  have length : msgLength part = 0 := by
    rw [msgLength_eq]
    cases header : headerValue part with
    | none => rfl
    | some len =>
        obtain ⟨missing, whole⟩ := arrived
        have read := headerValue_append header missing
        rw [whole, frame, List.append_assoc, headerValue_htonl] at read
        cases read
        exact ite_self 0
  rw [show msgFormat.decode = takeMsg from rfl, takeMsg, rteipcMsgDrain, length]
  rfl

/-- Once an empty payload has been sent, a receiver has got the payloads before
the first one and gets no more. -/
theorem receive_until_empty {sends : List (Sender × List UInt8)} {first rest : List (List UInt8)}
    (split : payloads sends = first ++ [] :: rest) (nonempty : [] ∉ first)
    (fits : ∀ data ∈ first, data.length ≤ 4294967291)
    {chunks : List Evbuffer} (arrived : chunks.flatten = sentStream sends) :
    receive allocates [] chunks = (first.map sized, ([] :: rest).flatMap frame) := by
  have deliverable : ∀ data ∈ first, Deliverable data := by
    intro data member
    refine ⟨?_, fits data member⟩
    apply List.length_pos_iff.mpr
    intro empty
    exact nonempty (empty ▸ member)
  have stream : chunks.flatten =
      msgFormat.encodeAll (first.map sized) ++ (frame [] ++ rest.flatMap frame) := by
    rw [arrived, sentStream_eq, split, List.flatMap_append, List.flatMap_cons, msgFormat_encodeAll]
  rw [receive_eq_deliver]
  exact FrameFormat.deliver_all (fun queue => queue.length + 1)
    (fun done rest _ => msgFormat_enough done rest) (msgFormat_stuck_empty _)
    (sized_valid deliverable) chunks stream

theorem count_sized (msgs : List (List UInt8)) (msg : List UInt8) :
    (msgs.map sized).count (sized msg) = msgs.count msg :=
  List.count_map_of_injective msgs sized (fun _ _ same => (Prod.mk.inj same).2) msg

/-- The payloads after an empty one are all drained exactly when there are no
non-empty ones among them. Sent payloads may have any length; only those before
the first empty one must fit a header for the loss to be certain. -/
theorem empty_payload_blocks_iff (sends : List (Sender × List UInt8)) (chunks : List Evbuffer)
    (arrived : chunks.flatten = sentStream sends) :
    ((∀ before sent later, payloads sends = before ++ sent :: later → [] ∈ before → sent = []) →
      StillDrained sends chunks) ∧
    ((∀ first rest, payloads sends = first ++ [] :: rest → [] ∉ first →
        ∀ data ∈ first, data.length ≤ 4294967291) →
      StillDrained sends chunks →
      ∀ before sent later, payloads sends = before ++ sent :: later → [] ∈ before → sent = []) := by
  refine ⟨?_, ?_⟩
  · intro noneAfter before sent later split nonempty empty
    exact (nonempty (noneAfter before sent later split empty)).elim
  · intro fits drained before sent later split empty
    by_contra nonempty
    obtain ⟨first, rest, rfl, notBefore⟩ := List.eq_append_cons_of_mem empty
    have blocked : payloads sends = first ++ [] :: (rest ++ sent :: later) := by
      rw [split, List.append_assoc, List.cons_append]
    have received := receive_until_empty blocked notBefore (fits _ _ blocked notBefore) arrived
    have counted := drained _ sent later split nonempty empty
    rw [received, count_sized, List.count_append, List.count_append, List.count_singleton_self] at counted
    omega

/-- An empty message and then one byte. -/
theorem empty_payload_blocks_one :
    ((∀ before sent later, payloads [(.rteipcSend, []), (.rteipcSend, [7])] =
        before ++ sent :: later → [] ∈ before → sent = []) →
      StillDrained [(.rteipcSend, []), (.rteipcSend, [7])] [[0, 0, 0, 0], [0, 0, 0, 1, 7]]) ∧
    ((∀ first rest, payloads [(.rteipcSend, []), (.rteipcSend, [7])] = first ++ [] :: rest →
        [] ∉ first → ∀ data ∈ first, data.length ≤ 4294967291) →
      StillDrained [(.rteipcSend, []), (.rteipcSend, [7])] [[0, 0, 0, 0], [0, 0, 0, 1, 7]] →
      ∀ before sent later, payloads [(.rteipcSend, []), (.rteipcSend, [7])] =
        before ++ sent :: later → [] ∈ before → sent = []) :=
  empty_payload_blocks_iff _ _ (by decide)

/-- The byte sent after an empty message is never drained. -/
theorem empty_payload_loses_next :
    ¬ ∀ (sends : List (Sender × List UInt8)) (chunks : List Evbuffer),
      chunks.flatten = sentStream sends → StillDrained sends chunks := by
  intro all
  have drained := all [(.rteipcSend, []), (.rteipcSend, [7])] [[0, 0, 0, 0, 0, 0, 0, 1, 7]] (by decide)
  have counted := drained [[]] [7] [] rfl (by decide) (by decide)
  revert counted
  decide

end Rteipc
