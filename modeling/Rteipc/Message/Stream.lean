import Rteipc.Data.Framing
import Rteipc.Message

namespace Rteipc

open Data

/-! The message format as an instance of the framing library, with memory for
every message. -/

def allocates : Nat → Bool := fun _ => true

/-- The bytes written for one message. -/
def frame (data : List UInt8) : List UInt8 := htonl data.length ++ data

@[simp] theorem rteipcBuffer_eq (bev : Evbuffer) (data : List UInt8) :
    rteipcBuffer bev data = bev ++ frame data := rfl

@[simp] theorem rteipcEvbuffer_eq (bev buf : Evbuffer) :
    rteipcEvbuffer bev buf = (bev ++ frame buf, []) := rfl

/-- Non-empty, and short enough that the wrapping test is an honest one. -/
def Deliverable (data : List UInt8) : Prop := 1 ≤ data.length ∧ data.length ≤ 4294967291

theorem msgLength_frame {data : List UInt8} (fits : data.length < 4294967296) (rest : Evbuffer) :
    msgLength (frame data ++ rest) = data.length := by
  have header := headerValue_htonl data.length (data ++ rest)
  have inRange : data.length % 4294967296 = data.length := by omega
  rw [frame, List.append_assoc, msgLength_eq, header]
  simp only [inRange, List.length_append, htonl_length]
  rw [if_neg (by omega)]

/-- A frame is taken off the queue if it has a payload and there is memory for it. -/
theorem drain_whole {malloc : Nat → Bool} {data : List UInt8} (fits : data.length < 4294967296)
    (nonempty : data ≠ []) (memory : malloc data.length = true) (rest : Evbuffer) :
    rteipcMsgDrain malloc (frame data ++ rest) = (.message data.length data, rest) := by
  have length := msgLength_frame fits rest
  have positive : ¬data.length = 0 := fun zero => nonempty (List.length_eq_zero_iff.mp zero)
  have payload : (frame data ++ rest).drop 4 = data ++ rest := by
    rw [frame, List.append_assoc]
    exact List.drop_left' rfl
  simp only [rteipcMsgDrain, length, if_neg positive, memory, Bool.true_eq_false, if_false, payload,
    List.take_left', List.drop_left']

/-- Otherwise it stays, with all that is behind it. -/
theorem drain_stuck {malloc : Nat → Bool} {data : List UInt8} (fits : data.length < 4294967296)
    (stuck : data = [] ∨ malloc data.length = false) (rest : Evbuffer) :
    ∃ result, rteipcMsgDrain malloc (frame data ++ rest) = (result, frame data ++ rest) ∧
      ∀ size msg, result ≠ .message size msg := by
  have length := msgLength_frame fits rest
  by_cases zero : data.length = 0
  · exact ⟨.empty, by simp only [rteipcMsgDrain, length, if_pos zero], by simp⟩
  · have memory := stuck.resolve_left fun empty => zero (List.length_eq_zero_iff.mpr empty)
    exact ⟨.failed, by simp only [rteipcMsgDrain, length, if_neg zero, if_pos memory], by simp⟩

theorem drain_frame {data : List UInt8} (deliverable : Deliverable data) (rest : Evbuffer) :
    rteipcMsgDrain allocates (frame data ++ rest) = (.message data.length data, rest) := by
  have fits := deliverable.2
  exact drain_whole (by omega) (List.length_pos_iff.mp deliverable.1) rfl rest

theorem drain_part {data part : List UInt8} (deliverable : Deliverable data)
    (arrived : part <+: frame data) (missing : part ≠ frame data) :
    rteipcMsgDrain allocates part = (.empty, part) := by
  obtain ⟨rest, whole⟩ := arrived
  have shorter : part.length < 4 + data.length := by
    have lengths := congrArg List.length whole
    have some : rest ≠ [] := by
      rintro rfl
      exact missing (by rw [← whole, List.append_nil])
    have := List.length_pos_iff.mpr some
    simp only [List.length_append, frame, htonl_length] at lengths
    omega
  have length : msgLength part = 0 := by
    rw [msgLength_eq]
    cases header : headerValue part with
    | none => rfl
    | some len =>
        have read := headerValue_append header rest
        rw [whole, frame, headerValue_htonl, Option.some.injEq] at read
        have bound := deliverable.2
        simp only
        rw [if_pos (by omega)]
  simp only [rteipcMsgDrain, length, if_true]

/-- The size a receiver is told comes with the payload. -/
def sized (data : List UInt8) : Nat × List UInt8 := (data.length, data)

/-- One message taken off a buffer, with its size. -/
def takeMsg (buf : Evbuffer) : Option ((Nat × List UInt8) × Evbuffer) :=
  match rteipcMsgDrain allocates buf with
  | (.message size msg, rest) => some ((size, msg), rest)
  | _ => none

theorem takeMsg_frame {data : List UInt8} (deliverable : Deliverable data) (rest : Evbuffer) :
    takeMsg (frame data ++ rest) = some (sized data, rest) := by
  rw [takeMsg, drain_frame deliverable rest]
  rfl

theorem takeMsg_part {data part : List UInt8} (deliverable : Deliverable data)
    (arrived : part <+: frame data) (missing : part ≠ frame data) : takeMsg part = none := by
  rw [takeMsg, drain_part deliverable arrived missing]

def msgFormat : FrameFormat (Nat × List UInt8) UInt8 where
  encode msg := frame msg.2
  decode := takeMsg
  Valid msg := msg = sized msg.2 ∧ Deliverable msg.2
  decode_encode := by
    rintro msg rest ⟨told, deliverable⟩
    rw [told]
    exact takeMsg_frame deliverable rest
  decode_part := fun _ _ valid arrived missing => takeMsg_part valid.2 arrived missing

theorem msgLoop_eq_drain (fuel : Nat) (buf : Evbuffer) :
    msgLoop allocates fuel buf = msgFormat.drain fuel buf := by
  induction fuel generalizing buf with
  | zero => rfl
  | succ fuel ih =>
      rw [msgLoop, FrameFormat.drain, show msgFormat.decode = takeMsg from rfl, takeMsg]
      cases drained : rteipcMsgDrain allocates buf with
      | mk result rest =>
          cases result with
          | message size msg => simp only [ih rest]
          | empty | failed => simp only [rteipcMsgDrain_kept drained rfl]

theorem receive_eq_deliver (buf : Evbuffer) (chunks : List Evbuffer) :
    receive allocates buf chunks = msgFormat.deliver (fun queue => queue.length + 1) buf chunks := by
  induction chunks generalizing buf with
  | nil => rfl
  | cons chunk chunks ih =>
      simp only [receive, FrameFormat.deliver, msgDrainAll, msgLoop_eq_drain, ih]

/-- Every frame is at least a header long, so the loop never runs out of fuel. -/
theorem msgFormat_enough (done : List (Nat × List UInt8)) (rest : Evbuffer) :
    done.length < (msgFormat.encodeAll done ++ rest).length + 1 := by
  induction done with
  | nil => exact Nat.succ_pos _
  | cons msg done ih =>
      simp only [FrameFormat.encodeAll_cons, List.append_assoc, List.length_append,
        List.length_cons] at ih ⊢
      have header : 4 ≤ (msgFormat.encode msg).length := by
        have length : (msgFormat.encode msg).length = 4 + msg.2.length := by
          rw [show msgFormat.encode msg = frame msg.2 from rfl, frame, List.length_append,
            htonl_length]
        omega
      omega

theorem msgFormat_encodeAll (msgs : List (List UInt8)) :
    msgFormat.encodeAll (msgs.map sized) = msgs.flatMap frame := by
  simp only [FrameFormat.encodeAll, List.flatMap_map]
  rfl

theorem sized_valid {msgs : List (List UInt8)} (deliverable : ∀ msg ∈ msgs, Deliverable msg) :
    ∀ msg ∈ msgs.map sized, msgFormat.Valid msg := by
  intro msg member
  obtain ⟨data, source, rfl⟩ := List.mem_map.mp member
  exact ⟨rfl, deliverable data source⟩

theorem msgFormat_stuck_nil : msgFormat.Stuck [] := by
  intro part empty
  rw [List.prefix_nil.mp empty]
  rfl

theorem msgDrainAll_frames {msgs : List (List UInt8)} (deliverable : ∀ msg ∈ msgs, Deliverable msg) :
    msgDrainAll allocates (msgs.flatMap frame) = (msgs.map sized, []) := by
  have enough := msgFormat_enough (msgs.map sized) []
  have waiting : msgFormat.Waiting [] [] [] := List.prefix_rfl
  have drained := FrameFormat.drain_waiting msgFormat_stuck_nil (sized_valid deliverable)
    (fun _ absent => (List.not_mem_nil absent).elim) waiting enough
  rw [List.append_nil, msgFormat_encodeAll] at drained
  rwa [msgDrainAll, msgLoop_eq_drain]

/-! ## Writers -/

/-- The two ways a payload is written to an output. -/
inductive Writer where
  | buffer
  | evbuffer
deriving DecidableEq, Repr

def Writer.write (writer : Writer) (bev : Evbuffer) (data : List UInt8) : Evbuffer :=
  match writer with
  | .buffer => rteipcBuffer bev data
  | .evbuffer => (rteipcEvbuffer bev data).1

/-- The stream written by a sequence of sends, from an empty output. -/
def writeAll (sends : List (Writer × List UInt8)) : Evbuffer :=
  sends.foldl (fun bev send => send.1.write bev send.2) []

theorem writeAll_eq (sends : List (Writer × List UInt8)) :
    writeAll sends = (sends.map Prod.snd).flatMap frame := by
  suffices from_bev : ∀ bev : Evbuffer,
      sends.foldl (fun bev send => send.1.write bev send.2) bev =
        bev ++ (sends.map Prod.snd).flatMap frame by
    rw [writeAll, from_bev, List.nil_append]
  induction sends with
  | nil => intro bev; simp
  | cons send sends ih =>
      intro bev
      have written : send.1.write bev send.2 = bev ++ frame send.2 := by
        cases send.1 <;> rfl
      rw [List.foldl_cons, written, ih, List.map_cons, List.flatMap_cons, List.append_assoc]

/-- Any chunking of the written stream: after any number of chunks a receiver
has obtained the messages whose last byte has arrived, with their sizes, and
holds a proper prefix of the next frame; after all of them it has obtained
every message and holds nothing. -/
theorem framing_survives_chunking (sends : List (Writer × List UInt8))
    (deliverable : ∀ send ∈ sends, 1 ≤ send.2.length ∧ send.2.length ≤ 4294967291)
    (chunks : List Evbuffer) (cut : chunks.flatten = writeAll sends) :
    (∀ count, ∃ done left rest, sends.map Prod.snd = done ++ left ∧
      receive allocates [] (chunks.take count) = (done.map sized, rest) ∧
      (chunks.take count).flatten = done.flatMap frame ++ rest ∧
      (∀ next ∈ left.head?, rest <+: frame next ∧ rest ≠ frame next) ∧
      (left = [] → rest = [])) ∧
    receive allocates [] chunks = ((sends.map Prod.snd).map sized, []) := by
  have valid : ∀ msg ∈ (sends.map Prod.snd).map sized, msgFormat.Valid msg := sized_valid (by
    intro msg member
    obtain ⟨send, source, rfl⟩ := List.mem_map.mp member
    exact deliverable send source)
  have stream : chunks.flatten = msgFormat.encodeAll ((sends.map Prod.snd).map sized) ++ [] := by
    rw [cut, writeAll_eq, msgFormat_encodeAll, List.append_nil]
  constructor
  · intro count
    have arrived : [] ++ (chunks.take count).flatten <+:
        msgFormat.encodeAll ((sends.map Prod.snd).map sized) ++ [] := by
      rw [List.nil_append, ← stream]
      conv => rhs; rw [← List.take_append_drop count chunks, List.flatten_append]
      exact List.prefix_append _ _
    have start : msgFormat.Waiting [] ((sends.map Prod.snd).map sized) [] := by
      cases (sends.map Prod.snd).map sized with
      | nil => exact List.prefix_rfl
      | cons msg rest => exact ⟨List.nil_prefix, by simp [msgFormat, frame, htonl]⟩
    obtain ⟨done, left, rest, split, delivered, rejoined, waiting⟩ :=
      FrameFormat.deliver_spec (fun queue => queue.length + 1)
        (fun done rest _ => msgFormat_enough done rest) msgFormat_stuck_nil valid _ start arrived
    obtain ⟨doneMsgs, leftMsgs, same, rfl, rfl⟩ := List.map_eq_append_iff.mp split
    refine ⟨doneMsgs, leftMsgs, rest, same, ?_, ?_, ?_, ?_⟩
    · rw [receive_eq_deliver]
      exact delivered
    · rwa [List.nil_append, msgFormat_encodeAll] at rejoined
    · intro next first
      cases leftMsgs with
      | nil => cases first
      | cons msg later =>
          cases first
          exact waiting
    · rintro rfl
      exact List.prefix_nil.mp waiting
  · rw [receive_eq_deliver]
    exact FrameFormat.deliver_all (fun queue => queue.length + 1)
      (fun done rest _ => msgFormat_enough done rest) msgFormat_stuck_nil valid chunks stream

/-- Two messages cut inside the second header. -/
theorem framing_survives_chunking_two :
    (∀ count, ∃ done left rest, [[7], [8, 9]] = done ++ left ∧
      receive allocates [] ([[0, 0, 0, 1, 7, 0, 0], [0, 2, 8, 9]].take count) =
        (done.map sized, rest) ∧
      ([[0, 0, 0, 1, 7, 0, 0], [0, 2, 8, 9]].take count).flatten = done.flatMap frame ++ rest ∧
      (∀ next ∈ left.head?, rest <+: frame next ∧ rest ≠ frame next) ∧
      (left = [] → rest = [])) ∧
    receive allocates [] [[0, 0, 0, 1, 7, 0, 0], [0, 2, 8, 9]] =
      ([[7], [8, 9]].map sized, []) :=
  framing_survives_chunking [(.buffer, [7]), (.evbuffer, [8, 9])] (by decide) _ (by decide)

end Rteipc
