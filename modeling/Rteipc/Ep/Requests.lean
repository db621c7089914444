import Rteipc.Connect.Send
import Rteipc.Ep.Batch

namespace Rteipc

/-! Requests for the I2C and SPI endpoints, from the functions that build them to
the transfers they lead to. -/

open Data

/-! ## One message -/

section Single

variable {Device Transfer : Type}
  {run : BusState Device Transfer → List UInt8 → Option Pointers × BusState Device Transfer}
  {assigns : List UInt8 → Prop} {allocates : Nat → List UInt8 → Prop} {initial : Pointers} {malloc : Nat → Bool}
  {st : BusState Device Transfer} {msg : List UInt8}

/-- `rteipc_msg_drain` takes the message off an input. -/
structure Received (malloc : Nat → Bool) (msg : List UInt8) : Prop where
  nonempty : msg ≠ []
  fits : msg.length < 4294967296
  allocated : malloc msg.length = true

/-- What is seen of an endpoint from outside. -/
def BusState.seen (st : BusState Device Transfer) : Device × List Transfer × Option Evbuffer :=
  (st.device, st.transfers, st.bev)

/-- The state a message is handled in: the message itself is allocated. -/
def BusState.holding (st : BusState Device Transfer) : BusState Device Transfer :=
  { st with heap := st.heap.alloc () }

/-- A message on its own does what one pass does, and nothing remains in the input. -/
theorem BusLaws.single (laws : BusLaws run assigns allocates) (null : initial.Null) (received : Received malloc msg)
    (st : BusState Device Transfer) :
    ∃ after, busOnData run initial malloc (frame msg) st = .ok (after, []) ∧
      after.seen = (run st.holding msg).2.seen := by
  have ready : initial.Null ∨ assigns msg := .inl null
  obtain ⟨next, alone, after, passed, -⟩ := laws.pass st null ready
  have whole := drain_whole received.fits received.nonempty received.allocated []
  rw [List.append_nil] at whole
  have looped : busOnData run initial malloc (frame msg) st = .ok (after, []) := by
    rw [busOnData, busLoop, whole]
    simp only [passed, bind, Except.bind, busLoop_nil]
  refine ⟨after, looped, ?_⟩
  simp only [busOnMsg] at passed
  split at passed
  next => cases passed
  next =>
    cases passed
    rfl

end Single

/-- A 16-bit field of a message. -/
def shortAt (msg : List UInt8) (offset : Nat) : Nat := (msg.getD offset 0).toNat + 256 * (msg.getD (offset + 1) 0).toNat

theorem shortBytes_value (value : BitVec 16) :
    (UInt8.ofNat value.toNat).toNat + 256 * (UInt8.ofNat (value.toNat / 256)).toNat = value.toNat := by
  have wide := value.isLt
  simp only [UInt8.toNat_ofNat']
  omega

/-! ## I2C -/

section I2c

/-- The messages that lead to a transfer, and what is made of their fields. -/
theorem i2cRequest_eq (msg : List UInt8) :
    i2cRequest msg =
      if msg.length = 6 + shortAt msg 2 ∧ ¬(shortAt msg 2 = 0 ∧ shortAt msg 4 = 0) then
        some (shortAt msg 0, msg.drop 6, shortAt msg 4)
      else none := by
  match msg with
  | [] | [_] | [_, _] | [_, _, _] | [_, _, _, _] | [_, _, _, _, _] =>
      rw [if_neg]
      · rfl
      · rintro ⟨length, -⟩
        simp only [List.length_cons, List.length_nil] at length
        omega
  | _ :: _ :: _ :: _ :: _ :: _ :: pos =>
      simp only [i2cRequest, shortAt, List.getD_cons_zero, List.getD_cons_succ, List.length_cons, List.drop_succ_cons,
        List.drop_zero, Bool.or_eq_true, Bool.and_eq_true, decide_eq_true_eq]
      split <;> split <;> first | rfl | omega

/-- One segment to write if there are bytes, then one to read if any are asked for. -/
def i2cSegments (addr : Nat) (tx : List UInt8) (rlen : Nat) : List I2cMsg :=
  (if tx.length = 0 then [] else [.write addr tx]) ++ if rlen = 0 then [] else [.read addr rlen]

variable {Device : Type} {env : BusEnv Device (List I2cMsg) (Nat → UInt8)} {st after : BusState Device (List I2cMsg)}

/-- One ioctl is made; if it succeeds, the bytes that were read are sent back. -/
structure I2cIssued (env : BusEnv Device (List I2cMsg) (Nat → UInt8)) (st after : BusState Device (List I2cMsg))
    (addr : Nat) (tx : List UInt8) (rlen : Nat) : Prop where
  transfers : after.transfers = st.transfers ++ [i2cSegments addr tx rlen]
  device : after.device = (env.ioctl st.device (i2cSegments addr tx rlen)).1
  reply : after.bev =
    match (env.ioctl st.device (i2cSegments addr tx rlen)).2 with
    | none => st.bev
    | some rx => if rlen = 0 then st.bev else st.bev.map fun out => rteipcBuffer out ((List.range rlen).map rx)

theorem i2cTransfer_issued (addr : Nat) (tx : List UInt8) (rlen : Nat) :
    I2cIssued env st (i2cTransfer env st addr tx rlen) addr tx rlen := by
  have empty : (tx = []) = (tx.length = 0) := propext List.length_eq_zero_iff.symm
  have segments : (if tx = [] then [] else [I2cMsg.write addr tx]) ++ (if rlen = 0 then [] else [.read addr rlen]) =
      i2cSegments addr tx rlen := by
    simp only [empty, i2cSegments]
  unfold i2cTransfer
  simp only [segments]
  cases answer : (env.ioctl st.device (i2cSegments addr tx rlen)).2 with
  | none => exact ⟨rfl, rfl, by rw [answer]⟩
  | some rx =>
      refine ⟨rfl, rfl, ?_⟩
      rw [answer]
      by_cases silent : rlen = 0
      · by_cases nothing : tx.length = 0
        · simp [i2cSegments, silent, nothing]
        · simp [i2cSegments, silent, nothing, i2cReply]
      · by_cases nothing : tx.length = 0
        · simp [i2cSegments, silent, nothing, i2cReply]
        · simp [i2cSegments, silent, nothing, i2cReply]

/-- A transfer needs a request and, to read, a buffer. -/
def I2cAccepted (env : BusEnv Device (List I2cMsg) (Nat → UInt8)) (st : BusState Device (List I2cMsg))
    (msg : List UInt8) : Prop :=
  (msg.length = 6 + shortAt msg 2 ∧ ¬(shortAt msg 2 = 0 ∧ shortAt msg 4 = 0)) ∧
    (shortAt msg 4 ≠ 0 → env.rxBuf st.handled = true)

theorem i2cRun_seen (env : BusEnv Device (List I2cMsg) (Nat → UInt8)) (st : BusState Device (List I2cMsg))
    (msg : List UInt8) :
    (I2cAccepted env st msg → I2cIssued env st (i2cRun env st msg).2 (shortAt msg 0) (msg.drop 6) (shortAt msg 4)) ∧
      (¬I2cAccepted env st msg → (i2cRun env st msg).2.seen = st.seen) := by
  unfold i2cRun I2cAccepted
  rw [i2cRequest_eq]
  by_cases request : msg.length = 6 + shortAt msg 2 ∧ ¬(shortAt msg 2 = 0 ∧ shortAt msg 4 = 0)
  · simp only [if_pos request]
    by_cases silent : shortAt msg 4 = 0
    · simp only [if_pos silent]
      exact ⟨fun _ => i2cTransfer_issued _ _ _, fun refused => (refused ⟨request, fun reads => (reads silent).elim⟩).elim⟩
    · simp only [if_neg silent]
      cases room : env.rxBuf st.handled with
      | true =>
          refine ⟨fun _ => ?_, fun refused => (refused ⟨request, fun _ => rfl⟩).elim⟩
          have issued : I2cIssued env (st.malloc true).2 _ _ _ _ :=
            i2cTransfer_issued (shortAt msg 0) (msg.drop 6) (shortAt msg 4)
          exact ⟨issued.transfers, issued.device, issued.reply⟩
      | false => exact ⟨fun accepted => (nomatch accepted.2 silent), fun _ => rfl⟩
  · simp only [if_neg request]
    exact ⟨fun accepted => (request accepted.1).elim, fun _ => trivial⟩

theorem I2cIssued.of_seen {ran : BusState Device (List I2cMsg)} {addr rlen : Nat} {tx : List UInt8}
    (issued : I2cIssued env st ran addr tx rlen) (same : after.seen = ran.seen) : I2cIssued env st after addr tx rlen := by
  obtain ⟨device, rest⟩ := Prod.mk.inj same
  obtain ⟨transfers, bev⟩ := Prod.mk.inj rest
  exact ⟨transfers.trans issued.transfers, device.trans issued.device, bev.trans issued.reply⟩

theorem i2cOnData_single (st : BusState Device (List I2cMsg)) {msg : List UInt8} (received : Received env.malloc msg) :
    ∃ after, i2cOnData env (frame msg) st = .ok (after, []) ∧
      (I2cAccepted env st msg → I2cIssued env st after (shortAt msg 0) (msg.drop 6) (shortAt msg 4)) ∧
        (¬I2cAccepted env st msg → after.seen = st.seen) := by
  have null : Pointers.Null [none] := by simp [Pointers.Null]
  obtain ⟨after, handled, same⟩ := (i2cRun_laws env).single null received st
  obtain ⟨issued, refused⟩ := i2cRun_seen env st.holding msg
  refine ⟨after, handled, fun accepted => ?_, fun not => same.trans (refused not)⟩
  have made := issued accepted
  exact I2cIssued.of_seen ⟨made.transfers, made.device, made.reply⟩ same

theorem i2cMessage_fields (addr wlen rlen : BitVec 16) (data : List UInt8) :
    shortAt (shortBytes addr ++ shortBytes wlen ++ shortBytes rlen ++ data) 0 = addr.toNat ∧
      shortAt (shortBytes addr ++ shortBytes wlen ++ shortBytes rlen ++ data) 2 = wlen.toNat ∧
        shortAt (shortBytes addr ++ shortBytes wlen ++ shortBytes rlen ++ data) 4 = rlen.toNat :=
  ⟨shortBytes_value addr, shortBytes_value wlen, shortBytes_value rlen⟩

/-- A message that was built of a request leads to the transfer it asks for. -/
theorem i2cOnData_request (st : BusState Device (List I2cMsg)) {addr wlen rlen : BitVec 16} {data : List UInt8}
    (size : data.length = wlen.toNat) (given : ¬(wlen = 0 ∧ rlen = 0))
    (allocated : env.malloc (shortBytes addr ++ shortBytes wlen ++ shortBytes rlen ++ data).length = true)
    (room : rlen ≠ 0 → env.rxBuf st.handled = true) :
    ∃ after, i2cOnData env (frame (shortBytes addr ++ shortBytes wlen ++ shortBytes rlen ++ data)) st = .ok (after, []) ∧
      I2cIssued env st after addr.toNat data rlen.toNat := by
  obtain ⟨address, written, read⟩ := i2cMessage_fields addr wlen rlen data
  have length : (shortBytes addr ++ shortBytes wlen ++ shortBytes rlen ++ data).length = 6 + data.length := by
    simp only [shortBytes, List.length_append, List.length_cons, List.length_nil]
  have wide := wlen.isLt
  have received : Received env.malloc (shortBytes addr ++ shortBytes wlen ++ shortBytes rlen ++ data) :=
    ⟨nofun, by omega, allocated⟩
  obtain ⟨after, handled, issued, -⟩ := i2cOnData_single st received
  rw [address, read] at issued
  refine ⟨after, handled, issued ⟨⟨?_, ?_⟩, ?_⟩⟩
  · rw [length, written, size]
  · rw [written, read]
    exact fun zeros => given ⟨BitVec.eq_of_toNat_eq zeros.1, BitVec.eq_of_toNat_eq zeros.2⟩
  · rw [read]
    exact fun reads => room fun zero => reads (congrArg BitVec.toNat zero)

theorem i2cOnData_transfers_iff (st : BusState Device (List I2cMsg)) {msg : List UInt8}
    (received : Received env.malloc msg) :
    ∃ after, i2cOnData env (frame msg) st = .ok (after, []) ∧
      (after.transfers ≠ st.transfers ↔ I2cAccepted env st msg) := by
  obtain ⟨after, handled, issued, refused⟩ := i2cOnData_single st received
  refine ⟨after, handled, fun changed => ?_, fun accepted same => ?_⟩
  · by_contra rejected
    have unseen := refused rejected
    exact changed (congrArg (fun seen => seen.2.1) unseen)
  · rw [(issued accepted).transfers] at same
    simp at same

/-- Both functions build the same message of a request, and the endpoint makes
the one transfer it asks for and sends back what was read. Of all messages,
those lead to a transfer whose length fits their second field and whose second
and third fields are not both zero, where a buffer to read into is found. -/
theorem i2c_codec (ReadCb ErrCb Arg Table Cb LoopArg : Type) (env : BusEnv Device (List I2cMsg) (Nat → UInt8))
    (st : BusState Device (List I2cMsg)) :
    (∀ (addr wlen rlen : BitVec 16) (data : List UInt8), data.length = wlen.toNat → ¬(wlen = 0 ∧ rlen = 0) →
      ∃ msg,
        BuildsMessage ReadCb ErrCb Arg Table Cb LoopArg (fun conn id => rteipcI2cSend conn id addr data wlen rlen)
          (fun ep name => rteipcI2cXfer ep name addr data wlen rlen) msg ∧
        (env.malloc msg.length = true → (rlen ≠ 0 → env.rxBuf st.handled = true) →
          ∃ after, i2cOnData env (frame msg) st = .ok (after, []) ∧
            I2cIssued env st after addr.toNat data rlen.toNat)) ∧
    ∀ msg, Received env.malloc msg → ∃ after, i2cOnData env (frame msg) st = .ok (after, []) ∧
      (after.transfers ≠ st.transfers ↔
        (msg.length = 6 + shortAt msg 2 ∧ ¬(shortAt msg 2 = 0 ∧ shortAt msg 4 = 0)) ∧
          (shortAt msg 4 ≠ 0 → env.rxBuf st.handled = true)) := by
  constructor
  · intro addr wlen rlen data size given
    refine ⟨shortBytes addr ++ shortBytes wlen ++ shortBytes rlen ++ data, ⟨fun _ _ => ?_, fun _ _ => ?_⟩, ?_⟩
    · simp only [rteipcI2cSend, ← size, List.take_length]
    · simp only [rteipcI2cXfer, ← size, List.take_length]
    · exact i2cOnData_request st size given
  · exact fun msg received => i2cOnData_transfers_iff st received

end I2c

/-- A device that takes every transfer and answers with zeros. -/
def silentDevice (Transfer Answer : Type) (zeros : Answer) : BusEnv Unit Transfer Answer where
  malloc _ := true
  rxBuf _ := true
  xfer _ := true
  ioctl _ _ := ((), some zeros)

/-- A register is selected and two bytes are read. -/
theorem i2c_codec_register : ∃ msg after,
    i2cOnData (silentDevice (List I2cMsg) (Nat → UInt8) fun _ => 0) (frame msg) ⟨(), [], some [], .empty, 0⟩ =
        .ok (after, []) ∧
      I2cIssued (silentDevice (List I2cMsg) (Nat → UInt8) fun _ => 0) ⟨(), [], some [], .empty, 0⟩ after 80 [7] 2 := by
  obtain ⟨msg, -, handled⟩ := (i2c_codec Unit Unit Unit Unit Unit Unit
    (silentDevice (List I2cMsg) (Nat → UInt8) fun _ => 0) ⟨(), [], some [], .empty, 0⟩).1 80 1 2 [7] rfl (by decide)
  obtain ⟨after, handled, issued⟩ := handled rfl fun _ => rfl
  exact ⟨msg, after, handled, issued⟩

/-! ## SPI -/

section Spi

/-- The messages that are requests, and what is made of their fields. -/
theorem spidevRequest_eq (msg : List UInt8) :
    spidevRequest msg = if msg.length = 3 + shortAt msg 0 then some (msg.getD 2 0, msg.drop 3) else none := by
  match msg with
  | [] | [_] | [_, _] =>
      rw [if_neg]
      · rfl
      · simp only [List.length_cons, List.length_nil]
        omega
  | _ :: _ :: _ :: pos =>
      simp only [spidevRequest, shortAt, List.getD_cons_zero, List.getD_cons_succ, List.length_cons, List.drop_succ_cons,
        List.drop_zero]
      split <;> split <;> first | rfl | omega

variable {Device : Type} {env : BusEnv Device UInt8 UInt8} {st after : BusState Device UInt8}

/-- Bytes that are transferred one by one without a failure, and what comes back for them. -/
def BusEnv.exchange (env : BusEnv Device UInt8 UInt8) : Device → List UInt8 → Option (Device × List UInt8)
  | device, [] => some (device, [])
  | device, tx :: rest =>
      match env.ioctl device tx with
      | (_, none) => none
      | (next, some rx) => (env.exchange next rest).map fun done => (done.1, rx :: done.2)

theorem exchange_cons_some {device last : Device} {tx : UInt8} {rest rx : List UInt8}
    (exchanged : env.exchange device (tx :: rest) = some (last, rx)) :
    ∃ next first later, env.ioctl device tx = (next, some first) ∧ env.exchange next rest = some (last, later) ∧
      rx = first :: later := by
  rw [BusEnv.exchange] at exchanged
  split at exchanged
  · nomatch exchanged
  next next first answered =>
    obtain ⟨done, following, same⟩ := Option.map_eq_some_iff.mp exchanged
    cases same
    exact ⟨next, first, done.2, answered, following, rfl⟩

theorem exchange_length {device last : Device} {tx rx : List UInt8}
    (exchanged : env.exchange device tx = some (last, rx)) : rx.length = tx.length := by
  induction tx generalizing device rx with
  | nil =>
      cases exchanged
      rfl
  | cons byte rest ih =>
      obtain ⟨next, first, later, -, following, rfl⟩ := exchange_cons_some exchanged
      rw [List.length_cons, List.length_cons, ih following]

theorem spidevTransfers_all {last : Device} {tx rx : List UInt8} (exchanged : env.exchange st.device tx = some (last, rx)) :
    spidevTransfers env st tx = ({ st with device := last, transfers := st.transfers ++ tx }, some rx) := by
  induction tx generalizing st rx with
  | nil =>
      cases exchanged
      rw [spidevTransfers, List.append_nil]
  | cons byte rest ih =>
      obtain ⟨next, first, later, answered, following, rfl⟩ := exchange_cons_some exchanged
      have rest := @ih { st with device := next, transfers := st.transfers ++ [byte] } later following
      rw [spidevTransfers, answered]
      simp only [rest, List.append_assoc, List.singleton_append, Option.map_some]

/-- With a failure the bytes before it are transferred and it is the last transfer that is tried. -/
theorem spidevTransfers_fails {middle last : Device} {front rest rx : List UInt8} {byte : UInt8}
    (exchanged : env.exchange st.device front = some (middle, rx)) (failed : env.ioctl middle byte = (last, none)) :
    spidevTransfers env st (front ++ byte :: rest) =
      ({ st with device := last, transfers := st.transfers ++ front ++ [byte] }, none) := by
  induction front generalizing st rx with
  | nil =>
      cases exchanged
      rw [List.nil_append, spidevTransfers, failed, List.append_nil]
  | cons first front ih =>
      obtain ⟨next, answer, later, answered, following, rfl⟩ := exchange_cons_some exchanged
      have later := @ih { st with device := next, transfers := st.transfers ++ [first] } later following
      rw [List.cons_append, spidevTransfers, answered]
      simp only [later, List.append_assoc, List.cons_append, List.nil_append, Option.map_none]

theorem spidevTransfers_tries (st : BusState Device UInt8) {tx : List UInt8} (given : tx ≠ []) :
    ∃ first later, (spidevTransfers env st tx).1.transfers = st.transfers ++ first :: later := by
  induction tx generalizing st with
  | nil => exact (given rfl).elim
  | cons byte rest ih =>
      rw [spidevTransfers]
      dsimp only
      cases (env.ioctl st.device byte).2 with
      | none => exact ⟨byte, [], rfl⟩
      | some rx =>
          dsimp only
          by_cases more : rest = []
          · subst more
            exact ⟨byte, [], rfl⟩
          · obtain ⟨second, later, tried⟩ :=
              ih { st with device := (env.ioctl st.device byte).1, transfers := st.transfers ++ [byte] } more
            exact ⟨byte, second :: later, by rw [tried, List.append_assoc, List.singleton_append]⟩

/-- Transfers need a request and the two buffers. -/
def SpiAccepted (env : BusEnv Device UInt8 UInt8) (st : BusState Device UInt8) (msg : List UInt8) : Prop :=
  msg.length = 3 + shortAt msg 0 ∧ env.rxBuf st.handled = true ∧ env.xfer st.handled = true

/-- `spidev_on_data` makes the transfers for a message it receives and, if they
all succeed and the flag is set, sends back what came in. -/
theorem spidevOnData_single (st : BusState Device UInt8) {msg : List UInt8} (received : Received env.malloc msg) :
    ∃ after, spidevOnData env (frame msg) st = .ok (after, []) ∧
      (SpiAccepted env st msg → ∃ heap,
        after.seen = (spidevReply env { st with heap } (msg.getD 2 0) (msg.drop 3)).seen) ∧
        (¬SpiAccepted env st msg → after.seen = st.seen) := by
  have null : Pointers.Null [none, none] := by simp [Pointers.Null]
  obtain ⟨after, handled, same⟩ := (spidevRun_laws env).single null received st
  refine ⟨after, handled, fun accepted => ?_, fun refused => same.trans ?_⟩
  · obtain ⟨length, rxBuf, xfer⟩ := accepted
    have bothFound : env.rxBuf st.holding.handled = true ∧ env.xfer (st.holding.malloc true).2.handled = true :=
      ⟨rxBuf, xfer⟩
    refine ⟨((st.heap.alloc ()).alloc ()).alloc (), same.trans ?_⟩
    simp only [spidevRun, spidevRequest_eq, if_pos length, bothFound]
    rfl
  · by_cases request : msg.length = 3 + shortAt msg 0
    · have full : env.rxBuf st.handled = false ∨ env.xfer st.handled = false := by
        cases rxBuf : env.rxBuf st.handled with
        | false => exact .inl rfl
        | true => exact .inr (Bool.eq_false_of_not_eq_true fun xfer => refused ⟨request, rxBuf, xfer⟩)
      have sameRx : env.rxBuf st.holding.handled = env.rxBuf st.handled := rfl
      have sameXfer (found : Bool) : env.xfer (st.holding.malloc found).2.handled = env.xfer st.handled := by
        cases found <;> rfl
      simp only [spidevRun, spidevRequest_eq, if_pos request, sameRx, sameXfer]
      obtain noRx | noXfer := full
      · rw [noRx]
        cases env.xfer st.handled <;> rfl
      · rw [noXfer]
        cases env.rxBuf st.handled <;> rfl
    · simp only [spidevRun, spidevRequest_eq, if_neg request]
      rfl

theorem spidevReply_all {last : Device} {rdflag : UInt8} {tx rx : List UInt8}
    (exchanged : env.exchange st.device tx = some (last, rx)) :
    (spidevReply env st rdflag tx).seen =
      (last, st.transfers ++ tx, if rdflag ≠ 0 then st.bev.map fun out => rteipcBuffer out rx else st.bev) := by
  rw [spidevReply, spidevTransfers_all exchanged]
  dsimp only
  split <;> rfl

theorem spidevReply_fails {middle last : Device} {rdflag byte : UInt8} {front rest rx : List UInt8}
    (exchanged : env.exchange st.device front = some (middle, rx)) (failed : env.ioctl middle byte = (last, none)) :
    (spidevReply env st rdflag (front ++ byte :: rest)).seen = (last, st.transfers ++ front ++ [byte], st.bev) := by
  rw [spidevReply, spidevTransfers_fails exchanged failed]
  rfl

theorem spidevReply_transfers (rdflag : UInt8) (tx : List UInt8) :
    (spidevReply env st rdflag tx).transfers = (spidevTransfers env st tx).1.transfers := by
  unfold spidevReply
  cases transferred : spidevTransfers env st tx with
  | mk ran rx =>
      cases rx with
      | none => rfl
      | some rx =>
          dsimp only
          split <;> rfl

theorem spidevReply_transfers_iff (rdflag : UInt8) (tx : List UInt8) :
    (spidevReply env st rdflag tx).transfers ≠ st.transfers ↔ tx ≠ [] := by
  rw [spidevReply_transfers]
  constructor
  · intro changed none
    rw [none] at changed
    exact changed rfl
  · intro given same
    obtain ⟨first, later, tried⟩ := @spidevTransfers_tries _ env st _ given
    rw [tried] at same
    simp at same

theorem spiMessage_fields (len : BitVec 16) (rdflag : UInt8) (data : List UInt8) :
    shortAt (shortBytes len ++ [rdflag] ++ data) 0 = len.toNat ∧
      (shortBytes len ++ [rdflag] ++ data).getD 2 0 = rdflag ∧ (shortBytes len ++ [rdflag] ++ data).drop 3 = data :=
  ⟨shortBytes_value len, rfl, rfl⟩

/-- A message that was built of a request transfers its bytes. -/
theorem spidevOnData_request (st : BusState Device UInt8) {data : List UInt8} {len : BitVec 16} {rdmode : Bool}
    (size : data.length = len.toNat) {last : Device} {rx : List UInt8}
    (allocated : env.malloc (shortBytes len ++ [if rdmode then 1 else 0] ++ data).length = true)
    (rxBuf : env.rxBuf st.handled = true) (xfer : env.xfer st.handled = true)
    (exchanged : env.exchange st.device data = some (last, rx)) :
    ∃ after, spidevOnData env (frame (shortBytes len ++ [if rdmode then 1 else 0] ++ data)) st = .ok (after, []) ∧
      after.transfers = st.transfers ++ data ∧ rx.length = data.length ∧
        after.bev = if rdmode then st.bev.map fun out => rteipcBuffer out rx else st.bev := by
  obtain ⟨length, flag, bytes⟩ := spiMessage_fields len (if rdmode then 1 else 0) data
  have whole : (shortBytes len ++ [if rdmode then 1 else 0] ++ data).length = 3 + data.length := by
    simp only [shortBytes, List.length_append, List.length_cons, List.length_nil]
  have wide := len.isLt
  have received : Received env.malloc (shortBytes len ++ [if rdmode then 1 else 0] ++ data) :=
    ⟨nofun, by omega, allocated⟩
  obtain ⟨after, handled, accepted, -⟩ := spidevOnData_single st received
  obtain ⟨heap, seen⟩ := accepted ⟨by rw [whole, length, size], rxBuf, xfer⟩
  rw [flag, bytes] at seen
  have all := @spidevReply_all _ _ { st with heap } _ (if rdmode then 1 else 0) _ _ exchanged
  have replied := seen.trans all
  obtain ⟨-, rest⟩ := Prod.mk.inj replied
  obtain ⟨transfers, bev⟩ := Prod.mk.inj rest
  refine ⟨after, handled, transfers, exchange_length exchanged, bev.trans ?_⟩
  cases rdmode <;> rfl

/-- Both functions build the same message of a request, and the endpoint
transfers its bytes one by one and sends back what came in for them if it is to
be read. Of all messages, those lead to transfers that have as many bytes as
their first field says, where the buffers are found; a transfer that fails is
the last one, and nothing is sent back. -/
theorem spi_codec (ReadCb ErrCb Arg Table Cb LoopArg : Type) (env : BusEnv Device UInt8 UInt8)
    (st : BusState Device UInt8) :
    (∀ (data : List UInt8) (len : BitVec 16) (rdmode : Bool), data.length = len.toNat →
      ∃ msg,
        BuildsMessage ReadCb ErrCb Arg Table Cb LoopArg (fun conn id => rteipcSpiSend conn id data len rdmode)
          (fun ep name => rteipcSpiXfer ep name data len rdmode) msg ∧
        ∀ last rx, env.malloc msg.length = true → env.rxBuf st.handled = true → env.xfer st.handled = true →
          env.exchange st.device data = some (last, rx) →
            ∃ after, spidevOnData env (frame msg) st = .ok (after, []) ∧ after.transfers = st.transfers ++ data ∧
              rx.length = data.length ∧
                after.bev = if rdmode then st.bev.map fun out => rteipcBuffer out rx else st.bev) ∧
    ∀ msg, Received env.malloc msg → ∃ after, spidevOnData env (frame msg) st = .ok (after, []) ∧
      (after.transfers ≠ st.transfers ↔
        (msg.length = 3 + shortAt msg 0 ∧ env.rxBuf st.handled = true ∧ env.xfer st.handled = true) ∧
          shortAt msg 0 ≠ 0) ∧
      ∀ front byte rest middle rx last, SpiAccepted env st msg → msg.drop 3 = front ++ byte :: rest →
        env.exchange st.device front = some (middle, rx) → env.ioctl middle byte = (last, none) →
          after.transfers = st.transfers ++ front ++ [byte] ∧ after.bev = st.bev := by
  constructor
  · intro data len rdmode size
    refine ⟨shortBytes len ++ [if rdmode then 1 else 0] ++ data, ⟨fun _ _ => ?_, fun _ _ => ?_⟩, ?_⟩
    · simp only [rteipcSpiSend, ← size, List.take_length]
    · simp only [rteipcSpiXfer, ← size, List.take_length]
    · exact fun last rx allocated rxBuf xfer exchanged =>
        spidevOnData_request st size allocated rxBuf xfer exchanged
  · intro msg received
    obtain ⟨after, handled, accepted, refused⟩ := spidevOnData_single st received
    refine ⟨after, handled, ?_, ?_⟩
    · by_cases request : SpiAccepted env st msg
      · obtain ⟨heap, seen⟩ := accepted request
        have tried : after.transfers ≠ st.transfers ↔ msg.drop 3 ≠ [] := by
          have transfers : after.transfers = _ := congrArg (fun seen => seen.2.1) seen
          rw [transfers]
          exact @spidevReply_transfers_iff _ env { st with heap } _ _
        have given : msg.drop 3 ≠ [] ↔ shortAt msg 0 ≠ 0 := by
          have length := request.1
          rw [ne_eq, List.drop_eq_nil_iff]
          omega
        rw [tried, given]
        exact (and_iff_right request).symm
      · refine iff_of_false (fun changed => ?_) fun tried => request tried.1
        exact changed (congrArg (fun seen => seen.2.1) (refused request))
    · intro front byte rest middle rx last request split exchanged failed
      obtain ⟨heap, seen⟩ := accepted request
      rw [split] at seen
      have fails := @spidevReply_fails _ _ { st with heap } _ _ (msg.getD 2 0) _ _ rest _ exchanged failed
      have ended := seen.trans fails
      obtain ⟨-, others⟩ := Prod.mk.inj ended
      exact Prod.mk.inj others

end Spi

/-- Three bytes are written, and zeros are read for them. -/
theorem spi_codec_three : ∃ msg after,
    spidevOnData (silentDevice UInt8 UInt8 0) (frame msg) ⟨(), [], some [], .empty, 0⟩ = .ok (after, []) ∧
      after.transfers = [1, 2, 3] ∧ after.bev = some (rteipcBuffer [] [0, 0, 0]) := by
  obtain ⟨msg, -, handled⟩ := (spi_codec Unit Unit Unit Unit Unit Unit (silentDevice UInt8 UInt8 0)
    ⟨(), [], some [], .empty, 0⟩).1 [1, 2, 3] 3 true rfl
  obtain ⟨after, handled, transfers, -, bev⟩ := handled () [0, 0, 0] rfl rfl rfl rfl
  exact ⟨msg, after, handled, transfers, bev⟩

/-- A request without bytes is accepted, and no transfer is tried for it. -/
theorem spi_empty_untried : ¬ ∀ (env : BusEnv Unit UInt8 UInt8) (st : BusState Unit UInt8) (msg : List UInt8),
    Received env.malloc msg → ∃ after, spidevOnData env (frame msg) st = .ok (after, []) ∧
      (after.transfers ≠ st.transfers ↔ msg.length = 3 + shortAt msg 0) := by
  intro tried
  obtain ⟨after, handled, transfers⟩ :=
    tried (silentDevice UInt8 UInt8 0) ⟨(), [], some [], .empty, 0⟩ [0, 0, 0] ⟨nofun, by decide, rfl⟩
  have ran : (spidevOnData (silentDevice UInt8 UInt8 0) (frame [0, 0, 0]) ⟨(), [], some [], .empty, 0⟩).toOption.map
      (fun done => done.1.transfers) = some [] := by decide +kernel
  rw [handled] at ran
  exact transfers.mpr rfl (Option.some.inj ran)

end Rteipc
