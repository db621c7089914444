import Rteipc.Ep.Bridge
import Rteipc.Ep.Requests

namespace Rteipc

/-! What clients of I2C and SPI endpoints are served. -/

open Data

section Bus

variable {Device Transfer : Type} (run : BusState Device Transfer → List UInt8 → Option Pointers × BusState Device Transfer)
  (initial : Pointers) (malloc : Nat → Bool)

/-- Nothing comes from the device by itself. -/
def busBackend : Backend (BusState Device Transfer) Empty where
  onData := busOnData run initial malloc
  listens _ := false
  upstream event _ := event.elim
  bev := BusState.bev
  setBev st bev := { st with bev }

/-- The device, the transfers made, and the number of messages handled. -/
structure BusDevice (Device Transfer : Type) where
  device : Device
  transfers : List Transfer
  handled : Nat

def BusState.shown (st : BusState Device Transfer) : BusDevice Device Transfer := ⟨st.device, st.transfers, st.handled⟩

/-- Another message has been handled. -/
def BusState.counted (st : BusState Device Transfer) : BusState Device Transfer := { st with handled := st.handled + 1 }

/-- A pass of the loop is what the server does with the message. -/
structure BusServes (server : Server (BusDevice Device Transfer) (Nat × List UInt8) Empty) (Good : Nat × List UInt8 → Prop) :
    Prop where
  pass : ∀ st out msg, Good msg → st.bev = some out →
    (run st msg.2).2.counted.shown = (server.serve st.shown msg).1 ∧
      (run st msg.2).2.bev = some (out ++ msgFormat.encodeAll (server.serve st.shown msg).2)
  answers : ∀ dev msg, Good msg → ∀ reply ∈ (server.serve dev msg).2, msgFormat.Valid reply

/-- One pass in the loop, with the variables it leaves. -/
def busPass (st : Pointers × BusState Device Transfer) (_ : Nat) (msg : List UInt8) :
    Except Fault (Pointers × BusState Device Transfer) := busOnMsg run st.1 st.2 msg

variable {run} {initial} {malloc} {assigns : List UInt8 → Prop} {allocates : Nat → List UInt8 → Prop}
  {server : Server (BusDevice Device Transfer) (Nat × List UInt8) Empty} {Good : Nat × List UInt8 → Prop}

theorem busLoop_law :
    DrainLoop malloc (busPass run) Prod.snd fun fuel buf st => busLoop run malloc fuel st.1 buf st.2 where
  zero _ _ := rfl
  stop fuel buf st nothing := by
    rw [busLoop]
    cases drained : rteipcMsgDrain malloc buf with
    | mk result rest =>
        cases result with
        | message size msg => exact (nothing size msg (by rw [drained])).elim
        | empty => simp [rteipcMsgDrain_kept drained rfl]
        | failed => simp [rteipcMsgDrain_kept drained rfl]
  next fuel buf st size msg rest drained := by
    rw [busLoop, drained]
    rfl

theorem handleMsgs_busPass (pointers : Pointers) (st : BusState Device Transfer) (msgs : List (Nat × List UInt8)) :
    (handleMsgs (busPass run) (pointers, st) msgs).map Prod.snd = handleAll run pointers st (msgs.map Prod.snd) := by
  induction msgs generalizing pointers st with
  | nil => rfl
  | cons msg rest ih =>
      simp only [handleMsgs, busPass, List.map_cons, handleAll]
      cases busOnMsg run pointers st msg.2 with
      | error fault => rfl
      | ok passed => exact ih passed.1 passed.2

theorem BusServes.passed (serves : BusServes run server Good) {pointers next : Pointers} {msg : Nat × List UInt8}
    {st after : BusState Device Transfer} {out : Evbuffer} (good : Good msg) (sent : st.bev = some out)
    (handled : busOnMsg run pointers st msg.2 = .ok (next, after)) :
    after.shown = (server.serve st.shown msg).1 ∧
      after.bev = some (out ++ msgFormat.encodeAll (server.serve st.shown msg).2) := by
  have ran := serves.pass st.holding out msg good sent
  simp only [busOnMsg] at handled
  split at handled
  · cases handled
  · cases handled
    exact ran

theorem BusServes.each (serves : BusServes run server Good) {msgs : List (Nat × List UInt8)}
    (good : ∀ msg ∈ msgs, Good msg) {st after : BusState Device Transfer} {out : Evbuffer} (sent : st.bev = some out)
    (handled : handleEach run initial st (msgs.map Prod.snd) = .ok after) :
    after.shown = (server.run st.shown (msgs.map .inl)).1 ∧
      after.bev = some (out ++ msgFormat.encodeAll (server.run st.shown (msgs.map .inl)).2) := by
  induction msgs generalizing st out with
  | nil =>
      cases handled
      exact ⟨rfl, by simpa using sent⟩
  | cons msg rest ih =>
      simp only [List.map_cons, handleEach] at handled
      obtain ⟨passed, first, following⟩ := bind_ok handled
      obtain ⟨shown, wrote⟩ := serves.passed (good msg List.mem_cons_self) sent first
      obtain ⟨later, wroteLater⟩ := ih (fun other member => good other (List.mem_cons_of_mem _ member)) wrote following
      rw [shown] at later wroteLater
      refine ⟨later, wroteLater.trans ?_⟩
      rw [List.append_assoc, ← FrameFormat.encodeAll_append]
      rfl

theorem BusServes.implements (serves : BusServes run server Good) (laws : BusLaws run assigns allocates)
    (null : initial.Null) (fetched : ∀ msg, Good msg → Fetched malloc msg) :
    (busBackend run initial malloc).code.Implements msgFormat server BusState.shown Good
      fun st msgs => Apart assigns allocates st.handled (msgs.map Prod.snd) where
  good msg good := (fetched msg good).1
  serves st out msgs next rest good goodNext waiting apart := by
    have separate : Apart assigns allocates { st with bev := some out }.handled (msgs.map Prod.snd) := apart
    obtain ⟨after, all, each, -⟩ := laws.handleAll_apart null (fun _ _ => .inl null) separate
    obtain ⟨shown, wrote⟩ := serves.each good rfl each
    have looped := (@busLoop_law _ _ run malloc).frames (fun msg member => fetched msg (good msg member))
      (fun msg member => (fetched msg (goodNext msg member)).1) waiting (Nat.le_of_lt (msgFormat_enough msgs rest))
      (initial, { st with bev := some out })
    refine ⟨after, shown, ?_⟩
    rw [← handleMsgs_busPass] at all
    obtain ⟨last, handled, rfl⟩ := map_ok all
    rw [handled] at looped
    simp only [Backend.code, busBackend, busOnData, looped, Except.map, wrote, Option.getD_some]
    rfl
  faults st out msgs next rest good goodNext waiting unready := by
    have looped := (@busLoop_law _ _ run malloc).frames (fun msg member => fetched msg (good msg member))
      (fun msg member => (fetched msg (goodNext msg member)).1) waiting (Nat.le_of_lt (msgFormat_enough msgs rest))
      (initial, { st with bev := some out })
    cases handled : handleMsgs (busPass run) (initial, { st with bev := some out }) msgs with
    | error fault =>
        rw [handled] at looped
        simp only [Backend.code, busBackend, busOnData, looped, Except.map]
    | ok last =>
        have all := @handleMsgs_busPass _ _ run initial { st with bev := some out } msgs
        rw [handled] at all
        have stale : initial.Stale { st with bev := some out }.heap := by
          intro pointer member
          cases null _ member
        have separate := laws.apart_of_ok stale all.symm
        exact (unready separate.2).elim
  notifies _ _ event := event.elim
  answers := serves.answers
  reports _ event := event.elim

end Bus

/-! ## I2C -/

section I2c

variable {Device : Type} (env : BusEnv Device (List I2cMsg) (Nat → UInt8))

/-- One transfer of a segment to write and one to read; what is read is the answer. -/
def i2cExchange (dev : BusDevice Device (List I2cMsg)) (addr : Nat) (tx : List UInt8) (rlen : Nat) :
    BusDevice Device (List I2cMsg) × List (Nat × List UInt8) :=
  let (device, answer) := env.ioctl dev.device (i2cSegments addr tx rlen)
  (⟨device, dev.transfers ++ [i2cSegments addr tx rlen], dev.handled + 1⟩,
    match answer with
    | none => []
    | some rx => if rlen = 0 then [] else [sized ((List.range rlen).map rx)])

/-- Every request is a transfer, unless there is no memory to read into. -/
def i2cServer : Server (BusDevice Device (List I2cMsg)) (Nat × List UInt8) Empty where
  serve dev msg :=
    match i2cRequest msg.2 with
    | none => ({ dev with handled := dev.handled + 1 }, [])
    | some (addr, tx, rlen) =>
        if rlen ≠ 0 ∧ env.rxBuf dev.handled = false then ({ dev with handled := dev.handled + 1 }, [])
        else i2cExchange env dev addr tx rlen
  notify _ event := event.elim

variable {env} in
theorem i2cTransfer_exchange {st : BusState Device (List I2cMsg)} {out : Evbuffer} (sent : st.bev = some out) (addr : Nat)
    (tx : List UInt8) (rlen : Nat) :
    (i2cTransfer env st addr tx rlen).counted.shown = (i2cExchange env st.shown addr tx rlen).1 ∧
      (i2cTransfer env st addr tx rlen).bev =
        some (out ++ msgFormat.encodeAll (i2cExchange env st.shown addr tx rlen).2) := by
  obtain ⟨transfers, device, reply⟩ := @i2cTransfer_issued _ env st addr tx rlen
  have handled := (@i2cTransfer_memory _ env st addr rlen tx).2
  have asked : env.ioctl st.shown.device (i2cSegments addr tx rlen) = env.ioctl st.device (i2cSegments addr tx rlen) := rfl
  constructor
  · simp only [BusState.shown, BusState.counted, transfers, device, handled]
    rfl
  · rw [reply, sent]
    simp only [i2cExchange, asked]
    cases (env.ioctl st.device (i2cSegments addr tx rlen)).2 with
    | none => simp
    | some rx =>
        by_cases silent : rlen = 0
        · simp [silent]
        · simp [silent, FrameFormat.encodeAll, msgFormat, sized]

theorem i2cExchange_valid (dev : BusDevice Device (List I2cMsg)) (addr : Nat) (tx : List UInt8) {rlen : Nat}
    (bound : rlen < 65536) : ∀ reply ∈ (i2cExchange env dev addr tx rlen).2, msgFormat.Valid reply := by
  intro reply member
  simp only [i2cExchange] at member
  split at member
  next => exact (List.not_mem_nil member).elim
  next rx answered =>
    split at member
    next => exact (List.not_mem_nil member).elim
    next reads =>
      rw [List.mem_singleton.mp member]
      have length : ((List.range rlen).map rx).length = rlen := by simp
      refine ⟨rfl, ?_, ?_⟩
      · rw [sized, length]
        omega
      · rw [sized, length]
        omega

theorem i2cRequest_rlen {msg : List UInt8} {addr rlen : Nat} {tx : List UInt8}
    (request : i2cRequest msg = some (addr, tx, rlen)) : rlen < 65536 := by
  rw [i2cRequest_eq] at request
  split at request
  · cases request
    have low := UInt8.toNat_lt (msg.getD 4 0)
    have high := UInt8.toNat_lt (msg.getD (4 + 1) 0)
    simp only [shortAt]
    omega
  · cases request

theorem i2c_serves : BusServes (i2cRun env) (i2cServer env) (Fetched env.malloc) where
  pass st out msg _ sent := by
    cases request : i2cRequest msg.2 with
    | none =>
        simp only [i2cRun, i2cServer, request]
        exact ⟨rfl, by simpa using sent⟩
    | some found =>
        obtain ⟨addr, tx, rlen⟩ := found
        by_cases silent : rlen = 0
        · have transferred := @i2cTransfer_exchange _ env st out sent addr tx rlen
          have allowed : ¬(rlen ≠ 0 ∧ env.rxBuf st.shown.handled = false) := fun failed => failed.1 silent
          simp only [i2cRun, i2cServer, request, if_pos silent, if_neg allowed]
          exact transferred
        · cases room : env.rxBuf st.handled with
          | true =>
              have wrote : (st.malloc true).2.bev = some out := sent
              have transferred := @i2cTransfer_exchange _ env _ _ wrote addr tx rlen
              have allowed : ¬(rlen ≠ 0 ∧ env.rxBuf st.shown.handled = false) := by
                intro failed
                have full : env.rxBuf st.handled = false := failed.2
                rw [room] at full
                cases full
              simp only [i2cRun, i2cServer, request, if_neg silent, if_neg allowed, room]
              exact transferred
          | false =>
              have refused : rlen ≠ 0 ∧ env.rxBuf st.shown.handled = false := ⟨silent, room⟩
              simp only [i2cRun, i2cServer, request, if_neg silent, if_pos refused, room]
              exact ⟨rfl, by simpa [BusState.malloc] using sent⟩
  answers dev msg _ reply member := by
    simp only [i2cServer] at member
    split at member
    next => exact (List.not_mem_nil member).elim
    next addr tx rlen request =>
      split at member
      · exact (List.not_mem_nil member).elim
      · exact i2cExchange_valid env dev addr tx (i2cRequest_rlen request) reply member

/-- In every run of a client and an I2C endpoint its requests are made as
transfers, in order, and what they read is answered once and in order, if and
only if in no input that is handled at once a request that reads is followed by
one that does not. -/
theorem i2c_served_iff (st : BusState Device (List I2cMsg)) (events : List (BridgeEvent Empty))
    (good : ∀ data, .rteipcSend data ∈ events → Deliverable data ∧ env.malloc data.length = true) :
    Always (BridgeStep (busBackend (i2cRun env) [none] env.malloc))
        (ServesAlways (busBackend (i2cRun env) [none] env.malloc) (i2cServer env) BusState.shown st.shown
          fun st msgs => Apart I2cReads (I2cAllocates env) st.handled (msgs.map Prod.snd))
        (.ok (Bridge.start st)) events ↔
      Guarded (BridgeStep (busBackend (i2cRun env) [none] env.malloc))
        (ReadyBatch fun st msgs => Apart I2cReads (I2cAllocates env) st.handled (msgs.map Prod.snd))
        (.ok (Bridge.start st)) events := by
  have null : Pointers.Null [none] := by simp [Pointers.Null]
  have implements := (i2c_serves env).implements (i2cRun_laws env) null fun _ fetched => fetched
  have fetched : ∀ data, .rteipcSend data ∈ events → Fetched env.malloc (sized data) := fun data member =>
    ⟨⟨rfl, (good data member).1⟩, (good data member).2⟩
  exact bridge_serves_iff implements st events fetched

end I2c

/-- A register is selected and two bytes are read, in one input. -/
theorem i2c_served_iff_register :
    Always (BridgeStep (busBackend (i2cRun (silentDevice (List I2cMsg) (Nat → UInt8) fun _ => 0)) [none] allocates))
        (ServesAlways (busBackend (i2cRun (silentDevice (List I2cMsg) (Nat → UInt8) fun _ => 0)) [none] allocates)
          (i2cServer (silentDevice (List I2cMsg) (Nat → UInt8) fun _ => 0)) BusState.shown ⟨(), [], 0⟩
          fun st msgs => Apart I2cReads (I2cAllocates (silentDevice (List I2cMsg) (Nat → UInt8) fun _ => 0)) st.handled
            (msgs.map Prod.snd))
        (.ok (Bridge.start ⟨(), [], none, .empty, 0⟩))
        [.rteipcSend [80, 0, 1, 0, 0, 0, 7], .rteipcSend [80, 0, 0, 0, 2, 0], .arrive 21, .onData] ↔
      Guarded (BridgeStep (busBackend (i2cRun (silentDevice (List I2cMsg) (Nat → UInt8) fun _ => 0)) [none] allocates))
        (ReadyBatch fun st msgs =>
          Apart I2cReads (I2cAllocates (silentDevice (List I2cMsg) (Nat → UInt8) fun _ => 0)) st.handled (msgs.map Prod.snd))
        (.ok (Bridge.start ⟨(), [], none, .empty, 0⟩))
        [.rteipcSend [80, 0, 1, 0, 0, 0, 7], .rteipcSend [80, 0, 0, 0, 2, 0], .arrive 21, .onData] := by
  apply i2c_served_iff (silentDevice (List I2cMsg) (Nat → UInt8) fun _ => 0) ⟨(), [], none, .empty, 0⟩
  intro data member
  simp only [List.mem_cons, BridgeEvent.rteipcSend.injEq, reduceCtorEq, List.not_mem_nil, or_false] at member
  obtain rfl | rfl := member
  · exact ⟨⟨by decide, by decide⟩, rfl⟩
  · exact ⟨⟨by decide, by decide⟩, rfl⟩

/-! ## SPI -/

section Spi

variable {Device : Type} (env : BusEnv Device UInt8 UInt8)

end Spi

end Rteipc
