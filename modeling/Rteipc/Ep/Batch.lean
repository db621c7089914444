import Rteipc.Ep.Bus
import Rteipc.Ep.Spi

namespace Rteipc

/-! The I2C endpoint of `ep_i2c.c` and the SPI endpoint of `ep_spi.c` on several
messages that wait in their input. -/

open Data

/-! ## I2C -/

/-- `struct i2c_msg`: with `I2C_M_RD` a buffer to fill, without it one to send. -/
inductive I2cMsg where
  | write (addr : Nat) (buf : List UInt8)
  | read (addr len : Nat)
deriving DecidableEq, Repr

/-- The address, the bytes to write and the number of bytes to read, or nothing
when the message is too short or its sizes do not match. -/
def i2cRequest : List UInt8 → Option (Nat × List UInt8 × Nat)
  | addrLow :: addrHigh :: wlenLow :: wlenHigh :: rlenLow :: rlenHigh :: pos =>
      let addr := addrLow.toNat + 256 * addrHigh.toNat
      let wlen := wlenLow.toNat + 256 * wlenHigh.toNat
      let rlen := rlenLow.toNat + 256 * rlenHigh.toNat
      if (wlen = 0 && rlen = 0) || pos.length ≠ wlen then none else some (addr, pos, rlen)
  | _ => none

/-- What the bytes the device put in the buffer of a message become. -/
def i2cReply (rx : Nat → UInt8) (out : Evbuffer) : I2cMsg → Evbuffer
  | .write _ _ => out
  | .read _ len => rteipcBuffer out ((List.range len).map rx)

section I2c

variable {Device : Type} (env : BusEnv Device (List I2cMsg) (Nat → UInt8))

/-- One `I2C_RDWR` and the replies to it. -/
def i2cTransfer (st : BusState Device (List I2cMsg)) (addr : Nat) (tx : List UInt8) (rlen : Nat) :
    BusState Device (List I2cMsg) :=
  let msgs := (if tx = [] then [] else [.write addr tx]) ++ if rlen = 0 then [] else [.read addr rlen]
  let (device, answer) := env.ioctl st.device msgs
  let st := { st with device, transfers := st.transfers ++ [msgs] }
  match answer with
  | none => st
  | some rx => { st with bev := st.bev.map fun out => msgs.foldl (i2cReply rx) out }

/-- From the drained message to `free_msg`. Only a message that reads sets `rx_buf`. -/
def i2cRun (st : BusState Device (List I2cMsg)) (msg : List UInt8) :
    Option Pointers × BusState Device (List I2cMsg) :=
  match i2cRequest msg with
  | none => (none, st)
  | some (addr, tx, rlen) =>
      if rlen = 0 then (none, i2cTransfer env st addr tx rlen)
      else
        let (rxBuf, st) := st.malloc (env.rxBuf st.handled)
        (some [rxBuf], if rxBuf.isSome then i2cTransfer env st addr tx rlen else st)

def i2cOnData : Evbuffer → BusState Device (List I2cMsg) → Except Fault (BusState Device (List I2cMsg) × Evbuffer) :=
  busOnData (i2cRun env) [none] env.malloc

end I2c

def I2cReads (msg : List UInt8) : Prop := ∃ addr tx rlen, i2cRequest msg = some (addr, tx, rlen) ∧ rlen ≠ 0

/-! ## SPI -/

section Spi

variable {Device : Type} (env : BusEnv Device UInt8 UInt8)

/-- One `SPI_IOC_MESSAGE` for each byte, until one fails. -/
def spidevTransfers (st : BusState Device UInt8) : List UInt8 → BusState Device UInt8 × Option (List UInt8)
  | [] => (st, some [])
  | tx :: rest =>
      let (device, answer) := env.ioctl st.device tx
      let st := { st with device, transfers := st.transfers ++ [tx] }
      match answer with
      | none => (st, none)
      | some rx =>
          let (st, later) := spidevTransfers st rest
          (st, later.map (rx :: ·))

def spidevReply (st : BusState Device UInt8) (rdflag : UInt8) (tx : List UInt8) : BusState Device UInt8 :=
  match spidevTransfers env st tx with
  | (st, none) => st
  | (st, some rx) => if rdflag ≠ 0 then { st with bev := st.bev.map fun out => rteipcBuffer out rx } else st

/-- From the drained message to `free_msg`. A message of the right size sets
`rx_buf` and `xfer`. -/
def spidevRun (st : BusState Device UInt8) (msg : List UInt8) : Option Pointers × BusState Device UInt8 :=
  match spidevRequest msg with
  | none => (none, st)
  | some (rdflag, tx) =>
      let (rxBuf, st) := st.malloc (env.rxBuf st.handled)
      let (xfer, st) := st.malloc (env.xfer st.handled)
      (some [rxBuf, xfer], if rxBuf.isNone || xfer.isNone then st else spidevReply env st rdflag tx)

def spidevOnData : Evbuffer → BusState Device UInt8 → Except Fault (BusState Device UInt8 × Evbuffer) :=
  busOnData (spidevRun env) [none, none] env.malloc

end Spi

def SpiTransfers (msg : List UInt8) : Prop := (spidevRequest msg).isSome = true

/-- A buffer remains in `rx_buf` after the message. -/
def I2cAllocates {Device : Type} (env : BusEnv Device (List I2cMsg) (Nat → UInt8)) (i : Nat) (msg : List UInt8) : Prop :=
  I2cReads msg ∧ env.rxBuf i = true

/-- A buffer remains in `rx_buf` or in `xfer` after the message. -/
def SpiAllocates {Device : Type} (env : BusEnv Device UInt8 UInt8) (i : Nat) (msg : List UInt8) : Prop :=
  SpiTransfers msg ∧ (env.rxBuf i = true ∨ env.xfer i = true)

/-! ## Buffers -/

section Laws

variable {Device : Type}

theorem i2cTransfer_memory {env : BusEnv Device (List I2cMsg) (Nat → UInt8)}
    {st : BusState Device (List I2cMsg)}
    {addr rlen : Nat} {tx : List UInt8} :
    (i2cTransfer env st addr tx rlen).heap = st.heap ∧ (i2cTransfer env st addr tx rlen).handled = st.handled := by
  unfold i2cTransfer
  dsimp only
  split <;> exact ⟨rfl, rfl⟩

theorem spidevTransfers_memory (env : BusEnv Device UInt8 UInt8) (st : BusState Device UInt8) (tx : List UInt8) :
    (spidevTransfers env st tx).1.heap = st.heap ∧ (spidevTransfers env st tx).1.handled = st.handled := by
  induction tx generalizing st with
  | nil => exact ⟨rfl, rfl⟩
  | cons byte rest ih =>
      rw [spidevTransfers]
      dsimp only
      cases (env.ioctl st.device byte).2 with
      | none => exact ⟨rfl, rfl⟩
      | some rx => exact ih _

theorem spidevReply_memory {env : BusEnv Device UInt8 UInt8} {st : BusState Device UInt8} {rdflag : UInt8}
    {tx : List UInt8} :
    (spidevReply env st rdflag tx).heap = st.heap ∧ (spidevReply env st rdflag tx).handled = st.handled := by
  have memory := spidevTransfers_memory env st tx
  unfold spidevReply
  cases transferred : spidevTransfers env st tx with
  | mk after rx =>
      rw [transferred] at memory
      cases rx with
      | none => exact memory
      | some rx =>
          dsimp only
          split
          · exact memory
          · exact memory

theorem i2cRun_cases (env : BusEnv Device (List I2cMsg) (Nat → UInt8)) (st : BusState Device (List I2cMsg))
    (msg : List UInt8) :
    (¬I2cReads msg ∧ (i2cRun env st msg).1 = none ∧ (i2cRun env st msg).2.heap = st.heap ∨
      I2cReads msg ∧ (i2cRun env st msg).1 = some (st.mallocs [env.rxBuf st.handled]).1 ∧
        (i2cRun env st msg).2.heap = (st.mallocs [env.rxBuf st.handled]).2.heap) ∧
      (i2cRun env st msg).2.handled = st.handled := by
  unfold i2cRun
  cases request : i2cRequest msg with
  | none =>
      refine ⟨.inl ⟨?_, rfl, rfl⟩, rfl⟩
      rintro ⟨addr, tx, rlen, found, -⟩
      nomatch request.symm.trans found
  | some found =>
      obtain ⟨addr, tx, rlen⟩ := found
      by_cases silent : rlen = 0
      · simp only [if_pos silent]
        refine ⟨.inl ⟨?_, trivial, i2cTransfer_memory.1⟩, i2cTransfer_memory.2⟩
        rintro ⟨_, _, _, again, reads⟩
        cases request.symm.trans again
        exact reads silent
      · simp only [if_neg silent]
        refine ⟨.inr ⟨⟨addr, tx, rlen, request, silent⟩, rfl, ?_⟩, ?_⟩
        · split
          · exact i2cTransfer_memory.1
          · rfl
        · split
          · exact i2cTransfer_memory.2.trans BusState.malloc_handled
          · exact BusState.malloc_handled

theorem i2cRun_laws (env : BusEnv Device (List I2cMsg) (Nat → UInt8)) :
    BusLaws (i2cRun env) I2cReads (I2cAllocates env) := by
  have remaining : ∀ i msg, I2cAllocates env i msg ↔ I2cReads msg ∧ true ∈ [env.rxBuf i] := by
    simp [I2cAllocates]
  exact BusLaws.of_mallocs remaining fun st msg => i2cRun_cases env st msg

theorem spidevRun_cases (env : BusEnv Device UInt8 UInt8) (st : BusState Device UInt8) (msg : List UInt8) :
    (¬SpiTransfers msg ∧ (spidevRun env st msg).1 = none ∧ (spidevRun env st msg).2.heap = st.heap ∨
      SpiTransfers msg ∧
        (spidevRun env st msg).1 = some (st.mallocs [env.rxBuf st.handled, env.xfer st.handled]).1 ∧
        (spidevRun env st msg).2.heap = (st.mallocs [env.rxBuf st.handled, env.xfer st.handled]).2.heap) ∧
      (spidevRun env st msg).2.handled = st.handled := by
  unfold spidevRun SpiTransfers
  cases request : spidevRequest msg with
  | none => exact ⟨.inl ⟨nofun, rfl, rfl⟩, rfl⟩
  | some found =>
      obtain ⟨rdflag, tx⟩ := found
      simp only [BusState.mallocs, BusState.malloc_handled]
      refine ⟨.inr ⟨rfl, trivial, ?_⟩, ?_⟩
      · split
        · rfl
        · exact spidevReply_memory.1
      · split
        · exact BusState.malloc_handled.trans BusState.malloc_handled
        · exact spidevReply_memory.2.trans (BusState.malloc_handled.trans BusState.malloc_handled)

theorem spidevRun_laws (env : BusEnv Device UInt8 UInt8) :
    BusLaws (spidevRun env) SpiTransfers (SpiAllocates env) := by
  have remaining : ∀ i msg, SpiAllocates env i msg ↔ SpiTransfers msg ∧ true ∈ [env.rxBuf i, env.xfer i] := by
    simp [SpiAllocates]
  exact BusLaws.of_mallocs remaining fun st msg => spidevRun_cases env st msg

end Laws

/-! ## The requests one by one -/

/-- A device whose answers depend on the number of the transfer. -/
def countingEnv (answers : Nat → UInt8 → Option UInt8) : BusEnv Nat UInt8 UInt8 where
  malloc _ := true
  rxBuf _ := true
  xfer _ := true
  ioctl i tx := (i + 1, answers i tx)

theorem spidevTransfers_eq (answers : Nat → UInt8 → Option UInt8) (st : BusState Nat UInt8) (tx : List UInt8) :
    (spidevTransfers (countingEnv answers) st tx).2 = spidevTransfer answers st.device tx ∧
      (spidevTransfers (countingEnv answers) st tx).1.bev = st.bev := by
  induction tx generalizing st with
  | nil => exact ⟨rfl, rfl⟩
  | cons byte rest ih =>
      rw [spidevTransfers, spidevTransfer]
      simp only [countingEnv] at ih ⊢
      cases answers st.device byte with
      | none => exact ⟨rfl, rfl⟩
      | some rx => simp [ih]

theorem spidevReply_bev (answers : Nat → UInt8 → Option UInt8) (st : BusState Nat UInt8) (rdflag : UInt8)
    (tx : List UInt8) :
    (spidevReply (countingEnv answers) st rdflag tx).bev =
      match spidevTransfer answers st.device tx with
      | none => st.bev
      | some rx => if rdflag ≠ 0 then st.bev.map fun out => rteipcBuffer out rx else st.bev := by
  obtain ⟨answer, bev⟩ := spidevTransfers_eq answers st tx
  rw [← answer, spidevReply]
  cases transferred : spidevTransfers (countingEnv answers) st tx with
  | mk after rx =>
      rw [transferred] at bev
      cases rx with
      | none => exact bev
      | some rx =>
          dsimp only
          split
          · rw [← bev]
          · exact bev

theorem spidevRun_bev {answers : Nat → UInt8 → Option UInt8} {st : BusState Nat UInt8} (begins : st.device = 0)
    (msg : List UInt8) : (spidevRun (countingEnv answers) st msg).2.bev = spidevOnMsg answers st.bev msg := by
  unfold spidevRun spidevOnMsg
  cases spidevRequest msg with
  | none => rfl
  | some request =>
      obtain ⟨rdflag, tx⟩ := request
      let allocated : BusState Nat UInt8 := { st with heap := (st.heap.alloc ()).alloc () }
      have reply := spidevReply_bev answers allocated rdflag tx
      rw [show allocated.device = 0 from begins] at reply
      exact reply

/-! ## Batches -/

/-- Handling the messages that wait in one call agrees with handling each in a
call of its own exactly if no message that leaves a buffer is followed by one
that allocates none. -/
theorem batches_agree_iff {I2cDevice SpiDevice : Type} (i2c : BusEnv I2cDevice (List I2cMsg) (Nat → UInt8))
    (spi : BusEnv SpiDevice UInt8 UInt8) (i2cSt : BusState I2cDevice (List I2cMsg)) (spiSt : BusState SpiDevice UInt8)
    (msgs : List QueuedMsg) :
    (BatchAgrees (i2cOnData i2c) i2cSt msgs ↔
        Apart I2cReads (I2cAllocates i2c) i2cSt.handled (servedMsgs i2c.malloc msgs)) ∧
      (BatchAgrees (spidevOnData spi) spiSt msgs ↔
        Apart SpiTransfers (SpiAllocates spi) spiSt.handled (servedMsgs spi.malloc msgs)) := by
  have i2cNull : Pointers.Null [none] := by simp [Pointers.Null]
  have spiNull : Pointers.Null [none, none] := by simp [Pointers.Null]
  exact ⟨(i2cRun_laws i2c).batch_agrees_iff i2cNull, (spidevRun_laws spi).batch_agrees_iff spiNull⟩

/-- A message whose buffer is freed, and one that frees it again: a read and a
write on I2C, a transfer and a message of one byte on SPI. -/
theorem batch_frees_twice :
    (¬ ∀ (env : BusEnv Unit (List I2cMsg) (Nat → UInt8)) (st : BusState Unit (List I2cMsg)) (msgs : List QueuedMsg),
        BatchAgrees (i2cOnData env) st msgs) ∧
      ¬ ∀ (env : BusEnv Unit UInt8 UInt8) (st : BusState Unit UInt8) (msgs : List QueuedMsg),
        BatchAgrees (spidevOnData env) st msgs := by
  constructor
  · intro all
    let env : BusEnv Unit (List I2cMsg) (Nat → UInt8) :=
      ⟨fun _ => true, fun _ => true, fun _ => true, fun _ _ => ((), some fun _ => 0)⟩
    have agrees := all env ⟨(), [], some [], .empty, 0⟩
      [⟨[80, 0, 0, 0, 1, 0], by decide⟩, ⟨[80, 0, 1, 0, 0, 0, 7], by decide⟩]
    have apart := ((i2cRun_laws env).batch_agrees_iff (by simp [Pointers.Null])).mp agrees
    obtain ⟨_, _, _, request, reads⟩ := apart 0 _ _ rfl rfl ⟨⟨80, [], 1, rfl, by decide⟩, rfl⟩
    cases request
    exact reads rfl
  · intro all
    let env : BusEnv Unit UInt8 UInt8 := ⟨fun _ => true, fun _ => true, fun _ => true, fun _ _ => ((), some 0)⟩
    have agrees := all env ⟨(), [], some [], .empty, 0⟩ [⟨[1, 0, 1, 170], by decide⟩, ⟨[0], by decide⟩]
    have apart := ((spidevRun_laws env).batch_agrees_iff (by simp [Pointers.Null])).mp agrees
    cases apart 0 _ _ rfl rfl ⟨rfl, .inl rfl⟩

end Rteipc
