import Rteipc.Rtemgrd.Managed

namespace Rteipc

/-! The control port of `rtemgrd.c`: the commands `list` and `cat`, the dispatch
of a control packet, and the callback of the daemon's loops. -/

open Data

variable {Table : Type} (tbl : DescTable Table)

/-! ## list -/

/-- The record of one interface. The scan leaves `path`, a variable of the whole
loop, alone where the URI does not match. -/
def collectIface (realloc : Nat → Bool) (st : Daemon Table) (domain : Domain) (d : RtemgrData)
    (path : List UInt8) (iface : IfacePtr) : Except Fault (RtemgrData × List UInt8) := do
  let self ← deref st.ifaces iface
  match rtemgrDataAllocInterface realloc d with
  | none => .error .nullDereference
  | some grown => do
      let scanned := (scanUri self.uri).2
      let path := if scanned = [] then path else scanned
      let partner ← partnerName st self
      let intf : RtemgrIntf :=
        { id := BitVec.ofInt 32 self.id
          busType := self.busType
          name := strncpy 16 self.name
          path := strncpy 128 path
          domain := domain.id
          managed := self.managed
          partner := strncpy 16 (partner.getD []) }
      .ok ({ grown with interfaces := grown.interfaces.modify d.interfaces.length fun _ => intf }, path)

def collectLoop (realloc : Nat → Bool) (st : Daemon Table) (domain : Domain) :
    List IfacePtr → RtemgrData → List UInt8 → Except Fault RtemgrData
  | [], d, _ => .ok d
  | iface :: rest, d, path => do
      let collected ← collectIface realloc st domain d path iface
      collectLoop realloc st domain rest collected.1 collected.2

def domainCollectIfaces (realloc : Nat → Bool) (st : Daemon Table) (d : RtemgrData) (domain : Domain) :
    Except Fault RtemgrData :=
  collectLoop realloc st domain domain.ifaceList d []

def listDomains (realloc : Nat → Bool) (st : Daemon Table) : List Domain → RtemgrData → Except Fault RtemgrData
  | [], d => .ok d
  | domain :: rest, d => do
      let d ← domainCollectIfaces realloc st d domain
      listDomains realloc st rest d

def doRtecmdList (realloc : Nat → Bool) (st : Daemon Table) (d : RtemgrData) : Except Fault (RtemgrData × Int) := do
  let d ← listDomains realloc st st.domainList { d with interfaces := [] }
  .ok (d, 0)

/-! ## cat -/

/-- The allocations of `do_rtecmd_cat`, those of messages by the rounds left, the
memory behind each message, and the date and time of a number of seconds, where
`localtime` finds one. -/
structure CatMemory where
  evbuffer : Bool
  malloc : Nat → Nat → Bool
  beyond : Nat → List UInt8
  value : Bool
  strftime : BitVec 64 → Option (List UInt8)

def hexDigit (value : Nat) : UInt8 := UInt8.ofNat (if value < 10 then 48 + value else 87 + value)

/-- `0x%02x` -/
def printHexByte (byte : UInt8) : List UInt8 :=
  ascii "0x" ++ [hexDigit (byte.toNat / 16), hexDigit (byte.toNat % 16)]

/-- `%06lld` -/
def printPadded (value : BitVec 64) : List UInt8 :=
  let digits := printDecimal value.toInt.natAbs
  if value.toInt < 0 then 45 :: (List.replicate (5 - digits.length) 48 ++ digits)
  else List.replicate (6 - digits.length) 48 ++ digits

/-- Eight bytes of memory as a `uint64_t`. -/
def longAt (memory : List UInt8) (offset : Nat) : BitVec 64 :=
  BitVec.ofNat 64 (((memory.drop offset).take 8).foldr (fun byte value => byte.toNat + 256 * value) 0)

/-- The text for one message. A GPIO message is read as a value and two times,
whatever its length. -/
def catLine (memory : CatMemory) (round : Nat) (busType : BitVec 32) (msg : List UInt8) : Except Fault (List UInt8) :=
  if busType = EpType.i2c.number ∨ busType = EpType.spi.number then
    .ok (ascii "[" ++ msg.flatMap (fun byte => 32 :: printHexByte byte) ++ ascii " ]\n")
  else if busType = EpType.gpio.number then
    let block := msg ++ memory.beyond round
    let value := block.headD 0
    match memory.strftime (longAt block 1) with
    | none => .error .nullDereference
    | some date =>
        .ok (ascii "[" ++ date ++ ascii "." ++ printPadded (longAt block 9) ++ ascii "] " ++
          ascii (if value = 0 then "Hi" else "Lo") ++ ascii " ==> " ++ ascii (if value = 0 then "Lo" else "Hi") ++ [10])
  else .ok (cString msg ++ [10])

/-- Whether the queue could be emptied, what is left of it, and the texts. -/
def catLoop (memory : CatMemory) (busType : BitVec 32) :
    Nat → Evbuffer → Evbuffer → Except Fault (Bool × Evbuffer × Evbuffer)
  | 0, pending, buf => .ok (true, pending, buf)
  | fuel + 1, pending, buf =>
      match rteipcMsgDrain (memory.malloc fuel) pending with
      | (.empty, pending) => .ok (true, pending, buf)
      | (.failed, pending) => .ok (false, pending, buf)
      | (.message _ msg, pending) => do
          let line ← catLine memory fuel busType msg
          catLoop memory busType fuel pending (buf ++ line)

/-- What the texts are returned in. -/
def catValue (memory : CatMemory) (d : RtemgrData) (buf : Evbuffer) : RtemgrData × Int :=
  let d := { d with cmd.val.s := BitVec.ofNat 64 buf.length }
  if buf = [] then (d, 0)
  else if !memory.value then ({ d with cmd.val.v := none }, -1)
  else ({ d with cmd.val.v := some buf }, 0)

/-- The first interface of the packet is read without a look at their number. -/
def doRtecmdCat (memory : CatMemory) (st : Daemon Table) (d : RtemgrData) :
    Except Fault (Daemon Table × RtemgrData × Int) :=
  match d.interfaces with
  | [] => .error .absentInterface
  | intf :: _ =>
      match ifaceOf st intf with
      | none => .ok (st, d, -1)
      | some iface => do
          let self ← deref st.ifaces iface
          match self.partner with
          | some partner => do
              -- printed as a text, not by its name
              let _ ← deref st.ifaces partner
              .ok (st, d, -1)
          | none =>
              if !memory.evbuffer then .ok (st, d, -1)
              else do
                let (whole, pending, buf) ←
                  catLoop memory self.busType (self.pending.length + 1) self.pending []
                let st := { st with ifaces := st.ifaces.modify iface fun self => { self with pending } }
                if !whole then .ok (st, d, -1)
                else .ok (st, catValue memory d buf)

/-! ## The control port -/

/-- What a control packet's handling depends on besides the packet and the daemon. -/
structure CtlMemory where
  packet : PacketMemory
  realloc : Nat → Bool
  iface : IfaceOutcome
  left : Nat → Memory
  right : Nat → Memory
  managed : ManagedMemory
  cat : CatMemory
  emit : Bool

def Rtecmd.withError (cmd : Rtecmd) (error : Int) : Rtecmd := { cmd with error := BitVec.ofInt 32 error }

def RtemgrData.withError (d : RtemgrData) (error : Int) : RtemgrData := { d with cmd := d.cmd.withError error }

/-- The `switch` over the action, and the action. -/
def ctlAction (lib : PacketLib) (memory : CtlMemory) (st : Daemon Table) (d : RtemgrData) (data : List UInt8) :
    Except Fault (Daemon Table × RtemgrData) :=
  match d.cmd.action.toNat with
  | 1 => (doRtecmdList memory.realloc st d).map fun done => (st, done.1.withError done.2)
  | 2 => (doRtecmdOpen tbl st memory.iface d).map fun done => (done.1, d.withError done.2)
  | 3 => (doRtecmdClose tbl st d).map fun done => (done.1, d.withError done.2)
  | 4 => (doRtecmdRoute lib.toEmitLib st memory.left memory.right d).map fun done => (done.1, d.withError done.2)
  | 5 => (doRtecmdForget st d).map fun done => (done.1, d.withError done.2)
  | 6 =>
      match st.ctrlIface with
      | none => .error .nullDereference
      | some ctrl => (ifaceManagedHandler lib memory.managed st ctrl data).map fun st => (st, d.withError 0)
  | 7 => (doRtecmdCat memory.cat st d).map fun done => (done.1, done.2.1.withError done.2.2)
  | _ => .ok (st, d.withError (-1))

/-- The reply handed to `rteipc_xfer` and what that returns. `encode_base64`
reads `s` bytes at `v`, also where that is NULL. -/
def sendReply (emitLib : EmitLib) (emit : Bool) (st : Daemon Table) (d : RtemgrData) :
    Except Fault (Daemon Table × Option (List UInt8 × Int)) :=
  if d.cmd.val.v = none ∧ d.cmd.val.s ≠ 0 then .error .nullDereference
  else if !emit then .ok (st, none)
  else
    match emitInto emitLib d 4096 with
    | none => .ok (st, none)
    | some document => do
        let sent ← rteipcXfer st.lib rtemgrdCtlport document
        .ok ({ st with lib := sent.1 }, some (document, sent.2))

def ctlPacket (lib : PacketLib) (memory : CtlMemory) (st : Daemon Table) (d : RtemgrData) (data : List UInt8) :
    Except Fault (Daemon Table × Option (List UInt8 × Int)) := do
  let (st, reply) ← ctlAction tbl lib memory st (d.withError (-1)) data
  sendReply lib.toEmitLib memory.emit st reply

def processCtlport (lib : PacketLib) (memory : CtlMemory) (st : Daemon Table) (data : List UInt8) :
    Except Fault (Daemon Table × Option (List UInt8 × Int)) := do
  match ← receivePacket lib memory.packet data with
  | none => .ok (st, none)
  | some d => ctlPacket tbl lib memory st d data

/-! ## The loops' callback -/

/-- One message at a loop of the daemon. -/
structure LoopMessage where
  memory : CtlMemory
  raw : Memory
  loop : Loop DaemonCb IfacePtr
  data : List UInt8

def ifaceHandler (lib : PacketLib) (msg : LoopMessage) (st : Daemon Table) (iface : IfacePtr) :
    Except Fault (Daemon Table) := do
  let self ← deref st.ifaces iface
  match self.handler with
  | none => .ok st
  | some .raw => ifaceRawHandler lib.toEmitLib msg.raw st iface msg.data
  | some .managed => ifaceManagedHandler lib msg.memory.managed st iface msg.data

def defaultDomainHandler (lib : PacketLib) (st : Daemon Table) (msg : LoopMessage) :
    Except Fault (Daemon Table × Option (List UInt8 × Int)) :=
  if strmatch msg.loop.name rtemgrdCtlport then processCtlport tbl lib msg.memory st msg.data
  else
    match msg.loop.arg with
    | none => .ok (st, none)
    | some iface => (ifaceHandler lib msg st iface).map (·, none)

/-- `loop_on_data` with a message for one of the loops. -/
def RtemgrdStep (lib : PacketLib) (st : Daemon Table) (msg : LoopMessage) (next : Daemon Table) : Prop :=
  msg.loop ∈ st.lib.loList ∧ msg.loop.cb = some .defaultDomainHandler ∧
    ∃ reply, defaultDomainHandler tbl lib st msg = .ok (next, reply)

end Rteipc
