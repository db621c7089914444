import Rteipc.Data.Base64
import Rteipc.Ep.Loop
import Rteipc.Packet.Parse
import Rteipc.Rtemgrd

namespace Rteipc

/-! Packets that arrive at a managed interface. -/

open Data

/-! ## Packets in memory -/

/-- What libyaml and libb64 make of the bytes of a packet, besides writing one. -/
structure PacketLib extends EmitLib where
  events : List UInt8 → List YamlEvent
  decode : List UInt8 → List UInt8

/-- The allocations of `rtemgr_data_parse`, and what is in memory behind the
bytes it decodes. -/
structure PacketMemory where
  alloc : ParseAlloc
  beyond : List UInt8

/-- The block of `s` bytes with what lies behind the bytes written to it. -/
def RtecmdVal.inMemory (val : RtecmdVal) (beyond : List UInt8) : RtecmdVal :=
  if val.s = 0 then val
  else { val with v := val.v.map (· ++ beyond ++ List.replicate val.s.toNat 0) }

def receivePacket (lib : PacketLib) (memory : PacketMemory) (data : List UInt8) :
    Except Fault (Option RtemgrData) :=
  match rtemgrDataParse lib.decode memory.alloc (lib.events data) with
  | .null => .ok none
  | .outOfBounds => .error .overflow
  | .packet parsed => .ok (some { parsed.d with cmd.val := parsed.d.cmd.val.inMemory memory.beyond })

/-- `rtemgr_data_emit` into a buffer of `size` bytes, but for its own allocations. -/
def emitInto (emitLib : EmitLib) (d : RtemgrData) (size : Nat) : Option (List UInt8) :=
  let document := emitLib.write (rtemgrDataEmit emitLib.encode d)
  if document.length ≤ size then some document else none

theorem emitInto_some {emitLib : EmitLib} {d : RtemgrData} {size : Nat} {document : List UInt8}
    (written : emitInto emitLib d size = some document) :
    (emitLib.write (rtemgrDataEmit emitLib.encode d)).length ≤ size ∧
      document = emitLib.write (rtemgrDataEmit emitLib.encode d) := by
  unfold emitInto at written
  dsimp only at written
  split at written
  next room => exact ⟨room, (Option.some.inj written).symm⟩
  next => cases written

/-! ## The handler -/

/-- The texts `strtok(s, " ")` returns. -/
def tokens (str : List UInt8) : List (List UInt8) := (str.splitOnP (· == 32)).filter (· ≠ [])

/-- No bytes where `hex_to_array` returns 0. Without a token `strtoul` is given
NULL. The array has a byte for every space, and one more. -/
def hexToArray (memory : Bool) (str : List UInt8) : Except Fault (List UInt8) :=
  if str = [] then .ok []
  else if !memory then .ok []
  else if tokens str = [] then .error .nullDereference
  else
    let arr := (tokens str).map fun hex => UInt8.ofNat (strtoul hex 16).toNat
    .ok (arr ++ List.replicate (str.count 32 + 1 - arr.length) 0)

structure ManagedMemory where
  packet : PacketMemory
  hex : Bool
  realloc : Bool
  buf : Bool
  emit : Bool

/-- The call for a destination on the SPI or I2C bus. -/
def hexCall (memory : ManagedMemory) (dest : Interface) (extra : Extra) (value : List UInt8) :
    Except Fault (Option XferCall) := do
  let arr ← hexToArray memory.hex (cString value)
  if arr = [] then .ok none
  else if dest.busType = EpType.spi.number then
    if arr.length < extra.rsize.toNat then
      if !memory.realloc then .ok none
      else
        let newArray := arr ++ List.replicate (extra.rsize.toNat - arr.length) 0
        .ok (some (.rteipcSpiXfer dest.name newArray extra.rsize (decide (extra.rsize ≠ 0))))
    else .ok (some (.rteipcSpiXfer dest.name arr (BitVec.ofNat 16 arr.length) (decide (extra.rsize ≠ 0))))
  else .ok (some (.rteipcI2cXfer dest.name extra.addr arr (BitVec.ofNat 16 arr.length) extra.rsize))

/-- `strcpy(dst, text)` where the text leaves room for its NUL. -/
def CharArray.strcpy {size : Nat} (array : CharArray size) (text : List UInt8) : CharArray size where
  bytes := (text ++ 0 :: array.bytes.drop (text.length + 1)).take size
  full := by
    have full := array.full
    rw [List.length_take, List.length_append, List.length_cons, List.length_drop]
    omega

variable {Table : Type} (tbl : DescTable Table)

def partnerName (st : Daemon Table) (self : Interface) : Except Fault (Option (List UInt8)) :=
  match self.partner with
  | none => .ok none
  | some partner => (deref st.ifaces partner).map fun other => some other.name

/-- The interface record of a packet with the sender's data. -/
def RtemgrIntf.sentBy (intf : RtemgrIntf) (self : Interface) (domain : BitVec 32) (partner : Option (List UInt8)) :
    RtemgrIntf where
  id := BitVec.ofInt 32 self.id
  busType := self.busType
  name := intf.name.strcpy self.name
  path := intf.path.strcpy self.uri
  domain := domain
  managed := self.managed
  partner := match partner with
    | none => intf.partner
    | some name => intf.partner.strcpy name

def forwardCall (lib : PacketLib) (memory : ManagedMemory) (st : Daemon Table) (iface : IfacePtr)
    (dest : Interface) (intf : RtemgrIntf) (cmd : Rtecmd) (len : Nat) : Except Fault (Option XferCall) :=
  if !memory.buf then .ok none
  else do
    let self ← deref st.ifaces iface
    let partner ← partnerName st self
    let domain := ((st.domainList[self.domain]?).map Domain.id).getD 0
    if !memory.emit then .ok none
    else .ok ((emitInto lib.toEmitLib ⟨cmd, [intf.sentBy self domain partner]⟩ (len + 512)).map
      (.rteipcXfer dest.name))

/-- What is passed on of a payload: the transfer depends on the destination's bus. -/
def payloadCall (lib : PacketLib) (memory : ManagedMemory) (st : Daemon Table) (iface : IfacePtr)
    (dest : Interface) (intf : RtemgrIntf) (cmd : Rtecmd) (value : List UInt8) (len : Nat) :
    Except Fault (Option XferCall) :=
  let bus := dest.busType
  if bus = EpType.ipc.number ∨ bus = EpType.inet.number ∨ bus = EpType.tty.number ∨ bus = EpType.sysfs.number then
    if dest.managed = 0 then .ok (some (.rteipcXfer dest.name (value.take cmd.val.s.toNat)))
    else forwardCall lib memory st iface dest intf cmd len
  else if bus = EpType.gpio.number then
    .ok (some (.rteipcGpioXfer dest.name (if strmatch (cString value) (ascii "0") then 0 else 1)))
  else if bus = EpType.spi.number ∨ bus = EpType.i2c.number then hexCall memory dest cmd.val.extra value
  else .ok none

/-- The transfer for a parsed packet of `len` bytes. -/
def packetCall (lib : PacketLib) (memory : ManagedMemory) (st : Daemon Table) (iface : IfacePtr)
    (d : RtemgrData) (len : Nat) : Except Fault (Option XferCall) :=
  match d.interfaces with
  | [intf] =>
      match ifaceOf st intf with
      | none => .ok none
      | some found => do
          let dest ← deref st.ifaces found
          match d.cmd.val.v with
          | none => .ok none
          | some value =>
              if d.cmd.val.s = 0 then .ok none
              else payloadCall lib memory st iface dest intf d.cmd value len
  | _ => .ok none

/-- The one transfer `iface_managed_handler` makes, if any. -/
def managedCall (lib : PacketLib) (memory : ManagedMemory) (st : Daemon Table) (iface : IfacePtr)
    (data : List UInt8) : Except Fault (Option XferCall) := do
  match ← receivePacket lib memory.packet data with
  | none => .ok none
  | some d => packetCall lib memory st iface d data.length

def ifaceManagedHandler (lib : PacketLib) (memory : ManagedMemory) (st : Daemon Table) (iface : IfacePtr)
    (data : List UInt8) : Except Fault (Daemon Table) := do
  match ← managedCall lib memory st iface data with
  | none => .ok st
  | some call => do
      let sent ← call.run st.lib
      .ok { st with lib := sent.1 }

/-! ## A run with one packet -/

/-- The libraries where the bytes that arrive are those of one packet. -/
def PacketLib.receiving (d : RtemgrData) : PacketLib where
  encode := Base64.encode
  write events := events.flatMap fun event => event.text ++ [10]
  events _ := rtemgrDataEmit Base64.encode d
  decode := Base64.decode

def PacketMemory.succeeds : PacketMemory := ⟨.succeeds, []⟩

def ManagedMemory.succeeds : ManagedMemory := ⟨.succeeds, true, true, true, true⟩

end Rteipc
