import Rteipc.Rtemgrd.Listing
import Rteipc.Rtemgrd.Sender
import Rteipc.Rtemgrd.Transfers

namespace Rteipc

/-! What the client of a managed interface reads with `librtemgr.c` from the
documents the daemon hands on to it. -/

open Data

/-- The memory behind the pointer. -/
def rtemgrGetData (d : RtemgrData) : Option (List UInt8) := d.cmd.val.v

def rtemgrGetLength (d : RtemgrData) : BitVec 64 := d.cmd.val.s

def rtemgrGetName (d : RtemgrData) : Option (List UInt8) :=
  match d.interfaces with
  | [] => none
  | intf :: _ => some intf.name.text

def rtemgrGetDomain (d : RtemgrData) : BitVec 32 :=
  match d.interfaces with
  | [] => -1
  | intf :: _ => intf.domain

def rtemgrGetType (d : RtemgrData) : BitVec 32 :=
  match d.interfaces with
  | [] => -1
  | intf :: _ => intf.busType

/-- What a client learns from the getters, the length applied to the data. -/
structure DomainMessage where
  data : List UInt8
  name : List UInt8
  domain : BitVec 32
  type : BitVec 32
deriving DecidableEq, Repr

def RtemgrData.message (d : RtemgrData) : Option DomainMessage := do
  let data ← rtemgrGetData d
  let name ← rtemgrGetName d
  some ⟨data.take (rtemgrGetLength d).toNat, name, rtemgrGetDomain d, rtemgrGetType d⟩

/-- libyaml reads back the packets it wrote, and libb64 the payloads. -/
structure PacketLib.ReadsBack (lib : PacketLib) : Prop where
  events : ∀ d, lib.events (lib.write (rtemgrDataEmit lib.encode d)) = rtemgrDataEmit lib.encode d
  decode : ∀ payload, lib.decode (cString (lib.encode payload)) = payload

/-! ## One document -/

section Document

variable {lib : PacketLib} {client : PacketMemory} {cmd : Rtecmd} {intf : RtemgrIntf} {data : List UInt8}

end Document

/-! ## From one managed interface to another -/

section Managed

variable {lib : PacketLib} {memory : ManagedMemory} {st : Daemon (Dtbl EpPtr)} {iface found : IfacePtr}
  {self dest : Interface} {encodeMemory : EncodeMemory} {domain : BitVec 32} {name document data : List UInt8}

/-- The texts of an interface are those it was built with. -/
theorem ManagedSender.built (sender : ManagedSender dtblTable lib st iface self) : AsBuilt self := by
  obtain ⟨outcome, start, msgs, started, run⟩ := sender.reached
  exact (rtemgrd_built started).run run iface self sender.live

theorem framed_size (framed : Framed data) :
    (BitVec.ofNat 64 data.length).toNat = data.length ∧ BitVec.ofNat 64 data.length ≠ 0 := by
  have small := framed.2
  have size : (BitVec.ofNat 64 data.length).toNat = data.length := by
    rw [BitVec.toNat_ofNat]
    omega
  refine ⟨size, fun zero => ?_⟩
  rw [zero] at size
  exact framed.1 (List.length_eq_zero_iff.mp size.symm)

/-- What the daemon reads from a client's document. -/
theorem rtemgrEncodeDomain_parsed (back : lib.ReadsBack) (framed : Framed data)
    (encoded : rtemgrEncodeDomain lib.toEmitLib encodeMemory domain name (some data) = some document) :
    ∃ parsed, rtemgrDataParse lib.decode .succeeds (lib.events document) = .packet parsed ∧
      parsed.d.cmd.val = ⟨some data, BitVec.ofNat 64 data.length, ⟨0, 0⟩⟩ ∧
      parsed.d.interfaces = [encodedIntf domain name] := by
  obtain ⟨size, nonempty⟩ := framed_size framed
  obtain ⟨-, rfl, -⟩ := rtemgrEncodeDomain_some encoded
  rw [back.events]
  exact parse_encoded lib back.decode domain name ⟨0, 0, ⟨some data, BitVec.ofNat 64 data.length, ⟨0, 0⟩⟩⟩ rfl size
    framed.2 nonempty

end Managed

theorem lines_readsBack : PacketLib.lines.ReadsBack where
  events d := lines_read _
  decode payload := by
    change Base64.decode (cString (Base64.encode payload)) = payload
    rw [cString_eq_self (Base64.nul_not_mem_encode payload), Base64.decode_encode]

structure Memory.Plenty (memory : Memory) : Prop where
  malloc : ∀ size, memory.malloc size = true
  packet : memory.packet = true
  interface : memory.interface = true
  emit : memory.emit = true

section Raw

variable {lib : PacketLib} {st next : Daemon (Dtbl EpPtr)} {iface partner : IfacePtr} {self other : Interface}
  {data : List UInt8} {packet : List UInt8 → RtemgrData}

/-- The document for a message, where it fits the room it is given. -/
def handedOn (lib : PacketLib) (packet : List UInt8 → RtemgrData) (data : List UInt8) : Option (List UInt8) :=
  emitInto lib.toEmitLib (packet data) (max (data.length * 3 / 2) 512)

theorem Memory.Plenty.senderDocument {memory : Memory} (plenty : memory.Plenty) :
    Rteipc.senderDocument lib.toEmitLib memory (packet data) data.length = handedOn lib packet data := by
  simp only [Rteipc.senderDocument, plenty.malloc, plenty.packet, plenty.interface, plenty.emit, Bool.true_and,
    decide_eq_true_eq]
  rfl

/-- A state of the daemon, whatever the messages on its loops. -/
def DaemonReaches (lib : PacketLib) (st : Daemon (Dtbl EpPtr)) : Prop :=
  ∃ outcome start msgs, rtemgrd dtblTable outcome = .ok (start, 0) ∧ Reaches (RtemgrdStep dtblTable lib) start msgs st

theorem DaemonReaches.built (reached : DaemonReaches lib st) (live : st.ifaces.get iface = some self) : AsBuilt self := by
  obtain ⟨outcome, start, msgs, started, run⟩ := reached
  exact (rtemgrd_built started).run run iface self live

theorem DaemonReaches.step (reached : DaemonReaches lib st) {msg : LoopMessage}
    (taken : RtemgrdStep dtblTable lib st msg next) : DaemonReaches lib next := by
  obtain ⟨outcome, start, msgs, started, run⟩ := reached
  exact ⟨outcome, start, msgs ++ [msg], started, run.append (.cons taken (.nil next))⟩

/-- A packet at the control port. -/
theorem DaemonReaches.served (reached : DaemonReaches lib st) {memory : CtlMemory}
    (loop : ∃ lo ∈ st.lib.loList, lo.name = rtemgrdCtlport ∧ lo.cb = some .defaultDomainHandler)
    (handles : (processCtlport dtblTable lib memory st data).toOption.isSome = true) :
    DaemonReaches lib (((processCtlport dtblTable lib memory st data).toOption.map Prod.fst).getD .started) := by
  obtain ⟨lo, member, named, called⟩ := loop
  have control : strmatch lo.name rtemgrdCtlport = true := strmatch_iff.mpr named
  cases handled : processCtlport dtblTable lib memory st data with
  | error fault =>
      rw [handled] at handles
      cases handles
  | ok done =>
      have taken : RtemgrdStep dtblTable lib st ⟨memory, ⟨fun _ => true, true, true, true, true⟩, lo, data⟩ done.1 := by
        refine ⟨member, called, done.2, ?_⟩
        rw [defaultDomainHandler, if_pos control]
        exact handled
      exact reached.step taken

end Raw

def openRawDocument : List UInt8 := PacketLib.lines.write (rtemgrDataEmit Base64.encode (openPacket 1 "a" "b"))

/-- The daemon with the raw interface `a`. -/
def Daemon.withRaw : Daemon (Dtbl EpPtr) :=
  ((processCtlport dtblTable .lines .succeeds .started openRawDocument).toOption.map Prod.fst).getD .started

theorem withRaw_reached : DaemonReaches .lines .withRaw := by
  have start : DaemonReaches .lines .started := ⟨allSucceeds, .started, [], rtemgrd_started, .nil _⟩
  exact start.served started_loop (by decide +kernel)

end Rteipc
