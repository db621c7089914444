import Rteipc.Data.Base64
import Rteipc.Rtemgrd.Ctlport
import Rteipc.Rtemgrd.Pending

namespace Rteipc

/-! The packets clients make for managed interfaces with `librtemgr.c`, and the
room that they and the packets of the daemon are given. -/

open Data

/-! ## Encoders -/

/-- The allocations of the encoders; `val` is the copy of the payload, `text`
the buffer its text is printed into. -/
structure EncodeMemory where
  text : Bool
  val : Bool
  packet : Bool
  interface : Bool
  buf : Bool
  emit : Bool

def EncodeMemory.succeeds : EncodeMemory := ⟨true, true, true, true, true, true⟩

def encodedPacket (domain : BitVec 32) (name : List UInt8) (cmd : Rtecmd) : RtemgrData where
  cmd := { cmd with action := 6 }
  interfaces := [{ freshIntf with domain, name := strncpy 16 name }]

/-- The output buffer; the product wraps like a `size_t`. -/
def encodedSize (s : BitVec 64) : Nat :=
  let bufsz := (s * 3 / 2).toNat
  if bufsz < 512 then 512 else bufsz

/-- `__rtemgr_encode_domain`; nothing where it returns -1. -/
def encodeDomainCmd (lib : EmitLib) (memory : EncodeMemory) (domain : BitVec 32) (name : List UInt8)
    (cmd : Rtecmd) : Option (List UInt8) :=
  if memory.packet && memory.interface && memory.buf && memory.emit then
    emitInto lib (encodedPacket domain name cmd) (encodedSize cmd.val.s)
  else none

def rtemgrEncodeDomain (lib : EmitLib) (memory : EncodeMemory) (domain : BitVec 32) (name : List UInt8)
    (data : Option (List UInt8)) : Option (List UInt8) :=
  match data with
  | none | some [] => none
  | some data =>
      if memory.val then
        encodeDomainCmd lib memory domain name ⟨0, 0, ⟨some data, BitVec.ofNat 64 data.length, ⟨0, 0⟩⟩⟩
      else none

/-- A byte's text and a space for every byte of `data`. -/
def hexText (data : List UInt8) : List UInt8 := data.flatMap fun byte => printHexByte byte ++ [32]

/-- The text goes without its last space. A transfer that only reads has no payload. -/
def i2cCmd (addr : BitVec 16) (data : List UInt8) (rlen : BitVec 16) : Rtecmd :=
  let text := hexText data
  let s := BitVec.ofNat 64 (text.length - 1)
  ⟨0, 0, ⟨if s = 0 then none else some (text.take s.toNat), s, ⟨addr, rlen⟩⟩⟩

def rtemgrI2cEncodeDomain (lib : EmitLib) (memory : EncodeMemory) (domain : BitVec 32) (name : List UInt8)
    (addr : BitVec 16) (data : Option (List UInt8)) (wlen rlen : BitVec 16) : Option (List UInt8) :=
  if wlen = 0 ∧ rlen = 0 ∨ wlen ≠ 0 ∧ data = none then none
  else if !memory.text then none
  else
    let cmd := i2cCmd addr ((data.getD []).take wlen.toNat) rlen
    if cmd.val.s ≠ 0 ∧ memory.val = false then none
    else encodeDomainCmd lib memory domain name cmd

def spiCmd (data : List UInt8) (len : BitVec 16) (rdmode : Bool) : Rtecmd :=
  let text := hexText data
  let s := BitVec.ofNat 64 (text.length - 1)
  ⟨0, 0, ⟨some (text.take s.toNat), s, ⟨0, if rdmode then len else 0⟩⟩⟩

def rtemgrSpiEncodeDomain (lib : EmitLib) (memory : EncodeMemory) (domain : BitVec 32) (name : List UInt8)
    (data : Option (List UInt8)) (len : BitVec 16) (rdmode : Bool) : Option (List UInt8) :=
  match data with
  | none => none
  | some data =>
      if len = 0 then none
      else if !memory.text then none
      else if !memory.val then none
      else encodeDomainCmd lib memory domain name (spiCmd (data.take len.toNat) len rdmode)

/-- What is known of the libraries: libb64 writes four characters for every
three bytes and ends its lines, libyaml writes at least the scalars. -/
structure EmitLib.Documented (lib : EmitLib) : Prop where
  encode : ∀ payload, (cString (lib.encode payload)).length =
    4 * ((payload.length + 2) / 3) + payload.length / 54 + 1
  write : ∀ events, scalarsLength events ≤ (lib.write events).length

/-- What libyaml adds to the scalars of a packet: indentation, quotes, line ends. -/
def EmitLib.markup (lib : EmitLib) (d : RtemgrData) : Nat :=
  (lib.write (rtemgrDataEmit lib.encode d)).length - scalarsLength (rtemgrDataEmit lib.encode d)

/-- The size of a packet's document in terms of the size of its payload. -/
def EmitLib.documentSize (lib : EmitLib) (d : RtemgrData) (s : Nat) : Nat :=
  4 * ((s + 2) / 3) + s / 54 + 1 + d.textLength + lib.markup d

variable {lib : EmitLib} {d : RtemgrData}

theorem EmitLib.Documented.document_length (documented : lib.Documented) :
    (lib.write (rtemgrDataEmit lib.encode d)).length = lib.documentSize d d.cmd.val.payload.length := by
  have atLeast := documented.write (rtemgrDataEmit lib.encode d)
  have scalars := scalarsLength_emit lib.encode d
  rw [documented.encode] at scalars
  unfold documentSize markup
  omega

theorem EmitLib.Documented.emitInto_isSome (documented : lib.Documented) {size : Nat} :
    (emitInto lib d size).isSome = true ↔ lib.documentSize d d.cmd.val.payload.length ≤ size := by
  simp only [emitInto, documented.document_length]
  split
  next fits => exact iff_of_true rfl fits
  next tooLong => exact iff_of_false nofun tooLong

theorem payload_length {action error : BitVec 32} {data : List UInt8} {extra : Extra}
    {interfaces : List RtemgrIntf} (object : data.length < 18446744073709551616) :
    (RtemgrData.cmd ⟨⟨action, error, ⟨some data, BitVec.ofNat 64 data.length, extra⟩⟩, interfaces⟩).val.payload.length =
      data.length := by
  simp only [RtecmdVal.payload, Option.getD_some, BitVec.toNat_ofNat, List.length_take]
  omega

theorem textLength_one {intf : RtemgrIntf} (one : d.interfaces = [intf]) : 98 ≤ d.textLength := by
  have action := printInt_length_pos d.cmd.action
  have error := printInt_length_pos d.cmd.error
  have s := printUnsigned_length_pos (d.cmd.val.s.setWidth 32)
  have addr := printUnsigned_length_pos (d.cmd.val.extra.addr.setWidth 32)
  have rsize := printUnsigned_length_pos (d.cmd.val.extra.rsize.setWidth 32)
  have count := printInt_length_pos (BitVec.ofNat 32 d.interfaces.length)
  have id := printInt_length_pos intf.id
  have busType := printInt_length_pos intf.busType
  have domain := printInt_length_pos intf.domain
  have managed := printInt_length_pos intf.managed
  rw [one] at count
  simp only [RtemgrData.textLength, one, List.map_cons, List.map_nil, List.sum_cons, List.sum_nil,
    RtemgrIntf.textLength]
  omega

theorem documentSize_exceeds {intf : RtemgrIntf} (one : d.interfaces = [intf]) {s : Nat} (low : 307 ≤ s) (high : s ≤ 660) :
    max (s * 3 / 2) 512 < lib.documentSize d s := by
  have texts := textLength_one one
  unfold EmitLib.documentSize
  omega

/-! ## Room for managed packets -/

theorem encodedSize_length {len : Nat} (object : len < 6148914691236517205) :
    encodedSize (BitVec.ofNat 64 len) = max (len * 3 / 2) 512 := by
  have three : (3 : BitVec 64).toNat = 3 := rfl
  have two : (2 : BitVec 64).toNat = 2 := rfl
  have product : (BitVec.ofNat 64 len * 3 / 2).toNat = len * 3 / 2 := by
    simp only [BitVec.toNat_udiv, BitVec.toNat_mul, BitVec.toNat_ofNat, three, two]
    omega
  unfold encodedSize
  simp only [product]
  split <;> omega

theorem rtemgrEncodeDomain_eq {domain : BitVec 32} {name data : List UInt8} (given : data ≠ []) :
    rtemgrEncodeDomain lib .succeeds domain name (some data) =
      emitInto lib (encodedPacket domain name ⟨0, 0, ⟨some data, BitVec.ofNat 64 data.length, ⟨0, 0⟩⟩⟩)
        (encodedSize (BitVec.ofNat 64 data.length)) := by
  cases data with
  | nil => exact (given rfl).elim
  | cons byte rest => rfl

/-- A message for a managed partner is handed on exactly when its document fits. -/
theorem rawHandlerTraffic_managed {Table : Type} {memory : Memory} {st next : Daemon Table} {iface partner : IfacePtr}
    {self other : Interface} {data : List UInt8} {traffic : Traffic}
    (allocated : (∀ size, memory.malloc size = true) ∧ memory.packet = true ∧ memory.interface = true ∧ memory.emit = true)
    (live : st.ifaces.get iface = some self) (routed : self.partner = some partner)
    (partnerLive : st.ifaces.get partner = some other) (managed : other.managed ≠ 0)
    (returned : rawHandlerTraffic lib memory st iface data = .ok (next, traffic)) :
    traffic = [(iface, data)] ↔
      (lib.write (rtemgrDataEmit lib.encode
        (senderPacket self (((st.domainList[self.domain]?).map Domain.id).getD 0) other.name data))).length ≤
          max (data.length * 3 / 2) 512 := by
  obtain ⟨found, packet, interface, emit⟩ := allocated
  obtain ⟨same, read, returned⟩ := bind_ok returned
  obtain rfl := Option.some.inj (live.symm.trans (deref_ok read))
  rw [routed] at returned
  obtain ⟨peer, read, returned⟩ := bind_ok returned
  obtain rfl := Option.some.inj (partnerLive.symm.trans (deref_ok read))
  simp only [if_neg managed, senderDocument, found, packet, interface, emit, Bool.true_and, decide_eq_true_eq] at returned
  split at returned
  next none =>
    obtain ⟨rfl, rfl⟩ := Prod.mk.inj (Except.ok.inj returned)
    refine iff_of_false (by simp) fun fits => ?_
    rw [if_pos fits] at none
    cases none
  next document some =>
    obtain ⟨sent, -, returned⟩ := bind_ok returned
    obtain ⟨rfl, rfl⟩ := Prod.mk.inj (Except.ok.inj returned)
    refine iff_of_true rfl ?_
    split at some
    next fits => exact fits
    next => cases some

def payloadPacket (domain : BitVec 32) (name data : List UInt8) : RtemgrData :=
  encodedPacket domain name ⟨0, 0, ⟨some data, BitVec.ofNat 64 data.length, ⟨0, 0⟩⟩⟩

def messagePacket {Table : Type} (st : Daemon Table) (self other : Interface) (data : List UInt8) : RtemgrData :=
  senderPacket self (((st.domainList[self.domain]?).map Domain.id).getD 0) other.name data

/-- A payload is encoded, and a message for a managed partner handed on, exactly
when its Base64 text, the other scalars and libyaml's markup fit the buffer. -/
theorem managed_packets_fit_iff {lib : EmitLib} (documented : lib.Documented) :
    (∀ domain name data, data ≠ [] → data.length < 18446744073709551616 →
      ((rtemgrEncodeDomain lib .succeeds domain name (some data)).isSome = true ↔
        4 * ((data.length + 2) / 3) + data.length / 54 + 1 + (payloadPacket domain name data).textLength +
          lib.markup (payloadPacket domain name data) ≤ encodedSize (BitVec.ofNat 64 data.length))) ∧
    ∀ (Table : Type) (memory : Memory) (st next : Daemon Table) iface self partner other data traffic,
      (∀ size, memory.malloc size = true) ∧ memory.packet = true ∧ memory.interface = true ∧ memory.emit = true →
      st.ifaces.get iface = some self → self.partner = some partner → st.ifaces.get partner = some other →
      other.managed ≠ 0 → data.length < 18446744073709551616 →
      rawHandlerTraffic lib memory st iface data = .ok (next, traffic) →
      (traffic = [(iface, data)] ↔
        4 * ((data.length + 2) / 3) + data.length / 54 + 1 + (messagePacket st self other data).textLength +
          lib.markup (messagePacket st self other data) ≤ max (data.length * 3 / 2) 512) := by
  refine ⟨fun domain name data given object => ?_, ?_⟩
  · rw [rtemgrEncodeDomain_eq given, documented.emitInto_isSome, encodedPacket, payload_length object]
    rfl
  · intro Table memory st next iface self partner other data traffic allocated live routed partnerLive managed object
      returned
    rw [rawHandlerTraffic_managed allocated live routed partnerLive managed returned, documented.document_length,
      senderPacket, payload_length object]
    rfl

/-- Whatever libyaml adds, payloads of 307 to 660 bytes do not fit. -/
theorem encode_domain_fails {lib : EmitLib} (documented : lib.Documented) (domain : BitVec 32) (name : List UInt8)
    {data : List UInt8} (low : 307 ≤ data.length) (high : data.length ≤ 660) :
    rtemgrEncodeDomain lib .succeeds domain name (some data) = none := by
  have given : data ≠ [] := by
    rintro rfl
    exact absurd low (by decide)
  have exceeds : max (data.length * 3 / 2) 512 < lib.documentSize (payloadPacket domain name data) data.length :=
    documentSize_exceeds rfl low high
  rw [rtemgrEncodeDomain_eq given, ← Option.not_isSome_iff_eq_none, documented.emitInto_isSome, encodedPacket,
    payload_length (by omega), encodedSize_length (by omega)]
  exact Nat.not_le.mpr exceeds

/-- The libraries at their shortest: no markup at all. -/
def scalarsOnly : EmitLib := ⟨Base64.encode, fun events => events.flatMap YamlEvent.text⟩

theorem scalarsOnly_documented : scalarsOnly.Documented where
  encode payload := by
    have noNul := cString_eq_self (Base64.nul_not_mem_encode payload)
    exact (congrArg List.length noNul).trans (Base64.encode_length payload)
  write events := by
    rw [scalarsOnly, scalarsLength, List.length_flatMap]

def rawToManaged : Daemon Unit where
  lib := ⟨(), .empty, .empty, []⟩
  ifaces := (Heap.empty.alloc { freshInterface 0 with partner := some 1 }).alloc { freshInterface 0 with managed := 1 }
  domainList := [⟨0, [0, 1]⟩]
  ctrlIface := none

/-- A byte, in a client's packet and in one of the daemon. -/
theorem managed_packets_fit_iff_byte :
    ((rtemgrEncodeDomain scalarsOnly .succeeds 0 (ascii "a") (some [7])).isSome = true ↔
      4 * ((1 + 2) / 3) + 1 / 54 + 1 + (payloadPacket 0 (ascii "a") [7]).textLength +
        scalarsOnly.markup (payloadPacket 0 (ascii "a") [7]) ≤ encodedSize (BitVec.ofNat 64 1)) ∧
    ∃ next traffic self other, rawHandlerTraffic scalarsOnly (plentyOfMemory 0) rawToManaged 0 [7] = .ok (next, traffic) ∧
      (traffic = [(0, [7])] ↔
        4 * ((1 + 2) / 3) + 1 / 54 + 1 + (messagePacket rawToManaged self other [7]).textLength +
          scalarsOnly.markup (messagePacket rawToManaged self other [7]) ≤ max (1 * 3 / 2) 512) := by
  have fit := managed_packets_fit_iff scalarsOnly_documented
  have handled : (rawHandlerTraffic scalarsOnly (plentyOfMemory 0) rawToManaged 0 [7]).toBool = true := by
    decide +kernel
  refine ⟨fit.1 0 (ascii "a") [7] (by decide) (by decide), ?_⟩
  cases returned : rawHandlerTraffic scalarsOnly (plentyOfMemory 0) rawToManaged 0 [7] with
  | error fault =>
      rw [returned] at handled
      nomatch handled
  | ok value =>
      exact ⟨value.1, value.2, _, _, rfl, fit.2 Unit (plentyOfMemory 0) rawToManaged value.1 0 _ 1 _ [7] value.2
        ⟨fun _ => rfl, rfl, rfl, rfl⟩ rfl rfl rfl (by decide) (by decide) returned⟩

/-- A payload of 340 bytes is given 512 bytes of room. -/
theorem managed_packet_overflows : ¬ ∀ (lib : EmitLib), lib.Documented → ∀ domain name data, data ≠ [] →
    data.length < 18446744073709551616 →
    (rtemgrEncodeDomain lib .succeeds domain name (some data)).isSome = true := by
  intro fits
  have size : (List.replicate 340 (0 : UInt8)).length = 340 := List.length_replicate
  have encoded := fits scalarsOnly scalarsOnly_documented 0 (ascii "a") (List.replicate 340 0)
    (List.ne_nil_of_length_pos (by omega)) (by omega)
  rw [encode_domain_fails scalarsOnly_documented 0 (ascii "a") (by omega) (by omega)] at encoded
  nomatch encoded

end Rteipc
