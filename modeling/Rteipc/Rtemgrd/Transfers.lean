import Rteipc.Rtemgrd.Payload

namespace Rteipc

/-! Requests for SPI and SYSFS interfaces through the daemon: what a client
encodes is what the daemon transfers. -/

open Data

/-! ## SPI -/

section Spi

theorem spiCmd_concat (len : BitVec 16) (rdmode : Bool) {front : List UInt8} (last : UInt8)
    (bound : front.length < 65536) :
    spiCmd (front ++ [last]) len rdmode =
      ⟨0, 0, ⟨some (hexText front ++ printHexByte last), BitVec.ofNat 64 (5 * front.length + 4),
        ⟨0, if rdmode then len else 0⟩⟩⟩ := by
  obtain ⟨shorter, text⟩ := hexText_concat_take front last
  have size : (BitVec.ofNat 64 (5 * front.length + 4)).toNat = 5 * front.length + 4 := by
    rw [BitVec.toNat_ofNat]
    omega
  unfold spiCmd
  simp only [shorter, size, text]

def spiPacket (domain : BitVec 32) (name data : List UInt8) (len : BitVec 16) (rdmode : Bool) : RtemgrData :=
  encodedPacket domain name (spiCmd (data.take len.toNat) len rdmode)

/-- The text is read back as the bytes it was made of, if it ends in memory where it was cut off. -/
theorem hexToArray_back (front : List UInt8) (last : UInt8) {beyond : List UInt8} (ended : cString beyond = []) :
    hexToArray true (cString (hexText front ++ printHexByte last ++ beyond)) = .ok (front ++ [last]) := by
  have noNul : 0 ∉ hexText front ++ printHexByte last := by
    rw [List.mem_append]
    exact not_or.mpr ⟨nul_not_mem_hexText front, (printHexByte_read last).1⟩
  obtain ⟨arr, rest, read, length, numbers⟩ := hexToArray_hexText front last []
  rw [List.takeWhile_nil, List.append_nil, (printHexByte_read last).2.2] at numbers
  rw [cString_append noNul, ended, read, numbers]
  rw [numbers, List.count_nil, List.length_append, List.length_cons] at length
  obtain rfl : rest = [] := List.length_eq_zero_iff.mp (by omega)
  rfl

theorem hexCall_spi {memory : ManagedMemory} {dest : Interface} {front : List UInt8} {last : UInt8} {len : BitVec 16}
    (rdmode : Bool) (ended : cString memory.packet.beyond = []) (sent : front.length + 1 = len.toNat)
    (bus : dest.busType = EpType.spi.number) :
    hexCall memory dest ⟨0, if rdmode then len else 0⟩ (hexText front ++ printHexByte last ++ memory.packet.beyond) =
      .ok (if memory.hex then some (.rteipcSpiXfer dest.name (front ++ [last]) len rdmode) else none) := by
  cases copied : memory.hex with
  | false => exact hexCall_full copied
  | true =>
      have read := hexToArray_back front last ended
      rw [← copied] at read
      have size : (front ++ [last]).length = len.toNat := by
        rw [List.length_append, List.length_singleton, sent]
      have enough : (if rdmode then len else 0).toNat ≤ (front ++ [last]).length := by
        rw [size]
        split
        · exact Nat.le_refl _
        · exact Nat.zero_le _
      have some : len ≠ 0 := by
        rintro rfl
        exact nomatch sent
      have reads : decide ((if rdmode then len else 0) ≠ 0) = rdmode := by
        cases rdmode with
        | false => rfl
        | true => exact decide_eq_true some
      rw [hexCall_read ⟨0, if rdmode then len else 0⟩ read (by simp) (.inl enough), if_pos bus, size,
        BitVec.ofNat_toNat, BitVec.setWidth_eq, reads, if_pos rfl]

variable {Table : Type} {lib : PacketLib} {memory : ManagedMemory} {st : Daemon Table} {iface found : IfacePtr}
  {dest : Interface} {encodeMemory : EncodeMemory} {domain : BitVec 32} {name document data : List UInt8}
  {len : BitVec 16} {rdmode : Bool}

/-- What a client encodes for an SPI interface is transferred as it was, unless
there is no memory for the array. -/
theorem spi_arrives (undoes : ∀ payload, lib.decode (cString (lib.encode payload)) = payload)
    (encoded : rtemgrSpiEncodeDomain lib.toEmitLib encodeMemory domain name (some data) len rdmode = some document)
    (reads : lib.events document = rtemgrDataEmit lib.encode (spiPacket domain name data len rdmode))
    (bytes : data.length = len.toNat) (noNul : 0 ∉ name) (room : name.length < 16)
    (names : ifaceLookupByName st (domainLookupById st domain) name = some found)
    (live : st.ifaces.get found = some dest) (bus : dest.busType = EpType.spi.number)
    (succeeds : memory.packet.alloc = .succeeds) (ended : cString memory.packet.beyond = []) :
    managedCall lib memory st iface document =
      .ok (if memory.hex then some (.rteipcSpiXfer name data len rdmode) else none) := by
  have wide := len.isLt
  rw [spiPacket, List.take_of_length_le bytes.le] at reads
  obtain rfl | ⟨front, last, rfl⟩ := List.eq_nil_or_concat data
  · have zero : len = 0 := BitVec.eq_of_toNat_eq bytes.symm
    rw [rtemgrSpiEncodeDomain, if_pos zero] at encoded
    cases encoded
  · rw [List.concat_eq_append] at reads bytes ⊢
    rw [List.length_append, List.length_singleton] at bytes
    have cmd := spiCmd_concat len rdmode last (by omega : front.length < 65536)
    rw [managedCall_hexText iface undoes (by omega) cmd reads noNul room names live (.inl bus) succeeds,
      hexCall_spi rdmode ended bytes bus, ifaceLookupByName_name names live]

end Spi

/-- A client writes the bytes 7 and 9 and reads two. -/
theorem spi_arrives_two :
    ∃ document, rtemgrSpiEncodeDomain (PacketLib.receiving (spiPacket 0 (ascii "a") [7, 9] 2 true)).toEmitLib .succeeds
        0 (ascii "a") (some [7, 9]) 2 true = some document ∧
      managedCall (.receiving (spiPacket 0 (ascii "a") [7, 9] 2 true)) .succeeds (oneRaw EpType.spi.number) 0 document =
        .ok (some (.rteipcSpiXfer (ascii "a") [7, 9] 2 true)) := by
  obtain ⟨document, encoded⟩ := Option.isSome_iff_exists.mp (by decide +kernel :
    (rtemgrSpiEncodeDomain (PacketLib.receiving (spiPacket 0 (ascii "a") [7, 9] 2 true)).toEmitLib .succeeds
      0 (ascii "a") (some [7, 9]) 2 true).isSome = true)
  have undoes : ∀ payload, Base64.decode (cString (Base64.encode payload)) = payload := fun payload => by
    rw [cString_eq_self (Base64.nul_not_mem_encode payload), Base64.decode_encode]
  have names : ifaceLookupByName (oneRaw EpType.spi.number) (domainLookupById (oneRaw EpType.spi.number) 0) (ascii "a") =
      some 0 := by
    decide +kernel
  exact ⟨document, encoded, spi_arrives undoes encoded rfl rfl (by decide) (by decide) names rfl rfl rfl rfl⟩

/-! ## The layout of a packet -/

section Layout

variable {lib : EmitLib} {memory : EncodeMemory} {domain : BitVec 32} {name data document : List UInt8}

theorem rtemgrEncodeDomain_some (encoded : rtemgrEncodeDomain lib memory domain name (some data) = some document) :
    data ≠ [] ∧ document = lib.write (rtemgrDataEmit lib.encode (payloadPacket domain name data)) ∧
      document.length ≤ encodedSize (BitVec.ofNat 64 data.length) := by
  cases data with
  | nil => cases encoded
  | cons first rest =>
      simp only [rtemgrEncodeDomain, encodeDomainCmd, emitInto] at encoded
      split at encoded
      · split at encoded
        · split at encoded
          next fits =>
            cases encoded
            exact ⟨List.cons_ne_nil first rest, rfl, fits⟩
          · cases encoded
        · cases encoded
      · cases encoded

end Layout

/-! ## SYSFS -/

section Sysfs

variable {Table : Type} {lib : PacketLib} {memory : ManagedMemory} {st : Daemon Table} {iface found : IfacePtr}
  {dest : Interface} {encodeMemory : EncodeMemory} {domain : BitVec 32} {name document payload : List UInt8}
  {parsed : ParsedPacket} {intf : RtemgrIntf}

end Sysfs

end Rteipc
