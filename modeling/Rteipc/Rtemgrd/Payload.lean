import Rteipc.Data.Scan
import Rteipc.Packet.RoundTrip
import Rteipc.Rtemgrd.Encode

namespace Rteipc

/-! The payloads of managed packets as texts: a payload is `s` bytes in memory,
and its consumers for GPIO, SPI and I2C read it up to the first NUL. -/

open Data

/-! ## Numbers in a text -/

theorem tokens_space (front tail : List UInt8) : tokens (front ++ 32 :: tail) = tokens front ++ tokens tail := by
  unfold tokens
  rw [List.splitOnP_append_cons front tail rfl, List.filter_append]

theorem tokens_word {word : List UInt8} (noSpace : 32 ∉ word) (given : word ≠ []) : tokens word = [word] := by
  have single : word.splitOnP (· == 32) = [word] := by
    apply List.splitOnP_eq_singleton
    intro byte member
    exact beq_false_of_ne fun space => noSpace (space ▸ member)
  unfold tokens
  rw [single, List.filter_singleton]
  simp [given]

theorem splitOnP_length (str : List UInt8) : (str.splitOnP (· == 32)).length = str.count 32 + 1 := by
  induction str with
  | nil => rfl
  | cons byte rest ih =>
      rw [List.splitOnP_cons_eq_if_modifyHead]
      by_cases space : byte = 32
      · subst space
        rw [if_pos BEq.rfl, List.length_cons, ih, List.count_cons_self]
      · rw [if_neg (by simpa using space), List.length_modifyHead, ih, List.count_cons_of_ne space]

theorem tokens_ne_nil {str : List UInt8} {byte : UInt8} (member : byte ∈ str) (notSpace : byte ≠ 32) :
    tokens str ≠ [] := by
  unfold tokens
  induction str with
  | nil => nomatch member
  | cons first rest ih =>
      rw [List.splitOnP_cons_eq_if_modifyHead]
      by_cases space : first = 32
      · have later : byte ∈ rest := (List.mem_cons.mp member).resolve_left fun same => notSpace (same.trans space)
        rw [if_pos (beq_iff_eq.mpr space), List.filter_cons_of_neg (by simp)]
        exact ih later
      · rw [if_neg (by simpa using space)]
        cases split : rest.splitOnP (· == 32) with
        | nil => exact (List.splitOnP_ne_nil _ rest split).elim
        | cons word words => simp

/-- The array has a byte for every space and one more, whatever stands between them. -/
theorem hexToArray_ok {str : List UInt8} (given : tokens str ≠ []) :
    ∃ arr rest, hexToArray true str = .ok arr ∧ arr.length = str.count 32 + 1 ∧
      arr = (tokens str).map (fun hex => UInt8.ofNat (strtoul hex 16).toNat) ++ rest := by
  have nonempty : str ≠ [] := by
    rintro rfl
    exact given rfl
  have atMost : (tokens str).length ≤ str.count 32 + 1 :=
    (List.length_filter_le _ _).trans_eq (splitOnP_length str)
  refine ⟨_, List.replicate (str.count 32 + 1 - (tokens str).length) 0, ?_, ?_, rfl⟩
  · simp only [hexToArray, if_neg nonempty, if_neg given, List.length_map, Bool.not_true, Bool.false_eq_true, if_false]
  · rw [List.length_append, List.length_map, List.length_replicate]
    omega

/-- Only a short array is made longer, and only for SPI. -/
theorem hexCall_read {memory : ManagedMemory} {dest : Interface} {value arr : List UInt8} (extra : Extra)
    (read : hexToArray memory.hex (cString value) = .ok arr) (given : arr ≠ [])
    (enough : extra.rsize.toNat ≤ arr.length ∨ dest.busType ≠ EpType.spi.number) :
    hexCall memory dest extra value =
      .ok (some (if dest.busType = EpType.spi.number
        then .rteipcSpiXfer dest.name arr (BitVec.ofNat 16 arr.length) (decide (extra.rsize ≠ 0))
        else .rteipcI2cXfer dest.name extra.addr arr (BitVec.ofNat 16 arr.length) extra.rsize)) := by
  unfold hexCall
  rw [read]
  simp only [bind, Except.bind]
  rw [if_neg given]
  split
  next spi =>
    have long := enough.resolve_right fun other => other spi
    rw [if_neg (by omega)]
  next => rfl

/-! ## The packets of the encoders, parsed -/

section Encoded

variable {Table : Type} {st : Daemon Table} {lib : PacketLib} {domain : BitVec 32} {name : List UInt8}

def encodedIntf (domain : BitVec 32) (name : List UInt8) : RtemgrIntf :=
  storedIntf { freshIntf with domain, name := strncpy 16 name }

theorem ifaceOf_encoded (noNul : 0 ∉ name) (room : name.length < 16) :
    ifaceOf st (encodedIntf domain name) = ifaceLookupByName st (domainLookupById st domain) name := by
  have kept : (strncpy 16 name).text = name := strncpy_text noNul room
  have again : (strncpy 16 (strncpy 16 name).text).text = name := by
    rw [kept, kept]
  exact congrArg (ifaceLookupByName st (domainLookupById st domain)) again

theorem parse_encoded (lib : PacketLib) (undoes : ∀ payload, lib.decode (cString (lib.encode payload)) = payload)
    (domain : BitVec 32) (name : List UInt8) (cmd : Rtecmd) {payload : List UInt8} (given : cmd.val.v = some payload)
    (size : cmd.val.s.toNat = payload.length) (small : payload.length < 4294967296) (nonempty : cmd.val.s ≠ 0) :
    ∃ parsed, rtemgrDataParse lib.decode .succeeds (rtemgrDataEmit lib.encode (encodedPacket domain name cmd)) =
        .packet parsed ∧
      parsed.d.cmd.val = cmd.val ∧
      parsed.d.interfaces = [encodedIntf domain name] := by
  have whole : cmd.val.payload = payload := by
    simp only [RtecmdVal.payload, given, Option.getD_some, size, List.take_length]
  have fits : (encodedPacket domain name cmd).cmd.val.s.toNat < 4294967296 := by
    change cmd.val.s.toNat < _
    omega
  have one : (encodedPacket domain name cmd).interfaces.length < 2147483648 := by
    change 1 < 2147483648
    decide
  refine ⟨_, rtemgrDataParse_ok (parse_emit lib.encode _ fits one) (decodePayload_text rfl nonempty rfl), ?_, rfl⟩
  simp only [storedVal, undoes, encodedPacket, whole]
  rw [← given]

theorem parse_encoded_empty (lib : PacketLib) (domain : BitVec 32) (name : List UInt8) {cmd : Rtecmd}
    (empty : cmd.val.s = 0) :
    ∃ parsed, rtemgrDataParse lib.decode .succeeds (rtemgrDataEmit lib.encode (encodedPacket domain name cmd)) =
        .packet parsed ∧
      parsed.d.cmd.val.s = 0 ∧
      parsed.d.interfaces = [encodedIntf domain name] := by
  have fits : (encodedPacket domain name cmd).cmd.val.s.toNat < 4294967296 := by
    change cmd.val.s.toNat < _
    rw [empty]
    decide
  have one : (encodedPacket domain name cmd).interfaces.length < 2147483648 := by
    change 1 < 2147483648
    decide
  exact ⟨_, rtemgrDataParse_ok (parse_emit lib.encode _ fits one) (decodePayload_empty empty), empty, rfl⟩

end Encoded

/-! ## What follows a payload -/

section Block

variable {Table : Type} {lib : PacketLib} {memory : ManagedMemory} {st : Daemon Table} {iface found : IfacePtr}
  {data decoded : List UInt8} {parsed : ParsedPacket} {intf : RtemgrIntf} {dest : Interface}

/-- The same allocations with something else behind the payload. -/
def ManagedMemory.withBeyond (memory : ManagedMemory) (beyond : List UInt8) : ManagedMemory :=
  { memory with packet := { memory.packet with beyond } }

/-- Where the transfer for a payload takes it as a text. -/
def textCall (memory : ManagedMemory) (dest : Interface) (extra : Extra) (value : List UInt8) :
    Except Fault (Option XferCall) :=
  if dest.busType = EpType.gpio.number then
    .ok (some (.rteipcGpioXfer dest.name (if strmatch (cString value) (ascii "0") then 0 else 1)))
  else hexCall memory dest extra value

def TextBus (busType : BitVec 32) : Prop :=
  busType = EpType.gpio.number ∨ busType = EpType.spi.number ∨ busType = EpType.i2c.number

theorem managedCall_text (memory : ManagedMemory) (iface : IfacePtr)
    (accepted : rtemgrDataParse lib.decode memory.packet.alloc (lib.events data) = .packet parsed)
    (addressed : parsed.d.interfaces = [intf]) (names : ifaceOf st intf = some found)
    (live : st.ifaces.get found = some dest) (bus : TextBus dest.busType)
    (given : parsed.d.cmd.val.v = some decoded) (nonempty : parsed.d.cmd.val.s ≠ 0) :
    managedCall lib memory st iface data =
      textCall memory dest parsed.d.cmd.val.extra
        (decoded ++ memory.packet.beyond ++ List.replicate parsed.d.cmd.val.s.toNat 0) := by
  have received : receivePacket lib memory.packet data =
      .ok (some { parsed.d with cmd.val := parsed.d.cmd.val.inMemory memory.packet.beyond }) := by
    simp only [receivePacket, accepted]
  have stored : parsed.d.cmd.val.inMemory memory.packet.beyond =
      { parsed.d.cmd.val with
          v := some (decoded ++ memory.packet.beyond ++ List.replicate parsed.d.cmd.val.s.toNat 0) } := by
    simp only [RtecmdVal.inMemory, if_neg nonempty, given, Option.map_some]
  have read : deref st.ifaces found = .ok dest := by
    simp only [deref, live]
  simp only [managedCall, received, stored, bind, Except.bind, packetCall, addressed, names, read, if_neg nonempty,
    payloadCall, textCall]
  obtain gpio | spi | i2c := bus
  · rw [gpio]
    rfl
  · rw [spi]
    rfl
  · rw [i2c]
    rfl

/-- The zeros at the end of the memory in the model are past the text. -/
theorem textCall_zeros {extra : Extra} (text : List UInt8) (count : Nat) :
    textCall memory dest extra (text ++ List.replicate count 0) = textCall memory dest extra text := by
  simp only [textCall, hexCall, cString_append_zeros]

theorem strmatch_zero_iff {payload : List UInt8} (given : payload ≠ []) :
    (∀ after₁ after₂, strmatch (cString (payload ++ after₁)) (ascii "0") =
        strmatch (cString (payload ++ after₂)) (ascii "0")) ↔ payload ≠ ascii "0" := by
  refine ⟨?_, fun other after₁ after₂ => ?_⟩
  · rintro same rfl
    exact absurd (same [] [49]) (by decide)
  · by_cases nul : 0 ∈ payload
    · rw [cString_append_nul nul, cString_append_nul nul]
    · have differs : ∀ after, strmatch (cString (payload ++ after)) (ascii "0") = false := by
        intro after
        rw [cString_append nul, ← Bool.not_eq_true, strmatch_iff]
        intro same
        obtain ⟨alone, -⟩ | ⟨empty, -⟩ := List.append_eq_singleton_iff.mp same
        · exact given alone
        · exact other empty
      rw [differs, differs]

theorem hexCall_full {extra : Extra} {value : List UInt8} (full : memory.hex = false) :
    hexCall memory dest extra value = .ok none := by
  have read : hexToArray false (cString value) = .ok [] := by
    unfold hexToArray
    split
    · rfl
    · rfl
  simp only [hexCall, full, read, bind, Except.bind, if_true]

/-- Spaces and a digit behind a payload are read as so many more bytes. -/
theorem hexCall_spaces (dest : Interface) (extra : Extra) {payload : List UInt8} {count : Nat} (noNul : 0 ∉ payload)
    (room : memory.hex = true) (many : extra.rsize.toNat ≤ count) :
    ∃ arr, arr.length = payload.count 32 + count + 1 ∧
      hexCall memory dest extra (payload ++ (List.replicate count 32 ++ [49])) =
        .ok (some (if dest.busType = EpType.spi.number
          then .rteipcSpiXfer dest.name arr (BitVec.ofNat 16 arr.length) (decide (extra.rsize ≠ 0))
          else .rteipcI2cXfer dest.name extra.addr arr (BitVec.ofNat 16 arr.length) extra.rsize)) := by
  have text : cString (payload ++ (List.replicate count 32 ++ [49])) = payload ++ (List.replicate count 32 ++ [49]) := by
    apply cString_eq_self
    simp [noNul]
  have spaces : (payload ++ (List.replicate count 32 ++ [49])).count 32 = payload.count 32 + count := by
    simp
  have digit : 49 ∈ payload ++ (List.replicate count 32 ++ [49]) := by
    simp
  obtain ⟨arr, -, read, length, -⟩ := hexToArray_ok (tokens_ne_nil digit (by decide))
  rw [spaces] at length
  rw [← text, ← room] at read
  exact ⟨arr, length, hexCall_read extra read (List.ne_nil_of_length_eq_add_one length) (.inl (by omega))⟩

theorem hexCall_settled_iff {extra : Extra} {payload : List UInt8} :
    (∀ after₁ after₂, hexCall memory dest extra (payload ++ after₁) = hexCall memory dest extra (payload ++ after₂)) ↔
      0 ∈ payload ∨ memory.hex = false := by
  refine ⟨fun same => ?_, fun settled after₁ after₂ => ?_⟩
  · by_cases nul : 0 ∈ payload
    · exact .inl nul
    · refine .inr (Bool.not_eq_true _ ▸ fun room => ?_)
      obtain ⟨short, shortLength, shortCall⟩ := hexCall_spaces dest extra nul room (Nat.le_refl _)
      obtain ⟨long, longLength, longCall⟩ := hexCall_spaces dest extra nul room (Nat.le_succ _)
      have equal := same (List.replicate extra.rsize.toNat 32 ++ [49]) (List.replicate (extra.rsize.toNat + 1) 32 ++ [49])
      rw [shortCall, longCall] at equal
      have sameArr : short = long := by
        split at equal
        · cases equal
          rfl
        · cases equal
          rfl
      rw [sameArr, longLength] at shortLength
      omega
  · obtain nul | full := settled
    · simp only [hexCall, cString_append_nul nul]
    · rw [hexCall_full full, hexCall_full full]

/-- What the daemon does with a text does not depend on what follows it in memory. -/
def TextSettled (memory : ManagedMemory) (busType : BitVec 32) (payload : List UInt8) : Prop :=
  if busType = EpType.gpio.number then payload ≠ ascii "0" else 0 ∈ payload ∨ memory.hex = false

/-- A packet with `s` bytes of payload leads to the same call whatever follows
them exactly when they are not `0` for GPIO, and hold a NUL for SPI and I2C,
unless no array is made of them. `settled` is the part of the block the decoder
left unwritten. -/
theorem managed_call_settled_iff {settled : List UInt8}
    (accepted : rtemgrDataParse lib.decode memory.packet.alloc (lib.events data) = .packet parsed)
    (addressed : parsed.d.interfaces = [intf]) (names : ifaceOf st intf = some found)
    (live : st.ifaces.get found = some dest) (bus : TextBus dest.busType)
    (given : parsed.d.cmd.val.v = some decoded) (nonempty : parsed.d.cmd.val.s ≠ 0)
    (size : (decoded ++ settled).length = parsed.d.cmd.val.s.toNat) :
    (∀ after₁ after₂, managedCall lib (memory.withBeyond (settled ++ after₁)) st iface data =
        managedCall lib (memory.withBeyond (settled ++ after₂)) st iface data) ↔
      TextSettled memory dest.busType (decoded ++ settled) := by
  have called : ∀ after, managedCall lib (memory.withBeyond (settled ++ after)) st iface data =
      textCall memory dest parsed.d.cmd.val.extra (decoded ++ settled ++ after) := by
    intro after
    have call := managedCall_text (memory.withBeyond (settled ++ after)) iface accepted addressed names live bus given
      nonempty
    rw [call, textCall_zeros, ManagedMemory.withBeyond, List.append_assoc]
    rfl
  have some : decoded ++ settled ≠ [] := by
    intro empty
    rw [empty] at size
    exact nonempty (BitVec.eq_of_toNat_eq size.symm)
  simp only [called, textCall, TextSettled]
  split
  next =>
    have value : ∀ zero zero' : Bool, (if zero then (0 : UInt8) else 1) = (if zero' then 0 else 1) ↔ zero = zero' := by
      decide
    simp only [Except.ok.injEq, Option.some.injEq, XferCall.rteipcGpioXfer.injEq, true_and, value]
    exact strmatch_zero_iff some
  next => exact hexCall_settled_iff

end Block

def oneRaw (busType : BitVec 32) : Daemon Unit where
  lib := ⟨(), .empty, .empty, []⟩
  ifaces := Heap.empty.alloc { freshInterface 0 with name := ascii "a", busType }
  domainList := [⟨0, [0]⟩]
  ctrlIface := none

/-- The packet of `rtemgr_gpio_encode_domain` for a high output. -/
theorem managed_call_settled_one :
    ∃ parsed, rtemgrDataParse Base64.decode .succeeds (rtemgrDataEmit Base64.encode (payloadPacket 0 (ascii "a") [49])) =
        .packet parsed ∧
      ((∀ after₁ after₂, managedCall (.receiving (payloadPacket 0 (ascii "a") [49]))
            (ManagedMemory.succeeds.withBeyond ([] ++ after₁)) (oneRaw EpType.gpio.number) 0 [] =
          managedCall (.receiving (payloadPacket 0 (ascii "a") [49]))
            (ManagedMemory.succeeds.withBeyond ([] ++ after₂)) (oneRaw EpType.gpio.number) 0 []) ↔
        TextSettled .succeeds EpType.gpio.number ([49] ++ [])) := by
  have undoes : ∀ payload, Base64.decode (cString (Base64.encode payload)) = payload := fun payload => by
    rw [cString_eq_self (Base64.nul_not_mem_encode payload), Base64.decode_encode]
  have names : ifaceOf (oneRaw EpType.gpio.number) (encodedIntf 0 (ascii "a")) = some 0 := by
    decide +kernel
  obtain ⟨parsed, accepted, val, interfaces⟩ :=
    parse_encoded (.receiving (payloadPacket 0 (ascii "a") [49])) undoes 0 (ascii "a") ⟨0, 0, ⟨some [49], 1, ⟨0, 0⟩⟩⟩
      rfl rfl (by decide) (by decide)
  refine ⟨parsed, accepted, managed_call_settled_iff accepted interfaces names rfl (.inl rfl) ?_ ?_ ?_⟩
  · rw [val]
  · rw [val]
    decide
  · rw [val]
    rfl

/-- The byte 1 for the I2C bus, as text, and a digit in memory behind it. -/
theorem managed_call_unsettled : ¬ ∀ payload after₁ after₂, payload ≠ [] →
    managedCall (.receiving (payloadPacket 0 (ascii "a") payload)) (ManagedMemory.succeeds.withBeyond after₁)
        (oneRaw EpType.i2c.number) 0 [] =
      managedCall (.receiving (payloadPacket 0 (ascii "a") payload)) (ManagedMemory.succeeds.withBeyond after₂)
        (oneRaw EpType.i2c.number) 0 [] := by
  intro settled
  have same := congrArg Except.toOption (settled (ascii "0x01") [] [53] (by decide))
  exact absurd same (by decide +kernel)

/-! ## Bytes written as text -/

theorem printHexByte_read (byte : UInt8) :
    0 ∉ printHexByte byte ∧ 32 ∉ printHexByte byte ∧
      UInt8.ofNat (strtoul (printHexByte byte) 16).toNat = byte := by
  have all : ∀ number : Fin 256, 0 ∉ printHexByte (UInt8.ofNat number) ∧ 32 ∉ printHexByte (UInt8.ofNat number) ∧
      UInt8.ofNat (strtoul (printHexByte (UInt8.ofNat number)) 16).toNat = UInt8.ofNat number := by
    decide +kernel
  have this := all ⟨byte.toNat, byte.toNat_lt⟩
  rwa [UInt8.ofNat_toNat] at this

theorem tokens_head {word : List UInt8} (noSpace : 32 ∉ word) (given : word ≠ []) (tail : List UInt8) :
    ∃ later, tokens (word ++ tail) = (word ++ tail.takeWhile (· ≠ 32)) :: later := by
  have whole : word ++ tail.takeWhile (· ≠ 32) ≠ [] := by
    simp [given]
  have first : 32 ∉ word ++ tail.takeWhile (· ≠ 32) := by
    intro member
    obtain inWord | inTail := List.mem_append.mp member
    · exact noSpace inWord
    · exact stop_not_mem_takeWhile tail inTail
  have divided : word ++ tail = (word ++ tail.takeWhile (· ≠ 32)) ++ tail.dropWhile (· ≠ 32) := by
    rw [List.append_assoc, List.takeWhile_append_dropWhile]
  obtain ⟨-, nothing⟩ | ⟨later, found⟩ := @dropWhile_stop_cases _ _ 32 tail
  · rw [divided, nothing, List.append_nil]
    exact ⟨[], tokens_word first whole⟩
  · rw [divided, found, tokens_space, tokens_word first whole]
    exact ⟨tokens later, rfl⟩

theorem tokens_hexText (front rest : List UInt8) :
    tokens (hexText front ++ rest) = front.map printHexByte ++ tokens rest := by
  induction front with
  | nil => rfl
  | cons byte front ih =>
      have given : printHexByte byte ≠ [] := nofun
      rw [hexText, List.flatMap_cons, List.append_assoc, List.append_assoc, List.singleton_append, tokens_space,
        tokens_word (printHexByte_read byte).2.1 given]
      exact congrArg (printHexByte byte :: ·) ih

theorem hexText_count (data : List UInt8) : (hexText data).count 32 = data.length := by
  induction data with
  | nil => rfl
  | cons byte rest ih =>
      have none : (printHexByte byte).count 32 = 0 := List.count_eq_zero_of_not_mem (printHexByte_read byte).2.1
      rw [hexText, List.flatMap_cons, List.count_append, List.count_append, none]
      change 0 + 1 + (hexText rest).count 32 = _
      rw [ih, List.length_cons]
      omega

theorem nul_not_mem_hexText (data : List UInt8) : 0 ∉ hexText data := by
  intro member
  obtain ⟨byte, -, zero⟩ := List.mem_flatMap.mp member
  obtain inByte | space := List.mem_append.mp zero
  · exact (printHexByte_read byte).1 inByte
  · exact absurd space (by decide)

/-- The text without its last space, and a `tail` after it, as numbers. -/
theorem hexToArray_hexText (front : List UInt8) (last : UInt8) (tail : List UInt8) :
    ∃ arr rest, hexToArray true (hexText front ++ printHexByte last ++ tail) = .ok arr ∧
      arr.length = front.length + 1 + tail.count 32 ∧
      arr = front ++ UInt8.ofNat (strtoul (printHexByte last ++ tail.takeWhile (· ≠ 32)) 16).toNat :: rest := by
  have noSpace := (printHexByte_read last).2.1
  obtain ⟨later, first⟩ := tokens_head noSpace nofun tail
  have words := tokens_hexText front (printHexByte last ++ tail)
  rw [first, ← List.append_assoc] at words
  have given : tokens (hexText front ++ printHexByte last ++ tail) ≠ [] := by
    rw [words]
    simp
  have numbers : (front.map printHexByte).map (fun hex => UInt8.ofNat (strtoul hex 16).toNat) = front := by
    rw [List.map_map]
    exact List.map_id'' (fun byte => (printHexByte_read byte).2.2) front
  obtain ⟨arr, rest, read, length, arrEq⟩ := hexToArray_ok given
  rw [List.count_append, List.count_append, hexText_count, List.count_eq_zero_of_not_mem noSpace] at length
  rw [words, List.map_append, numbers, List.map_cons, List.append_assoc] at arrEq
  exact ⟨arr, _, read, by omega, arrEq⟩

theorem hexText_length (data : List UInt8) : (hexText data).length = 5 * data.length := by
  induction data with
  | nil => rfl
  | cons byte rest ih =>
      have four : (printHexByte byte ++ [32]).length = 5 := rfl
      rw [hexText, List.flatMap_cons, List.length_append, four, ← hexText, ih, List.length_cons]
      omega

theorem hexText_concat (front : List UInt8) (last : UInt8) :
    hexText (front ++ [last]) = hexText front ++ printHexByte last ++ [32] := by
  simp [hexText]

theorem hexText_concat_length (front : List UInt8) (last : UInt8) :
    (hexText front ++ printHexByte last).length = 5 * front.length + 4 := by
  rw [List.length_append, hexText_length]
  rfl

theorem hexText_concat_take (front : List UInt8) (last : UInt8) :
    (hexText (front ++ [last])).length - 1 = 5 * front.length + 4 ∧
      (hexText (front ++ [last])).take (5 * front.length + 4) = hexText front ++ printHexByte last := by
  have length := hexText_concat_length front last
  rw [hexText_concat]
  refine ⟨?_, List.take_left' length⟩
  rw [List.length_append, length, List.length_singleton, Nat.add_sub_cancel]

theorem i2cCmd_concat (addr rlen : BitVec 16) {front : List UInt8} (last : UInt8) (bound : front.length < 65536) :
    i2cCmd addr (front ++ [last]) rlen =
      ⟨0, 0, ⟨some (hexText front ++ printHexByte last), BitVec.ofNat 64 (5 * front.length + 4), ⟨addr, rlen⟩⟩⟩ := by
  obtain ⟨shorter, text⟩ := hexText_concat_take front last
  have size : (BitVec.ofNat 64 (5 * front.length + 4)).toNat = 5 * front.length + 4 := by
    rw [BitVec.toNat_ofNat]
    omega
  have some : BitVec.ofNat 64 (5 * front.length + 4) ≠ 0 := by
    intro zero
    rw [zero] at size
    exact absurd size (by simp)
  unfold i2cCmd
  simp only [shorter, if_neg some, size, text]

/-! ## Transfers on the I2C bus -/

section I2c

variable {Table : Type} {lib : PacketLib} {memory : ManagedMemory} {st : Daemon Table} {iface found : IfacePtr}
  {dest : Interface} {encodeMemory : EncodeMemory} {domain : BitVec 32} {name document : List UInt8}
  {addr wlen rlen : BitVec 16} {data : Option (List UInt8)}

def i2cPacket (domain : BitVec 32) (name : List UInt8) (addr : BitVec 16) (data : Option (List UInt8))
    (wlen rlen : BitVec 16) : RtemgrData :=
  encodedPacket domain name (i2cCmd addr ((data.getD []).take wlen.toNat) rlen)

/-- `rteipc_i2c_xfer` is called with the address, the bytes and the lengths that were encoded. -/
def I2cArrives (call : Except Fault (Option XferCall)) (name : List UInt8) (addr : BitVec 16)
    (data : Option (List UInt8)) (wlen rlen : BitVec 16) : Prop :=
  ∃ array, call = .ok (some (.rteipcI2cXfer name addr array wlen rlen)) ∧
    array.take wlen.toNat = (data.getD []).take wlen.toNat

/-- There are bytes to write, an array is made of them, and what follows the
payload in memory neither counts as a space nor changes the last number. -/
def I2cIntact (memory : ManagedMemory) (data : Option (List UInt8)) (wlen : BitVec 16) : Prop :=
  wlen ≠ 0 ∧ memory.hex = true ∧ (cString memory.packet.beyond).count 32 % 65536 = 0 ∧
    ∀ last ∈ ((data.getD []).take wlen.toNat).getLast?,
      UInt8.ofNat (strtoul (printHexByte last ++ (cString memory.packet.beyond).takeWhile (· ≠ 32)) 16).toNat = last

theorem rtemgrI2cEncodeDomain_some
    (encoded : rtemgrI2cEncodeDomain lib.toEmitLib encodeMemory domain name addr data wlen rlen = some document) :
    wlen ≠ 0 → data ≠ none := by
  intro some missing
  unfold rtemgrI2cEncodeDomain at encoded
  rw [if_pos (.inr ⟨some, missing⟩)] at encoded
  cases encoded

theorem ifaceLookupByName_name {position : Option Nat} (names : ifaceLookupByName st position name = some found)
    (live : st.ifaces.get found = some dest) : dest.name = name := by
  obtain ⟨position, -, names⟩ := Option.bind_eq_some_iff.mp names
  obtain ⟨domain, -, names⟩ := Option.bind_eq_some_iff.mp names
  have matched := List.find?_some names
  rw [live] at matched
  exact strmatch_iff.mp matched

theorem managedCall_empty (iface : IfacePtr) {parsed : ParsedPacket} {intf : RtemgrIntf}
    (accepted : rtemgrDataParse lib.decode memory.packet.alloc (lib.events document) = .packet parsed)
    (addressed : parsed.d.interfaces = [intf]) (names : ifaceOf st intf = some found)
    (live : st.ifaces.get found = some dest) (empty : parsed.d.cmd.val.s = 0) :
    managedCall lib memory st iface document = .ok none := by
  have received : receivePacket lib memory.packet document = .ok (some parsed.d) := by
    simp only [receivePacket, accepted, RtecmdVal.inMemory, if_pos empty]
  have read : deref st.ifaces found = .ok dest := by
    simp only [deref, live]
  simp only [managedCall, received, bind, Except.bind, packetCall, addressed, names, read, if_pos empty]
  split
  · rfl
  · rfl

/-- The text of the bytes, with whatever follows it in memory, for a destination on the I2C bus. -/
theorem hexCall_hexText (extra : Extra) (front : List UInt8) (last : UInt8) (beyond : List UInt8)
    (bus : dest.busType = EpType.i2c.number) (room : memory.hex = true) :
    ∃ arr rest, hexCall memory dest extra (hexText front ++ printHexByte last ++ beyond) =
        .ok (some (.rteipcI2cXfer dest.name extra.addr arr (BitVec.ofNat 16 arr.length) extra.rsize)) ∧
      arr.length = front.length + 1 + (cString beyond).count 32 ∧
      arr = front ++ UInt8.ofNat
        (strtoul (printHexByte last ++ (cString beyond).takeWhile (· ≠ 32)) 16).toNat :: rest := by
  have noNul : 0 ∉ hexText front ++ printHexByte last := by
    rw [List.mem_append]
    exact not_or.mpr ⟨nul_not_mem_hexText front, (printHexByte_read last).1⟩
  have notSpi : dest.busType ≠ EpType.spi.number := by
    rw [bus]
    decide
  obtain ⟨arr, rest, read, length, bytes⟩ := hexToArray_hexText front last (cString beyond)
  rw [← cString_append noNul, ← room] at read
  have given : arr ≠ [] := by
    rw [← List.length_pos_iff]
    omega
  have call := hexCall_read extra read given (.inr notSpi)
  rw [if_neg notSpi] at call
  exact ⟨arr, rest, call, length, bytes⟩

/-- The call for that text has its bytes and their number only if what follows leaves both alone. -/
theorem hexCall_arrives_iff (memory : ManagedMemory) (addr rlen : BitVec 16) (front : List UInt8) (last : UInt8)
    (bus : dest.busType = EpType.i2c.number)
    (sent : front.length + 1 = wlen.toNat) :
    (∃ array, hexCall memory dest ⟨addr, rlen⟩ (hexText front ++ printHexByte last ++ memory.packet.beyond) =
        .ok (some (.rteipcI2cXfer dest.name addr array wlen rlen)) ∧ array.take wlen.toNat = front ++ [last]) ↔
      memory.hex = true ∧ (cString memory.packet.beyond).count 32 % 65536 = 0 ∧
        UInt8.ofNat (strtoul (printHexByte last ++ (cString memory.packet.beyond).takeWhile (· ≠ 32)) 16).toNat =
          last := by
  cases hex : memory.hex with
  | false =>
      rw [hexCall_full hex]
      refine iff_of_false ?_ fun intact => nomatch intact.1
      rintro ⟨array, call, -⟩
      nomatch call
  | true =>
      obtain ⟨arr, rest, call, length, numbers⟩ := hexCall_hexText ⟨addr, rlen⟩ front last memory.packet.beyond bus hex
      have wide := wlen.isLt
      have short : BitVec.ofNat 16 arr.length = wlen ↔ (cString memory.packet.beyond).count 32 % 65536 = 0 := by
        rw [← BitVec.toNat_inj, BitVec.toNat_ofNat, length]
        omega
      have same : arr.take wlen.toNat = front ++ [last] ↔
          UInt8.ofNat (strtoul (printHexByte last ++ (cString memory.packet.beyond).takeWhile (· ≠ 32)) 16).toNat =
            last := by
        rw [← sent, numbers, List.take_length_add_append, List.append_cancel_left_eq, List.take_succ_cons, List.take_zero,
          List.cons.injEq, eq_self, and_true]
      rw [call, ← short, ← same]
      refine ⟨?_, fun ⟨_, exactly, kept⟩ => ⟨arr, by rw [exactly], kept⟩⟩
      rintro ⟨array, equal, kept⟩
      simp only [Except.ok.injEq, Option.some.injEq, XferCall.rteipcI2cXfer.injEq] at equal
      obtain ⟨-, -, rfl, exactly, -⟩ := equal
      exact ⟨rfl, exactly, kept⟩

/-- The text of some bytes comes to the interface it is for, with whatever follows it in memory. -/
theorem managedCall_hexText (iface : IfacePtr)
    (undoes : ∀ payload, lib.decode (cString (lib.encode payload)) = payload)
    {cmd : Rtecmd} {extra : Extra} {front : List UInt8} {last : UInt8} (bound : front.length < 65536)
    (text : cmd = ⟨0, 0, ⟨some (hexText front ++ printHexByte last), BitVec.ofNat 64 (5 * front.length + 4), extra⟩⟩)
    (reads : lib.events document = rtemgrDataEmit lib.encode (encodedPacket domain name cmd))
    (noNul : 0 ∉ name) (room : name.length < 16)
    (names : ifaceLookupByName st (domainLookupById st domain) name = some found)
    (live : st.ifaces.get found = some dest)
    (bus : dest.busType = EpType.spi.number ∨ dest.busType = EpType.i2c.number)
    (succeeds : memory.packet.alloc = .succeeds) :
    managedCall lib memory st iface document =
      hexCall memory dest extra (hexText front ++ printHexByte last ++ memory.packet.beyond) := by
  have textLength := hexText_concat_length front last
  have small : (hexText front ++ printHexByte last).length < 4294967296 := by
    omega
  have given : cmd.val.v = some (hexText front ++ printHexByte last) := by
    rw [text]
  have size : cmd.val.s.toNat = (hexText front ++ printHexByte last).length := by
    rw [text, textLength, BitVec.toNat_ofNat]
    omega
  have nonempty : cmd.val.s ≠ 0 := by
    intro zero
    rw [zero, textLength] at size
    exact nomatch size
  have same : cmd.val.extra = extra := by
    rw [text]
  obtain ⟨parsed, accepted, val, interfaces⟩ := parse_encoded lib undoes domain name cmd given size small nonempty
  rw [← reads, ← succeeds] at accepted
  rw [← val] at given nonempty same
  have gpio : dest.busType ≠ EpType.gpio.number := by
    obtain bus | bus := bus
    all_goals
      rw [bus]
      decide
  rw [managedCall_text memory iface accepted interfaces ((ifaceOf_encoded noNul room).trans names) live (.inr bus)
    given nonempty, textCall_zeros, textCall, if_neg gpio, same]

/-- What a client encodes for a raw I2C interface arrives as it was exactly when
it has bytes to write and what follows its payload in memory leaves them alone. -/
theorem i2c_arrives_iff (undoes : ∀ payload, lib.decode (cString (lib.encode payload)) = payload)
    (encoded : rtemgrI2cEncodeDomain lib.toEmitLib encodeMemory domain name addr data wlen rlen = some document)
    (reads : lib.events document = rtemgrDataEmit lib.encode (i2cPacket domain name addr data wlen rlen))
    (bytes : ∀ array, data = some array → wlen.toNat ≤ array.length) (noNul : 0 ∉ name) (room : name.length < 16)
    (names : ifaceLookupByName st (domainLookupById st domain) name = some found)
    (live : st.ifaces.get found = some dest) (bus : dest.busType = EpType.i2c.number)
    (succeeds : memory.packet.alloc = .succeeds) :
    I2cArrives (managedCall lib memory st iface document) name addr data wlen rlen ↔ I2cIntact memory data wlen := by
  have wide := wlen.isLt
  have sentLength : ((data.getD []).take wlen.toNat).length = wlen.toNat := by
    rw [List.length_take]
    by_cases zero : wlen = 0
    · rw [zero]
      exact Nat.zero_min _
    · obtain ⟨array, rfl⟩ := Option.ne_none_iff_exists'.mp (rtemgrI2cEncodeDomain_some encoded zero)
      exact Nat.min_eq_left (bytes array rfl)
  unfold I2cArrives I2cIntact
  generalize sent : (data.getD []).take wlen.toNat = sentBytes at sentLength
  rw [i2cPacket, sent] at reads
  obtain rfl | ⟨front, last, rfl⟩ := List.eq_nil_or_concat sentBytes
  · have zero : wlen = 0 := BitVec.eq_of_toNat_eq sentLength.symm
    have empty : (i2cCmd addr [] rlen).val.s = 0 := rfl
    obtain ⟨parsed, accepted, empty, interfaces⟩ := parse_encoded_empty lib domain name empty
    rw [← reads, ← succeeds] at accepted
    rw [managedCall_empty iface accepted interfaces ((ifaceOf_encoded noNul room).trans names) live empty]
    exact iff_of_false nofun fun intact => intact.1 zero
  · rw [List.concat_eq_append] at reads sentLength ⊢
    rw [List.length_append, List.length_singleton] at sentLength
    have some : wlen ≠ 0 := by
      rintro rfl
      exact nomatch sentLength
    have cmd := i2cCmd_concat addr rlen last (by omega : front.length < 65536)
    rw [managedCall_hexText iface undoes (by omega) cmd reads noNul room names live (.inr bus) succeeds]
    have arrives := hexCall_arrives_iff memory addr rlen front last bus sentLength
    rw [ifaceLookupByName_name names live] at arrives
    simp only [arrives, List.getLast?_concat, Option.mem_some_iff, forall_eq', some, true_and, ne_eq,
      not_false_eq_true]

end I2c

/-- A client writes the byte 7 and reads two. -/
theorem i2c_arrives_byte :
    ∃ document, rtemgrI2cEncodeDomain (PacketLib.receiving (i2cPacket 0 (ascii "a") 80 (some [7]) 1 2)).toEmitLib .succeeds
        0 (ascii "a") 80 (some [7]) 1 2 = some document ∧
      (I2cArrives (managedCall (.receiving (i2cPacket 0 (ascii "a") 80 (some [7]) 1 2)) .succeeds
          (oneRaw EpType.i2c.number) 0 document) (ascii "a") 80 (some [7]) 1 2 ↔
        I2cIntact .succeeds (some [7]) 1) := by
  obtain ⟨document, encoded⟩ := Option.isSome_iff_exists.mp (by decide +kernel :
    (rtemgrI2cEncodeDomain (PacketLib.receiving (i2cPacket 0 (ascii "a") 80 (some [7]) 1 2)).toEmitLib .succeeds
      0 (ascii "a") 80 (some [7]) 1 2).isSome = true)
  have undoes : ∀ payload, Base64.decode (cString (Base64.encode payload)) = payload := fun payload => by
    rw [cString_eq_self (Base64.nul_not_mem_encode payload), Base64.decode_encode]
  have names : ifaceLookupByName (oneRaw EpType.i2c.number) (domainLookupById (oneRaw EpType.i2c.number) 0) (ascii "a") =
      some 0 := by
    decide +kernel
  refine ⟨document, encoded, i2c_arrives_iff undoes encoded rfl ?_ (by decide) (by decide) names rfl rfl rfl⟩
  rintro _ ⟨⟩
  exact Nat.le_refl _

/-- Reading alone is accepted by the encoder and dropped by the daemon. -/
theorem i2c_read_dropped : ¬ ∀ addr data wlen rlen document,
    rtemgrI2cEncodeDomain (PacketLib.receiving (i2cPacket 0 (ascii "a") addr data wlen rlen)).toEmitLib .succeeds
        0 (ascii "a") addr data wlen rlen = some document →
      I2cArrives (managedCall (.receiving (i2cPacket 0 (ascii "a") addr data wlen rlen)) .succeeds
        (oneRaw EpType.i2c.number) 0 document) (ascii "a") addr data wlen rlen := by
  intro arrives
  obtain ⟨document, encoded⟩ := Option.isSome_iff_exists.mp (by decide +kernel :
    (rtemgrI2cEncodeDomain (PacketLib.receiving (i2cPacket 0 (ascii "a") 80 none 0 4)).toEmitLib .succeeds
      0 (ascii "a") 80 none 0 4).isSome = true)
  have empty : (i2cCmd 80 [] 4).val.s = 0 := rfl
  obtain ⟨parsed, accepted, empty, interfaces⟩ :=
    parse_encoded_empty (.receiving (i2cPacket 0 (ascii "a") 80 none 0 4)) 0 (ascii "a") empty
  have names : ifaceOf (oneRaw EpType.i2c.number) (encodedIntf 0 (ascii "a")) = some 0 := by
    decide +kernel
  obtain ⟨array, call, -⟩ := arrives 80 none 0 4 document encoded
  rw [managedCall_empty 0 accepted interfaces names rfl empty] at call
  nomatch call

end Rteipc
