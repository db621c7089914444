import Rteipc.Rtemgrd.Payload

namespace Rteipc

/-! The texts users write for SPI and I2C devices: a number in hexadecimal for
every byte, with spaces between them. -/

open Data

/-! ## Bytes a user writes -/

/-- The hexadecimal value of a token, modulo 256. -/
def tokenByte (hex : List UInt8) : UInt8 := UInt8.ofNat (numberAt 16 hex % 256).toNat

def tokenBytes (str : List UInt8) : List UInt8 := (tokens str).map tokenByte

/-- `strtoul` returns 255 modulo 256 for a value out of its range. -/
def TokenRead (hex : List UInt8) : Prop :=
  (numberAt 16 hex).natAbs < 18446744073709551616 ∨ numberAt 16 hex % 256 = 255

theorem strtoul_tokenByte_iff (hex : List UInt8) :
    UInt8.ofNat (strtoul hex 16).toNat = tokenByte hex ↔ TokenRead hex := by
  have same (first second : Nat) : UInt8.ofNat first = UInt8.ofNat second ↔ first % 256 = second % 256 := by
    rw [← UInt8.toNat_inj, UInt8.toNat_ofNat', UInt8.toNat_ofNat']
  rw [tokenByte, TokenRead, same, strtoul_eq]
  by_cases inRange : (numberAt 16 hex).natAbs < 18446744073709551616
  · have value : (BitVec.ofInt 64 (numberAt 16 hex)).toNat = (numberAt 16 hex % 18446744073709551616).toNat :=
      BitVec.toNat_ofInt ..
    rw [if_pos inRange, value]
    refine iff_of_true ?_ (.inl inRange)
    omega
  · have largest : (BitVec.allOnes 64).toNat = 18446744073709551615 := rfl
    rw [if_neg inRange, largest]
    omega

/-! ## The array -/

/-- Every space stands between two tokens. -/
def SingleSpaced (str : List UInt8) : Prop := ∀ piece ∈ str.splitOnP (· == 32), piece ≠ []

theorem tokens_length_iff (str : List UInt8) : (tokens str).length = str.count 32 + 1 ↔ SingleSpaced str := by
  rw [← splitOnP_length, tokens, SingleSpaced, List.length_filter_eq_length_iff]
  simp only [ne_eq, decide_not, Bool.not_eq_true', decide_eq_false_iff_not]

/-- A byte for each token, if the text is spaced well and no value is out of range. -/
theorem hexToArray_tokens_iff {str : List UInt8} (given : tokens str ≠ []) :
    hexToArray true str = .ok (tokenBytes str) ↔ SingleSpaced str ∧ ∀ hex ∈ tokens str, TokenRead hex := by
  obtain ⟨arr, rest, read, length, bytes⟩ := hexToArray_ok given
  have numbers : (tokens str).map (fun hex => UInt8.ofNat (strtoul hex 16).toNat) = tokenBytes str ↔
      ∀ hex ∈ tokens str, TokenRead hex := by
    simp only [tokenBytes, List.map_inj_left, strtoul_tokenByte_iff]
  rw [read, Except.ok.injEq, ← tokens_length_iff, ← numbers]
  constructor
  · rintro rfl
    rw [tokenBytes, List.length_map] at length
    have none : rest = [] := by
      have lengths := congrArg List.length bytes
      rw [tokenBytes, List.length_append, List.length_map, List.length_map] at lengths
      exact List.length_eq_zero_iff.mp (by omega)
    rw [none, List.append_nil] at bytes
    exact ⟨length, bytes.symm⟩
  · rintro ⟨count, same⟩
    rw [bytes, same, List.append_right_eq_self]
    rw [bytes, List.length_append, List.length_map, count] at length
    exact List.length_eq_zero_iff.mp (by omega)

theorem tokenBytes_eq_nil_iff (str : List UInt8) : tokenBytes str = [] ↔ tokens str = [] := List.map_eq_nil_iff

/-- Without a token, only an empty text or a failed allocation keeps NULL from `strtoul`. -/
theorem hexToArray_blank_iff {memory : Bool} {str : List UInt8} (blank : tokens str = []) :
    hexToArray memory str = .ok (tokenBytes str) ↔ str = [] ∨ memory = false := by
  rw [(tokenBytes_eq_nil_iff str).mpr blank, hexToArray]
  by_cases empty : str = []
  · simp [empty]
  · cases memory <;> simp [empty, blank]

theorem hexToArray_full_ne {str : List UInt8} (given : tokens str ≠ []) :
    hexToArray false str ≠ .ok (tokenBytes str) := by
  have nothing : hexToArray false str = .ok [] := by
    unfold hexToArray
    split
    · rfl
    · rfl
  rw [nothing, ne_eq, Except.ok.injEq, eq_comm, tokenBytes_eq_nil_iff]
  exact given

/-! ## The device -/

/-- The bytes a transfer puts on the bus. -/
def XferCall.written : XferCall → List UInt8
  | .rteipcSpiXfer _ data len _ => data.take len.toNat
  | .rteipcI2cXfer _ _ data wlen _ => data.take wlen.toNat
  | _ => []

/-- The zeros an SPI transfer needs to read as many bytes as were asked for. -/
def readFill (dest : Interface) (extra : Extra) (size : Nat) : List UInt8 :=
  if dest.busType = EpType.spi.number then List.replicate (extra.rsize.toNat - size) 0 else []

theorem hexCall_written {memory : ManagedMemory} {dest : Interface} {extra : Extra} {value arr : List UInt8}
    {call : XferCall} (read : hexToArray memory.hex (cString value) = .ok arr)
    (called : hexCall memory dest extra value = .ok (some call)) :
    call.written <+: arr ++ readFill dest extra arr.length := by
  unfold hexCall at called
  rw [read] at called
  simp only [bind, Except.bind] at called
  unfold readFill
  split at called
  · nomatch called
  split at called
  next spi =>
    rw [if_pos spi]
    split at called
    next short =>
      split at called
      · nomatch called
      · cases called
        exact List.take_prefix _ _
    next =>
      cases called
      exact (List.take_prefix _ _).trans (List.prefix_append _ _)
  next notSpi =>
    cases called
    rw [if_neg notSpi, List.append_nil]
    exact List.take_prefix _ _

/-- The array has the byte of every token and no other, and so has what is
written to the device, but for the zeros a longer read asks for. -/
structure HexExact (memory : ManagedMemory) (str : List UInt8) : Prop where
  array : hexToArray memory.hex str = .ok (tokenBytes str)
  device : ∀ dest extra value call, cString value = str → hexCall memory dest extra value = .ok (some call) →
    call.written <+: tokenBytes str ++ readFill dest extra (tokens str).length

/-- A text without a token is empty or not copied; one with tokens is copied, has
no space at either end nor two in a row, and only values `strtoul` can tell. -/
def HexSound (memory : ManagedMemory) (str : List UInt8) : Prop :=
  if tokens str = [] then str = [] ∨ memory.hex = false
  else memory.hex = true ∧ SingleSpaced str ∧ ∀ hex ∈ tokens str, TokenRead hex

theorem hex_exact_iff (memory : ManagedMemory) (str : List UInt8) : HexExact memory str ↔ HexSound memory str := by
  have array : hexToArray memory.hex str = .ok (tokenBytes str) ↔ HexSound memory str := by
    unfold HexSound
    split
    next blank => exact hexToArray_blank_iff blank
    next given =>
      cases copied : memory.hex with
      | false =>
          exact iff_of_false (hexToArray_full_ne given) fun sound => nomatch sound.1
      | true =>
          rw [hexToArray_tokens_iff given, eq_self, true_and]
  refine ⟨fun exactly => array.mp exactly.array, fun sound => ⟨array.mpr sound, ?_⟩⟩
  intro dest extra value call text called
  have read := array.mpr sound
  rw [← text] at read
  have written := hexCall_written read called
  rwa [text, tokenBytes, List.length_map] at written

/-- A space at the end is written to the device as a zero. -/
theorem hex_trailing_space : ¬ ∀ str, HexExact .succeeds str := by
  intro exactly
  have array := congrArg Except.toOption (exactly (ascii "0a ")).array
  exact absurd array (by decide +kernel)

end Rteipc
