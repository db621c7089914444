import Mathlib.Data.List.Basic
import Rteipc.Data.Decimal

namespace Rteipc

/-! The parts of the C library the packet and URI code uses on texts. A C
string is the list of its bytes without the NUL. -/

open Data

def ascii (text : String) : List UInt8 := text.toList.map fun char => UInt8.ofNat char.toNat

/-- What string functions see of a byte sequence: it ends at the first NUL. -/
def cString (bytes : List UInt8) : List UInt8 := bytes.takeWhile (· ≠ 0)

def strmatch (lh rh : List UInt8) : Bool := lh.length == rh.length && lh == rh

/-- A `char name[size]`. -/
structure CharArray (size : Nat) where
  bytes : List UInt8
  full : bytes.length = size
deriving DecidableEq, Repr

def CharArray.zeroed (size : Nat) : CharArray size := ⟨List.replicate size 0, List.length_replicate⟩

/-- The array read as a C string. Without a NUL inside, C reads on after it. -/
def CharArray.text {size : Nat} (array : CharArray size) : List UInt8 := cString array.bytes

/-- `strncpy(dst, text, sizeof(dst))`: a text of `size` bytes or more leaves no NUL. -/
def strncpy (size : Nat) (text : List UInt8) : CharArray size where
  bytes := text.take size ++ List.replicate (size - text.length) 0
  full := by rw [List.length_append, List.length_take, List.length_replicate]; omega

/-- `snprintf(dst, sizeof(dst), "%s", text)` -/
def snprintf {size : Nat} (dst : CharArray size) (text : List UInt8) : CharArray size where
  bytes := (text.take (size - 1) ++ 0 :: dst.bytes.drop (text.length + 1)).take size
  full := by
    have whole := dst.full
    simp only [List.length_take, List.length_append, List.length_cons, List.length_drop]
    omega

def isspace (byte : UInt8) : Bool := byte = 32 || (9 ≤ byte && byte ≤ 13)

def hexPrefix : List UInt8 → Bool
  | zero :: x :: digit :: _ => zero = 48 && (x = 120 || x = 88) && isDigit 16 digit
  | _ => false

/-- The base `strtoul` reads in, and the digits left after a `0x`. -/
def strtoulBase (base : Nat) (text : List UInt8) : Nat × List UInt8 :=
  if (base = 0 || base = 16) && hexPrefix text then (16, text.drop 2)
  else if base ≠ 0 then (base, text)
  else if text.head? = some 48 then (8, text)
  else (10, text)

def strtoul (text : List UInt8) (base : Nat) : BitVec 64 :=
  let text := text.dropWhile isspace
  let negative := text.head? = some 45
  let (base, digits) :=
    strtoulBase base (if negative || text.head? = some 43 then text.tail else text)
  let number := readNumber base digits
  if number ≥ 18446744073709551616 then BitVec.allOnes 64
  else if negative then -BitVec.ofNat 64 number
  else BitVec.ofNat 64 number

/-- `%d` -/
def printInt (value : BitVec 32) : List UInt8 :=
  if value.toInt < 0 then 45 :: printDecimal value.toInt.natAbs else printDecimal value.toNat

/-- `%u` -/
def printUnsigned (value : BitVec 32) : List UInt8 := printDecimal value.toNat

/-- The number at the start of a text, whatever its size. -/
def numberAt (base : Nat) (text : List UInt8) : Int :=
  let text := text.dropWhile isspace
  let negative := text.head? = some 45
  let (base, digits) :=
    strtoulBase base (if negative || text.head? = some 43 then text.tail else text)
  if negative then -(readNumber base digits : Int) else readNumber base digits

/-- `strtol`, and whether it sets `errno`: a number that does not fit comes back as the nearest that does. -/
def strtol (text : List UInt8) (base : Nat) : Int × Bool :=
  let number := numberAt base text
  if number < -9223372036854775808 then (-9223372036854775808, true)
  else if 9223372036854775807 < number then (9223372036854775807, true)
  else (number, false)

theorem strmatch_iff {lh rh : List UInt8} : strmatch lh rh = true ↔ lh = rh := by
  refine ⟨fun same => ?_, fun same => ?_⟩
  · exact eq_of_beq (Bool.and_eq_true_iff.mp same).2
  · rw [strmatch, same, BEq.rfl, BEq.rfl, Bool.and_self]

theorem cString_eq_self {text : List UInt8} (noNul : 0 ∉ text) : cString text = text := by
  apply List.takeWhile_eq_self_iff.mpr
  intro byte member
  exact decide_eq_true fun zero => noNul (zero ▸ member)

theorem nul_not_mem_cString (bytes : List UInt8) : 0 ∉ cString bytes := by
  intro member
  have kept := List.mem_takeWhile_imp member
  exact absurd rfl (of_decide_eq_true kept)

theorem cString_cString (bytes : List UInt8) : cString (cString bytes) = cString bytes :=
  cString_eq_self (nul_not_mem_cString bytes)

/-- What follows a NUL is not read. -/
theorem cString_append_nul {payload : List UInt8} (nul : 0 ∈ payload) (after : List UInt8) :
    cString (payload ++ after) = cString payload := by
  have shorter : ¬(cString payload).length = payload.length := by
    intro whole
    have same : cString payload = payload := (List.takeWhile_prefix _).eq_of_length whole
    have absent := nul_not_mem_cString payload
    rw [same] at absent
    exact absent nul
  unfold cString at shorter ⊢
  rw [List.takeWhile_append, if_neg shorter]

theorem cString_append {payload : List UInt8} (noNul : 0 ∉ payload) (after : List UInt8) :
    cString (payload ++ after) = payload ++ cString after := by
  apply List.takeWhile_append_of_pos
  intro byte member
  exact decide_eq_true fun zero => noNul (zero ▸ member)

theorem cString_append_zeros (text : List UInt8) (count : Nat) :
    cString (text ++ List.replicate count 0) = cString text := by
  by_cases nul : 0 ∈ text
  · exact cString_append_nul nul _
  · have none : cString (List.replicate count 0) = [] := by
      cases count with
      | zero => rfl
      | succ count => rfl
    rw [cString_append nul, none, List.append_nil, cString_eq_self nul]

theorem strncpy_fits {size : Nat} {text : List UInt8} (noNul : 0 ∉ text) (fits : text.length ≤ size) :
    (strncpy size text).text = text := by
  change cString (text.take size ++ List.replicate (size - text.length) 0) = text
  rw [List.take_of_length_le fits, cString_append_zeros, cString_eq_self noNul]

theorem strncpy_text {size : Nat} {text : List UInt8} (noNul : 0 ∉ text) (room : text.length < size) :
    (strncpy size text).text = text := strncpy_fits noNul (Nat.le_of_lt room)

theorem isDigit_ne {byte other : UInt8} (digit : isDigit 10 byte = true) (letter : isDigit 10 other = false) :
    byte ≠ other := by
  intro same
  rw [same, letter] at digit
  nomatch digit

theorem isDigit_plain {byte : UInt8} (digit : isDigit 10 byte = true) :
    isspace byte = false ∧ byte ≠ 45 ∧ byte ≠ 43 := by
  have notSpace : isspace byte = false := by
    obtain ⟨low, high⟩ := isDigit_range digit
    by_contra space
    simp only [isspace, Bool.not_eq_false, Bool.or_eq_true, Bool.and_eq_true, decide_eq_true_eq,
      UInt8.le_iff_toNat_le, UInt8.reduceToNat, ← UInt8.toNat_inj] at space
    omega
  exact ⟨notSpace, isDigit_ne digit (by decide), isDigit_ne digit (by decide)⟩

theorem not_mem_printDecimal {byte : UInt8} (letter : isDigit 10 byte = false) (number : Nat) :
    byte ∉ printDecimal number :=
  fun member => isDigit_ne (printDecimal_digits number byte member) letter rfl

/-- A number is printed with digits and a minus sign. -/
theorem not_mem_printInt {byte : UInt8} (letter : isDigit 10 byte = false) (notMinus : byte ≠ 45) (value : BitVec 32) :
    byte ∉ printInt value := by
  unfold printInt
  split
  · exact List.not_mem_cons_of_ne_of_not_mem notMinus (not_mem_printDecimal letter _)
  · exact not_mem_printDecimal letter _

theorem cString_printUnsigned (value : BitVec 32) : cString (printUnsigned value) = printUnsigned value :=
  cString_eq_self (not_mem_printDecimal (by decide) _)

theorem cString_printInt (value : BitVec 32) : cString (printInt value) = printInt value :=
  cString_eq_self (not_mem_printInt (by decide) (by decide) value)

private theorem printDecimal_cons (number : Nat) : ∃ byte rest, printDecimal number = byte :: rest := by
  by_cases zero : number = 0
  · exact ⟨48, [], by rw [printDecimal, if_pos zero]⟩
  · obtain ⟨digit, rest, printed, -⟩ := printDecimal_head zero
    exact ⟨decimalDigit digit, rest, printed⟩

theorem printUnsigned_length_pos (value : BitVec 32) : 0 < (printUnsigned value).length := by
  obtain ⟨byte, rest, printed⟩ := printDecimal_cons value.toNat
  rw [printUnsigned, printed]
  exact Nat.succ_pos _

theorem printInt_length_pos (value : BitVec 32) : 0 < (printInt value).length := by
  unfold printInt
  split
  next => exact Nat.succ_pos _
  next => exact printUnsigned_length_pos value

private theorem readNumber_strtoulBase (number : Nat) :
    readNumber (strtoulBase 0 (printDecimal number)).1 (strtoulBase 0 (printDecimal number)).2 = number := by
  by_cases zero : number = 0
  · subst zero
    decide
  · obtain ⟨digit, rest, printed, positive, small⟩ := printDecimal_head zero
    have notZero : decimalDigit digit ≠ 48 := by
      interval_cases digit <;> decide
    have notHex : hexPrefix (printDecimal number) = false := by
      rw [printed]
      match rest with
      | [] => rfl
      | [_] => rfl
      | x :: next :: more => simp [hexPrefix, notZero]
    have notOctal : (printDecimal number).head? ≠ some 48 := by
      rw [printed, List.head?_cons]
      exact fun same => notZero (Option.some.inj same)
    have base : strtoulBase 0 (printDecimal number) = (10, printDecimal number) := by
      rw [strtoulBase, notHex, Bool.and_false, if_neg Bool.false_ne_true, if_neg (not_not.mpr rfl),
        if_neg notOctal]
    rw [base, readNumber_printDecimal]

theorem strtoul_printDecimal {number : Nat} (fits : number < 18446744073709551616) :
    strtoul (printDecimal number) 0 = BitVec.ofNat 64 number := by
  obtain ⟨byte, rest, printed⟩ := printDecimal_cons number
  obtain ⟨notSpace, notMinus, notPlus⟩ := isDigit_plain (printDecimal_digits number byte (printed ▸ List.mem_cons_self))
  have read := readNumber_strtoulBase number
  rw [printed] at read ⊢
  simp only [strtoul, List.dropWhile_cons, notSpace, List.head?_cons, Option.some.injEq, notMinus, notPlus,
    decide_false, Bool.or_self, Bool.false_eq_true, if_false, read]
  rw [if_neg (by omega)]

theorem strtoul_negative {number : Nat} (fits : number < 18446744073709551616) :
    strtoul (45 :: printDecimal number) 0 = -BitVec.ofNat 64 number := by
  have read := readNumber_strtoulBase number
  have minus : isspace 45 = false := by decide
  simp only [strtoul, List.dropWhile_cons, minus, List.head?_cons, List.tail_cons, decide_true, Bool.true_or,
    Bool.false_eq_true, if_false, if_true, read]
  rw [if_neg (by omega)]

/-- A negative number is read as its distance below 2^64, whose low 32 bits are the number again. -/
theorem strtoul_printInt (value : BitVec 32) : (strtoul (printInt value) 0).setWidth 32 = value := by
  unfold printInt
  split
  next negative =>
    have bound : value.toInt.natAbs < 18446744073709551616 := by
      have := BitVec.le_toInt value
      omega
    rw [strtoul_negative bound]
    apply BitVec.eq_of_toNat_eq
    rw [BitVec.toInt_eq_toNat_cond] at negative ⊢
    simp only [BitVec.toNat_setWidth, BitVec.toNat_neg, BitVec.toNat_ofNat]
    omega
  next =>
    have bound := value.isLt
    rw [strtoul_printDecimal (by omega)]
    apply BitVec.eq_of_toNat_eq
    simp only [BitVec.toNat_setWidth, BitVec.toNat_ofNat]
    omega

theorem strtoul_printUnsigned (value : BitVec 32) : strtoul (printUnsigned value) 0 = value.setWidth 64 := by
  have bound := value.isLt
  rw [printUnsigned, strtoul_printDecimal (by omega)]
  apply BitVec.eq_of_toNat_eq
  simp only [BitVec.toNat_setWidth, BitVec.toNat_ofNat]

/-- Beyond 64 bits `strtoul` returns its largest number. -/
theorem strtoul_eq (text : List UInt8) (base : Nat) :
    strtoul text base =
      if (numberAt base text).natAbs < 18446744073709551616 then BitVec.ofInt 64 (numberAt base text)
      else BitVec.allOnes 64 := by
  unfold strtoul numberAt
  simp only
  generalize strtoulBase base _ = read
  generalize readNumber read.1 read.2 = number
  by_cases negative : (text.dropWhile isspace).head? = some 45
  · simp only [negative, if_true, Int.natAbs_neg, Int.natAbs_natCast, BitVec.ofInt_neg]
    by_cases large : number < 18446744073709551616
    · rw [if_neg (by omega), if_pos large, BitVec.ofInt_natCast]
    · rw [if_pos (by omega), if_neg large]
  · simp only [negative, if_false, Int.natAbs_natCast, BitVec.ofInt_natCast]
    by_cases large : number < 18446744073709551616
    · rw [if_neg (by omega), if_pos large]
    · rw [if_pos (by omega), if_neg large]

/-! ## Numbers of a few digits -/

theorem strtoulBase_ten (text : List UInt8) : strtoulBase 10 text = (10, text) := rfl

theorem numberAt_natAbs_lt (text : List UInt8) : (numberAt 10 text).natAbs < 10 ^ text.length := by
  have shorter : (text.dropWhile isspace).length ≤ text.length := (List.dropWhile_suffix isspace).length_le
  have small (digits : List UInt8) (fits : digits.length ≤ text.length) : readNumber 10 digits < 10 ^ text.length :=
    (readNumber_lt (by decide) digits).trans_le (Nat.pow_le_pow_right (by decide) fits)
  have tail : (text.dropWhile isspace).tail.length ≤ text.length := by
    rw [List.length_tail]
    omega
  simp only [numberAt, strtoulBase_ten]
  split
  · rw [Int.natAbs_neg, Int.natAbs_natCast]
    split <;> exact small _ (by assumption)
  · rw [Int.natAbs_natCast]
    split <;> exact small _ (by assumption)

theorem strtol_short {text : List UInt8} (short : text.length ≤ 18) : strtol text 10 = (numberAt 10 text, false) := by
  have small := numberAt_natAbs_lt text
  have bound : 10 ^ text.length ≤ 10 ^ 18 := Nat.pow_le_pow_right (by decide) short
  simp only [strtol]
  rw [if_neg (by omega), if_neg (by omega)]

theorem numberAt_digits {byte : UInt8} {rest : List UInt8} (digit : isDigit 10 byte = true) :
    numberAt 10 (byte :: rest) = readNumber 10 (byte :: rest) := by
  obtain ⟨notSpace, notMinus, notPlus⟩ := isDigit_plain digit
  simp only [numberAt, List.dropWhile_cons, notSpace, List.head?_cons, Option.some.injEq, notMinus, notPlus,
    decide_false, Bool.or_self, Bool.false_eq_true, if_false, strtoulBase_ten]

end Rteipc
