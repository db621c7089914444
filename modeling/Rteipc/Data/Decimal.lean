import Mathlib.Data.List.TakeWhile
import Mathlib.Data.Nat.Digits.Lemmas
import Mathlib.Tactic.IntervalCases

namespace Rteipc.Data

/-! Numbers as ASCII texts.

`readNumber` takes the longest prefix of digits of a base, `printDecimal` is
the shortest decimal text. Reading back what was printed is a fact about
`Nat.digits`.
-/

/-- Value of a digit or letter, as in bases up to 36. -/
def digitValue (byte : UInt8) : Option Nat :=
  if 48 ≤ byte ∧ byte ≤ 57 then some (byte.toNat - 48)
  else if 97 ≤ byte ∧ byte ≤ 122 then some (byte.toNat - 87)
  else if 65 ≤ byte ∧ byte ≤ 90 then some (byte.toNat - 55)
  else none

def isDigit (base : Nat) (byte : UInt8) : Bool := (digitValue byte).any (· < base)

def pushDigit (base number : Nat) (byte : UInt8) : Nat := number * base + (digitValue byte).getD 0

def readNumber (base : Nat) (text : List UInt8) : Nat :=
  (text.takeWhile (isDigit base)).foldl (pushDigit base) 0

def decimalDigit (digit : Nat) : UInt8 := UInt8.ofNat (48 + digit)

def printDecimal (number : Nat) : List UInt8 :=
  if number = 0 then [48] else ((Nat.digits 10 number).map decimalDigit).reverse

theorem digitValue_decimalDigit {digit : Nat} (small : digit < 10) :
    digitValue (decimalDigit digit) = some digit := by
  interval_cases digit <;> rfl

theorem isDigit_decimalDigit {digit : Nat} (small : digit < 10) :
    isDigit 10 (decimalDigit digit) = true := by
  simp [isDigit, digitValue_decimalDigit small, small]

theorem isDigit_range {byte : UInt8} (digit : isDigit 10 byte = true) :
    48 ≤ byte.toNat ∧ byte.toNat ≤ 57 := by
  simp only [isDigit, digitValue, UInt8.le_iff_toNat_le, UInt8.reduceToNat] at digit
  split at digit
  next range => exact range
  next =>
    split at digit
    next =>
      have letter := of_decide_eq_true digit
      omega
    next =>
      split at digit
      next =>
        have letter := of_decide_eq_true digit
        omega
      next => exact absurd digit Bool.false_ne_true

theorem foldr_decimalDigit {digits : List Nat} (small : ∀ digit ∈ digits, digit < 10) :
    (digits.map decimalDigit).foldr (fun byte number => pushDigit 10 number byte) 0 =
      Nat.ofDigits 10 digits := by
  induction digits with
  | nil => rfl
  | cons digit rest ih =>
      have later := ih fun next member => small next (List.mem_cons_of_mem digit member)
      rw [List.map_cons, List.foldr_cons, later, Nat.ofDigits_cons, pushDigit,
        digitValue_decimalDigit (small digit List.mem_cons_self), Option.getD_some]
      omega

theorem printDecimal_digits (number : Nat) : ∀ byte ∈ printDecimal number, isDigit 10 byte = true := by
  intro byte member
  unfold printDecimal at member
  split at member
  · rw [List.mem_singleton.mp member]
    rfl
  · obtain ⟨digit, inDigits, rfl⟩ := List.mem_map.mp (List.mem_reverse.mp member)
    exact isDigit_decimalDigit (Nat.digits_lt_base (by decide) inDigits)

theorem readNumber_printDecimal (number : Nat) : readNumber 10 (printDecimal number) = number := by
  rw [readNumber, List.takeWhile_eq_self_iff.mpr (printDecimal_digits number)]
  unfold printDecimal
  split
  next zero => rw [zero]; rfl
  next =>
    rw [List.foldl_reverse, foldr_decimalDigit fun digit => Nat.digits_lt_base (by decide)]
    exact Nat.ofDigits_digits 10 number

/-- A printed number does not begin with a zero unless it is zero. -/
theorem printDecimal_head {number : Nat} (positive : number ≠ 0) :
    ∃ digit rest, printDecimal number = decimalDigit digit :: rest ∧ 0 < digit ∧ digit < 10 := by
  have nonempty : Nat.digits 10 number ≠ [] := Nat.digits_ne_nil_iff_ne_zero.mpr positive
  have split := List.dropLast_concat_getLast nonempty
  refine ⟨(Nat.digits 10 number).getLast nonempty,
    ((Nat.digits 10 number).dropLast.map decimalDigit).reverse, ?_, ?_, ?_⟩
  · rw [printDecimal, if_neg positive]
    conv_lhs => rw [← split, List.map_append, List.reverse_append]
    rfl
  · exact Nat.pos_of_ne_zero (Nat.getLast_digit_ne_zero 10 positive)
  · exact Nat.digits_lt_base (by decide) (List.getLast_mem nonempty)

/-! ## Sizes -/

theorem foldl_pushDigit_lt (base : Nat) {text : List UInt8} (digits : ∀ byte ∈ text, isDigit base byte = true)
    (number : Nat) : text.foldl (pushDigit base) number < (number + 1) * base ^ text.length := by
  induction text generalizing number with
  | nil => simp
  | cons byte rest ih =>
      have later := ih (fun other member => digits other (List.mem_cons_of_mem byte member)) (pushDigit base number byte)
      have digit := digits byte List.mem_cons_self
      have value : (digitValue byte).getD 0 < base := by
        unfold isDigit at digit
        cases found : digitValue byte with
        | none =>
            rw [found] at digit
            nomatch digit
        | some value =>
            rw [found] at digit
            exact of_decide_eq_true digit
      have pushed : pushDigit base number byte + 1 ≤ (number + 1) * base := by
        rw [pushDigit, Nat.add_mul]
        omega
      calc (byte :: rest).foldl (pushDigit base) number
          = rest.foldl (pushDigit base) (pushDigit base number byte) := rfl
        _ < (pushDigit base number byte + 1) * base ^ rest.length := later
        _ ≤ (number + 1) * base * base ^ rest.length := Nat.mul_le_mul_right _ pushed
        _ = (number + 1) * base ^ (byte :: rest).length := by
          rw [List.length_cons, Nat.pow_succ, Nat.mul_assoc, Nat.mul_comm base]

theorem readNumber_lt {base : Nat} (positive : 0 < base) (text : List UInt8) : readNumber base text < base ^ text.length := by
  have digits : ∀ byte ∈ text.takeWhile (isDigit base), isDigit base byte = true := fun _ => List.mem_takeWhile_imp
  have small := foldl_pushDigit_lt base digits 0
  rw [Nat.zero_add, Nat.one_mul] at small
  exact small.trans_le (Nat.pow_le_pow_right positive (List.takeWhile_prefix _).length_le)

end Rteipc.Data
