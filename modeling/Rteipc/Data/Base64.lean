import Mathlib.Data.List.Basic
import Mathlib.Tactic.IntervalCases

namespace Rteipc.Data.Base64

/-! Base64 in lines of 72 characters.

Decoding skips every character outside the alphabet, line ends and padding
included, so it undoes encoding, and its length is decided by the number of
alphabet characters alone.
-/

def char (sextet : Nat) : UInt8 :=
  if sextet < 26 then UInt8.ofNat (65 + sextet)
  else if sextet < 52 then UInt8.ofNat (71 + sextet)
  else if sextet < 62 then UInt8.ofNat (sextet - 4)
  else if sextet = 62 then 43
  else 47

def sextet (byte : UInt8) : Option Nat :=
  if 65 ≤ byte ∧ byte ≤ 90 then some (byte.toNat - 65)
  else if 97 ≤ byte ∧ byte ≤ 122 then some (byte.toNat - 71)
  else if 48 ≤ byte ∧ byte ≤ 57 then some (byte.toNat + 4)
  else if byte = 43 then some 62
  else if byte = 47 then some 63
  else none

def count (text : List UInt8) : Nat := text.countP fun byte => (sextet byte).isSome

/-- The sextets of one group of bytes. -/
def sextets (a b c : UInt8) : List Nat :=
  [a.toNat / 4, a.toNat % 4 * 16 + b.toNat / 16, b.toNat % 16 * 4 + c.toNat / 64, c.toNat % 64]

/-- `groups` counts the groups already on the line. -/
def encodeFrom (groups : Nat) : List UInt8 → List UInt8
  | a :: b :: c :: rest =>
      (sextets a b c).map char ++
        if groups + 1 = 18 then 10 :: encodeFrom 0 rest else encodeFrom (groups + 1) rest
  | [a, b] => ((sextets a b 0).take 3).map char ++ [61, 10]
  | [a] => ((sextets a 0 0).take 2).map char ++ [61, 61, 10]
  | [] => [10]

def encode (payload : List UInt8) : List UInt8 := encodeFrom 0 payload

def decodeSextets : List Nat → List UInt8
  | a :: b :: c :: d :: rest =>
      UInt8.ofNat (a * 4 + b / 16) :: UInt8.ofNat (b * 16 + c / 4) :: UInt8.ofNat (c * 64 + d) ::
        decodeSextets rest
  | [a, b, c] => [UInt8.ofNat (a * 4 + b / 16), UInt8.ofNat (b * 16 + c / 4)]
  | [a, b] => [UInt8.ofNat (a * 4 + b / 16)]
  | _ => []

def decode (text : List UInt8) : List UInt8 := decodeSextets (text.filterMap sextet)

theorem sextet_char {value : Nat} (small : value < 64) : sextet (char value) = some value := by
  interval_cases value <;> rfl

theorem char_ne_nul (value : Nat) : char value ≠ 0 := by
  unfold char
  rw [ne_eq, ← UInt8.toNat_inj]
  split
  · rw [UInt8.toNat_ofNat', UInt8.toNat_zero]
    omega
  split
  · rw [UInt8.toNat_ofNat', UInt8.toNat_zero]
    omega
  split
  · rw [UInt8.toNat_ofNat', UInt8.toNat_zero]
    omega
  split <;> decide

theorem decodeSextets_length (sextets : List Nat) :
    (decodeSextets sextets).length = 3 * sextets.length / 4 := by
  induction sextets using decodeSextets.induct with
  | case1 a b c d rest ih =>
      simp only [decodeSextets, List.length_cons, ih]
      omega
  | case2 | case3 => simp [decodeSextets]
  | case4 sextets notFour notThree notTwo =>
      match sextets with
      | [] | [_] => simp [decodeSextets]
      | [a, b] => exact (notTwo a b rfl).elim
      | [a, b, c] => exact (notThree a b c rfl).elim
      | a :: b :: c :: d :: rest => exact (notFour a b c d rest rfl).elim

/-- Three bytes for every four characters of the alphabet. -/
theorem decode_length (text : List UInt8) : (decode text).length = 3 * count text / 4 := by
  rw [decode, decodeSextets_length, List.length_filterMap_eq_countP, count]

theorem filterMap_char {values : List Nat} (small : ∀ value ∈ values, value < 64) :
    (values.map char).filterMap sextet = values := by
  induction values with
  | nil => rfl
  | cons value rest ih =>
      rw [List.map_cons, List.filterMap_cons, sextet_char (small value List.mem_cons_self)]
      exact congrArg (value :: ·) (ih fun next member => small next (List.mem_cons_of_mem value member))

theorem sextets_small (a b c : UInt8) : ∀ value ∈ sextets a b c, value < 64 := by
  have boundA := a.toNat_lt
  have boundB := b.toNat_lt
  have boundC := c.toNat_lt
  simp only [sextets, List.forall_mem_cons, List.not_mem_nil, false_implies, implies_true, and_true]
  omega

theorem decode_group {a b c : UInt8} (size : Nat) (rest : List UInt8) :
    decode (((sextets a b c).take size).map char ++ rest) =
      decodeSextets ((sextets a b c).take size ++ rest.filterMap sextet) := by
  rw [decode, List.filterMap_append,
    filterMap_char fun value member => sextets_small a b c value (List.mem_of_mem_take member)]

theorem decodeSextets_sextets (a b c : UInt8) (rest : List Nat) :
    decodeSextets (sextets a b c ++ rest) = a :: b :: c :: decodeSextets rest := by
  have boundA := a.toNat_lt
  have boundB := b.toNat_lt
  have boundC := c.toNat_lt
  simp only [sextets, List.cons_append, List.nil_append, decodeSextets, List.cons.injEq, and_true,
    ← UInt8.toNat_inj, UInt8.toNat_ofNat']
  omega

theorem decode_encodeFrom (groups : Nat) (payload : List UInt8) :
    decode (encodeFrom groups payload) = payload := by
  induction groups, payload using encodeFrom.induct with
  | case1 groups a b c rest nextLine sameLine =>
      have later : decode (if groups + 1 = 18 then 10 :: encodeFrom 0 rest
          else encodeFrom (groups + 1) rest) = rest := by
        split
        · exact nextLine
        · exact sameLine
      have whole : (sextets a b c).take 4 = sextets a b c := rfl
      rw [encodeFrom, ← whole, decode_group, whole, decodeSextets_sextets]
      exact congrArg (fun rest => a :: b :: c :: rest) later
  | case2 groups a b =>
      have whole := decodeSextets_sextets a b 0 []
      rw [encodeFrom, decode_group]
      simp only [sextets, decodeSextets, List.append_nil, List.cons.injEq] at whole
      exact congrArg₂ (fun a b => [a, b]) whole.1 whole.2.1
  | case3 groups a =>
      have whole := decodeSextets_sextets a 0 0 []
      rw [encodeFrom, decode_group]
      simp only [sextets, decodeSextets, List.append_nil, List.cons.injEq] at whole
      exact congrArg (fun a => [a]) whole.1
  | case4 groups => rfl

theorem decode_encode (payload : List UInt8) : decode (encode payload) = payload :=
  decode_encodeFrom 0 payload

theorem encodeFrom_length (groups : Nat) (payload : List UInt8) (below : groups < 18) :
    (encodeFrom groups payload).length =
      4 * ((payload.length + 2) / 3) + (groups + payload.length / 3) / 18 + 1 := by
  induction groups, payload using encodeFrom.induct with
  | case1 groups a b c rest newLine sameLine =>
      rw [encodeFrom]
      split
      next full =>
        simp only [List.length_append, List.length_cons, newLine (by decide), sextets, List.length_map, List.length_nil]
        omega
      next room =>
        simp only [List.length_append, sameLine (by omega), sextets, List.length_map, List.length_cons, List.length_nil]
        omega
  | case2 groups a b =>
      simp only [encodeFrom, List.length_append, List.length_map, List.length_take, sextets, List.length_cons,
        List.length_nil]
      omega
  | case3 groups a =>
      simp only [encodeFrom, List.length_append, List.length_map, List.length_take, sextets, List.length_cons,
        List.length_nil]
      omega
  | case4 groups =>
      simp only [encodeFrom, List.length_cons, List.length_nil]
      omega

/-- Four characters for every three bytes, and the ends of the lines. -/
theorem encode_length (payload : List UInt8) :
    (encode payload).length = 4 * ((payload.length + 2) / 3) + payload.length / 54 + 1 := by
  rw [encode, encodeFrom_length 0 payload (by decide)]
  omega

theorem nul_not_mem_encodeFrom (groups : Nat) (payload : List UInt8) : 0 ∉ encodeFrom groups payload := by
  have noChar : ∀ values : List Nat, 0 ∉ values.map char := by
    intro values member
    obtain ⟨value, -, zero⟩ := List.mem_map.mp member
    exact char_ne_nul value zero
  induction groups, payload using encodeFrom.induct with
  | case1 groups a b c rest nextLine sameLine =>
      rw [encodeFrom, List.mem_append]
      intro member
      obtain inGroup | later := member
      · exact noChar _ inGroup
      · split at later
        · exact nextLine (List.mem_of_ne_of_mem (by decide) later)
        · exact sameLine later
  | case2 | case3 =>
      rw [encodeFrom, List.mem_append]
      intro member
      obtain inGroup | padding := member
      · exact noChar _ inGroup
      · exact absurd padding (by decide)
  | case4 =>
      rw [encodeFrom]
      decide

theorem nul_not_mem_encode (payload : List UInt8) : 0 ∉ encode payload := nul_not_mem_encodeFrom 0 payload

end Rteipc.Data.Base64
