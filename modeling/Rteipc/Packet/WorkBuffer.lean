import Rteipc.Data.Base64
import Rteipc.Packet.Emit

namespace Rteipc

/-! The buffer `rtemgr_data_emit` encodes a payload in. -/

open Data

def emitBlock : BitVec 64 := 4096

/-- The addition to the size of the characters, for the ends of lines and the NUL. -/
def emitPadding : BitVec 64 := 256

def emitEstimated (s : BitVec 64) : BitVec 64 := ((4 * s / 3 + 3) &&& ~~~3#64) + emitPadding

def emitAllocated (val : RtecmdVal) : BitVec 64 :=
  let estimated := emitEstimated val.s
  if val.v.isSome && decide (emitBlock < estimated) then emitBlock * ((estimated + emitBlock - 1) / emitBlock)
  else emitBlock

/-- The bytes `encode_base64` writes, the NUL with them. -/
def encodeBase64 (payload : List UInt8) : List UInt8 := Base64.encode payload ++ [0]

theorem encodeBase64_length (payload : List UInt8) :
    (encodeBase64 payload).length = 4 * ((payload.length + 2) / 3) + payload.length / 54 + 2 := by
  rw [encodeBase64, List.length_append, Base64.encode_length, List.length_singleton]

theorem clear_two_bits (word : BitVec 64) : (word &&& ~~~3#64).toNat = word.toNat / 4 * 4 := by
  have shifted : word &&& ~~~3#64 = word >>> 2 <<< 2 := by
    apply BitVec.eq_of_getLsbD_eq
    intro bit bound
    have mask : (3#64).getLsbD bit = decide (bit < 2) := by
      change (2 ^ 2 - 1).testBit bit = _
      rw [Nat.testBit_two_pow_sub_one]
    rw [BitVec.getLsbD_and, BitVec.getLsbD_not, mask, BitVec.getLsbD_shiftLeft, BitVec.getLsbD_ushiftRight]
    by_cases low : bit < 2
    · simp [low]
    · simp [low, bound, Nat.add_sub_cancel' (Nat.not_lt.mp low)]
  have size := word.isLt
  rw [shifted, BitVec.toNat_shiftLeft, BitVec.toNat_ushiftRight, Nat.shiftLeft_eq, Nat.shiftRight_eq_div_pow]
  omega

/-- Four thirds, rounded up to a multiple of four. -/
theorem characters_eq (s : Nat) : (4 * s / 3 + 3) / 4 * 4 = 4 * ((s + 2) / 3) := by
  obtain rest | rest | rest : s % 3 = 0 ∨ s % 3 = 1 ∨ s % 3 = 2 := by omega
  all_goals omega

theorem round_up_eq (size : Nat) : 4096 * ((size + 4095) / 4096) = size + (4096 - size % 4096) % 4096 := by
  by_cases whole : size % 4096 = 0
  · omega
  · rw [Nat.mod_eq_of_lt (by omega)]
    omega

variable {s : BitVec 64}

/-- Below 2^61 nothing wraps: four characters for every three bytes or part of them. -/
theorem emitEstimated_toNat (bound : s.toNat < 2 ^ 61) :
    (emitEstimated s).toNat = 4 * ((s.toNat + 2) / 3) + 256 := by
  have characters : (4 * s / 3).toNat = 4 * s.toNat / 3 := by
    rw [BitVec.toNat_udiv, BitVec.toNat_mul]
    change 4 * s.toNat % 18446744073709551616 / 3 = _
    omega
  have rounded : (4 * s / 3 + 3).toNat = 4 * s.toNat / 3 + 3 := by
    rw [BitVec.toNat_add, characters]
    change (4 * s.toNat / 3 + 3) % 18446744073709551616 = _
    omega
  rw [emitEstimated, BitVec.toNat_add, clear_two_bits, rounded, characters_eq]
  change (4 * ((s.toNat + 2) / 3) + 256) % 18446744073709551616 = _
  omega

/-- The size is the estimate, rounded up to a multiple of a block. -/
theorem emitAllocated_toNat {val : RtecmdVal} (given : val.v.isSome) (bound : val.s.toNat < 2 ^ 61) :
    (emitAllocated val).toNat = 4096 * ((4 * ((val.s.toNat + 2) / 3) + 256 + 4095) / 4096) := by
  have estimated := emitEstimated_toNat bound
  have blocks : ((emitEstimated val.s + emitBlock - 1) / emitBlock).toNat =
      (4 * ((val.s.toNat + 2) / 3) + 256 + 4095) / 4096 := by
    rw [BitVec.toNat_udiv, BitVec.toNat_sub, BitVec.toNat_add, estimated]
    change (18446744073709551616 - 1 + (4 * ((val.s.toNat + 2) / 3) + 256 + 4096) % 18446744073709551616) %
      18446744073709551616 / 4096 = _
    omega
  have above : emitBlock < emitEstimated val.s ↔ 4096 < 4 * ((val.s.toNat + 2) / 3) + 256 := by
    rw [BitVec.lt_def, estimated]
    rfl
  unfold emitAllocated
  dsimp only
  rw [given, Bool.true_and]
  split
  next =>
    rw [BitVec.toNat_mul, blocks]
    change 4096 * ((4 * ((val.s.toNat + 2) / 3) + 256 + 4095) / 4096) % 18446744073709551616 = _
    omega
  next below =>
    rw [decide_eq_true_eq, above] at below
    change 4096 = _
    omega

/-- The padding and what rounding adds pay for the ends of at most that many lines. -/
theorem work_buffer_enough_iff (val : RtecmdVal) (extent : val.s.toNat = (val.v.getD []).length)
    (bound : val.s.toNat < 2 ^ 61) :
    (encodeBase64 val.payload).length ≤ (emitAllocated val).toNat ↔
      val.s.toNat / 54 ≤ 254 + (4096 - (4 * ((val.s.toNat + 2) / 3) + 256) % 4096) % 4096 := by
  have whole : val.payload.length = val.s.toNat := by
    rw [RtecmdVal.payload, List.length_take, extent, Nat.min_self]
  rw [encodeBase64_length, whole]
  cases given : val.v with
  | none =>
      have empty : val.s.toNat = 0 := by
        rw [extent, given]
        rfl
      have first : (emitAllocated val).toNat = 4096 := by
        rw [emitAllocated, given]
        rfl
      rw [first, empty]
      decide
  | some bytes =>
      rw [emitAllocated_toNat (Option.isSome_of_eq_some given) bound, round_up_eq]
      omega

/-- An empty packet, whose `v` is NULL. -/
theorem work_buffer_enough_null :
    (encodeBase64 (RtecmdVal.payload ⟨none, 0, ⟨0, 0⟩⟩)).length ≤ (emitAllocated ⟨none, 0, ⟨0, 0⟩⟩).toNat ↔
      (0#64).toNat / 54 ≤ 254 + (4096 - (4 * (((0#64).toNat + 2) / 3) + 256) % 4096) % 4096 :=
  work_buffer_enough_iff ⟨none, 0, ⟨0, 0⟩⟩ rfl (by decide)

/-- For 15148 bytes 20480 are allocated and 20482 written. -/
theorem work_buffer_overruns :
    ¬ ∀ val : RtecmdVal, val.s.toNat = (val.v.getD []).length → val.s.toNat < 2 ^ 61 →
      (encodeBase64 val.payload).length ≤ (emitAllocated val).toNat := by
  intro enough
  let val : RtecmdVal := ⟨some (List.replicate 15148 0), 15148, ⟨0, 0⟩⟩
  have extent : val.s.toNat = (val.v.getD []).length := by
    change 15148 = (List.replicate 15148 (0 : UInt8)).length
    rw [List.length_replicate]
  have written : val.payload.length = 15148 := by
    rw [RtecmdVal.payload, List.length_take, ← extent]
    rfl
  have fits := enough val extent (by decide)
  rw [encodeBase64_length, written] at fits
  revert fits
  decide

end Rteipc
