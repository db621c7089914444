import Rteipc.Rtemgr.Speeds

namespace Rteipc

/-! The lines of GPIO endpoints. -/

open Data

/-! ## Texts that name a line -/

/-- A consumer up to `@`, a chip up to `-`, a number, and behind a comma a word
that a comma or the end of the text follows. -/
def LineText (text chip : List UInt8) (num : BitVec 32) (word rest : List UInt8) : Prop :=
  ∃ consumer tail, text = consumer ++ 64 :: (chip ++ 45 :: tail) ∧ consumer ≠ [] ∧ 64 ∉ consumer ∧ chip ≠ [] ∧
    45 ∉ chip ∧ scanInt tail = some (num, 44 :: (word ++ rest)) ∧ word ≠ [] ∧ 44 ∉ word ∧ ∀ byte ∈ rest.head?, byte = 44

section Line

variable {text chip word rest : List UInt8} {num : BitVec 32} {devices : Devices}

theorem LineText.noComma (line : LineText text chip num word rest) : 44 ∉ word := by
  obtain ⟨_, _, -, -, -, -, -, -, -, noComma, -⟩ := line
  exact noComma

end Line

/-! ## The text of a request -/

section Request

variable {name chip word rest : List UInt8} {num : BitVec 32} {request : Request}

end Request

/-! ## Command lines -/

end Rteipc
