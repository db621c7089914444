import Rteipc.Rtemgr.Parameters

namespace Rteipc

/-! The devices of TTY and SPI endpoints, and their speeds and modes. -/

open Data

/-! ## Numbers in the variables -/

/-- A number an `int` can have. -/
def FitsInt (number : Int) : Prop := -2147483648 ≤ number ∧ number < 2147483648

theorem FitsInt.toInt (value : BitVec 32) : FitsInt value.toInt := by
  have low := BitVec.le_toInt value
  have high := BitVec.toInt_lt (x := value)
  exact ⟨by omega, by omega⟩

section Device

variable {path text : List UInt8}

end Device

section Tty

variable {path : List UInt8} {request : Request}

end Tty

/-! ## SPI -/

section Spi

variable {path : List UInt8} {request : Request}

/-- The number `%d` stores, or what the variable held. -/
def scanned (before : BitVec 32) (text : List UInt8) : BitVec 32 := ((scanInt text).map Prod.fst).getD before

end Spi

end Rteipc
