import Rteipc.Clib

namespace Rteipc

/-! What `%d` of `scanf` reads, and what it makes of numbers `printf` wrote. -/

open Data

/-- `%d`: the number that is stored and the text that is left. -/
def scanInt (text : List UInt8) : Option (BitVec 32 × List UInt8) :=
  let text := text.dropWhile isspace
  let digits := if text.head? = some 45 || text.head? = some 43 then text.tail else text
  if digits.takeWhile (isDigit 10) = [] then none
  else some (BitVec.ofInt 32 (strtol text 10).1, digits.dropWhile (isDigit 10))

section Digits

variable {digits rest : List UInt8}

end Digits

/-! ## Numbers of `printf` -/

end Rteipc
