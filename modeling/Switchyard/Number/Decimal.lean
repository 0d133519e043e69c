/-!
Numbers from their decimal digits.
-/

set_option autoImplicit false

namespace Switchyard.Number

def ofDigits (digits : List Char) : Nat :=
  digits.foldl (fun number digit => number * 10 + (digit.toNat - 48)) 0

def ofDigitsBelow? (bound : Nat) (chars : List Char) : Option Nat :=
  if !chars.isEmpty && chars.all Char.isDigit && ofDigits chars < bound then some (ofDigits chars)
  else none

end Switchyard.Number
