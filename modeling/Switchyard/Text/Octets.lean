/-!
Runs of octets, the form in which bodies and header values travel, and their hexadecimal text.
-/

set_option autoImplicit false

namespace Switchyard

abbrev Octets := List UInt8

namespace Octets

def hexDigit (value : Nat) : Char :=
  if value < 10 then Char.ofNat (48 + value) else Char.ofNat (87 + value)

def hexValue? (octet : UInt8) : Option Nat :=
  let code := octet.toNat
  if 48 ≤ code ∧ code ≤ 57 then some (code - 48)
  else if 97 ≤ code ∧ code ≤ 102 then some (code - 87)
  else if 65 ≤ code ∧ code ≤ 70 then some (code - 55)
  else none

def toHex (octets : Octets) : String :=
  String.ofList (octets.flatMap fun octet =>
    [hexDigit (octet.toNat / 16), hexDigit (octet.toNat % 16)])

def ofHexPair? (high low : UInt8) : Option UInt8 :=
  match hexValue? high, hexValue? low with
  | some upper, some lower => some (UInt8.ofNat (16 * upper + lower))
  | _, _ => none

def ofHex : Octets → Octets
  | high :: low :: rest => (ofHexPair? high low).toList ++ ofHex rest
  | _ => []

end Octets

end Switchyard
