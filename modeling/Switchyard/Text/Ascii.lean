import Switchyard.Text.Octets

/-!
The ASCII letter case, digits and visible characters that the protocol texts are built from.
-/

set_option autoImplicit false

namespace Switchyard.Text

def lowercase (text : String) : String :=
  String.ofList (text.toList.map Char.toLower)

def sameIgnoringCase (left right : String) : Bool :=
  lowercase left == lowercase right

def isDigitOctet (octet : UInt8) : Bool :=
  48 ≤ octet && octet ≤ 57

def isVisibleOctet (octet : UInt8) : Bool :=
  octet == 9 || (32 ≤ octet && octet ≤ 126)

def visible? (octets : Octets) : Option String :=
  if octets.all isVisibleOctet then
    some (String.ofList (octets.map fun octet => Char.ofNat octet.toNat))
  else
    none

end Switchyard.Text
