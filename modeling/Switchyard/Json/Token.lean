import Switchyard.Json.Cursor
import Switchyard.Text.Utf8

/-!
The strings of a JSON text, read octet by octet.

The octets that a string stands for must be UTF-8; a flaw in them is reported only when the string
has come to its end.  A leading surrogate takes a second escape, which has to be a trailing one.
Where a string is only passed over, neither rule is applied.
-/

set_option autoImplicit false

namespace Switchyard.Json

inductive StringMode where
  | plain
  | escape
  /-- Inside the four digits of a `u` escape, with `left` of them to come; the value is absent once
  a digit was none.  `lead` is the leading surrogate that the escape follows. -/
  | digits (left : Nat) (value : Option Nat) (lead : Option Nat)
  /-- After a leading surrogate, before the backslash of its partner. -/
  | partner (lead : Nat)
  | partnerEscape (lead : Nat)
  deriving Repr, DecidableEq

def shortEscape? (letter : UInt8) : Option Char :=
  if letter == 34 then some '"'
  else if letter == 92 then some '\\'
  else if letter == 47 then some '/'
  else if letter == 98 then some '\x08'
  else if letter == 102 then some '\x0c'
  else if letter == 110 then some '\n'
  else if letter == 114 then some '\r'
  else if letter == 116 then some '\t'
  else none

def withDigit (value : Option Nat) (octet : UInt8) : Option Nat :=
  match value, Octets.hexValue? octet with
  | some number, some digit => some (number * 16 + digit)
  | _, _ => none

inductive Unit16 where
  | char (c : Char)
  | lead (unit : Nat)
  | faulty (fault : Fault)
  deriving Repr, DecidableEq

/-- The meaning of a `u` escape with the value given, after a leading surrogate if there is one. -/
def unitOf (value : Option Nat) (lead : Option Nat) : Unit16 :=
  match value, lead with
  | none, _ => .faulty .invalidEscape
  | some unit, none =>
      if 0xDC00 ≤ unit ∧ unit ≤ 0xDFFF then .faulty .loneSurrogate
      else if 0xD800 ≤ unit ∧ unit ≤ 0xDBFF then .lead unit
      else .char (Char.ofNat unit)
  | some unit, some first =>
      if unit < 0xDC00 ∨ 0xDFFF < unit then .faulty .loneSurrogate
      else .char (Char.ofNat ((first - 0xD800) * 1024 + (unit - 0xDC00) + 0x10000))

/-- The text of the octets that a string stands for, where `after` is the place after its closing
quote.  A flaw is placed by counting back from there, one column for each octet from the flaw on. -/
def textOf (octets : Octets) (after : Place) : Except Located String :=
  (Text.Utf8.decodeText octets).mapError fun flaw =>
    ⟨.invalidCodePoint, ⟨after.line, after.column - (octets.length - flaw.offset)⟩⟩

def pushChar (c : Char) (reversed : Octets) : Octets :=
  (String.utf8EncodeChar c).reverse ++ reversed

def stringFrom (reversed : Octets) (mode : StringMode) (place : Place) :
    Octets → Except Located (String × Cursor)
  | [] => .error ⟨.endInText, place⟩
  | octet :: rest =>
      let after := place.after octet
      match mode with
      | .plain =>
          if octet == 34 then
            (textOf reversed.reverse after).map fun text => (text, ⟨rest, after⟩)
          else if octet == 92 then
            stringFrom reversed .escape after rest
          else if octet < 32 then
            .error ⟨.controlCharacter, after⟩
          else
            stringFrom (octet :: reversed) .plain after rest
      | .escape =>
          match shortEscape? octet with
          | some c => stringFrom (pushChar c reversed) .plain after rest
          | none =>
              if octet == 117 then stringFrom reversed (.digits 4 (some 0) none) after rest
              else .error ⟨.invalidEscape, after⟩
      | .digits left value lead =>
          let read := withDigit value octet
          if left ≤ 1 then
            match unitOf read lead with
            | .char c => stringFrom (pushChar c reversed) .plain after rest
            | .lead unit => stringFrom reversed (.partner unit) after rest
            | .faulty fault => .error ⟨fault, after⟩
          else
            stringFrom reversed (.digits (left - 1) read lead) after rest
      | .partner lead =>
          if octet == 92 then stringFrom reversed (.partnerEscape lead) after rest
          else .error ⟨.unexpectedEscapeEnd, after⟩
      | .partnerEscape lead =>
          if octet == 117 then stringFrom reversed (.digits 4 (some 0) (some lead)) after rest
          else .error ⟨.unexpectedEscapeEnd, after⟩

def pastString (mode : StringMode) (place : Place) : Octets → Except Located Cursor
  | [] => .error ⟨.endInText, place⟩
  | octet :: rest =>
      let after := place.after octet
      match mode with
      | .escape =>
          if (shortEscape? octet).isSome then pastString .plain after rest
          else if octet == 117 then pastString (.digits 4 (some 0) none) after rest
          else .error ⟨.invalidEscape, after⟩
      | .digits left value lead =>
          let read := withDigit value octet
          if left ≤ 1 then
            if read.isSome then pastString .plain after rest else .error ⟨.invalidEscape, after⟩
          else
            pastString (.digits (left - 1) read lead) after rest
      | _ =>
          if octet == 34 then .ok ⟨rest, after⟩
          else if octet == 92 then pastString .escape after rest
          else if octet < 32 then .error ⟨.controlCharacter, place⟩
          else pastString .plain after rest

namespace Reader

def string : Reader String := fun cursor =>
  stringFrom [] .plain cursor.place cursor.rest

def skipString : Reader Unit := fun cursor =>
  (pastString .plain cursor.place cursor.rest).map fun after => ((), after)

end Reader

end Switchyard.Json
