import Switchyard.Text.Octets
import Switchyard.Text.Printable

/-!
Text in double quotes, as it stands in diagnostics.  Quotes and backslashes are escaped, four
controls have a letter, and every other character that is not printable on its own is written by
its code point.
-/

set_option autoImplicit false

namespace Switchyard.Text

def hexDigits (number : Nat) : List Char :=
  (Nat.toDigits 16 number).map Char.toLower

def escapedCode (c : Char) : List Char :=
  ['\\', 'u', '\x7b'] ++ hexDigits c.toNat ++ ['\x7d']

def quotedChar (c : Char) : List Char :=
  if c = '\x00' then ['\\', '0']
  else if c = '\t' then ['\\', 't']
  else if c = '\r' then ['\\', 'r']
  else if c = '\n' then ['\\', 'n']
  else if c = '"' then ['\\', '"']
  else if c = '\\' then ['\\', '\\']
  else if isExtending c || !isPrintable c then escapedCode c
  else [c]

def quoted (text : String) : String :=
  String.ofList ('"' :: text.toList.flatMap quotedChar ++ ['"'])

def quotedList (texts : List String) : String :=
  "[" ++ String.intercalate ", " (texts.map quoted) ++ "]"

end Switchyard.Text
