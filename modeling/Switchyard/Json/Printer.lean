import Switchyard.Json.Value
import Switchyard.Text.Octets

/-!
The compact text of a JSON value: no blanks, members in order, and only quotes, backslashes and
controls escaped.
-/

set_option autoImplicit false

namespace Switchyard.Json

def escapedChar (c : Char) : List Char :=
  if c = '"' then ['\\', '"']
  else if c = '\\' then ['\\', '\\']
  else if c = '\x08' then ['\\', 'b']
  else if c = '\x0c' then ['\\', 'f']
  else if c = '\n' then ['\\', 'n']
  else if c = '\r' then ['\\', 'r']
  else if c = '\t' then ['\\', 't']
  else if c.toNat < 32 then
    ['\\', 'u', '0', '0', Octets.hexDigit (c.toNat / 16), Octets.hexDigit (c.toNat % 16)]
  else [c]

def escaped (text : String) : String :=
  String.ofList ('"' :: text.toList.flatMap escapedChar ++ ['"'])

def Num.text : Num → String
  | .int value => toString value
  | .real value => value.text

mutual

def Value.render : Value → String
  | .null => "null"
  | .bool flag => if flag then "true" else "false"
  | .num number => number.text
  | .text text => escaped text
  | .list items => "[" ++ String.intercalate "," (renderItems items) ++ "]"
  | .object members => "\x7b" ++ String.intercalate "," (renderMembers members) ++ "\x7d"

def renderItems : List Value → List String
  | [] => []
  | item :: rest => item.render :: renderItems rest

def renderMembers : List (String × Value) → List String
  | [] => []
  | (name, value) :: rest => (escaped name ++ ":" ++ value.render) :: renderMembers rest

end

end Switchyard.Json
