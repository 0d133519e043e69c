import Switchyard.Json.Value
import Switchyard.Text.Quoted

/-!
What can be wrong with a JSON text, and the wording of each fault.  A fault found in a text carries
its line and column.
-/

set_option autoImplicit false

namespace Switchyard.Json

inductive Found where
  | null
  | bool (flag : Bool)
  | number (number : Num)
  | text (text : String)
  | list
  | object
  deriving Repr, DecidableEq

def Found.message : Found → String
  | .null => "null"
  | .bool flag => s!"boolean `{flag}`"
  | .number (.int value) => s!"integer `{value}`"
  | .number (.real value) => s!"floating point `{value.text}`"
  | .text content => "string " ++ Text.quoted content
  | .list => "sequence"
  | .object => "map"

def Value.found : Value → Found
  | .null => .null
  | .bool flag => .bool flag
  | .num number => .number number
  | .text content => .text content
  | .list _ => .list
  | .object _ => .object

/-- A fault of a JSON text, or of its contents for the purpose it is read for. -/
inductive Fault where
  | endInList
  | endInObject
  | endInText
  | endInValue
  | colonExpected
  | listDelimiterExpected
  | objectDelimiterExpected
  | wordExpected
  | valueExpected
  | invalidEscape
  | invalidNumber
  | numberOutOfRange
  | invalidCodePoint
  | controlCharacter
  | nameExpected
  | loneSurrogate
  | unexpectedEscapeEnd
  | trailingComma
  | trailingCharacters
  | tooDeep
  | wrongType (found : Found) (expected : String)
  | wrongValue (found : Found) (expected : String)
  | wrongLength (length : Nat) (expected : String)
  | unknownVariant (name : String) (variants : List String)
  | duplicateField (name : String)
  | missingField (name : String)
  deriving Repr, DecidableEq

def choice (names : List String) : String :=
  match names with
  | [] => "there are no variants"
  | [only] => s!"expected `{only}`"
  | [first, second] => s!"expected `{first}` or `{second}`"
  | several =>
      "expected one of " ++ String.intercalate ", " (several.map fun name => s!"`{name}`")

def Fault.message : Fault → String
  | .endInList => "EOF while parsing a list"
  | .endInObject => "EOF while parsing an object"
  | .endInText => "EOF while parsing a string"
  | .endInValue => "EOF while parsing a value"
  | .colonExpected => "expected `:`"
  | .listDelimiterExpected => "expected `,` or `]`"
  | .objectDelimiterExpected => "expected `,` or `\x7d`"
  | .wordExpected => "expected ident"
  | .valueExpected => "expected value"
  | .invalidEscape => "invalid escape"
  | .invalidNumber => "invalid number"
  | .numberOutOfRange => "number out of range"
  | .invalidCodePoint => "invalid unicode code point"
  | .controlCharacter =>
      "control character (\\u0000-\\u001F) found while parsing a string"
  | .nameExpected => "key must be a string"
  | .loneSurrogate => "lone leading surrogate in hex escape"
  | .unexpectedEscapeEnd => "unexpected end of hex escape"
  | .trailingComma => "trailing comma"
  | .trailingCharacters => "trailing characters"
  | .tooDeep => "recursion limit exceeded"
  | .wrongType found expected => s!"invalid type: {found.message}, expected {expected}"
  | .wrongValue found expected => s!"invalid value: {found.message}, expected {expected}"
  | .wrongLength length expected => s!"invalid length {length}, expected {expected}"
  | .unknownVariant name variants => s!"unknown variant `{name}`, {choice variants}"
  | .duplicateField name => s!"duplicate field `{name}`"
  | .missingField name => s!"missing field `{name}`"

/-- A place in a text: its line, counted from one, and the octets of that line before it. -/
structure Place where
  line : Nat
  column : Nat
  deriving Repr, DecidableEq

namespace Place

def first : Place := ⟨1, 0⟩

def after (place : Place) (octet : UInt8) : Place :=
  if octet == 10 then ⟨place.line + 1, 0⟩ else ⟨place.line, place.column + 1⟩

end Place

structure Located where
  fault : Fault
  place : Place
  deriving Repr, DecidableEq

def Located.message (located : Located) : String :=
  s!"{located.fault.message} at line {located.place.line} column {located.place.column}"

end Switchyard.Json
