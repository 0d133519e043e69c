import Switchyard.Conversion.Converter
import Switchyard.Text.Utf8

/-!
Scripted converters.
-/

set_option autoImplicit false

namespace Switchyard.Script

open Conversion (Converter)
open Media (MediaRange)

/-- A scripted converter: it reads any body as a text that tells what was read, and writes the name
of the kind of any payload, or it fails both ways. -/
structure ConverterScript where
  name : String
  kind : PayloadKind
  media : List MediaRange
  readable : Bool := true
  writable : Bool := true
  charset : Option String := none
  failure : Option String := none
  deriving Repr

namespace ConverterScript

def orFail {α : Type} (script : ConverterScript) (value : α) : Except String α :=
  match script.failure with
  | some reason => .error reason
  | none => .ok value

def converter (script : ConverterScript) : Converter where
  name := script.name
  kind := script.kind
  media := script.media
  readable := script.readable
  writable := script.writable
  charset := script.charset
  read body contentType :=
    script.orFail (.text s!"{script.name}|{contentType.text}|{Text.Utf8.decodeLossy body}")
  write payload := script.orFail (Text.Utf8.encode s!"{script.name}|{payload.kind.name}")

end ConverterScript

end Switchyard.Script
