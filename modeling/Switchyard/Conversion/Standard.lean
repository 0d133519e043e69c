import Switchyard.Conversion.Converter
import Switchyard.Json.Printer

/-!
The standard converters.  Octets pass unchanged in every media type; text is UTF-8; JSON is read
and written in its own types; form data is only read.
-/

set_option autoImplicit false

namespace Switchyard.Conversion.Converter

open Media (MediaRange MediaType)

def mismatch (name : String) (payload : Payload) : String :=
  s!"{name} converter cannot handle a {payload.kind.name} payload"

def readableCharsets : List String :=
  ["utf-8", "utf8", "us-ascii"]

/-- The first charset that a media type names and that texts are not read in. -/
def foreignCharset? (contentType : MediaRange) : Option String :=
  (contentType.media.parameter? Media.charsetName).filter fun charset =>
    !readableCharsets.any fun name => Text.sameIgnoringCase charset name

def readText (body : Octets) (contentType : MediaRange) : Except String Payload :=
  match foreignCharset? contentType with
  | some charset => .error s!"unsupported charset '{charset}'"
  | none =>
      match Text.Utf8.decodeText body with
      | .error flaw => .error flaw.message
      | .ok content => .ok (.text content)

def readJson (body : Octets) : Except String Payload :=
  match Json.Value.read body with
  | .error located => .error located.message
  | .ok value => .ok (.json value)

def ofOctets : Converter where
  name := "bytes"
  kind := .octets
  media := [.octetStream, .any]
  read body _ := .ok (.octets body)
  write
    | .octets content => .ok content
    | payload => .error (mismatch "bytes" payload)

def ofText : Converter where
  name := "text"
  kind := .text
  media := [.ofMedia (.bare "text" "plain"), .any]
  charset := some "utf-8"
  read := readText
  write
    | .text content => .ok (Text.Utf8.encode content)
    | payload => .error (mismatch "text" payload)

def ofJson : Converter where
  name := "json"
  kind := .json
  media := [.ofMedia (.bare "application" "json"), .ofMedia (.bare "application" "*+json")]
  read body _ := readJson body
  write
    | .json value => .ok (Text.Utf8.encode value.render)
    | payload => .error (mismatch "json" payload)

def formType : MediaType :=
  .bare "application" "x-www-form-urlencoded"

def ofForm : Converter where
  name := "form"
  kind := .form
  media := [.ofMedia formType]
  writable := false
  read body _ := .ok (.form (.ofOctets body))
  write _ := .error "form converter is read only"

end Switchyard.Conversion.Converter
