import Switchyard.Conversion.Registry

/-!
Writing into a response that its owner goes on to use.

A response is filled in steps: its content type is named, its length is announced, and its body is
set.  Any step may fail, and what the steps before it have done to the response is then not undone.
-/

set_option autoImplicit false

namespace Switchyard.Conversion

open Http (Response)
open Media (MediaRange)

/-- Steps that change a response, and that may break off on the way. -/
abbrev Filling (α : Type) := ExceptT Failure (StateM Response) α

namespace Filling

/-- Names the content type of a response that has none. -/
def nameContentType (contentType : String) : Filling Unit := do
  unless (← get).fields.contains Http.contentTypeName do
    let value := Text.Utf8.encode contentType
    unless Http.isFieldValue value do
      throw (.conversionFailed .writing "failed to parse header value")
    modify fun response =>
      { response with fields := response.fields.set Http.contentTypeName value }

/-- Announces the length of a body, unless its framing is given already. -/
def announceLength (length : Nat) : Filling Unit :=
  modify fun response => response.withLength length

def setBody (body : Octets) : Filling Unit :=
  modify fun response => { response with body }

end Filling

namespace Registry

def bodyOf (converter : Converter) (payload : Payload) : Except Failure Octets :=
  match converter.write payload with
  | .ok body => .ok body
  | .error reason => .error (.conversionFailed .writing reason)

def fillPayload (registry : Registry) (payload : Payload) (accepted produces : List MediaRange) :
    Filling Unit := do
  let selected ← registry.select payload.kind accepted produces
  let converter ← registry.writer payload.kind selected
  let body ← bodyOf converter payload
  Filling.nameContentType (contentTypeText selected converter.charset)
  Filling.announceLength body.length
  Filling.setBody body

/-- Fills a response with a payload in a media type of the client's choice. -/
def fill (registry : Registry) (payload : Option Payload) (accepted produces : List MediaRange) :
    Filling Unit :=
  match payload with
  | none => return
  | some present => registry.fillPayload present accepted produces

end Registry

end Switchyard.Conversion
