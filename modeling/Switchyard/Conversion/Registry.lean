import Switchyard.Conversion.Standard
import Switchyard.Failure
import Switchyard.Http.Request
import Switchyard.Media.Negotiation

/-!
Registries of converters.

A registry reads bodies and writes responses with the first of its converters that is able to.
Reading goes by the declared media type, writing by negotiation; a payload that is not there is
neither read nor written.
-/

set_option autoImplicit false

namespace Switchyard.Conversion

open Http (RequestHead Response)
open Media (MediaRange)

/-- Converters, the earlier ones being preferred. -/
structure Registry where
  converters : List Converter

namespace Registry

def standard : Registry :=
  ⟨[.ofOctets, .ofText, .ofJson, .ofForm]⟩

def standardConverter? (name : String) : Option Converter :=
  standard.converters.find? fun converter => converter.name = name

/-- The media type in which a body is read.  A body without one is octets; nothing reads a body
whose declared type is malformed. -/
def declaredType? (head : RequestHead) : Option MediaRange :=
  match head.fields.get? Http.contentTypeName with
  | none => some .octetStream
  | some value => (Text.visible? value).bind MediaRange.parse?

def declaredText (head : RequestHead) : String :=
  match declaredType? head with
  | some contentType => contentType.text
  | none => Text.Utf8.decodeLossy ((head.fields.get? Http.contentTypeName).getD [])

def reader? (registry : Registry) (kind : PayloadKind) (contentType : MediaRange) :
    Option Converter :=
  registry.converters.find? fun converter => converter.canRead kind contentType

/-- The converter for the body of a request, and the media type in which it reads it. -/
def qualified? (registry : Registry) (kind : PayloadKind) (head : RequestHead) :
    Option (Converter × MediaRange) :=
  match declaredType? head with
  | none => none
  | some contentType =>
      (registry.reader? kind contentType).map fun converter => (converter, contentType)

/-- Reads the body of a request.  An empty body has no payload, nor has one that no converter reads
where the method carries none. -/
def read (registry : Registry) (kind : PayloadKind) (head : RequestHead) (body : Octets) :
    Except Failure (Option Payload) :=
  match registry.qualified? kind head with
  | none =>
      if !head.carriesBody || body.isEmpty then .ok none
      else .error (.unsupportedMediaType (declaredText head))
  | some (converter, contentType) =>
      if body.isEmpty then .ok none
      else
        match converter.read body contentType with
        | .ok payload => .ok (some payload)
        | .error reason => .error (.conversionFailed .reading reason)

/-- The media types in which a kind of payload can be written: those given, if there are any, or
else those of the converters that write the kind. -/
def producible (registry : Registry) (kind : PayloadKind) (produces : List MediaRange) :
    List MediaRange :=
  if produces.isEmpty then
    match (registry.converters.filter fun converter => converter.canProduce kind).flatMap
        Converter.media with
    | [] => [.any]
    | supported => supported
  else
    produces

/-- The media type in which something is written that can be produced in some, for a client that
accepts others. -/
def choose (accepted producible : List MediaRange) : Except Failure MediaRange :=
  match MediaRange.negotiate? accepted producible with
  | some selected => .ok selected
  | none => .error (.notAcceptable (MediaRange.join producible))

def select (registry : Registry) (kind : PayloadKind) (accepted produces : List MediaRange) :
    Except Failure MediaRange :=
  choose accepted (registry.producible kind produces)

def writer (registry : Registry) (kind : PayloadKind) (selected : MediaRange) :
    Except Failure Converter :=
  match registry.converters.find? fun converter => converter.canWrite kind selected with
  | some converter => .ok converter
  | none =>
      .error (.conversionFailed .writing s!"no converter writes {kind.name} as {selected.text}")

/-- The content type of a written body, which names the charset unless it names one already. -/
def contentTypeText (selected : MediaRange) (charset : Option String) : String :=
  match charset with
  | none => selected.text
  | some name =>
      match selected.media.parameter? Media.charsetName with
      | some _ => selected.text
      | none => selected.text ++ "; charset=" ++ name

def withContentType (response : Response) (contentType : String) : Except Failure Response :=
  if response.fields.contains Http.contentTypeName then .ok response
  else
    let value := Text.Utf8.encode contentType
    if Http.isFieldValue value then
      .ok { response with fields := response.fields.set Http.contentTypeName value }
    else
      .error (.conversionFailed .writing "failed to parse header value")

def writePayload (registry : Registry) (payload : Payload) (accepted produces : List MediaRange)
    (response : Response) : Except Failure Response := do
  let selected ← registry.select payload.kind accepted produces
  let converter ← registry.writer payload.kind selected
  match converter.write payload with
  | .error reason => .error (.conversionFailed .writing reason)
  | .ok body =>
      let described ← withContentType response (contentTypeText selected converter.charset)
      return { described.withLength body.length with body }

def write (registry : Registry) (payload : Option Payload) (accepted produces : List MediaRange)
    (response : Response) : Except Failure Response :=
  match payload with
  | none => .ok response
  | some present => registry.writePayload present accepted produces response

end Registry

end Switchyard.Conversion
