import Switchyard.Http.Message

/-!
Complete responses: a status, a version, header fields and a body.
-/

set_option autoImplicit false

namespace Switchyard.Http

structure Response where
  status : Status
  version : Version
  fields : Fields
  body : Octets
  deriving Repr, DecidableEq

namespace Response

def ofStatus (status : Status) : Response :=
  ⟨status, .http11, .empty, []⟩

def withBody (status : Status) (contentType : Octets) (body : Octets) : Response :=
  ⟨status, .http11, Fields.empty.set contentTypeName contentType, body⟩

/-- Whether the response itself asks for the connection to be closed, on any of its connection
fields. -/
def wantsClose (response : Response) : Bool :=
  (response.fields.texts connectionName).any (hasOption "close")

/-- Whether the body is framed by a transfer encoding instead of a length. -/
def isChunked (response : Response) : Bool :=
  response.fields.contains transferEncodingName

/-- Says how long the body is, unless its framing is given already. -/
def withLength (response : Response) (length : Nat) : Response :=
  if response.fields.contains contentLengthName || response.isChunked then response
  else { response with fields := response.fields.set contentLengthName (lengthValue length) }

end Response

end Switchyard.Http
