import Switchyard.Http.Body
import Switchyard.Http.Message
import Switchyard.Http.Target
import Switchyard.Media.MediaType

/-!
Requests: a head, which is what a request says before its body, and the body.
-/

set_option autoImplicit false

namespace Switchyard.Http

open Media (MediaType)

structure RequestHead where
  method : Method
  target : Target
  version : Version
  fields : Fields
  deriving Repr, DecidableEq

namespace RequestHead

def path (head : RequestHead) : String :=
  head.target.path

def query (head : RequestHead) : Option String :=
  head.target.query

def carriesBody (head : RequestHead) : Bool :=
  head.method.carriesBody

def contentType? (head : RequestHead) : Option MediaType :=
  (head.fields.text? contentTypeName).bind MediaType.parse?

/-- Whether the connection stays open after the response.  Since 1.1 it does unless the first
connection field has the option `close`; in 1.0 it does only with the option `keep-alive`; before
that it never does. -/
def isKeepAlive (head : RequestHead) : Bool :=
  let has (option : String) : Bool :=
    (head.fields.text? connectionName).any (hasOption option)
  match head.version with
  | .http11 | .http2 | .http3 => !has "close"
  | .http10 => has "keep-alive"
  | .http09 => false

end RequestHead

structure Request where
  head : RequestHead
  body : Body
  deriving Repr, DecidableEq

structure BodyTooLong where
  length : Nat
  limit : Nat
  deriving Repr, DecidableEq

def BodyTooLong.message (refusal : BodyTooLong) : String :=
  s!"body size too large, current: {refusal.length} exceed the limit {refusal.limit}"

namespace Request

def ofOctets (head : RequestHead) (content : Octets) : Request :=
  ⟨head, .ofOctets content⟩

/-- A request with a body of its own, unless that is longer than the limit. -/
def limited (head : RequestHead) (content : Octets) (limit : Nat) :
    Except BodyTooLong Request :=
  if content.length ≤ limit then .ok (ofOctets head content)
  else .error ⟨content.length, limit⟩

/-- Attaches a lease to the body; the one it holds is given back. -/
def lend (request : Request) (lease : Lease) (trackers : Trackers) : Request × Trackers :=
  ({ request with body := .leased request.body.content lease }, request.body.drop trackers)

def release (request : Request) (trackers : Trackers) : Bool × Request × Trackers :=
  let (now, body, left) := request.body.release trackers
  (now, { request with body }, left)

end Request

end Switchyard.Http
