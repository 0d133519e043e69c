import Switchyard.Text.Ascii
import Switchyard.Text.Blank
import Switchyard.Text.Split
import Switchyard.Text.Utf8

/-!
What requests and responses have in common: methods, versions, status codes and header fields.

`Fields` is an ordered multimap.  Names are kept in lower case, so that two spellings of a name are
one name; a name may have several values, and their order counts.
-/

set_option autoImplicit false

namespace Switchyard.Http

/-- A request method.  Tokens are case-sensitive, so `get` is not `GET`. -/
inductive Method where
  | get
  | post
  | put
  | patch
  | delete
  | other (token : String)
  deriving Repr, DecidableEq

namespace Method

def ofToken (token : String) : Method :=
  if token = "GET" then .get
  else if token = "POST" then .post
  else if token = "PUT" then .put
  else if token = "PATCH" then .patch
  else if token = "DELETE" then .delete
  else .other token

def token : Method → String
  | .get => "GET"
  | .post => "POST"
  | .put => "PUT"
  | .patch => "PATCH"
  | .delete => "DELETE"
  | .other token => token

def carriesBody : Method → Bool
  | .post | .put | .patch => true
  | _ => false

end Method

inductive Version where
  | http09
  | http10
  | http11
  | http2
  | http3
  deriving Repr, DecidableEq

def Version.text : Version → String
  | .http09 => "HTTP/0.9"
  | .http10 => "HTTP/1.0"
  | .http11 => "HTTP/1.1"
  | .http2 => "HTTP/2.0"
  | .http3 => "HTTP/3.0"

def Version.ofNumber? (number : String) : Option Version :=
  if number = "0.9" then some .http09
  else if number = "1.0" then some .http10
  else if number = "1.1" then some .http11
  else if number = "2" then some .http2
  else if number = "3" then some .http3
  else none

structure Status where
  code : Nat
  deriving Repr, DecidableEq

namespace Status

def ok : Status := ⟨200⟩
def badRequest : Status := ⟨400⟩
def notFound : Status := ⟨404⟩
def notAcceptable : Status := ⟨406⟩
def payloadTooLarge : Status := ⟨413⟩
def unsupportedMediaType : Status := ⟨415⟩
def internalServerError : Status := ⟨500⟩
def notImplemented : Status := ⟨501⟩
def serviceUnavailable : Status := ⟨503⟩

end Status

structure Field where
  name : String
  value : Octets
  deriving Repr, DecidableEq

structure Fields where
  entries : List Field
  deriving Repr, DecidableEq

namespace Fields

def empty : Fields := ⟨[]⟩

def get? (fields : Fields) (name : String) : Option Octets :=
  (fields.entries.find? fun field => field.name = name).map Field.value

def getAll (fields : Fields) (name : String) : List Octets :=
  (fields.entries.filter fun field => field.name = name).map Field.value

def contains (fields : Fields) (name : String) : Bool :=
  fields.entries.any fun field => field.name = name

def erase (fields : Fields) (name : String) : Fields :=
  ⟨fields.entries.filter fun field => field.name ≠ name⟩

def append (fields : Fields) (name : String) (value : Octets) : Fields :=
  ⟨fields.entries ++ [⟨name, value⟩]⟩

def set (fields : Fields) (name : String) (value : Octets) : Fields :=
  (fields.erase name).append name value

def setIfAbsent (fields : Fields) (name : String) (value : Octets) : Fields :=
  if fields.contains name then fields else fields.set name value

def text? (fields : Fields) (name : String) : Option String :=
  (fields.get? name).bind Text.visible?

def texts (fields : Fields) (name : String) : List String :=
  (fields.getAll name).filterMap Text.visible?

end Fields

/-- The names of the fields that this library reads and writes. -/
def contentTypeName : String := "content-type"

@[inherit_doc contentTypeName]
def contentLengthName : String := "content-length"

@[inherit_doc contentTypeName]
def transferEncodingName : String := "transfer-encoding"

@[inherit_doc contentTypeName]
def connectionName : String := "connection"

@[inherit_doc contentTypeName]
def acceptName : String := "accept"

@[inherit_doc contentTypeName]
def dateName : String := "date"

@[inherit_doc contentTypeName]
def requestIdName : String := "x-request-id"

/-- A field value that may be written: no control octet but the tab. -/
def isFieldValue (octets : Octets) : Bool :=
  octets.all fun octet => octet == 9 || (32 ≤ octet && octet ≠ 127)

def lengthValue (length : Nat) : Octets :=
  Text.Utf8.encode (toString length)

def hasOption (option value : String) : Bool :=
  (Text.fields ',' value).any fun item => Text.sameIgnoringCase (Text.trim item) option

end Switchyard.Http
