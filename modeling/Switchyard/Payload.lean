import Switchyard.Form
import Switchyard.Json.Record

/-!
Payloads, the values that handlers take and give: octets, text, JSON and form data.
-/

set_option autoImplicit false

namespace Switchyard

inductive PayloadKind where
  | octets
  | text
  | json
  | form
  deriving Repr, DecidableEq

def PayloadKind.name : PayloadKind → String
  | .octets => "bytes"
  | .text => "text"
  | .json => "json"
  | .form => "form"

def PayloadKind.ofName? (name : String) : Option PayloadKind :=
  [PayloadKind.octets, .text, .json, .form].find? fun kind => kind.name = name

inductive Payload where
  | octets (content : Octets)
  | text (content : String)
  | json (value : Json.Value)
  | form (form : Form)
  deriving Repr

namespace Payload

def kind : Payload → PayloadKind
  | .octets _ => .octets
  | .text _ => .text
  | .json _ => .json
  | .form _ => .form

def octets? : Payload → Option Octets
  | .octets content => some content
  | _ => none

def text? : Payload → Option String
  | .text content => some content
  | _ => none

def form? : Payload → Option Form
  | .form entries => some entries
  | _ => none

/-- What a JSON payload stands for, as `take` sees it, or the reason why there is none. -/
def ofJson {α : Type} (take : Json.Value → Except Json.Fault α) : Payload → Except String α
  | .json value => (take value).mapError Json.Fault.message
  | payload => .error s!"expected a json payload, found {payload.kind.name}"

end Payload

end Switchyard
