import Switchyard.Attempt
import Switchyard.Dispatch.Context
import Switchyard.Http.Response
import Switchyard.Route.Router

/-!
Handlers, the user code that answers requests.

User code acts on a state `σ` of its own.  A handler may wait for an event outside before it acts;
a request is then suspended right before that call.
-/

set_option autoImplicit false

namespace Switchyard.Dispatch

open Http (Fields Method Response Status)
open Media (MediaRange)

inductive Answer where
  | raw (response : Response)
  /-- A payload to be written in a media type of the client's choice. -/
  | typed (payload : Option Payload)
  /-- A payload with a status and header fields of its own. -/
  | entity (status : Status) (fields : Fields) (payload : Option Payload)

structure Work (σ α : Type) where
  /-- Whether the code waits for an event before it acts. -/
  waits : Bool := false
  run : σ → Attempt Cause α × σ

namespace Work

variable {σ α : Type}

def give (value : α) : Work σ α where
  run state := (.returned value, state)

end Work

structure TypedHandler (σ : Type) where
  input : Option PayloadKind := none
  /-- The media types it produces; none stand for all that can be written. -/
  produces : List MediaRange := []
  handle : Context → Option Payload → Work σ Answer

structure RestHandler (σ : Type) where
  input : Option PayloadKind := none
  get : Context → Work σ Answer
  post : Context → Option Payload → Work σ Answer
  put : Context → Option Payload → Work σ Answer := fun _ _ => .give (.typed none)
  patch : Context → Option Payload → Work σ Answer := fun _ _ => .give (.typed none)
  delete : Context → Work σ Answer := fun _ => .give (.typed none)

namespace RestHandler

variable {σ : Type}

/-- The call for the method of a request; methods without a function are not implemented. -/
def handle (handler : RestHandler σ) (context : Context) (input : Option Payload) :
    Work σ Answer :=
  match context.head.method with
  | .get => handler.get context
  | .post => handler.post context input
  | .put => handler.put context input
  | .patch => handler.patch context input
  | .delete => handler.delete context
  | .other _ => .give (.raw (.ofStatus .notImplemented))

end RestHandler

inductive HandlerKind (σ : Type) where
  | typed (handler : TypedHandler σ)
  | rest (handler : RestHandler σ)
  | raw (handle : Context → Work σ Response)
  /-- A handler that only an adapter of the user knows how to call. -/
  | custom

def HandlerKind.name {σ : Type} : HandlerKind σ → String
  | .typed _ => "typed"
  | .rest _ => "rest"
  | .raw _ => "raw"
  | .custom => "custom"

/-- A handler.  Two handlers are the same if their identities are. -/
structure Handler (σ : Type) where
  identity : Nat
  name : String
  kind : HandlerKind σ

instance {σ : Type} : Route.Registrable (Handler σ) where
  name := Handler.name
  identity := Handler.identity

end Switchyard.Dispatch
