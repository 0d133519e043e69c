import Switchyard.Conversion.Registry
import Switchyard.Dispatch.Handler

/-!
Turning answers into responses.
-/

set_option autoImplicit false

namespace Switchyard.Dispatch

open Conversion (Registry)
open Http (Response Status)
open Media (MediaRange)

namespace Answer

/-- The response that an answer stands for before its payload is written: complete, or with a
payload still to be written.  A typed answer gets the status given. -/
inductive Draft where
  | complete (response : Response)
  | unwritten (response : Response) (payload : Option Payload)

def draft (status : Status) : Answer → Draft
  | .raw response => .complete response
  | .typed payload => .unwritten (.ofStatus status) payload
  | .entity own fields payload => .unwritten { Response.ofStatus own with fields } payload

/-- The response that an answer stands for, its payload written in a type that the client accepts
and the handler produces. -/
def render (registry : Registry) (answer : Answer) (accepted produces : List MediaRange) :
    Except Failure Response :=
  match answer.draft .ok with
  | .complete response => .ok response
  | .unwritten response payload => registry.write payload accepted produces response

end Answer

end Switchyard.Dispatch
