import Switchyard.Dispatch.Interceptor
import Switchyard.Script.Fault

/-!
Scripted interceptors.  Every call writes a line that begins with the name of the interceptor.
-/

set_option autoImplicit false

namespace Switchyard.Script

open Dispatch (Context Exchange Handler Interceptor)
open Http (Field Response Status)

/-- What is done before the handler: a text is left in the exchange, then a response; then a fault
comes, or the request is stopped or not. -/
structure BeforeScript where
  leaves : Option String := none
  response : Option Response := none
  fault : Option Fault := none
  stops : Bool := false
  deriving Repr

/-- What is done after the handler: the response gets a field, a status and a body; the response
left in the exchange is taken; then a fault comes. -/
structure BehindScript where
  field : Option Field := none
  status : Option Status := none
  body : Option Octets := none
  takes : Bool := false
  fault : Option Fault := none
  deriving Repr

structure InterceptorScript where
  name : String
  before : BeforeScript := {}
  behind : BehindScript := {}
  last : Option Fault := none
  deriving Repr

/-- The name of the attribute under which texts are left. -/
def stashName : String := "stash"

def stashed (exchange : Exchange) : List String :=
  exchange.attributes.filterMap fun entry =>
    match entry with
    | (name, .text content) => if name = stashName then some content else none
    | _ => none

def BeforeScript.leave (script : BeforeScript) (exchange : Exchange) : Exchange :=
  { exchange with
    attributes := exchange.attributes ++
      (script.leaves.map fun content => (stashName, Json.Value.text content)).toList
    response := script.response.or exchange.response }

def BehindScript.change (script : BehindScript) (response : Response) : Response where
  status := script.status.getD response.status
  version := response.version
  fields :=
    match script.field with
    | some field => response.fields.append field.name field.value
    | none => response.fields
  body := script.body.getD response.body

namespace InterceptorScript

def line (script : InterceptorScript) (words : List String) : String :=
  String.intercalate ":" (script.name :: words)

def behindLines (script : InterceptorScript) (exchange : Exchange) (response : Response) :
    List String :=
  script.line ["post", toString response.status.code, String.intercalate "," (stashed exchange)] ::
    if script.behind.takes then [script.line ["slot", toString exchange.response.isSome]] else []

def lastLine (script : InterceptorScript) (exchange : Exchange) (failure : Option Failure) :
    String :=
  script.line
    (["after", (failure.map Failure.kind).getD "ok"] ++
      (exchange.response.map fun response => toString response.status.code).toList)

def interceptor (script : InterceptorScript) : Interceptor Journal where
  preHandle exchange handler journal :=
    ((Fault.attemptOr script.before.fault !script.before.stops, script.before.leave exchange),
      journal ++ [script.line ["pre", handler.name, exchange.context.head.path]])
  postHandle exchange _ response journal :=
    ((Fault.attemptOr script.behind.fault (),
        if script.behind.takes then { exchange with response := none } else exchange,
        script.behind.change response),
      journal ++ script.behindLines exchange response)
  afterCompletion exchange _ failure journal :=
    (Fault.attemptOr script.last (), journal ++ [script.lastLine exchange failure])

end InterceptorScript

end Switchyard.Script
