import Switchyard.Attempt
import Switchyard.Http.Connection

/-!
The ways in which serving a request fails.

A failure has a kind and a status for the client and a wording for the log.  Failures that wrap a
cause of the application take kind, status and client message from it.  A fatal failure is not
answered in the usual way: its connection is closed and its caller learns of it.
-/

set_option autoImplicit false

namespace Switchyard

open Http (SendError Status)

inductive Phase where
  | preHandle
  | postHandle
  | afterCompletion
  deriving Repr, DecidableEq

def Phase.name : Phase → String
  | .preHandle => "pre-handle"
  | .postHandle => "post-handle"
  | .afterCompletion => "after-completion"

inductive Direction where
  | reading
  | writing
  deriving Repr, DecidableEq

def Direction.name : Direction → String
  | .reading => "reading"
  | .writing => "writing"

inductive Failure where
  | routeNotFound (path : String)
  | noAdapter (handler : String)
  | unsupportedMediaType (contentType : String)
  | notAcceptable (producible : String)
  | handlerFailed (handler : String) (cause : Cause)
  | interceptorFailed (phase : Phase) (cause : Cause)
  | conversionFailed (direction : Direction) (reason : String)
  | transportFailed (error : SendError)
  deriving Repr, DecidableEq

namespace Failure

def message : Failure → String
  | .routeNotFound path => s!"no route matches path '{path}'"
  | .noAdapter handler => s!"no adapter supports handler '{handler}'"
  | .unsupportedMediaType contentType => s!"content type '{contentType}' is not supported"
  | .notAcceptable producible =>
      s!"no acceptable representation, producible types: {producible}"
  | .handlerFailed handler cause => s!"handler '{handler}' failed: {cause.message}"
  | .interceptorFailed phase cause =>
      s!"interceptor failed during {phase.name}: {cause.message}"
  | .conversionFailed direction reason =>
      s!"conversion failed while {direction.name}: {reason}"
  | .transportFailed error => s!"failed to write response: {error.message}"

def kind : Failure → String
  | .routeNotFound _ => "RouteNotFound"
  | .noAdapter _ => "NoAdapterForHandler"
  | .unsupportedMediaType _ => "UnsupportedMediaType"
  | .notAcceptable _ => "NotAcceptable"
  | .handlerFailed _ cause => cause.kind?.getD "HandlerInvocationFailure"
  | .interceptorFailed _ cause => cause.kind?.getD "InterceptorFailure"
  | .conversionFailed _ _ => "ConversionFailure"
  | .transportFailed _ => "TransportFailure"

def status : Failure → Status
  | .routeNotFound _ => .notFound
  | .noAdapter _ => .internalServerError
  | .unsupportedMediaType _ => .unsupportedMediaType
  | .notAcceptable _ => .notAcceptable
  | .handlerFailed _ cause => cause.status?.getD .internalServerError
  | .interceptorFailed _ cause => cause.status?.getD .internalServerError
  | .conversionFailed .reading _ => .badRequest
  | .conversionFailed .writing _ => .internalServerError
  | .transportFailed _ => .internalServerError

def isFatal : Failure → Bool
  | .noAdapter _ | .transportFailed _ => true
  | _ => false

/-- The message that clients are told: the cause alone where there is one. -/
def clientMessage : Failure → String
  | .handlerFailed _ cause => cause.message
  | .interceptorFailed _ cause => cause.message
  | failure => failure.message

end Failure

/-- A request was refused because as many as the capacity were being served. -/
structure Rejection where
  capacity : Nat
  deriving Repr, DecidableEq

def Rejection.message (rejection : Rejection) : String :=
  s!"dispatch rejected, worker pool saturated at {rejection.capacity} requests"

end Switchyard
