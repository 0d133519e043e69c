import Switchyard.Failure

/-!
What is written to the log.
-/

set_option autoImplicit false

namespace Switchyard.Dispatch

inductive Level where
  | debug
  | warning
  | error
  deriving Repr, DecidableEq

def Level.name : Level → String
  | .debug => "DEBUG"
  | .warning => "WARN"
  | .error => "ERROR"

inductive Notice where
  | dispatching
  | handlerExecuted
  | requestCompleted
  | poolSaturated
  | bodyTooLarge
  | noRoute
  | errorBodyDropped (failure : Failure)
  | rejectionNotWritten (error : Http.SendError)
  | responseNotWritten (error : Http.SendError)
  | fatalFailure (failure : Failure)
  | fatalNotWritten (failure : Failure)
  | afterCompletionFailed (failure : Failure)
  | resolverFailed (cause : Cause)
  | resolverPanicked (cause : Cause)
  | requestFailed (failure : Failure)
  deriving Repr, DecidableEq

namespace Notice

def level : Notice → Level
  | .dispatching | .handlerExecuted | .requestCompleted => .debug
  | .poolSaturated | .bodyTooLarge | .noRoute | .errorBodyDropped _ => .warning
  | _ => .error

def subject : Notice → String
  | .dispatching => "dispatching request"
  | .handlerExecuted => "handler executed"
  | .requestCompleted => "request completed"
  | .poolSaturated => "worker pool saturated, rejecting request"
  | .bodyTooLarge => "request body too large"
  | .noRoute => "no route found"
  | .errorBodyDropped _ => "error body not negotiable, answering without body"
  | .rejectionNotWritten _ => "failed to write rejection"
  | .responseNotWritten _ => "failed to write response"
  | .fatalFailure _ => "fatal dispatch failure"
  | .fatalNotWritten _ => "failed to write fatal response"
  | .afterCompletionFailed _ => "interceptor after-completion failed"
  | .resolverFailed _ => "exception resolver failed"
  | .resolverPanicked _ => "exception resolver panicked"
  | .requestFailed _ => "request failed"

def cause? : Notice → Option String
  | .errorBodyDropped failure | .fatalFailure failure | .fatalNotWritten failure
  | .afterCompletionFailed failure | .requestFailed failure => some failure.message
  | .rejectionNotWritten error | .responseNotWritten error => some error.message
  | .resolverFailed cause | .resolverPanicked cause => some cause.message
  | _ => none

def text (notice : Notice) : String :=
  s!"{notice.level.name} {notice.subject}" ++
    match notice.cause? with
    | some cause => ": " ++ cause
    | none => ""

end Notice

end Switchyard.Dispatch
