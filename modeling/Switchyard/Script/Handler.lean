import Switchyard.Report
import Switchyard.Script.Fault

/-!
Scripted handlers and adapters.
-/

set_option autoImplicit false

namespace Switchyard.Script

open Dispatch (Answer Context Handler HandlerKind RestHandler TypedHandler UserAdapter Work)
open Http (Response)
open Media (MediaRange)

inductive Action where
  | fault (fault : Fault)
  | echo
  | describe
  | pathVariable (name : String)
  | parameter (name : String)
  | answer (answer : Answer)

def requestReport (context : Context) (input : Option Payload) : Json.Value :=
  .ofMembers
    [("method", .text context.head.method.token),
     ("path", .text context.head.path),
     ("request_id", .text context.requestId),
     ("sampled", .bool context.sampled),
     ("path_params", Report.pairs context.captures),
     ("parameters", Report.table context.parameterMap),
     ("content_len", .nat context.content.length),
     ("input", Report.payload input)]

def textAnswer (content : String) : Answer :=
  .typed (some (.text content))

def Action.attempt (context : Context) (input : Option Payload) :
    Action → Attempt Cause Answer
  | .fault found => found.attempt
  | .echo => .returned (.typed input)
  | .describe => .returned (.typed (some (.json (requestReport context input))))
  | .pathVariable name => .returned (textAnswer ((context.pathVariable name).getD ""))
  | .parameter name => .returned (textAnswer ((context.parameter name).getD "none"))
  | .answer given => .returned given

/-- An action, which may wait for an event first. -/
structure Task where
  waits : Bool
  action : Action

namespace Task

def work (task : Task) (context : Context) (input : Option Payload) : Work Journal Answer where
  waits := task.waits
  run journal := (task.action.attempt context input, journal)

def complete : Attempt Cause Answer → Attempt Cause Response
  | .returned (.raw response) => .returned response
  | .returned _ => .failed (.plain "not a raw result")
  | .failed cause => .failed cause
  | .panicked message => .panicked message

def rawWork (task : Task) (context : Context) : Work Journal Response where
  waits := task.waits
  run journal := (complete (task.action.attempt context none), journal)

end Task

structure RestScript where
  input : Option PayloadKind
  get : Task
  post : Task
  put : Option Task
  patch : Option Task
  delete : Option Task

def idleTask : Task := ⟨false, .answer (.typed none)⟩

def RestScript.handler (script : RestScript) : RestHandler Journal where
  input := script.input
  get context := script.get.work context none
  post := script.post.work
  put := (script.put.getD idleTask).work
  patch := (script.patch.getD idleTask).work
  delete context := (script.delete.getD idleTask).work context none

inductive HandlerScript where
  | typed (input : Option PayloadKind) (produces : List MediaRange) (task : Task)
  | rest (script : RestScript)
  | raw (task : Task)
  | custom

def HandlerScript.kind : HandlerScript → HandlerKind Journal
  | .typed input produces task => .typed { input, produces, handle := task.work }
  | .rest script => .rest script.handler
  | .raw task => .raw task.rawWork
  | .custom => .custom

/-- What making a failure comes to: the code that gives it its cause may break off. -/
def made (source : Option Fault) (failure : Failure) : Attempt Failure Response :=
  match source, failure with
  | some (.breaks message), .handlerFailed .. => .panicked message
  | some (.breaks message), .interceptorFailed .. => .panicked message
  | _, _ => .failed failure

/-- A scripted adapter: the kinds of handler it calls, and the response it makes for all of them, the
failure it ends with, or how it breaks off. -/
structure AdapterScript where
  name : String
  kinds : List String
  outcome : Attempt Failure Response

/-- The adapter that a script describes; the body of its response names the call. -/
def AdapterScript.adapter (script : AdapterScript) : UserAdapter Journal where
  name := script.name
  supports handler := script.kinds.contains handler.kind.name
  handle context handler journal :=
    (script.outcome.map fun response =>
      { response with
        body := Text.Utf8.encode s!"{script.name} {handler.name} {context.head.path}" }, journal)

end Switchyard.Script
