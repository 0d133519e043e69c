import Switchyard.Dispatch.Resolver
import Switchyard.Script.Handler

/-!
Scripted resolvers.
-/

set_option autoImplicit false

namespace Switchyard.Script

open Dispatch (Answer Context Handler Resolver)

inductive Resolution where
  | fault (fault : Fault)
  | report (start : String)
  | answer (answer : Answer)
  | declines

/-- A scripted resolver, which may be one for failures of one kind only. -/
structure ResolverScript where
  only : Option String
  resolution : Resolution

namespace ResolverScript

def reportText (start : String) (context : Context) (handler : Option (Handler Journal))
    (failure : Failure) : String :=
  String.intercalate "|"
    [start, failure.kind, failure.clientMessage, (handler.map Handler.name).getD "-",
      context.requestId]

def attempt (script : ResolverScript) (context : Context) (handler : Option (Handler Journal))
    (failure : Failure) : Attempt Cause (Option Answer) :=
  if script.only.all fun kind => kind = failure.kind then
    match script.resolution with
    | .fault found => found.attempt
    | .report start => .returned (some (textAnswer (reportText start context handler failure)))
    | .answer given => .returned (some given)
    | .declines => .returned none
  else
    .returned none

def resolver (script : ResolverScript) : Resolver Journal where
  resolve context handler failure journal :=
    (script.attempt context handler failure, journal)

end ResolverScript

end Switchyard.Script
