import Switchyard.Conversion.Standard
import Switchyard.Http.Request
import Switchyard.Http.Response
import Switchyard.Route.Pattern

/-!
What user code sees of a request.

Parameters come from the query and from a form-encoded body; a name that the query has is never
looked up in the body.
-/

set_option autoImplicit false

namespace Switchyard.Dispatch

open Http (RequestHead)
open Route (Captures)

structure Context where
  head : RequestHead
  content : Octets
  /-- What the variables of the route stand for. -/
  captures : Captures := []
  requestId : String := ""
  sampled : Bool := false
  deriving Repr

namespace Context

def queryForm (context : Context) : Form :=
  match context.head.query with
  | some query => .ofText query
  | none => .empty

/-- The values in a form-encoded body; a body that is not UTF-8 has none. -/
def bodyForm (context : Context) : Form :=
  match context.head.contentType? with
  | none => .empty
  | some contentType =>
      if contentType.essence = Conversion.Converter.formType.essence then
        match Text.Utf8.decodeText context.content with
        | .ok content => .ofText content
        | .error _ => .empty
      else
        .empty

def parameter (context : Context) (name : String) : Option String :=
  (context.queryForm.get? name).or (context.bodyForm.get? name)

/-- All values of a parameter: those in the query, or those in the body if the query has none. -/
def parameterValues (context : Context) (name : String) : List String :=
  match context.queryForm.getAll name with
  | [] => context.bodyForm.getAll name
  | values => values

/-- The first entry of every name, those before in `seen` aside. -/
def firstEntries (seen : List String) : List (String × String) → List (String × String)
  | [] => []
  | (name, value) :: rest =>
      if seen.contains name then firstEntries seen rest
      else (name, value) :: firstEntries (name :: seen) rest

def parameterMap (context : Context) : List (String × String) :=
  firstEntries [] (context.queryForm.entries ++ context.bodyForm.entries)

def afterStart? (start text : String) : Option String :=
  if start.toList.isPrefixOf text.toList then
    some (String.ofList (text.toList.drop start.toList.length))
  else
    none

/-- The parameters whose names begin alike, under the rest of their names. -/
def parametersWithStart (context : Context) (start : String) : List (String × String) :=
  context.parameterMap.filterMap fun parameter =>
    (afterStart? start parameter.1).map fun rest => (rest, parameter.2)

def pathVariable (context : Context) (name : String) : Option String :=
  context.captures.lookup name

end Context

structure Exchange where
  context : Context
  /-- Values that interceptors leave for later calls, under names, the last one last. -/
  attributes : List (String × Json.Value) := []
  /-- The response that an interceptor has left. -/
  response : Option Http.Response := none

end Switchyard.Dispatch
