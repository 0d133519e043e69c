import Switchyard.Conversion.Filling
import Switchyard.Dispatch.Render
import Switchyard.Dispatch.World
import Switchyard.Media.Accept

/-!
Resolvers, which answer for failures.

Resolvers of the user are asked in order, and the first answer counts; where none answers, the
error body does.  Either is rendered as far as the client's wishes allow, and without a body beyond
that, so that every failure has a response.
-/

set_option autoImplicit false

namespace Switchyard.Dispatch

open Conversion (Registry)
open Http (Response Status)

/-- A resolver: user code that may answer in the place of a failure.  The handler is absent when
the failure came before one was found. -/
structure Resolver (σ : Type) where
  resolve : Context → Option (Handler σ) → Failure → σ → Attempt Cause (Option Answer) × σ

def errorBody (errorCode : Int) (context : Context) (failure : Failure) (millis : Nat) :
    Json.Value :=
  .ofMembers
    [("requestId", .text context.requestId),
     ("code", .int errorCode),
     ("message", .text failure.clientMessage),
     ("exceptionKind", .text failure.kind),
     ("timestamp", .nat millis)]

def fatalResponse (errorCode : Int) (failure : Failure) : Response :=
  .withBody .internalServerError (Text.Utf8.encode "application/json") <| Text.Utf8.encode <|
    Json.Value.render <| .ofMembers
      [("code", .int errorCode),
       ("message", .text failure.message),
       ("exception", .text failure.kind)]

structure Resolvers (σ : Type) where
  resolvers : List (Resolver σ)
  errorCode : Int
  registry : Registry

namespace Resolvers

variable {σ : Type}

/-- A response without body and without the fields that describe one. -/
def withoutBody (response : Response) : Response :=
  { response with
    fields := (response.fields.erase Http.contentTypeName).erase Http.contentLengthName
    body := [] }

def render (registry : Registry) (context : Context) (answer : Answer) (status : Status) :
    Act σ Response :=
  match answer.draft status with
  | .complete response => return response
  | .unwritten response payload =>
      let accepted := Media.acceptedRanges context.head.fields
      match (registry.fill payload accepted []).run response with
      | (.ok (), written) => return written
      | (.error failure, left) => do
          Act.log (.errorBodyDropped failure)
          return withoutBody left

def ask (context : Context) (handler : Option (Handler σ)) (failure : Failure)
    (position : Nat) : List (Resolver σ) → Act σ (Option Answer)
  | [] => return none
  | resolver :: rest => do
      let attempt ← Act.perform (resolver.resolve context handler failure)
      Act.note (.resolverCalled position attempt)
      match attempt with
      | .returned (some answer) => return some answer
      | .returned none => ask context handler failure (position + 1) rest
      | .failed cause =>
          Act.log (.resolverFailed cause)
          ask context handler failure (position + 1) rest
      | .panicked message =>
          Act.log (.resolverPanicked (.ofPanic message))
          ask context handler failure (position + 1) rest

def fallback (errorCode : Int) (context : Context) (failure : Failure) : Act σ Answer := do
  Act.log (.requestFailed failure)
  let clock ← Act.now
  return .typed (some (.json (errorBody errorCode context failure clock.millis)))

def resolve (resolvers : Resolvers σ) (context : Context) (handler : Option (Handler σ))
    (failure : Failure) : Act σ Response := do
  Act.note (.resolving failure)
  let answer ←
    match ← ask context handler failure 0 resolvers.resolvers with
    | some answer => pure answer
    | none => fallback resolvers.errorCode context failure
  render resolvers.registry context answer failure.status

end Resolvers

end Switchyard.Dispatch
