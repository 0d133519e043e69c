import Switchyard.Dispatch.Render
import Switchyard.Dispatch.World
import Switchyard.Media.Accept

/-!
Adapters, which know how to call handlers of some kinds.

The converting adapter reads the body as the kind of payload that a typed or rest handler takes and
renders its answer; the raw adapter passes the responses of raw handlers on.  Adapters of the user
come before both.  Calling an adapter has two parts: `Adapter.prepare` leads up to the call of the
user's code, and `PendingCall.run` makes that call and what follows it.
-/

set_option autoImplicit false

namespace Switchyard.Dispatch

open Conversion (Registry)
open Http (Response)
open Media (MediaRange)

structure PendingCall (σ : Type) where
  /-- Whether the user's code waits for an event before it acts. -/
  waits : Bool
  /-- Whether the end of the call is logged. -/
  reported : Bool
  run : σ → Called × σ

namespace PendingCall

variable {σ : Type}

def perform (call : PendingCall σ) : Act σ (Attempt Failure Response) := do
  let result ← Act.perform call.run
  Act.note (.called result)
  if call.reported then
    Act.log .handlerExecuted
  return result.attempt

end PendingCall

structure UserAdapter (σ : Type) where
  name : String
  supports : Handler σ → Bool
  handle : Context → Handler σ → σ → Attempt Failure Response × σ

inductive Adapter (σ : Type) where
  | user (adapter : UserAdapter σ)
  | converting
  | raw

namespace Adapter

variable {σ : Type}

def name : Adapter σ → String
  | .user adapter => adapter.name
  | .converting => "converting"
  | .raw => "raw"

def supports (adapter : Adapter σ) (handler : Handler σ) : Bool :=
  match adapter with
  | .user found => found.supports handler
  | .converting =>
      match handler.kind with
      | .typed _ | .rest _ => true
      | .raw _ | .custom => false
  | .raw =>
      match handler.kind with
      | .raw _ => true
      | _ => false

def readInput (registry : Registry) (context : Context) (kind : Option PayloadKind) :
    Except Failure (Option Payload) :=
  match kind with
  | none => .ok none
  | some kind => registry.read kind context.head context.content

/-- The response to what a call of a handler came to. -/
def conclude {α : Type} (handler : Handler σ) (respond : α → Except Failure Response)
    (attempt : Attempt Cause α) : Except Failure Response :=
  match attempt.caught with
  | .ok value => respond value
  | .error cause => .error (.handlerFailed handler.name cause)

/-- The call of a handler that gives values which stand for answers and are turned into responses by
`respond`. -/
def callOf {α : Type} (handler : Handler σ) (reported : Bool) (answer : α → Answer)
    (respond : α → Except Failure Response) (work : Work σ α) : PendingCall σ where
  waits := work.waits
  reported := reported
  run state :=
    let (attempt, left) := work.run state
    (.handler (attempt.map answer) (conclude handler respond attempt), left)

def prepareConverting (registry : Registry) (context : Context) (handler : Handler σ) :
    Except Failure (PendingCall σ) :=
  let respond (produces : List MediaRange) (answer : Answer) : Except Failure Response :=
    answer.render registry (Media.acceptedRanges context.head.fields) produces
  match handler.kind with
  | .typed typed =>
      (readInput registry context typed.input).map fun input =>
        callOf handler context.sampled id (respond typed.produces) (typed.handle context input)
  | .rest rest =>
      (readInput registry context (if context.head.carriesBody then rest.input else none)).map
        fun input =>
          callOf handler context.sampled id (respond []) (rest.handle context input)
  | .raw _ | .custom => .error (.noAdapter handler.name)

def prepareRaw (context : Context) (handler : Handler σ) : Except Failure (PendingCall σ) :=
  match handler.kind with
  | .raw handle => .ok (callOf handler false .raw .ok (handle context))
  | _ => .error (.noAdapter handler.name)

def prepare (registry : Registry) (adapter : Adapter σ) (context : Context)
    (handler : Handler σ) : Except Failure (PendingCall σ) :=
  match adapter with
  | .user found =>
      .ok
        { waits := false
          reported := false
          run := fun state =>
            let (attempt, left) := found.handle context handler state
            (.adapter attempt, left) }
  | .converting => prepareConverting registry context handler
  | .raw => prepareRaw context handler

end Adapter

/-- Adapters in the order in which they are asked, and what the converting one converts with. -/
structure Adapters (σ : Type) where
  adapters : List (Adapter σ)
  registry : Registry

namespace Adapters

variable {σ : Type}

def ofUser (adapters : List (UserAdapter σ)) (registry : Registry) : Adapters σ :=
  ⟨adapters.map .user ++ [.converting, .raw], registry⟩

def resolve (adapters : Adapters σ) (handler : Handler σ) : Except Failure (Adapter σ) :=
  match adapters.adapters.find? fun adapter => adapter.supports handler with
  | some adapter => .ok adapter
  | none => .error (.noAdapter handler.name)

def prepare (adapters : Adapters σ) (context : Context) (handler : Handler σ) :
    Except Failure (PendingCall σ) := do
  let adapter ← adapters.resolve handler
  adapter.prepare adapters.registry context handler

end Adapters

end Switchyard.Dispatch
