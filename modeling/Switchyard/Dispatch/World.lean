import Switchyard.Dispatch.Handler
import Switchyard.Dispatch.Notice
import Switchyard.Http.Body

/-!
What happens while a request is served.

A `World` holds all that is changed from inside a request but does not belong to it: the state of
the user's code, the counts of the leases on bodies, and the events so far.  An `Act` is a
computation on it.
-/

set_option autoImplicit false

namespace Switchyard.Dispatch

open Http (Lease Response SendError Trackers)

/-- What came of calling a handler. -/
inductive Called where
  /-- The handler was called, and its answer was turned into a response. -/
  | handler (attempt : Attempt Cause Answer) (outcome : Except Failure Response)
  /-- An adapter of the user was called in its place. -/
  | adapter (attempt : Attempt Failure Response)

def Called.attempt : Called → Attempt Failure Response
  | .handler _ outcome => .ofExcept outcome
  | .adapter found => found

/-- An event in the life of a request.  Interceptors and resolvers are named by their positions, and
calls of user code are recorded with what came of them. -/
inductive Event where
  | logged (notice : Notice)
  /-- An interceptor was asked; it left the response given in the exchange. -/
  | preHandled (position : Nat) (attempt : Attempt Cause Bool) (left : Option Response)
  | called (result : Called)
  /-- An interceptor was shown a response and altered it. -/
  | postHandled (position : Nat) (attempt : Attempt Cause Unit) (shown altered : Response)
  | resolving (failure : Failure)
  | resolverCalled (position : Nat) (attempt : Attempt Cause (Option Answer))
  | afterCompleted (position : Nat) (failure : Option Failure) (attempt : Attempt Cause Unit)
  | wrote (response : Response) (outcome : Except SendError Unit)
  | closed
  /-- The lease of the body, if it had one, was given back. -/
  | released (lease : Option Lease)

structure Clock where
  date : Octets
  millis : Nat
  deriving Repr, DecidableEq

/-- What is changed from inside a request. -/
structure World (σ : Type) where
  user : σ
  trackers : Trackers
  now : Clock
  /-- The events so far, in order. -/
  events : List Event

abbrev Act (σ α : Type) := StateM (World σ) α

namespace Act

variable {σ α : Type}

def note (event : Event) : Act σ Unit :=
  modify fun world => { world with events := world.events ++ [event] }

def log (notice : Notice) : Act σ Unit :=
  note (.logged notice)

def perform (call : σ → α × σ) : Act σ α :=
  modifyGet fun world => ((call world.user).1, { world with user := (call world.user).2 })

def now : Act σ Clock :=
  return (← get).now

def release (lease : Option Lease) : Act σ Unit := do
  modify fun world => { world with trackers := world.trackers.giveBackAny lease }
  note (.released lease)

end Act

namespace World

variable {σ : Type}

def notices (world : World σ) : List Notice :=
  world.events.filterMap fun event =>
    match event with
    | .logged notice => some notice
    | _ => none

end World

end Switchyard.Dispatch
