import Switchyard.Dispatch.Interceptor
import Switchyard.Dispatch.World

/-!
The chain of interceptors around one call of a handler.

A chain counts the interceptors that let the request pass.  Those, and no others, are told when the
request has ended, in the reverse order.
-/

set_option autoImplicit false

namespace Switchyard.Dispatch

open Http (Response)

inductive ChainState where
  | init
  | preHandling
  | aborted
  | handling
  | postHandling
  | completed
  deriving Repr, DecidableEq

def ChainState.name : ChainState → String
  | .init => "Init"
  | .preHandling => "PreHandling"
  | .aborted => "Aborted"
  | .handling => "Handling"
  | .postHandling => "PostHandling"
  | .completed => "Completed"

structure Chain (σ : Type) where
  handler : Handler σ
  interceptors : List (Interceptor σ)
  /-- The number of interceptors that let the request pass. -/
  cursor : Nat := 0
  state : ChainState := .init

namespace Chain

variable {σ : Type}

/-- What comes of asking interceptors whether a request may pass: whether it may, how many in all
have let it pass, and the exchange afterwards. -/
structure Asked where
  verdict : Except Failure Bool
  cursor : Nat
  exchange : Exchange

/-- Asks interceptors from a position on, until one stops the request or fails. -/
def ask (handler : Handler σ) (cursor : Nat) (exchange : Exchange) :
    List (Interceptor σ) → Act σ Asked
  | [] => return ⟨.ok true, cursor, exchange⟩
  | interceptor :: rest => do
      let (attempt, changed) ← Act.perform (interceptor.preHandle exchange handler)
      Act.note (.preHandled cursor attempt changed.response)
      match attempt.caught with
      | .ok true => ask handler (cursor + 1) changed rest
      | .ok false => return ⟨.ok false, cursor, changed⟩
      | .error cause => return ⟨.error (.interceptorFailed .preHandle cause), cursor, changed⟩

def stateAfter : Except Failure Bool → ChainState
  | .ok true => .handling
  | .ok false => .aborted
  | .error _ => .preHandling

def applyPreHandle (chain : Chain σ) (exchange : Exchange) :
    Act σ (Except Failure Bool × Chain σ × Exchange) := do
  let asked ← ask chain.handler chain.cursor exchange (chain.interceptors.drop chain.cursor)
  return (asked.verdict,
    { chain with cursor := asked.cursor, state := stateAfter asked.verdict }, asked.exchange)

def backwards (interceptors : List (Interceptor σ)) : List (Interceptor σ × Nat) :=
  interceptors.zipIdx.reverse

/-- What comes of showing a response to interceptors: whether none failed, and the response and the
exchange afterwards. -/
structure Shown where
  outcome : Except Failure Unit
  response : Response
  exchange : Exchange

/-- Shows a response to interceptors until one fails. -/
def present (handler : Handler σ) (exchange : Exchange) (response : Response) :
    List (Interceptor σ × Nat) → Act σ Shown
  | [] => return ⟨.ok (), response, exchange⟩
  | (interceptor, position) :: rest => do
      let (attempt, changed, altered) ←
        Act.perform (interceptor.postHandle exchange handler response)
      Act.note (.postHandled position attempt response altered)
      match attempt.caught with
      | .ok () => present handler changed altered rest
      | .error cause => return ⟨.error (.interceptorFailed .postHandle cause), altered, changed⟩

/-- Shows the response to all interceptors, the last one first, if the handler was called. -/
def applyPostHandle (chain : Chain σ) (exchange : Exchange) (response : Response) :
    Act σ (Shown × Chain σ) := do
  if chain.state = .handling then
    let shown ← present chain.handler exchange response (backwards chain.interceptors)
    return (shown, { chain with state := .postHandling })
  else
    return (⟨.ok (), response, exchange⟩, chain)

/-- Tells interceptors that the request has ended; their failures are only logged. -/
def tell (handler : Handler σ) (exchange : Exchange) (failure : Option Failure) :
    List (Interceptor σ × Nat) → Act σ Unit
  | [] => return ()
  | (interceptor, position) :: rest => do
      let attempt ← Act.perform (interceptor.afterCompletion exchange handler failure)
      Act.note (.afterCompleted position failure attempt)
      match attempt.caught with
      | .ok () => pure ()
      | .error cause =>
          Act.log (.afterCompletionFailed (.interceptorFailed .afterCompletion cause))
      tell handler exchange failure rest

/-- Tells the interceptors that let the request pass that it has ended, the last one first, unless
they have been told. -/
def complete (chain : Chain σ) (exchange : Exchange) (failure : Option Failure) :
    Act σ (Chain σ) := do
  if chain.state = .completed then
    return chain
  else
    tell chain.handler exchange failure (backwards (chain.interceptors.take chain.cursor))
    return { chain with state := .completed }

end Chain

end Switchyard.Dispatch
