import Switchyard.Dispatch.Adapter
import Switchyard.Dispatch.Chain
import Switchyard.Dispatch.Resolver
import Switchyard.Serving.Config
import Switchyard.Serving.Session

/-!
The way of one request from its routing to its response.

`serve` leads a request up to the call of its handler, where it is `Suspended`; requests that never
get there are answered at once.  `resume` makes the call and answers.  A failure on the way is
answered by the resolvers, a fatal one by a fixed response.
-/

set_option autoImplicit false

namespace Switchyard.Serving

open Conversion (Registry)
open Dispatch (Act Adapters Chain Context Exchange Handler Interceptors PendingCall Resolvers)
open Http (Connection RequestHead Response)
open Route (Router)

structure Services (σ : Type) where
  config : Config := {}
  interceptors : Interceptors σ := .none
  adapters : Adapters σ
  resolvers : Resolvers σ

inductive Ending where
  /-- It was answered, or at least an attempt was made. -/
  | answered (outcome : Except Failure Unit)
  /-- The code of an adapter broke off, and nothing was written. -/
  | died (message : Option String)

/-- A request on its way through the chain of its route. -/
structure Passage (σ : Type) where
  session : Session
  connection : Connection
  context : Context
  chain : Chain σ
  exchange : Exchange

/-- A request right before the call of its handler. -/
structure Suspended (σ : Type) where
  passage : Passage σ
  call : PendingCall σ

inductive Progress (σ : Type) where
  | ended (ending : Ending) (connection : Connection)
  | suspended (request : Suspended σ)

variable {σ : Type}

def plainResponse (status : Http.Status) (body : String) : Response :=
  .withBody status (Text.Utf8.encode "text/plain; charset=utf-8") (Text.Utf8.encode body)

def endWith (session : Session) (connection : Connection) (response : Response) :
    Act σ (Ending × Connection) := do
  let (outcome, left) ← answer session connection response
  return (.answered outcome, left)

def endUnrouted (services : Services σ) (session : Session) (connection : Connection)
    (context : Context) : Act σ (Ending × Connection) := do
  Act.log .noRoute
  match services.config.notFound with
  | .fixedResponse => endWith session.closing connection (.ofStatus .notFound)
  | .raise =>
      let response ←
        services.resolvers.resolve context none (.routeNotFound context.head.path)
      endWith session connection response

namespace Passage

def finish (passage : Passage σ) (response : Response) (failure : Option Failure) :
    Act σ (Ending × Connection) := do
  let _ ← passage.chain.complete passage.exchange failure
  endWith passage.session passage.connection response

/-- Ends a request after a fatal failure, which is also its outcome. -/
def finishFatal (passage : Passage σ) (errorCode : Int) (failure : Failure) :
    Act σ (Ending × Connection) := do
  Act.log (.fatalFailure failure)
  let _ ← passage.chain.complete passage.exchange (some failure)
  let (outcome, left) ←
    answer passage.session.closing passage.connection
      (Dispatch.fatalResponse errorCode failure)
  match outcome with
  | .ok () => pure ()
  | .error unwritten => Act.log (.fatalNotWritten unwritten)
  return (.answered (.error failure), left)

def finishFailed (passage : Passage σ) (services : Services σ) (failure : Failure) :
    Act σ (Ending × Connection) := do
  if failure.isFatal then
    passage.finishFatal services.config.errorCode failure
  else
    let response ←
      services.resolvers.resolve passage.context (some passage.chain.handler) failure
    passage.finish response (some failure)

def advance (passage : Passage σ) (services : Services σ) : Act σ (Progress σ) := do
  let (verdict, chain, exchange) ← passage.chain.applyPreHandle passage.exchange
  let passed := { passage with chain, exchange }
  match verdict with
  | .error failure =>
      let (ending, left) ← passed.finishFailed services failure
      return .ended ending left
  | .ok false =>
      let response := exchange.response.getD (.ofStatus .ok)
      let stopped := { passed with exchange := { exchange with response := none } }
      let (ending, left) ← stopped.finish response none
      return .ended ending left
  | .ok true =>
      match services.adapters.prepare passage.context chain.handler with
      | .error failure =>
          let (ending, left) ← passed.finishFailed services failure
          return .ended ending left
      | .ok call => return .suspended ⟨passed, call⟩

end Passage

def Session.ofHead (head : RequestHead) (sampled : Bool) (sequence : Nat) : Session where
  requestId := (head.fields.text? Http.requestIdName).getD s!"req-{sequence}"
  sampled := sampled
  keepAlive := head.isKeepAlive
  version := head.version

def Session.context (session : Session) (head : RequestHead) (content : Octets)
    (captures : Route.Captures) : Context where
  head := head
  content := content
  captures := captures
  requestId := session.requestId
  sampled := session.sampled

def serve (services : Services σ) (router : Router (Handler σ)) (session : Session)
    (head : RequestHead) (content : Octets) (connection : Connection) :
    Act σ (Progress σ) := do
  if session.sampled then
    Act.log .dispatching
  if services.config.maxBodySize < content.length then
    Act.log .bodyTooLarge
    let (ending, left) ← endWith session.closing connection
      (plainResponse .payloadTooLarge "request body too large")
    return .ended ending left
  else
    match router.at? head.path with
    | none =>
        let (ending, left) ←
          endUnrouted services session connection (session.context head content [])
        return .ended ending left
    | some route =>
        let context := session.context head content route.captures
        let chain : Chain σ := ⟨route.handler, services.interceptors.forPath head.path, 0, .init⟩
        let passage : Passage σ := ⟨session, connection, context, chain, ⟨context, [], none⟩⟩
        passage.advance services

def resume (services : Services σ) (request : Suspended σ) : Act σ (Ending × Connection) := do
  let passage := request.passage
  match ← request.call.perform with
  | .panicked message => return (.died message, passage.connection)
  | .failed failure => passage.finishFailed services failure
  | .returned response =>
      let (shown, chain) ← passage.chain.applyPostHandle passage.exchange response
      let passed := { passage with chain, exchange := shown.exchange }
      match shown.outcome with
      | .ok () => passed.finish shown.response none
      | .error failure => passed.finishFailed services failure

end Switchyard.Serving
