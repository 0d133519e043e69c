import Switchyard.Serving.Pipeline
import Switchyard.Serving.Pool

/-!
Servers.

A server admits requests as long as its pool has permits and counts what becomes of them.  An
admitted request is queued until it is started, and a started one may be suspended before the call
of its handler until it is finished; both may happen in any order among requests.  However a
request ends, its permit and the lease of its body are given back.
-/

set_option autoImplicit false

namespace Switchyard.Serving

open Conversion (Registry)
open Dispatch (Act Adapters Handler Interceptors Resolver Resolvers UserAdapter)
open Http (Body Connection Request)
open Route (RouteError Router)

/-- The counts of a server, which are taken to fit into machine words. -/
structure Stats where
  submitted : Nat := 0
  rejected : Nat := 0
  completed : Nat := 0
  failed : Nat := 0
  /-- The requests started and not ended. -/
  inFlight : Nat := 0
  deriving Repr, DecidableEq

/-- The counts after the end of a request; one that died counts neither way. -/
def Stats.ended (stats : Stats) (ending : Ending) : Stats :=
  let left := { stats with inFlight := stats.inFlight - 1 }
  match ending with
  | .answered (.ok ()) => { left with completed := stats.completed + 1 }
  | .answered (.error _) => { left with failed := stats.failed + 1 }
  | .died _ => left

structure Arrival where
  request : Request
  connection : Connection
  deriving Repr

/-- A request in the hands of a server, known by its ticket. -/
structure Held (α : Type) where
  ticket : Nat
  request : α

def takeTicket {α : Type} (ticket : Nat) : List (Held α) → Option (α × List (Held α))
  | [] => none
  | held :: rest =>
      if held.ticket = ticket then some (held.request, rest)
      else (takeTicket ticket rest).map fun found => (found.1, held :: found.2)

structure Server (σ : Type) where
  services : Services σ
  router : Router (Handler σ)
  gate : Gate
  /-- The number of the next request, taken to fit into a machine word like the counts. -/
  sequence : Nat := 1
  stats : Stats := {}
  pool : Pool
  queued : List (Held Arrival) := []
  /-- The requests started and suspended, each with its body. -/
  suspended : List (Held (Suspended σ × Body)) := []

inductive BuildError where
  | config (error : ConfigError)
  | router (error : RouteError)
  /-- The runtime of the workers does not start. -/
  | pool (reason : String)
  deriving Repr, DecidableEq

def BuildError.message : BuildError → String
  | .config error => s!"invalid configuration: {error.message}"
  | .router error => s!"failed to build router: {error.message}"
  | .pool reason => s!"failed to start worker pool: {reason}"

/-- Why a setup has no server: an error that is returned, or a pool of more permits than there can
be, at which building breaks off without one. -/
inductive Unbuilt where
  | refused (error : BuildError)
  | broken
  deriving Repr, DecidableEq

structure Setup (σ : Type) where
  config : Config := {}
  routes : List (String × Handler σ) := []
  interceptors : Interceptors σ := .none
  registry : Registry := .standard
  adapters : List (UserAdapter σ) := []
  resolvers : List (Resolver σ) := []
  /-- The number of requests served at once, if it is not the one of the configuration. -/
  capacity : Option Nat := none
  /-- Starts the workers, if the number is the one of the configuration. -/
  runtime : Pool.Runtime := fun _ => .ok ()

namespace Setup

variable {σ : Type}

def services (setup : Setup σ) : Services σ where
  config := setup.config
  interceptors := setup.interceptors
  adapters := .ofUser setup.adapters setup.registry
  resolvers := ⟨setup.resolvers, setup.config.errorCode, setup.registry⟩

/-- The pool of a setup with a number of its own, which is opened before anything is checked. -/
def givenPool? (setup : Setup σ) : Except Unbuilt (Option Pool) :=
  match setup.capacity with
  | none => .ok none
  | some capacity =>
      match Pool.ofCapacity? capacity with
      | some pool => .ok (some pool)
      | none => .error .broken

/-- The pool that a setup has been given, or the one of its configuration. -/
def startedPool (setup : Setup σ) : Option Pool → Except Unbuilt Pool
  | some pool => .ok pool
  | none =>
      match Pool.launch setup.runtime setup.config.execution with
      | .started pool => .ok pool
      | .unstarted reason => .error (.refused (.pool reason))
      | .broken => .error .broken

def build (setup : Setup σ) : Except Unbuilt (Server σ) := do
  let given ← setup.givenPool?
  setup.config.validate.mapError fun error => .refused (.config error)
  let router ← (Router.build setup.routes setup.config.tolerant).mapError fun error =>
    .refused (.router error)
  let pool ← setup.startedPool given
  .ok
    { services := setup.services
      router := router
      gate := setup.config.sampling.gate
      pool := pool }

end Setup

namespace Server

variable {σ : Type}

/-- Refuses a request: its lease is given back, and it is answered on a connection that is then
closed. -/
def refuse (arrival : Arrival) : Act σ Connection := do
  Act.log .poolSaturated
  Act.release arrival.request.body.lease
  let clock ← Act.now
  let response :=
    finalized (plainResponse .serviceUnavailable "server busy") false arrival.request.head.version
      clock.date
  let (outcome, written) ← send arrival.connection response
  match outcome with
  | .ok () => pure ()
  | .error error => Act.log (.rejectionNotWritten error)
  hangUp written

inductive Submission where
  | admitted (ticket : Nat)
  | rejected (rejection : Rejection) (connection : Connection)

def Submission.outcome : Submission → Except Rejection Unit
  | .admitted _ => .ok ()
  | .rejected rejection _ => .error rejection

def submit (server : Server σ) (arrival : Arrival) : Act σ (Submission × Server σ) := do
  let ticket := server.stats.submitted
  let stats := { server.stats with submitted := ticket + 1 }
  match server.pool.take with
  | .ok pool =>
      return (.admitted ticket,
        { server with stats, pool, queued := server.queued ++ [⟨ticket, arrival⟩] })
  | .error rejection =>
      let connection ← refuse arrival
      return (.rejected rejection connection,
        { server with stats := { stats with rejected := stats.rejected + 1 } })

structure Ended where
  ending : Ending
  connection : Connection

/-- Ends a started request: its lease and its permit are given back. -/
def retire (server : Server σ) (body : Body) (ending : Ending) : Act σ (Server σ) := do
  Act.release body.lease
  return { server with
    stats := server.stats.ended ending
    pool := server.pool.giveBack }

inductive Started (σ : Type) where
  | ended (result : Ended)
  | suspended (request : Suspended σ)

def begin (server : Server σ) (ticket : Nat) (arrival : Arrival) :
    Act σ (Started σ × Server σ) := do
  let (sampled, gate) := server.gate.next
  let session := Session.ofHead arrival.request.head sampled server.sequence
  let started :=
    { server with
      gate
      sequence := server.sequence + 1
      stats := { server.stats with inFlight := server.stats.inFlight + 1 } }
  match ← serve server.services server.router session arrival.request.head arrival.request.body.content
      arrival.connection with
  | .ended ending connection =>
      let retired ← started.retire arrival.request.body ending
      return (.ended ⟨ending, connection⟩, retired)
  | .suspended request =>
      return (.suspended request,
        { started with
          suspended := started.suspended ++ [⟨ticket, (request, arrival.request.body)⟩] })

def start (server : Server σ) (ticket : Nat) : Act σ (Option (Started σ) × Server σ) := do
  match takeTicket ticket server.queued with
  | none => return (none, server)
  | some (arrival, queued) =>
      let (started, server) ← begin { server with queued } ticket arrival
      return (some started, server)

def finish (server : Server σ) (ticket : Nat) : Act σ (Option Ended × Server σ) := do
  match takeTicket ticket server.suspended with
  | none => return (none, server)
  | some ((request, body), suspended) =>
      let (ending, connection) ← resume server.services request
      let retired ← { server with suspended }.retire body ending
      return (some ⟨ending, connection⟩, retired)

def run (server : Server σ) (ticket : Nat) : Act σ (Option Ended × Server σ) := do
  match ← server.start ticket with
  | (some (.ended result), server) => return (some result, server)
  | (some (.suspended request), server) =>
      if request.call.waits then return (none, server) else server.finish ticket
  | (none, server) => return (none, server)

def register (server : Server σ) (pattern : String) (handler : Handler σ) :
    Except RouteError (Server σ) :=
  (server.router.register pattern handler).map fun router => { server with router }

end Server

end Switchyard.Serving
