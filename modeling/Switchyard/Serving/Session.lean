import Switchyard.Dispatch.World
import Switchyard.Http.Request

/-!
The end of a request: its response gets the fields that every response has, is handed to the
connection, and the connection is closed unless both sides keep it open.
-/

set_option autoImplicit false

namespace Switchyard.Serving

open Dispatch (Act Event)
open Http (Connection Fields Response SendError Version)

/-- What the end of a request has to know about its beginning. -/
structure Session where
  requestId : String
  sampled : Bool
  keepAlive : Bool
  version : Version
  deriving Repr, DecidableEq

/-- The session, with the connection to be closed at the end. -/
def Session.closing (session : Session) : Session :=
  { session with keepAlive := false }

def connectionValue (keepAlive : Bool) : Octets :=
  Text.Utf8.encode (if keepAlive then "keep-alive" else "close")

/-- The response with the version of its request, a length unless its framing is given, a date
unless it has one, and what becomes of the connection. -/
def finalized (response : Response) (keepAlive : Bool) (version : Version) (date : Octets) :
    Response :=
  let framed := response.withLength response.body.length
  { framed with
    version := version
    fields := (framed.fields.setIfAbsent Http.dateName date).set Http.connectionName
      (connectionValue keepAlive) }

variable {σ : Type}

def send (connection : Connection) (response : Response) :
    Act σ (Except SendError Unit × Connection) := do
  let (outcome, written) := connection.write response
  Act.note (.wrote response outcome)
  return (outcome, written)

def hangUp (connection : Connection) : Act σ Connection := do
  Act.note .closed
  return connection.close

def succeeded {ε α : Type} : Except ε α → Bool
  | .ok _ => true
  | .error _ => false

def leave (connection : Connection) (stays : Bool) : Act σ Connection :=
  if stays then pure connection else hangUp connection

/-- The outcome of a request by what came of writing its response. -/
def conclude (outcome : Except SendError Unit) : Act σ (Except Failure Unit) := do
  match outcome with
  | .ok () => return .ok ()
  | .error error =>
      Act.log (.responseNotWritten error)
      return .error (.transportFailed error)

def report (session : Session) (outcome : Except SendError Unit) : Act σ (Except Failure Unit) := do
  if session.sampled then
    Act.log .requestCompleted
  conclude outcome

/-- Answers a request: finalizes the response, writes it, and closes the connection unless it stays
open and the response was taken. -/
def answer (session : Session) (connection : Connection) (response : Response) :
    Act σ (Except Failure Unit × Connection) := do
  let keepAlive := session.keepAlive && !response.wantsClose
  let clock ← Act.now
  let (outcome, written) ←
    send connection (finalized response keepAlive session.version clock.date)
  let left ← leave written (keepAlive && succeeded outcome)
  let outcome ← report session outcome
  return (outcome, left)

end Switchyard.Serving
