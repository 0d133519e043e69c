import Switchyard.Http.Response

/-!
The outgoing side of a connection.

A `Connection` keeps what its transport has taken, and counts writes and closings.  A transport
that takes responses refuses them once it is closed; a failing one refuses all of them.
-/

set_option autoImplicit false

namespace Switchyard.Http

inductive SendError where
  | closed
  | failed (reason : String)
  deriving Repr, DecidableEq

def SendError.message : SendError → String
  | .closed => "connection already closed"
  | .failed reason => s!"io error: {reason}"

/-- The counts of a connection, which are taken to fit into machine words. -/
structure ConnectionTally where
  responses : Nat := 0
  failures : Nat := 0
  octets : Nat := 0
  closings : Nat := 0
  deriving Repr, DecidableEq

structure Connection where
  /-- The reason for which the transport refuses every response, if it does. -/
  broken : Option String := none
  closed : Bool := false
  /-- The responses taken, the last one first. -/
  reversed : List Response := []
  tally : ConnectionTally := {}
  deriving Repr, DecidableEq

namespace Connection

def taken (connection : Connection) : List Response :=
  connection.reversed.reverse

def refusal? (connection : Connection) : Option SendError :=
  match connection.broken with
  | some reason => some (.failed reason)
  | none => if connection.closed then some .closed else none

def write (connection : Connection) (response : Response) : Except SendError Unit × Connection :=
  match connection.refusal? with
  | some error =>
      (.error error,
        { connection with
          tally := { connection.tally with failures := connection.tally.failures + 1 } })
  | none =>
      (.ok (),
        { connection with
          reversed := response :: connection.reversed
          tally :=
            { connection.tally with
              responses := connection.tally.responses + 1
              octets := connection.tally.octets + response.body.length } })

def close (connection : Connection) : Connection :=
  { connection with
    closed := true
    tally := { connection.tally with closings := connection.tally.closings + 1 } }

def wasClosed (connection : Connection) : Bool :=
  0 < connection.tally.closings

end Connection

end Switchyard.Http
