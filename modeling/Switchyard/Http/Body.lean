import Switchyard.Text.Octets

/-!
Request bodies and the leases on their buffers.

A transport lends the buffer of a body and counts, tracker by tracker, the leases that have not come
back.  A lease is a token that is given back when its holder lets go of it: a body releases the lease
it holds at most once.
-/

set_option autoImplicit false

namespace Switchyard.Http

/-- The token for a lent buffer; it names the tracker that counts it. -/
structure Lease where
  tracker : Nat
  deriving Repr, DecidableEq

/-- For every tracker, the number of leases that have not come back, taken to fit into a machine
word. -/
structure Trackers where
  outstanding : Nat → Nat

namespace Trackers

def idle : Trackers := ⟨fun _ => 0⟩

def acquire (trackers : Trackers) (tracker : Nat) : Lease × Trackers :=
  (⟨tracker⟩,
    ⟨fun other =>
      if other = tracker then trackers.outstanding other + 1 else trackers.outstanding other⟩)

def giveBack (trackers : Trackers) (lease : Lease) : Trackers :=
  ⟨fun other =>
    if other = lease.tracker then trackers.outstanding other - 1 else trackers.outstanding other⟩

def giveBackAny (trackers : Trackers) (lease : Option Lease) : Trackers :=
  match lease with
  | some held => trackers.giveBack held
  | none => trackers

end Trackers

/-- A request body, with the lease on its buffer unless it is its own. -/
structure Body where
  content : Octets
  lease : Option Lease
  deriving Repr, DecidableEq

namespace Body

def ofOctets (content : Octets) : Body :=
  ⟨content, none⟩

def leased (content : Octets) (lease : Lease) : Body :=
  ⟨content, some lease⟩

def holdsLease (body : Body) : Bool :=
  body.lease.isSome

def release (body : Body) (trackers : Trackers) : Bool × Body × Trackers :=
  (body.holdsLease, { body with lease := none }, trackers.giveBackAny body.lease)

def drop (body : Body) (trackers : Trackers) : Trackers :=
  trackers.giveBackAny body.lease

end Body

end Switchyard.Http
