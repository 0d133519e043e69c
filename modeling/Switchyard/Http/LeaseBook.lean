import Switchyard.Http.Request

/-!
Who holds which lease.

A `LeaseBook` records bare leases, bodies and requests under names, together with copies of contents
and the counts of the trackers.  Every `LeaseStep` is something a holder can do; what it replaces or
lets go of gives its lease back.  Copies hold no lease.
-/

set_option autoImplicit false

namespace Switchyard.Http

abbrev Shelf (α : Type) := List (String × α)

namespace Shelf

variable {α : Type}

def get? (shelf : Shelf α) (name : String) : Option α :=
  List.lookup name shelf

def take (shelf : Shelf α) (name : String) : Shelf α :=
  List.filter (fun entry => entry.1 ≠ name) shelf

def put (shelf : Shelf α) (name : String) (thing : α) : Shelf α :=
  (name, thing) :: shelf.take name

end Shelf

def Request.lease (request : Request) : Option Lease :=
  request.body.lease

/-- All holders of leases, the copies of contents, and the counts of the trackers. -/
structure LeaseBook where
  leases : Shelf Lease
  bodies : Shelf Body
  requests : Shelf Request
  copies : Shelf Octets
  trackers : Trackers

inductive LeaseStep where
  | acquire (name : String) (tracker : Nat)
  /-- Moves a bare lease under another name. -/
  | moveLease (name target : String)
  | dropLease (name : String)
  | body (name : String) (content : Octets)
  /-- Makes a body with a fresh lease. -/
  | leasedBody (name : String) (content : Octets) (tracker : Nat)
  /-- Makes a body with a bare lease, which is moved into it. -/
  | attach (name : String) (content : Octets) (lease : String)
  | moveBody (name target : String)
  | release (name : String)
  | dropBody (name : String)
  | request (name : String) (head : RequestHead) (content : Octets)
  /-- Makes a request of a body, which is moved into it. -/
  | wrap (name : String) (head : RequestHead) (body : String)
  /-- Moves a bare lease into a request, in the place of the lease it holds. -/
  | lend (name : String) (lease : String)
  /-- Moves a body into a request, in the place of the one it has. -/
  | refill (name : String) (body : String)
  | moveRequest (name target : String)
  | releaseRequest (name : String)
  /-- Takes a request apart and keeps its body under another name. -/
  | split (name : String) (body : String)
  | dropRequest (name : String)
  | copy (name : String) (body : String)
  | copyRequest (name : String) (request : String)
  | dropCopy (name : String)
  deriving Repr, DecidableEq

inductive LeaseAnswer where
  /-- Whether something stood under the name before. -/
  | found (before : Bool)
  /-- Whether a lease was given back. -/
  | released (now : Bool)
  | absent
  deriving Repr, DecidableEq

namespace LeaseBook

def empty : LeaseBook := ⟨[], [], [], [], .idle⟩

def acquire (book : LeaseBook) (tracker : Nat) : Lease × LeaseBook :=
  let (lease, trackers) := book.trackers.acquire tracker
  (lease, { book with trackers })

/-! What stands under a name is moved out of the book, dropped, or replaced. -/

def takeLease (book : LeaseBook) (name : String) : LeaseBook :=
  { book with leases := book.leases.take name }

def takeBody (book : LeaseBook) (name : String) : LeaseBook :=
  { book with bodies := book.bodies.take name }

def takeRequest (book : LeaseBook) (name : String) : LeaseBook :=
  { book with requests := book.requests.take name }

def giveBackAny (book : LeaseBook) (lease : Option Lease) : LeaseBook :=
  { book with trackers := book.trackers.giveBackAny lease }

def leaseOf (book : LeaseBook) (name : String) : Option Lease :=
  book.leases.get? name

def leaseOfBody (book : LeaseBook) (name : String) : Option Lease :=
  (book.bodies.get? name).bind Body.lease

def leaseOfRequest (book : LeaseBook) (name : String) : Option Lease :=
  (book.requests.get? name).bind Request.lease

def dropLease (book : LeaseBook) (name : String) : LeaseBook :=
  (book.takeLease name).giveBackAny (book.leaseOf name)

def dropBody (book : LeaseBook) (name : String) : LeaseBook :=
  (book.takeBody name).giveBackAny (book.leaseOfBody name)

def dropRequest (book : LeaseBook) (name : String) : LeaseBook :=
  (book.takeRequest name).giveBackAny (book.leaseOfRequest name)

def putLease (book : LeaseBook) (name : String) (lease : Lease) : LeaseBook :=
  { book with leases := book.leases.put name lease }.giveBackAny (book.leaseOf name)

def putBody (book : LeaseBook) (name : String) (body : Body) : LeaseBook :=
  { book with bodies := book.bodies.put name body }.giveBackAny (book.leaseOfBody name)

def putRequest (book : LeaseBook) (name : String) (request : Request) : LeaseBook :=
  { book with requests := book.requests.put name request }.giveBackAny (book.leaseOfRequest name)

def putCopy (book : LeaseBook) (name : String) (content : Octets) : LeaseBook :=
  { book with copies := book.copies.put name content }

def step (book : LeaseBook) : LeaseStep → LeaseAnswer × LeaseBook
  | .acquire name tracker =>
      let (lease, lending) := book.acquire tracker
      (.found (book.leases.get? name).isSome, lending.putLease name lease)
  | .moveLease name target =>
      match book.leases.get? name with
      | none => (.absent, book)
      | some lease =>
          (.found (book.leases.get? target).isSome, (book.takeLease name).putLease target lease)
  | .dropLease name => (.found (book.leases.get? name).isSome, book.dropLease name)
  | .body name content =>
      (.found (book.bodies.get? name).isSome, book.putBody name (.ofOctets content))
  | .leasedBody name content tracker =>
      let (lease, lending) := book.acquire tracker
      (.found (book.bodies.get? name).isSome, lending.putBody name (.leased content lease))
  | .attach name content source =>
      match book.leases.get? source with
      | none => (.absent, book)
      | some lease =>
          (.found (book.bodies.get? name).isSome,
            (book.takeLease source).putBody name (.leased content lease))
  | .moveBody name target =>
      match book.bodies.get? name with
      | none => (.absent, book)
      | some body =>
          (.found (book.bodies.get? target).isSome, (book.takeBody name).putBody target body)
  | .release name =>
      match book.bodies.get? name with
      | none => (.absent, book)
      | some body =>
          let (now, emptied, trackers) := body.release book.trackers
          (.released now, { book with bodies := book.bodies.put name emptied, trackers })
  | .dropBody name => (.found (book.bodies.get? name).isSome, book.dropBody name)
  | .request name head content =>
      (.found (book.requests.get? name).isSome, book.putRequest name (.ofOctets head content))
  | .wrap name head source =>
      match book.bodies.get? source with
      | none => (.absent, book)
      | some body =>
          (.found (book.requests.get? name).isSome,
            (book.takeBody source).putRequest name ⟨head, body⟩)
  | .lend name source =>
      match book.requests.get? name, book.leases.get? source with
      | some request, some lease =>
          let (lent, trackers) := request.lend lease book.trackers
          (.found true,
            { book.takeLease source with requests := book.requests.put name lent, trackers })
      | _, _ => (.absent, book)
  | .refill name source =>
      match book.requests.get? name, book.bodies.get? source with
      | some request, some body =>
          (.found true, (book.takeBody source).putRequest name { request with body })
      | _, _ => (.absent, book)
  | .moveRequest name target =>
      match book.requests.get? name with
      | none => (.absent, book)
      | some request =>
          (.found (book.requests.get? target).isSome,
            (book.takeRequest name).putRequest target request)
  | .releaseRequest name =>
      match book.requests.get? name with
      | none => (.absent, book)
      | some request =>
          let (now, emptied, trackers) := request.release book.trackers
          (.released now, { book with requests := book.requests.put name emptied, trackers })
  | .split name target =>
      match book.requests.get? name with
      | none => (.absent, book)
      | some request =>
          (.found (book.bodies.get? target).isSome,
            (book.takeRequest name).putBody target request.body)
  | .dropRequest name => (.found (book.requests.get? name).isSome, book.dropRequest name)
  | .copy name source =>
      match book.bodies.get? source with
      | none => (.absent, book)
      | some body => (.found (book.copies.get? name).isSome, book.putCopy name body.content)
  | .copyRequest name source =>
      match book.requests.get? source with
      | none => (.absent, book)
      | some request =>
          (.found (book.copies.get? name).isSome, book.putCopy name request.body.content)
  | .dropCopy name =>
      (.found (book.copies.get? name).isSome, { book with copies := book.copies.take name })

def run (book : LeaseBook) (steps : List LeaseStep) : LeaseBook :=
  steps.foldl (fun current step => (current.step step).2) book

end LeaseBook

end Switchyard.Http
