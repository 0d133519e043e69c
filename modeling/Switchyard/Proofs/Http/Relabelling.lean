import Switchyard.Proofs.Http.Leases

/-!
# Trackers by other names

What is done with leases does not depend on which trackers count them: with other trackers the same
is answered, and the same places hold and give back the corresponding leases.
-/

set_option autoImplicit false

namespace Switchyard.Http

variable {f : Nat → Nat}

def Lease.relabel (f : Nat → Nat) (lease : Lease) : Lease :=
  ⟨f lease.tracker⟩

def Body.relabel (f : Nat → Nat) (body : Body) : Body :=
  { body with lease := body.lease.map (Lease.relabel f) }

def Request.relabel (f : Nat → Nat) (request : Request) : Request :=
  { request with body := request.body.relabel f }

def LeaseStep.relabel (f : Nat → Nat) : LeaseStep → LeaseStep
  | .acquire name tracker => .acquire name (f tracker)
  | .leasedBody name content tracker => .leasedBody name content (f tracker)
  | step => step

theorem LeaseStep.acquired?_relabel (f : Nat → Nat) (step : LeaseStep) :
    (step.relabel f).acquired? = step.acquired?.map (Lease.relabel f) := by
  cases step <;> rfl

namespace Shelf

variable {α β : Type}

/-- The same names with other things under them. -/
def relabel (g : α → β) (shelf : Shelf α) : Shelf β :=
  shelf.map fun entry => (entry.1, g entry.2)

theorem get?_relabel (g : α → β) (shelf : Shelf α) (name : String) :
    (shelf.relabel g).get? name = (shelf.get? name).map g := by
  induction shelf with
  | nil => rfl
  | cons entry rest inductionHypothesis =>
      rw [get?_cons, apply_ite (Option.map g), ← inductionHypothesis]
      exact get?_cons (entry.1, g entry.2) (relabel g rest) name

theorem take_relabel (g : α → β) (shelf : Shelf α) (name : String) :
    (shelf.relabel g).take name = relabel g (shelf.take name) := by
  rw [take, relabel, List.filter_map]
  rfl

theorem put_relabel (g : α → β) (shelf : Shelf α) (name : String) (thing : α) :
    (shelf.relabel g).put name (g thing) = relabel g (shelf.put name thing) := by
  rw [put, take_relabel]
  rfl

theorem gather_relabel (of : α → Option Lease) (other : β → Option Lease) {g : α → β}
    (corresponding : ∀ thing, other (g thing) = (of thing).map (Lease.relabel f))
    (shelf : Shelf α) :
    (shelf.relabel g).gather other = (shelf.gather of).map (Lease.relabel f) := by
  simp only [gather, relabel, List.filterMap_map, List.map_filterMap, Function.comp_def,
    corresponding]

end Shelf

namespace LeaseBook

variable {book other : LeaseBook}

/-- Two books in which the same places hold corresponding leases. -/
structure Relabelled (f : Nat → Nat) (book other : LeaseBook) : Prop where
  leases : other.leases = book.leases.relabel (Lease.relabel f)
  bodies : other.bodies = book.bodies.relabel (Body.relabel f)
  requests : other.requests = book.requests.relabel (Request.relabel f)
  copies : other.copies = book.copies

namespace Relabelled

theorem held (alike : Relabelled f book other) :
    other.held = book.held.map (Lease.relabel f) := by
  simp only [LeaseBook.held, alike.leases, alike.bodies, alike.requests, List.map_append]
  rw [Shelf.gather_relabel some some fun _ => rfl,
    Shelf.gather_relabel Body.lease Body.lease fun _ => rfl,
    Shelf.gather_relabel Request.lease Request.lease fun _ => rfl]

section Lookup

theorem lease? (alike : Relabelled f book other) (name : String) :
    other.leases.get? name = (book.leases.get? name).map (Lease.relabel f) := by
  rw [alike.leases, Shelf.get?_relabel]

theorem body? (alike : Relabelled f book other) (name : String) :
    other.bodies.get? name = (book.bodies.get? name).map (Body.relabel f) := by
  rw [alike.bodies, Shelf.get?_relabel]

theorem request? (alike : Relabelled f book other) (name : String) :
    other.requests.get? name = (book.requests.get? name).map (Request.relabel f) := by
  rw [alike.requests, Shelf.get?_relabel]

theorem leaseOf (alike : Relabelled f book other) (name : String) :
    other.leaseOf name = (book.leaseOf name).map (Lease.relabel f) :=
  alike.lease? name

theorem leaseOfBody (alike : Relabelled f book other) (name : String) :
    other.leaseOfBody name = (book.leaseOfBody name).map (Lease.relabel f) := by
  rw [LeaseBook.leaseOfBody, alike.body?, LeaseBook.leaseOfBody]
  cases book.bodies.get? name <;> rfl

theorem leaseOfRequest (alike : Relabelled f book other) (name : String) :
    other.leaseOfRequest name = (book.leaseOfRequest name).map (Lease.relabel f) := by
  rw [LeaseBook.leaseOfRequest, alike.request?, LeaseBook.leaseOfRequest]
  cases book.requests.get? name <;> rfl

theorem foundLease (alike : Relabelled f book other) (name : String) :
    LeaseAnswer.found (other.leases.get? name).isSome =
      .found (book.leases.get? name).isSome := by
  rw [alike.lease?, Option.isSome_map]

theorem foundBody (alike : Relabelled f book other) (name : String) :
    LeaseAnswer.found (other.bodies.get? name).isSome =
      .found (book.bodies.get? name).isSome := by
  rw [alike.body?, Option.isSome_map]

theorem foundRequest (alike : Relabelled f book other) (name : String) :
    LeaseAnswer.found (other.requests.get? name).isSome =
      .found (book.requests.get? name).isSome := by
  rw [alike.request?, Option.isSome_map]

end Lookup

section Change

theorem acquire (alike : Relabelled f book other) (tracker : Nat) :
    Relabelled f (book.acquire tracker).2 (other.acquire (f tracker)).2 :=
  ⟨alike.leases, alike.bodies, alike.requests, alike.copies⟩

theorem withTrackers (alike : Relabelled f book other) (trackers also : Trackers) :
    Relabelled f { book with trackers } { other with trackers := also } :=
  ⟨alike.leases, alike.bodies, alike.requests, alike.copies⟩

theorem takeLease (alike : Relabelled f book other) (name : String) :
    Relabelled f (book.takeLease name) (other.takeLease name) := by
  have taken := Shelf.take_relabel (Lease.relabel f) book.leases name
  rw [← alike.leases] at taken
  exact ⟨taken, alike.bodies, alike.requests, alike.copies⟩

theorem takeBody (alike : Relabelled f book other) (name : String) :
    Relabelled f (book.takeBody name) (other.takeBody name) := by
  have taken := Shelf.take_relabel (Body.relabel f) book.bodies name
  rw [← alike.bodies] at taken
  exact ⟨alike.leases, taken, alike.requests, alike.copies⟩

theorem takeRequest (alike : Relabelled f book other) (name : String) :
    Relabelled f (book.takeRequest name) (other.takeRequest name) := by
  have taken := Shelf.take_relabel (Request.relabel f) book.requests name
  rw [← alike.requests] at taken
  exact ⟨alike.leases, alike.bodies, taken, alike.copies⟩

theorem putLease (alike : Relabelled f book other) (name : String) (lease : Lease) :
    Relabelled f (book.putLease name lease) (other.putLease name (lease.relabel f)) := by
  have placed := Shelf.put_relabel (Lease.relabel f) book.leases name lease
  rw [← alike.leases] at placed
  exact ⟨placed, alike.bodies, alike.requests, alike.copies⟩

theorem putBody (alike : Relabelled f book other) (name : String) (body : Body) :
    Relabelled f (book.putBody name body) (other.putBody name (body.relabel f)) := by
  have placed := Shelf.put_relabel (Body.relabel f) book.bodies name body
  rw [← alike.bodies] at placed
  exact ⟨alike.leases, placed, alike.requests, alike.copies⟩

theorem putRequest (alike : Relabelled f book other) (name : String) (request : Request) :
    Relabelled f (book.putRequest name request) (other.putRequest name (request.relabel f)) := by
  have placed := Shelf.put_relabel (Request.relabel f) book.requests name request
  rw [← alike.requests] at placed
  exact ⟨alike.leases, alike.bodies, placed, alike.copies⟩

theorem withCopies (alike : Relabelled f book other) (change : Shelf Octets → Shelf Octets) :
    Relabelled f { book with copies := change book.copies }
      { other with copies := change other.copies } :=
  ⟨alike.leases, alike.bodies, alike.requests, congrArg change alike.copies⟩

end Change

/-- A step does the same in both books. -/
theorem step (alike : Relabelled f book other) (step : LeaseStep) :
    (other.step (step.relabel f)).1 = (book.step step).1 ∧
      other.returned? (step.relabel f) = (book.returned? step).map (Lease.relabel f) ∧
      Relabelled f (book.step step).2 (other.step (step.relabel f)).2 := by
  cases step with
  | acquire name tracker =>
      exact ⟨alike.foundLease name, alike.leaseOf name,
        (alike.acquire tracker).putLease name ⟨tracker⟩⟩
  | moveLease name target =>
      simp only [LeaseStep.relabel, LeaseBook.step, returned?, alike.lease? name]
      cases book.leases.get? name with
      | none => exact ⟨rfl, rfl, alike⟩
      | some lease =>
          have taken := alike.takeLease name
          exact ⟨alike.foundLease target, taken.leaseOf target, taken.putLease target lease⟩
  | dropLease name =>
      exact ⟨alike.foundLease name, alike.leaseOf name, (alike.takeLease name).withTrackers _ _⟩
  | body name content =>
      exact ⟨alike.foundBody name, alike.leaseOfBody name, alike.putBody name (.ofOctets content)⟩
  | leasedBody name content tracker =>
      exact ⟨alike.foundBody name, alike.leaseOfBody name,
        (alike.acquire tracker).putBody name (.leased content ⟨tracker⟩)⟩
  | attach name content source =>
      simp only [LeaseStep.relabel, LeaseBook.step, returned?, alike.lease? source]
      cases book.leases.get? source with
      | none => exact ⟨rfl, rfl, alike⟩
      | some lease =>
          exact ⟨alike.foundBody name, alike.leaseOfBody name,
            (alike.takeLease source).putBody name (.leased content lease)⟩
  | moveBody name target =>
      simp only [LeaseStep.relabel, LeaseBook.step, returned?, alike.body? name]
      cases book.bodies.get? name with
      | none => exact ⟨rfl, rfl, alike⟩
      | some body =>
          have taken := alike.takeBody name
          exact ⟨alike.foundBody target, taken.leaseOfBody target, taken.putBody target body⟩
  | release name =>
      have returned := alike.leaseOfBody name
      simp only [LeaseStep.relabel, LeaseBook.step, returned?, alike.body? name]
      cases book.bodies.get? name with
      | none => exact ⟨rfl, returned, alike⟩
      | some body =>
          have answer : LeaseAnswer.released (body.relabel f).holdsLease =
              .released body.holdsLease := congrArg _ (Option.isSome_map ..)
          exact ⟨answer, returned,
            (alike.putBody name { body with lease := none }).withTrackers _ _⟩
  | dropBody name =>
      exact ⟨alike.foundBody name, alike.leaseOfBody name, (alike.takeBody name).withTrackers _ _⟩
  | request name head content =>
      exact ⟨alike.foundRequest name, alike.leaseOfRequest name,
        alike.putRequest name (.ofOctets head content)⟩
  | wrap name head source =>
      simp only [LeaseStep.relabel, LeaseBook.step, returned?, alike.body? source]
      cases book.bodies.get? source with
      | none => exact ⟨rfl, rfl, alike⟩
      | some body =>
          exact ⟨alike.foundRequest name, alike.leaseOfRequest name,
            (alike.takeBody source).putRequest name ⟨head, body⟩⟩
  | lend name source =>
      have returned := alike.leaseOfRequest name
      simp only [LeaseStep.relabel, LeaseBook.step, returned?, alike.lease? source,
        alike.request? name]
      cases book.leases.get? source with
      | none => cases book.requests.get? name <;> exact ⟨rfl, rfl, alike⟩
      | some lease =>
          cases book.requests.get? name with
          | none => exact ⟨rfl, returned, alike⟩
          | some request =>
              have lent := (alike.takeLease source).putRequest name
                ⟨request.head, .leased request.body.content lease⟩
              exact ⟨rfl, returned, lent.withTrackers _ _⟩
  | refill name source =>
      have returned := alike.leaseOfRequest name
      simp only [LeaseStep.relabel, LeaseBook.step, returned?, alike.body? source,
        alike.request? name]
      cases book.bodies.get? source with
      | none => cases book.requests.get? name <;> exact ⟨rfl, rfl, alike⟩
      | some body =>
          cases book.requests.get? name with
          | none => exact ⟨rfl, returned, alike⟩
          | some request =>
              exact ⟨rfl, returned, (alike.takeBody source).putRequest name { request with body }⟩
  | moveRequest name target =>
      simp only [LeaseStep.relabel, LeaseBook.step, returned?, alike.request? name]
      cases book.requests.get? name with
      | none => exact ⟨rfl, rfl, alike⟩
      | some request =>
          have taken := alike.takeRequest name
          exact ⟨alike.foundRequest target, taken.leaseOfRequest target,
            taken.putRequest target request⟩
  | releaseRequest name =>
      have returned := alike.leaseOfRequest name
      simp only [LeaseStep.relabel, LeaseBook.step, returned?, alike.request? name]
      cases book.requests.get? name with
      | none => exact ⟨rfl, returned, alike⟩
      | some request =>
          have answer : LeaseAnswer.released (request.body.relabel f).holdsLease =
              .released request.body.holdsLease := congrArg _ (Option.isSome_map ..)
          have emptied := alike.putRequest name
            ⟨request.head, { request.body with lease := none }⟩
          exact ⟨answer, returned, emptied.withTrackers _ _⟩
  | split name target =>
      simp only [LeaseStep.relabel, LeaseBook.step, returned?, alike.request? name]
      cases book.requests.get? name with
      | none => exact ⟨rfl, rfl, alike⟩
      | some request =>
          exact ⟨alike.foundBody target, alike.leaseOfBody target,
            (alike.takeRequest name).putBody target request.body⟩
  | dropRequest name =>
      exact ⟨alike.foundRequest name, alike.leaseOfRequest name,
        (alike.takeRequest name).withTrackers _ _⟩
  | copy name source =>
      simp only [LeaseStep.relabel, LeaseBook.step, returned?, alike.body? source, alike.copies]
      cases book.bodies.get? source with
      | none => exact ⟨rfl, rfl, alike⟩
      | some body => exact ⟨rfl, rfl, alike.withCopies fun copies => copies.put name body.content⟩
  | copyRequest name source =>
      simp only [LeaseStep.relabel, LeaseBook.step, returned?, alike.request? source, alike.copies]
      cases book.requests.get? source with
      | none => exact ⟨rfl, rfl, alike⟩
      | some request =>
          exact ⟨rfl, rfl, alike.withCopies fun copies => copies.put name request.body.content⟩
  | dropCopy name =>
      have answer : LeaseAnswer.found (other.copies.get? name).isSome =
          .found (book.copies.get? name).isSome := by rw [alike.copies]
      exact ⟨answer, rfl, alike.withCopies fun copies => copies.take name⟩

theorem run (alike : Relabelled f book other) (steps : List LeaseStep) :
    other.answers (steps.map (LeaseStep.relabel f)) = book.answers steps ∧
      other.returns (steps.map (LeaseStep.relabel f)) =
        (book.returns steps).map (Lease.relabel f) ∧
      Relabelled f (book.run steps) (other.run (steps.map (LeaseStep.relabel f))) := by
  induction steps generalizing book other with
  | nil => exact ⟨rfl, rfl, alike⟩
  | cons step rest inductionHypothesis =>
      obtain ⟨answer, returned, stepped⟩ := alike.step step
      obtain ⟨answers, returns, ran⟩ := inductionHypothesis stepped
      refine ⟨?_, ?_, ran⟩
      · rw [List.map_cons, LeaseBook.answers, LeaseBook.answers, answer, answers]
      · rw [List.map_cons, LeaseBook.returns, LeaseBook.returns, returned, returns,
          List.map_append, Option.toList_map]

end Relabelled

end LeaseBook

end Switchyard.Http
