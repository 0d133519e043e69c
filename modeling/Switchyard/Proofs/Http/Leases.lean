import Mathlib.Data.List.Count
import Mathlib.Data.List.Nodup
import Switchyard.Http.LeaseBook

/-!
# Accounts of leases

Whatever is done with leases, bodies and requests, a tracker counts exactly those of its leases that
somebody holds, and a lease that nobody holds any more has been given back once.  Leases of one
tracker are alike; they are told apart by giving each of them a tracker of its own, which changes
nothing else.
-/

set_option autoImplicit false

namespace Switchyard.Http

namespace Trackers

variable {trackers : Trackers}

theorem outstanding_acquire (tracker other : Nat) :
    (trackers.acquire tracker).2.outstanding other =
      trackers.outstanding other + (if other = tracker then 1 else 0) := by
  unfold acquire
  split <;> simp_all

theorem outstanding_giveBack (lease : Lease) (tracker : Nat) :
    (trackers.giveBack lease).outstanding tracker =
      trackers.outstanding tracker - (if tracker = lease.tracker then 1 else 0) := by
  unfold giveBack
  split <;> simp_all

theorem outstanding_giveBackAny (returned : Option Lease) (tracker : Nat) :
    (trackers.giveBackAny returned).outstanding tracker =
      trackers.outstanding tracker - (if returned = some ⟨tracker⟩ then 1 else 0) := by
  cases returned with
  | none => simp [giveBackAny]
  | some given =>
      obtain ⟨number⟩ := given
      simp [giveBackAny, outstanding_giveBack, eq_comm]

theorem outstanding_acquire_eq_count (tracker : Nat) (lease : Lease) :
    (trackers.acquire tracker).2.outstanding lease.tracker =
      trackers.outstanding lease.tracker + [(⟨tracker⟩ : Lease)].count lease := by
  obtain ⟨other⟩ := lease
  rw [outstanding_acquire]
  by_cases same : other = tracker
  · simp [same]
  · simp [same, Ne.symm same]

theorem outstanding_giveBackAny_eq_count (returned : Option Lease) (lease : Lease) :
    (trackers.giveBackAny returned).outstanding lease.tracker =
      trackers.outstanding lease.tracker - returned.toList.count lease := by
  rw [outstanding_giveBackAny]
  cases returned <;> simp [List.count_singleton]

end Trackers

namespace Shelf

variable {α : Type} {shelf : Shelf α} {name : String}

/-- Whether nothing hides behind something else of its name. -/
def Distinct (shelf : Shelf α) : Prop :=
  (shelf.map Prod.fst).Nodup

theorem distinct_take (distinct : shelf.Distinct) (name : String) : (shelf.take name).Distinct :=
  distinct.sublist (List.filter_sublist.map _)

theorem distinct_put (distinct : shelf.Distinct) (name : String) (thing : α) :
    (shelf.put name thing).Distinct := by
  refine List.nodup_cons.mpr ⟨?_, distinct_take distinct name⟩
  simp [take]

/-- The leases of all that stands on a shelf. -/
def gather (of : α → Option Lease) (shelf : Shelf α) : List Lease :=
  shelf.filterMap fun entry => of entry.2

theorem get?_cons (entry : String × α) (shelf : Shelf α) (name : String) :
    get? (entry :: shelf) name = if name = entry.1 then some entry.2 else shelf.get? name := by
  obtain ⟨key, thing⟩ := entry
  by_cases same : name = key
  · simp [get?, same]
  · simp [get?, List.lookup_cons, beq_eq_false_iff_ne.mpr same, same]

theorem take_eq_self (absent : name ∉ shelf.map Prod.fst) : shelf.take name = shelf := by
  refine List.filter_eq_self.mpr ?_
  rintro entry membership
  simpa using fun same : entry.1 = name => absent (same ▸ List.mem_map_of_mem membership)

theorem count_gather_cons (of : α → Option Lease) (entry : String × α) (shelf : Shelf α)
    (lease : Lease) :
    (gather of (entry :: shelf)).count lease =
      (of entry.2).toList.count lease + (shelf.gather of).count lease := by
  simp only [gather, List.filterMap_cons]
  cases of entry.2 with
  | none => simp
  | some held => simp [List.count_cons, Nat.add_comm]

/-- What is taken from a shelf is the lease of what stood there. -/
theorem count_gather_take (distinct : shelf.Distinct) (of : α → Option Lease) (name : String)
    (lease : Lease) :
    ((shelf.take name).gather of).count lease + ((shelf.get? name).bind of).toList.count lease =
      (shelf.gather of).count lease := by
  induction shelf with
  | nil => rfl
  | cons entry rest inductionHypothesis =>
      obtain ⟨absent, distinct⟩ := List.nodup_cons.mp distinct
      have balance := inductionHypothesis distinct
      rw [get?_cons, count_gather_cons]
      by_cases same : name = entry.1
      · subst same
        have taken : take (entry :: rest) entry.1 = take rest entry.1 := by simp [take]
        rw [taken, take_eq_self absent, if_pos rfl, Option.bind_some, Nat.add_comm]
      · have kept : take (entry :: rest) name = entry :: take rest name := by
          simp [take, Ne.symm same]
        rw [kept, count_gather_cons, if_neg same]
        omega

theorem count_gather_put (distinct : shelf.Distinct) (of : α → Option Lease) (name : String)
    (thing : α) (lease : Lease) :
    ((shelf.put name thing).gather of).count lease +
        ((shelf.get? name).bind of).toList.count lease =
      (shelf.gather of).count lease + (of thing).toList.count lease := by
  have taken := count_gather_take distinct of name lease
  rw [put, count_gather_cons]
  dsimp only
  omega

end Shelf

namespace LeaseStep

/-- The lease that a step acquires. -/
def acquired? : LeaseStep → Option Lease
  | .acquire _ tracker | .leasedBody _ _ tracker => some ⟨tracker⟩
  | _ => none

def isRelease : LeaseStep → Bool
  | .release _ | .releaseRequest _ => true
  | _ => false

/-- Whether a step is only about copies. -/
def isCopy : LeaseStep → Bool
  | .copy _ _ | .copyRequest _ _ | .dropCopy _ => true
  | _ => false

end LeaseStep

namespace LeaseBook

variable {book : LeaseBook}

/-- The lease that a step gives back: that of what it lets go of or replaces. -/
def returned? (book : LeaseBook) : LeaseStep → Option Lease
  | .acquire name _ | .dropLease name => book.leaseOf name
  | .moveLease name target =>
      (book.leases.get? name).bind fun _ => (book.takeLease name).leaseOf target
  | .body name _ | .leasedBody name _ _ | .release name | .dropBody name => book.leaseOfBody name
  | .attach name _ source => (book.leases.get? source).bind fun _ => book.leaseOfBody name
  | .moveBody name target =>
      (book.bodies.get? name).bind fun _ => (book.takeBody name).leaseOfBody target
  | .request name _ _ | .releaseRequest name | .dropRequest name => book.leaseOfRequest name
  | .wrap name _ source | .refill name source =>
      (book.bodies.get? source).bind fun _ => book.leaseOfRequest name
  | .lend name source => (book.leases.get? source).bind fun _ => book.leaseOfRequest name
  | .moveRequest name target =>
      (book.requests.get? name).bind fun _ => (book.takeRequest name).leaseOfRequest target
  | .split name target => (book.requests.get? name).bind fun _ => book.leaseOfBody target
  | .copy _ _ | .copyRequest _ _ | .dropCopy _ => none

/-- All leases that are held, each by a holder of its own. -/
def held (book : LeaseBook) : List Lease :=
  book.leases.gather some ++ book.bodies.gather Body.lease ++
    book.requests.gather Request.lease

/-- A book in which nothing is hidden. -/
structure Orderly (book : LeaseBook) : Prop where
  leases : book.leases.Distinct
  bodies : book.bodies.Distinct
  requests : book.requests.Distinct

theorem orderly_empty : empty.Orderly :=
  ⟨List.nodup_nil, List.nodup_nil, List.nodup_nil⟩

/-- How one book becomes another while at most one lease is on its way between places: nothing comes
to be held but what is acquired or was brought, and nothing ceases to be held but what is given back
or is still to be put somewhere. -/
structure Shift (acquired returned : Option Lease) (before : LeaseBook) (brought : Option Lease)
    (after : LeaseBook) (left : Option Lease) : Prop where
  orderly : before.Orderly → after.Orderly
  outstanding : ∀ lease, after.trackers.outstanding lease.tracker =
    before.trackers.outstanding lease.tracker + acquired.toList.count lease -
      returned.toList.count lease
  held : before.Orderly → ∀ lease,
    after.held.count lease + left.toList.count lease + returned.toList.count lease =
      before.held.count lease + brought.toList.count lease + acquired.toList.count lease

namespace Shift

variable {acquired returned brought carried left : Option Lease}
  {before between after : LeaseBook}

theorem trans (first : Shift acquired none before brought between carried)
    (second : Shift none returned between carried after left) :
    Shift acquired returned before brought after left where
  orderly orderly := second.orderly (first.orderly orderly)
  outstanding lease := by
    rw [second.outstanding, first.outstanding]
    simp
  held orderly lease := by
    have early := first.held orderly lease
    have late := second.held (first.orderly orderly) lease
    simp only [Option.toList_none, List.count_nil] at early late
    omega

theorem copies (book : LeaseBook) (copies : Shelf Octets) :
    Shift none none book none { book with copies } none :=
  ⟨fun orderly => ⟨orderly.leases, orderly.bodies, orderly.requests⟩, fun _ => rfl, fun _ _ => rfl⟩

theorem acquire (book : LeaseBook) (tracker : Nat) :
    Shift (some ⟨tracker⟩) none book none (book.acquire tracker).2 (some ⟨tracker⟩) where
  orderly orderly := ⟨orderly.leases, orderly.bodies, orderly.requests⟩
  outstanding lease := Trackers.outstanding_acquire_eq_count tracker lease
  held _ _ := rfl

theorem giveBackAny (book : LeaseBook) (lease : Option Lease) :
    Shift none lease book lease (book.giveBackAny lease) none where
  orderly orderly := ⟨orderly.leases, orderly.bodies, orderly.requests⟩
  outstanding other := Trackers.outstanding_giveBackAny_eq_count lease other
  held _ _ := rfl

theorem takeLease (book : LeaseBook) (name : String) :
    Shift none none book none (book.takeLease name) (book.leaseOf name) where
  orderly orderly := ⟨Shelf.distinct_take orderly.leases name, orderly.bodies, orderly.requests⟩
  outstanding _ := rfl
  held orderly lease := by
    have taken := Shelf.count_gather_take orderly.leases some name lease
    rw [Option.bind_fun_some] at taken
    simp only [LeaseBook.held, LeaseBook.takeLease, leaseOf, List.count_append, Option.toList_none,
      List.count_nil]
    omega

theorem takeBody (book : LeaseBook) (name : String) :
    Shift none none book none (book.takeBody name) (book.leaseOfBody name) where
  orderly orderly := ⟨orderly.leases, Shelf.distinct_take orderly.bodies name, orderly.requests⟩
  outstanding _ := rfl
  held orderly lease := by
    have taken := Shelf.count_gather_take orderly.bodies Body.lease name lease
    simp only [LeaseBook.held, LeaseBook.takeBody, leaseOfBody, List.count_append,
      Option.toList_none, List.count_nil]
    omega

theorem takeRequest (book : LeaseBook) (name : String) :
    Shift none none book none (book.takeRequest name) (book.leaseOfRequest name) where
  orderly orderly := ⟨orderly.leases, orderly.bodies, Shelf.distinct_take orderly.requests name⟩
  outstanding _ := rfl
  held orderly lease := by
    have taken := Shelf.count_gather_take orderly.requests Request.lease name lease
    simp only [LeaseBook.held, LeaseBook.takeRequest, leaseOfRequest, List.count_append,
      Option.toList_none, List.count_nil]
    omega

theorem putLease (book : LeaseBook) (name : String) (lease : Lease) :
    Shift none (book.leaseOf name) book (some lease) (book.putLease name lease) none where
  orderly orderly :=
    ⟨Shelf.distinct_put orderly.leases name lease, orderly.bodies, orderly.requests⟩
  outstanding other := Trackers.outstanding_giveBackAny_eq_count (book.leaseOf name) other
  held orderly other := by
    have put := Shelf.count_gather_put orderly.leases some name lease other
    rw [Option.bind_fun_some] at put
    simp only [LeaseBook.held, LeaseBook.putLease, LeaseBook.giveBackAny, leaseOf,
      List.count_append]
    omega

theorem putBody (book : LeaseBook) (name : String) (body : Body) :
    Shift none (book.leaseOfBody name) book body.lease (book.putBody name body) none where
  orderly orderly := ⟨orderly.leases, Shelf.distinct_put orderly.bodies name body, orderly.requests⟩
  outstanding other := Trackers.outstanding_giveBackAny_eq_count (book.leaseOfBody name) other
  held orderly other := by
    have put := Shelf.count_gather_put orderly.bodies Body.lease name body other
    simp only [LeaseBook.held, LeaseBook.putBody, LeaseBook.giveBackAny, leaseOfBody,
      List.count_append]
    omega

theorem putRequest (book : LeaseBook) (name : String) (request : Request) :
    Shift none (book.leaseOfRequest name) book request.lease
      (book.putRequest name request) none where
  orderly orderly :=
    ⟨orderly.leases, orderly.bodies, Shelf.distinct_put orderly.requests name request⟩
  outstanding other := Trackers.outstanding_giveBackAny_eq_count (book.leaseOfRequest name) other
  held orderly other := by
    have put := Shelf.count_gather_put orderly.requests Request.lease name request other
    simp only [LeaseBook.held, LeaseBook.putRequest, LeaseBook.giveBackAny, leaseOfRequest,
      List.count_append]
    omega

end Shift

/-- What a step does to the leases: it acquires and gives back what it is said to. -/
theorem shift_step (book : LeaseBook) (step : LeaseStep) :
    Shift step.acquired? (book.returned? step) book none (book.step step).2 none := by
  cases step with
  | acquire name tracker =>
      exact (Shift.acquire book tracker).trans (.putLease (book.acquire tracker).2 name ⟨tracker⟩)
  | moveLease name target =>
      simp only [LeaseBook.step, returned?]
      cases found : book.leases.get? name with
      | none => exact .copies book book.copies
      | some lease =>
          have taken := Shift.takeLease book name
          rw [leaseOf, found] at taken
          exact taken.trans (.putLease (book.takeLease name) target lease)
  | dropLease name => exact (Shift.takeLease book name).trans (.giveBackAny _ _)
  | body name content => exact .putBody book name (.ofOctets content)
  | leasedBody name content tracker =>
      exact (Shift.acquire book tracker).trans
        (.putBody (book.acquire tracker).2 name (.leased content ⟨tracker⟩))
  | attach name content source =>
      simp only [LeaseBook.step, returned?]
      cases found : book.leases.get? source with
      | none => exact .copies book book.copies
      | some lease =>
          have taken := Shift.takeLease book source
          rw [leaseOf, found] at taken
          exact taken.trans (.putBody (book.takeLease source) name (.leased content lease))
  | moveBody name target =>
      simp only [LeaseBook.step, returned?]
      cases found : book.bodies.get? name with
      | none => exact .copies book book.copies
      | some body =>
          have taken := Shift.takeBody book name
          rw [leaseOfBody, found] at taken
          exact taken.trans (.putBody (book.takeBody name) target body)
  | release name =>
      simp only [LeaseBook.step, returned?]
      cases found : book.bodies.get? name with
      | none =>
          rw [leaseOfBody, found]
          exact .copies book book.copies
      | some body =>
          have replaced := Shift.putBody book name { body with lease := none }
          rw [putBody, leaseOfBody, found] at replaced
          rw [leaseOfBody, found]
          exact replaced
  | dropBody name => exact (Shift.takeBody book name).trans (.giveBackAny _ _)
  | request name head content => exact .putRequest book name (.ofOctets head content)
  | wrap name head source =>
      simp only [LeaseBook.step, returned?]
      cases found : book.bodies.get? source with
      | none => exact .copies book book.copies
      | some body =>
          have taken := Shift.takeBody book source
          rw [leaseOfBody, found] at taken
          exact taken.trans (.putRequest (book.takeBody source) name ⟨head, body⟩)
  | lend name source =>
      simp only [LeaseBook.step, returned?]
      cases found : book.requests.get? name with
      | none =>
          rw [leaseOfRequest, found, Option.bind_none, Option.bind_fun_none]
          exact .copies book book.copies
      | some request =>
          cases bare : book.leases.get? source with
          | none => exact .copies book book.copies
          | some lease =>
              have taken := Shift.takeLease book source
              have replaced := Shift.putRequest (book.takeLease source) name
                (request.lend lease book.trackers).1
              rw [leaseOf, bare] at taken
              rw [putRequest, leaseOfRequest, takeLease, found] at replaced
              rw [leaseOfRequest, found]
              exact taken.trans replaced
  | refill name source =>
      simp only [LeaseBook.step, returned?]
      cases found : book.requests.get? name with
      | none =>
          rw [leaseOfRequest, found, Option.bind_none, Option.bind_fun_none]
          exact .copies book book.copies
      | some request =>
          cases filling : book.bodies.get? source with
          | none => exact .copies book book.copies
          | some body =>
              have taken := Shift.takeBody book source
              rw [leaseOfBody, filling] at taken
              exact taken.trans (.putRequest (book.takeBody source) name { request with body })
  | moveRequest name target =>
      simp only [LeaseBook.step, returned?]
      cases found : book.requests.get? name with
      | none => exact .copies book book.copies
      | some request =>
          have taken := Shift.takeRequest book name
          rw [leaseOfRequest, found] at taken
          exact taken.trans (.putRequest (book.takeRequest name) target request)
  | releaseRequest name =>
      simp only [LeaseBook.step, returned?]
      cases found : book.requests.get? name with
      | none =>
          rw [leaseOfRequest, found]
          exact .copies book book.copies
      | some request =>
          have replaced := Shift.putRequest book name
            { request with body := { request.body with lease := none } }
          rw [putRequest, leaseOfRequest, found] at replaced
          rw [leaseOfRequest, found]
          exact replaced
  | split name target =>
      simp only [LeaseBook.step, returned?]
      cases found : book.requests.get? name with
      | none => exact .copies book book.copies
      | some request =>
          have taken := Shift.takeRequest book name
          rw [leaseOfRequest, found] at taken
          exact taken.trans (.putBody (book.takeRequest name) target request.body)
  | dropRequest name => exact (Shift.takeRequest book name).trans (.giveBackAny _ _)
  | copy name source =>
      simp only [LeaseBook.step]
      split <;> exact .copies book _
  | copyRequest name source =>
      simp only [LeaseBook.step]
      split <;> exact .copies book _
  | dropCopy => exact .copies book _

/-- A release answers whether it has given a lease back. -/
theorem released_iff (book : LeaseBook) (step : LeaseStep) :
    (book.step step).1 = .released true ↔
      step.isRelease = true ∧ (book.returned? step).isSome = true := by
  cases step with
  | release name =>
      simp only [LeaseBook.step, returned?, leaseOfBody, LeaseStep.isRelease, true_and]
      cases book.bodies.get? name with
      | none => simp
      | some body => simp [Body.release, Body.holdsLease]
  | releaseRequest name =>
      simp only [LeaseBook.step, returned?, leaseOfRequest, LeaseStep.isRelease, true_and]
      cases book.requests.get? name with
      | none => simp
      | some request => simp [Request.release, Body.release, Body.holdsLease, Request.lease]
  | moveLease name | attach _ _ name =>
      simp only [LeaseBook.step, LeaseStep.isRelease]
      cases book.leases.get? name <;> simp
  | moveBody name | wrap _ _ name | copy _ name =>
      simp only [LeaseBook.step, LeaseStep.isRelease]
      cases book.bodies.get? name <;> simp
  | moveRequest name | split name | copyRequest _ name =>
      simp only [LeaseBook.step, LeaseStep.isRelease]
      cases book.requests.get? name <;> simp
  | lend name source =>
      simp only [LeaseBook.step, LeaseStep.isRelease]
      cases book.requests.get? name <;> cases book.leases.get? source <;> simp
  | refill name source =>
      simp only [LeaseBook.step, LeaseStep.isRelease]
      cases book.requests.get? name <;> cases book.bodies.get? source <;> simp
  | acquire | dropLease | body | leasedBody | dropBody | request | dropRequest | dropCopy =>
      simp [LeaseBook.step, LeaseStep.isRelease]

section Runs

/-- The leases that steps acquire, in their order. -/
def acquisitions (steps : List LeaseStep) : List Lease :=
  steps.filterMap LeaseStep.acquired?

/-- The leases that steps give back, in their order. -/
def returns (book : LeaseBook) : List LeaseStep → List Lease
  | [] => []
  | step :: rest => (book.returned? step).toList ++ (book.step step).2.returns rest

def answers (book : LeaseBook) : List LeaseStep → List LeaseAnswer
  | [] => []
  | step :: rest => (book.step step).1 :: (book.step step).2.answers rest

/-- Whether every tracker counts its leases that are held. -/
def Counted (book : LeaseBook) : Prop :=
  ∀ lease : Lease, book.trackers.outstanding lease.tracker = book.held.count lease

theorem acquisitions_cons (step : LeaseStep) (steps : List LeaseStep) :
    acquisitions (step :: steps) = step.acquired?.toList ++ acquisitions steps := by
  unfold acquisitions
  rw [List.filterMap_cons]
  cases step.acquired? <;> rfl

theorem Orderly.run (orderly : book.Orderly) (steps : List LeaseStep) :
    (book.run steps).Orderly := by
  induction steps generalizing book with
  | nil => exact orderly
  | cons step rest inductionHypothesis =>
      exact inductionHypothesis ((book.shift_step step).orderly orderly)

/-- A count never goes below zero: what a step gives back was outstanding before. -/
theorem Counted.balance (counted : book.Counted) (orderly : book.Orderly) (step : LeaseStep)
    (lease : Lease) :
    (book.step step).2.trackers.outstanding lease.tracker +
        (book.returned? step).toList.count lease =
      book.trackers.outstanding lease.tracker + step.acquired?.toList.count lease := by
  have shift := book.shift_step step
  have outstanding := shift.outstanding lease
  have held := shift.held orderly lease
  have before := counted lease
  simp only [Option.toList_none, List.count_nil] at held
  omega

theorem Counted.step (counted : book.Counted) (orderly : book.Orderly) (step : LeaseStep) :
    (book.step step).2.Counted := by
  intro lease
  have balance := counted.balance orderly step lease
  have held := (book.shift_step step).held orderly lease
  have before := counted lease
  simp only [Option.toList_none, List.count_nil] at held
  omega

theorem Counted.run (counted : book.Counted) (orderly : book.Orderly) (steps : List LeaseStep) :
    (book.run steps).Counted := by
  induction steps generalizing book with
  | nil => exact counted
  | cons step rest inductionHypothesis =>
      exact inductionHypothesis (counted.step orderly step)
        ((book.shift_step step).orderly orderly)

/-- What was held before a run or is acquired in it is held after it or is given back in it. -/
theorem Orderly.count_returns (orderly : book.Orderly) (steps : List LeaseStep) (lease : Lease) :
    (book.returns steps).count lease + (book.run steps).held.count lease =
      book.held.count lease + (acquisitions steps).count lease := by
  induction steps generalizing book with
  | nil => simp [returns, acquisitions, LeaseBook.run]
  | cons step rest inductionHypothesis =>
      have shift := book.shift_step step
      have held := shift.held orderly lease
      have later := inductionHypothesis (shift.orderly orderly)
      simp only [Option.toList_none, List.count_nil] at held
      rw [returns, acquisitions_cons, List.count_append, List.count_append]
      change _ + ((book.step step).2.run rest).held.count lease = _
      omega

/-- A step that is only about copies changes nothing else and gives nothing back. -/
theorem step_of_isCopy (book : LeaseBook) {step : LeaseStep} (isCopy : step.isCopy = true) :
    book.returned? step = none ∧
      ∃ copies, (book.step step).2 = { book with copies } := by
  cases step with
  | copy name source =>
      simp only [LeaseBook.step]
      exact ⟨rfl, by cases book.bodies.get? source <;> exact ⟨_, rfl⟩⟩
  | copyRequest name source =>
      simp only [LeaseBook.step]
      exact ⟨rfl, by cases book.requests.get? source <;> exact ⟨_, rfl⟩⟩
  | dropCopy => exact ⟨rfl, _, rfl⟩
  | _ => cases isCopy

/-- Any other step takes no notice of copies. -/
theorem step_withCopies (book : LeaseBook) {step : LeaseStep} (other : step.isCopy = false)
    (copies : Shelf Octets) :
    returned? { book with copies } step = book.returned? step ∧
      LeaseBook.step { book with copies } step =
        ((book.step step).1, { (book.step step).2 with copies }) := by
  refine ⟨by cases step <;> rfl, ?_⟩
  cases step with
  | moveLease name | attach _ _ name =>
      simp only [LeaseBook.step]
      cases book.leases.get? name <;> rfl
  | moveBody name | wrap _ _ name | release name =>
      simp only [LeaseBook.step]
      cases book.bodies.get? name <;> rfl
  | moveRequest name | split name | releaseRequest name =>
      simp only [LeaseBook.step]
      cases book.requests.get? name <;> rfl
  | lend name source =>
      simp only [LeaseBook.step]
      cases book.requests.get? name <;> cases book.leases.get? source <;> rfl
  | refill name source =>
      simp only [LeaseBook.step]
      cases book.requests.get? name <;> cases book.bodies.get? source <;> rfl
  | copy | copyRequest | dropCopy => cases other
  | acquire | dropLease | body | leasedBody | dropBody | request | dropRequest => rfl

/-- Without the steps that are only about copies, the same is held and given back. -/
theorem run_without_copies (book : LeaseBook) (steps : List LeaseStep) (copies : Shelf Octets) :
    let others := steps.filter fun step => !step.isCopy
    returns { book with copies } others = book.returns steps ∧
      ∃ left, book.run steps =
        { LeaseBook.run { book with copies } others with copies := left } := by
  induction steps generalizing book with
  | nil => exact ⟨rfl, book.copies, rfl⟩
  | cons step rest inductionHypothesis =>
      obtain ⟨returned, left, ran⟩ := inductionHypothesis (book.step step).2
      cases isCopy : step.isCopy with
      | true =>
          obtain ⟨unreturned, changed, stepped⟩ := step_of_isCopy book isCopy
          simp only [List.filter_cons, isCopy, Bool.not_true, Bool.false_eq_true, if_false]
          rw [returns, unreturned]
          refine ⟨?_, left, ?_⟩
          · rw [stepped] at returned
            exact stepped ▸ returned
          · rw [stepped] at ran
            exact (congrArg (fun next => LeaseBook.run next rest) stepped).trans ran
      | false =>
          obtain ⟨same, stepped⟩ := step_withCopies book isCopy copies
          simp only [List.filter_cons, isCopy, Bool.not_false, if_true]
          refine ⟨?_, left, ?_⟩
          · rw [returns, same, stepped, returned, returns]
          · rw [LeaseBook.run, LeaseBook.run, List.foldl_cons, List.foldl_cons, stepped]
            exact ran

end Runs

end LeaseBook

end Switchyard.Http
