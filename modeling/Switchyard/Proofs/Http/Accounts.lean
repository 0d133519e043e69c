import Switchyard.Proofs.Http.Relabelling

/-!
# Every lease is given back once

The leases of a run are numbered in the order in which they are acquired.  With their numbers for
trackers they are told apart, and the run is the same but for these trackers.
-/

set_option autoImplicit false

namespace Switchyard.Http.LeaseBook

/-- Steps in which every lease has its number for its tracker, `next` being the first. -/
def numbered (next : Nat) : List LeaseStep → List LeaseStep
  | [] => []
  | step :: rest =>
      step.relabel (fun _ => next) :: numbered (next + step.acquired?.toList.length) rest

/-- The tracker that a numbered lease was acquired from. -/
def owner (steps : List LeaseStep) (number : Nat) : Nat :=
  ((acquisitions steps)[number]?.map Lease.tracker).getD 0

theorem acquisitions_numbered (next : Nat) (steps : List LeaseStep) :
    acquisitions (numbered next steps) =
      (List.range' next (acquisitions steps).length).map Lease.mk := by
  induction steps generalizing next with
  | nil => rfl
  | cons step rest inductionHypothesis =>
      rw [numbered, acquisitions_cons, acquisitions_cons, inductionHypothesis,
        LeaseStep.acquired?_relabel]
      cases step.acquired? with
      | none => simp
      | some lease => simp [List.range'_succ, Lease.relabel]

theorem relabel_relabel {f : Nat → Nat} {number : Nat} {step : LeaseStep}
    (owns : ∀ lease ∈ step.acquired?, f number = lease.tracker) :
    (step.relabel fun _ => number).relabel f = step := by
  cases step with
  | acquire name tracker => exact congrArg (LeaseStep.acquire name) (owns ⟨tracker⟩ rfl)
  | leasedBody name content tracker =>
      exact congrArg (LeaseStep.leasedBody name content) (owns ⟨tracker⟩ rfl)
  | _ => rfl

/-- Numbered steps are the steps again when the numbers are replaced by the trackers. -/
theorem relabel_numbered {f : Nat → Nat} {next : Nat} {steps : List LeaseStep}
    (owns : ∀ place, ∀ lease ∈ (acquisitions steps)[place]?, f (next + place) = lease.tracker) :
    (numbered next steps).map (LeaseStep.relabel f) = steps := by
  induction steps generalizing next with
  | nil => rfl
  | cons step rest inductionHypothesis =>
      rw [acquisitions_cons] at owns
      have first : (step.relabel fun _ => next).relabel f = step := by
        refine relabel_relabel fun lease acquired => ?_
        have placed : (step.acquired?.toList ++ acquisitions rest)[0]? = some lease := by
          rw [Option.mem_def.mp acquired]
          rfl
        exact owns 0 lease placed
      have others : (numbered (next + step.acquired?.toList.length) rest).map
          (LeaseStep.relabel f) = rest := by
        refine inductionHypothesis fun place lease placed => ?_
        rw [Nat.add_assoc]
        refine owns _ lease ?_
        rwa [List.getElem?_append_right (Nat.le_add_right _ _), Nat.add_sub_cancel_left]
      rw [numbered, List.map_cons, first, others]

theorem relabel_owner (steps : List LeaseStep) :
    (numbered 0 steps).map (LeaseStep.relabel (owner steps)) = steps := by
  refine relabel_numbered fun place lease placed => ?_
  rw [Nat.zero_add, owner, Option.mem_def.mp placed]
  rfl

theorem relabelled_empty (f : Nat → Nat) : Relabelled f empty empty :=
  ⟨rfl, rfl, rfl, rfl⟩

theorem counted_empty : empty.Counted :=
  fun _ => rfl

/-- What is known of the leases after a run. -/
structure Accounted (steps : List LeaseStep) : Prop where
  /-- Every tracker counts those of its leases that are held. -/
  counted : (empty.run steps).Counted
  /-- Whatever is done next, the counts change by what is acquired and what is given back, and none
  goes below zero. -/
  balanced : ∀ step lease,
    ((empty.run steps).step step).2.trackers.outstanding lease.tracker +
        ((empty.run steps).returned? step).toList.count lease =
      (empty.run steps).trackers.outstanding lease.tracker + step.acquired?.toList.count lease
  /-- A release answers whether it gives a lease back. -/
  released : ∀ step, ((empty.run steps).step step).1 = .released true ↔
    step.isRelease = true ∧ ((empty.run steps).returned? step).isSome = true
  /-- Every lease that was acquired is held in one place, or it is held nowhere and has been given
  back once. -/
  once : ∀ number, (empty.returns (numbered 0 steps)).count ⟨number⟩ +
      (empty.run (numbered 0 steps)).held.count ⟨number⟩ =
    if number < (acquisitions steps).length then 1 else 0
  /-- Numbers instead of trackers change nothing else. -/
  alike : empty.answers (numbered 0 steps) = empty.answers steps ∧
    empty.returns steps = (empty.returns (numbered 0 steps)).map (Lease.relabel (owner steps)) ∧
    Relabelled (owner steps) (empty.run (numbered 0 steps)) (empty.run steps)
  /-- Without all that was done with copies, the same is held and has been given back. -/
  copied : empty.returns (steps.filter fun step => !step.isCopy) = empty.returns steps ∧
    ∃ copies, empty.run steps =
      { empty.run (steps.filter fun step => !step.isCopy) with copies }

/-- Whatever is done with leases, bodies, requests and copies of their contents, in whatever order:
the counts of the trackers are right, every lease is given back once, and copies neither keep a
lease nor end one. -/
theorem accounted (steps : List LeaseStep) : Accounted steps where
  counted := counted_empty.run orderly_empty steps
  balanced := (counted_empty.run orderly_empty steps).balance (orderly_empty.run steps)
  released := released_iff _
  once number := by
    have numbers : ((List.range' 0 (acquisitions steps).length).map Lease.mk).count ⟨number⟩ =
        (List.range' 0 (acquisitions steps).length).count number :=
      List.count_map_of_injective _ Lease.mk (fun _ _ same => congrArg Lease.tracker same) number
    have unheld : empty.held.count ⟨number⟩ = 0 := rfl
    rw [orderly_empty.count_returns, acquisitions_numbered, numbers, unheld, Nat.zero_add,
      List.count_range_1']
    simp
  alike := by
    have alike := (relabelled_empty (owner steps)).run (numbered 0 steps)
    rw [relabel_owner] at alike
    exact ⟨alike.1.symm, alike.2⟩
  copied := run_without_copies empty steps []

end Switchyard.Http.LeaseBook
