import Switchyard.Dispatch.Adapter
import Switchyard.Proofs.Outcome
import Switchyard.Proofs.Dispatch.Transcript

/-!
# What comes of a prepared call

The response of a call of a handler is the rendering of the handler's answer; a call without an
answer has no response.  Calls do not break off where the adapters of the user are `Steady`.
-/

set_option autoImplicit false

namespace Switchyard.Dispatch

open Conversion (Registry)
open Http (Response)
open Media (acceptedRanges)

variable {σ : Type} {registry : Registry} {context : Context} {handler : Handler σ}
  {call : PendingCall σ} {result : Called} {response : Response}

/-- Whether a call came to a response: the handler answered and its answer could be rendered, or an
adapter of the user gave the response. -/
def Called.Renders (registry : Registry) (context : Context) (response : Response) :
    Called → Prop
  | .handler attempt outcome => outcome = .ok response ∧ ∃ answer produces,
      attempt = .returned answer ∧
      Answer.render registry answer (acceptedRanges context.head.fields) produces = .ok response
  | .adapter attempt => attempt = .returned response

/-- Whether what is recorded of a call is what became of the handler's answer. -/
def Called.Faithful (registry : Registry) (context : Context) (handler : Handler σ) :
    Called → Prop
  | .handler attempt outcome => ∃ produces, outcome = Adapter.conclude handler
      (fun answer => answer.render registry (acceptedRanges context.head.fields) produces) attempt
  | .adapter _ => True

namespace Adapter

theorem conclude_eq_ok {α : Type} {respond : α → Except Failure Response}
    {attempt : Attempt Cause α} (concluded : conclude handler respond attempt = .ok response) :
    ∃ value, attempt = .returned value ∧ respond value = .ok response := by
  unfold conclude at concluded
  split at concluded
  case h_1 value caught => exact ⟨value, Attempt.caught_eq_ok.mp caught, concluded⟩
  case h_2 => cases concluded

/-- The call of a handler comes to what becomes of the handler's answer. -/
def Concluding (registry : Registry) (context : Context) (handler : Handler σ)
    (result : Called) : Prop :=
  ∃ attempt produces, result = .handler attempt (conclude handler
    (fun answer => answer.render registry (acceptedRanges context.head.fields) produces) attempt)

theorem prepareConverting_run
    (prepared : prepareConverting registry context handler = .ok call) (state : σ) :
    Concluding registry context handler (call.run state).1 := by
  unfold prepareConverting at prepared
  have named (attempt : Attempt Cause Answer) : attempt.map id = attempt := by
    cases attempt <;> rfl
  split at prepared
  case h_1 typed kind =>
    obtain ⟨input, -, rfl⟩ := map_eq_ok.mp prepared
    refine ⟨((typed.handle context input).run state).1, typed.produces, ?_⟩
    simp only [callOf, named]
  case h_2 rest kind =>
    obtain ⟨input, -, rfl⟩ := map_eq_ok.mp prepared
    refine ⟨((rest.handle context input).run state).1, [], ?_⟩
    simp only [callOf, named]
  case h_3 => cases prepared
  case h_4 => cases prepared

theorem prepareRaw_run (prepared : prepareRaw context handler = .ok call) (state : σ) :
    Concluding registry context handler (call.run state).1 := by
  unfold prepareRaw at prepared
  split at prepared
  case h_1 handle kind =>
    cases prepared
    refine ⟨((handle context).run state).1.map .raw, [], ?_⟩
    cases attempt : ((handle context).run state).1 <;>
      simp [callOf, attempt, conclude, Attempt.caught, Attempt.map, Answer.render, Answer.draft]
  case h_2 => cases prepared

theorem Concluding.faithful (concluding : Concluding registry context handler result) :
    result.Faithful registry context handler := by
  obtain ⟨attempt, produces, rfl⟩ := concluding
  exact ⟨produces, rfl⟩

theorem prepare_faithful {adapter : Adapter σ}
    (prepared : adapter.prepare registry context handler = .ok call) (state : σ) :
    (call.run state).1.Faithful registry context handler := by
  cases adapter with
  | user found =>
      cases prepared
      exact True.intro
  | converting => exact (prepareConverting_run prepared state).faithful
  | raw => exact (prepareRaw_run prepared state).faithful

end Adapter

theorem Adapters.prepare_faithful {adapters : Adapters σ}
    (prepared : adapters.prepare context handler = .ok call) (state : σ) :
    (call.run state).1.Faithful adapters.registry context handler := by
  obtain ⟨adapter, -, prepared⟩ := bind_eq_ok.mp prepared
  exact Adapter.prepare_faithful prepared state

/-- The call of a handler that an adapter of the user takes is the call of that adapter. -/
theorem Adapters.run_of_user {adapters : Adapters σ} {adapter : UserAdapter σ}
    (chosen : adapters.resolve handler = .ok (.user adapter))
    (prepared : adapters.prepare context handler = .ok call) (state : σ) :
    (call.run state).1 = .adapter (adapter.handle context handler state).1 := by
  obtain ⟨found, resolved, prepared⟩ := bind_eq_ok.mp prepared
  cases chosen.symm.trans resolved
  cases prepared
  rfl

theorem Called.Faithful.renders (faithful : result.Faithful registry context handler)
    (returned : result.attempt = .returned response) :
    result.Renders registry context response := by
  cases result with
  | adapter attempt => exact returned
  | handler attempt outcome =>
      cases outcome with
      | error failure => cases returned
      | ok found =>
          cases returned
          obtain ⟨produces, concluded⟩ := faithful
          obtain ⟨answer, answered, rendered⟩ := Adapter.conclude_eq_ok concluded.symm
          exact ⟨rfl, answer, produces, answered, rendered⟩

/-- Only the code of an adapter of the user breaks off. -/
theorem Called.attempt_eq_panicked {message : Option String}
    (panicked : result.attempt = .panicked message) : result = .adapter (.panicked message) := by
  cases result with
  | adapter attempt => exact congrArg Called.adapter panicked
  | handler attempt outcome => cases outcome <;> cases panicked

/-- The code of no adapter of the user ever breaks off. -/
def Adapters.Steady (adapters : Adapters σ) : Prop :=
  ∀ adapter, .user adapter ∈ adapters.adapters → ∀ context handler state message,
    (adapter.handle context handler state).1 ≠ .panicked message

namespace Adapters

variable {adapters : Adapters σ}

theorem steady_ofUser {users : List (UserAdapter σ)}
    (steady : ∀ adapter ∈ users, ∀ context handler state message,
      (adapter.handle context handler state).1 ≠ .panicked message) :
    (ofUser users registry).Steady := by
  intro adapter membership
  have listed : adapter ∈ users := by simpa [ofUser] using membership
  exact steady adapter listed

theorem Steady.unbroken (steady : adapters.Steady)
    (prepared : adapters.prepare context handler = .ok call) (state : σ)
    (message : Option String) : (call.run state).1.attempt ≠ .panicked message := by
  intro panicked
  have broken := Called.attempt_eq_panicked panicked
  obtain ⟨adapter, resolved, prepared⟩ := bind_eq_ok.mp prepared
  have membership : adapter ∈ adapters.adapters := by
    unfold resolve at resolved
    split at resolved
    case h_1 found selected =>
      cases resolved
      exact List.mem_of_find?_eq_some selected
    case h_2 => cases resolved
  cases adapter with
  | user found =>
      cases prepared
      exact steady found membership context handler state message (Called.adapter.inj broken)
  | converting =>
      obtain ⟨attempt, produces, ran⟩ := Adapter.prepareConverting_run prepared state
      rw [broken] at ran
      cases ran
  | raw =>
      have concluding : Adapter.Concluding adapters.registry context handler _ :=
        Adapter.prepareRaw_run prepared state
      obtain ⟨attempt, produces, ran⟩ := concluding
      rw [broken] at ran
      cases ran

end Adapters

end Switchyard.Dispatch
