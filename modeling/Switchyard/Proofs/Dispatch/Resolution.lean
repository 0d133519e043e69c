import Switchyard.Dispatch.Resolver
import Switchyard.Proofs.Conversion.Filling
import Switchyard.Proofs.Dispatch.Transcript

/-!
# What resolvers say

`Consults` is the transcript of asking resolvers, of which the last one asked is the first that
answers.  `Resolves` is that of finding the response to a failure: it is the rendering of an answer,
the one of a resolver if there is one and the error body otherwise.
-/

set_option autoImplicit false

namespace Switchyard.Dispatch.Resolvers

open Conversion (Registry)
open Http (Response Status)

variable {σ : Type} {position : Nat} {said : Transcript} {answer : Option Answer}
  {resolvers : Resolvers σ} {registry : Registry} {context : Context}
  {handler : Option (Handler σ)} {given : Answer} {status : Status} {failure : Failure}
  {response : Response}

/-- Asking resolvers about a failure, of which the first one has the position given. -/
inductive Consults (context : Context) (handler : Option (Handler σ)) (failure : Failure) :
    Nat → List (Resolver σ) → Transcript → Option Answer → Prop where
  | silent {position : Nat} : Consults context handler failure position [] [] none
  | answered {position : Nat} {resolver : Resolver σ} {rest : List (Resolver σ)} {state : σ}
      {answer : Answer}
      (called : (resolver.resolve context handler failure state).1 = .returned (some answer)) :
      Consults context handler failure position (resolver :: rest)
        [.resolverCalled position (.returned (some answer))] (some answer)
  | further {position : Nat} {resolver : Resolver σ} {rest : List (Resolver σ)} {state : σ}
      {attempt : Attempt Cause (Option Answer)} {logs said : Transcript} {answer : Option Answer}
      (called : (resolver.resolve context handler failure state).1 = attempt)
      (unanswered : ∀ given, attempt ≠ .returned (some given)) (silent : Silent logs)
      (others : Consults context handler failure (position + 1) rest said answer) :
      Consults context handler failure position (resolver :: rest)
        (.resolverCalled position attempt :: (logs ++ said)) answer

/-- The response in which an answer to a failure of a status is rendered. -/
def Renders (registry : Registry) (context : Context) (answer : Answer) (status : Status)
    (response : Response) : Prop :=
  match answer.draft status with
  | .complete found => response = found
  | .unwritten draft payload =>
      match registry.write payload (Media.acceptedRanges context.head.fields) [] draft with
      | .ok written => response = written
      | .error _ => response = withoutBody draft

/-- Finding the response to a failure. -/
inductive Resolves (resolvers : Resolvers σ) (context : Context) (handler : Option (Handler σ))
    (failure : Failure) : Transcript → Response → Prop where
  | answered {said logs : Transcript} {given : Answer} {response : Response}
      (consults : Consults context handler failure 0 resolvers.resolvers said (some given))
      (silent : Silent logs)
      (renders : Renders resolvers.registry context given failure.status response) :
      Resolves resolvers context handler failure (.resolving failure :: (said ++ logs)) response
  | unanswered {said logs : Transcript} {millis : Nat} {response : Response}
      (consults : Consults context handler failure 0 resolvers.resolvers said none)
      (silent : Silent logs)
      (renders : Renders resolvers.registry context
        (.typed (some (.json (errorBody resolvers.errorCode context failure millis))))
        failure.status response) :
      Resolves resolvers context handler failure (.resolving failure :: (said ++ logs)) response

theorem ask_emits (context : Context) (handler : Option (Handler σ)) (failure : Failure)
    (resolvers : List (Resolver σ)) :
    (ask context handler failure position resolvers).Emits
      (Consults context handler failure position resolvers) := by
  induction resolvers generalizing position with
  | nil => exact Act.emits_pure .silent
  | cons resolver rest inductionHypothesis =>
      unfold ask
      apply (Act.emits_perform _).bind
      rintro _ attempt ⟨rfl, state, called⟩
      refine (Act.emits_note ?_).bind ?_
      · nofun
      rintro _ _ rfl
      -- What is logged of an attempt that gives no answer has no bearing on those that follow.
      have logged (notice : Notice) (unanswered : ∀ given, attempt ≠ .returned (some given)) :
          (do Act.log notice; ask context handler failure (position + 1) rest).Emits
            fun said answer => Consults context handler failure position (resolver :: rest)
              (.resolverCalled position attempt :: said) answer := by
        apply (Act.emits_log notice).bind
        rintro _ _ rfl
        apply inductionHypothesis.mono
        intro said answer others
        exact .further called unanswered (.single notice) others
      split
      · exact Act.emits_pure (.answered called)
      · apply inductionHypothesis.mono
        intro said answer others
        exact .further called nofun .nil others
      · exact logged _ nofun
      · exact logged _ nofun

theorem render_emits (registry : Registry) (context : Context) (answer : Answer)
    (status : Status) :
    (render (σ := σ) registry context answer status).Emits fun said response =>
      Silent said ∧ Renders registry context answer status response := by
  unfold render
  split
  case h_1 found drafted => exact Act.emits_pure ⟨.nil, by simp [Renders, drafted]⟩
  case h_2 draft payload drafted =>
    simp only [Registry.run_fill]
    cases outcome : registry.write payload (Media.acceptedRanges context.head.fields) [] draft with
    | ok written => exact Act.emits_pure ⟨.nil, by simp [Renders, drafted, outcome]⟩
    | error reason =>
      apply (Act.emits_log _).bind
      rintro _ _ rfl
      exact Act.emits_pure ⟨.single _, by simp [Renders, drafted, outcome]⟩

theorem fallback_emits (errorCode : Int) (context : Context) (failure : Failure) :
    (fallback (σ := σ) errorCode context failure).Emits fun said answer =>
      Silent said ∧
        ∃ millis, answer = .typed (some (.json (errorBody errorCode context failure millis))) := by
  unfold fallback
  apply (Act.emits_log _).bind
  rintro _ _ rfl
  apply Act.emits_now.bind
  rintro _ clock rfl
  exact Act.emits_pure ⟨.single _, clock.millis, rfl⟩

theorem resolve_emits (resolvers : Resolvers σ) (context : Context)
    (handler : Option (Handler σ)) (failure : Failure) :
    (resolvers.resolve context handler failure).Emits
      (Resolves resolvers context handler failure) := by
  unfold resolve
  refine (Act.emits_note ?_).bind ?_
  · nofun
  rintro _ _ rfl
  apply (ask_emits _ _ _ _).bind
  intro said answer consults
  split
  case h_1 given =>
    apply (render_emits _ _ _ _).mono
    rintro logs response ⟨silent, renders⟩
    exact show Resolves _ _ _ _ (.resolving failure :: (said ++ logs)) _ from
      .answered consults silent renders
  case h_2 =>
    apply (fallback_emits _ _ _).bind
    rintro lines _ ⟨quiet, millis, rfl⟩
    apply (render_emits _ _ _ _).mono
    rintro logs response ⟨silent, renders⟩
    exact show Resolves _ _ _ _ (.resolving failure :: (said ++ (lines ++ logs))) _ from
      .unanswered consults (quiet.append silent) renders

theorem Consults.within {asked : List (Resolver σ)}
    (consults : Consults context handler failure position asked said answer) :
    Within .resolving said := by
  induction consults with
  | silent => exact .nil
  | answered => exact .cons (.inr rfl) .nil
  | further _ _ silent _ inductionHypothesis =>
      exact .cons (.inr rfl) (.append (silent.within _) inductionHypothesis)

theorem Consults.answer_mem {asked : List (Resolver σ)}
    (consults : Consults context handler failure position asked said (some given)) :
    ∃ position, .resolverCalled position (.returned (some given)) ∈ said := by
  generalize answered : some given = answer at consults
  induction consults with
  | silent => cases answered
  | answered =>
      cases answered
      exact ⟨_, List.mem_singleton_self _⟩
  | further _ _ _ _ inductionHypothesis =>
      obtain ⟨position, membership⟩ := inductionHypothesis answered
      exact ⟨position, List.mem_cons_of_mem _ (List.mem_append_right _ membership)⟩

theorem Consults.questions {asked : List (Resolver σ)}
    (consults : Consults context handler failure position asked said answer) :
    View.questions.of said = [] := by
  induction consults with
  | silent => rfl
  | answered => rfl
  | further _ _ silent _ inductionHypothesis =>
      rw [View.of_cons_none rfl, View.of_append, View.of_silent silent, inductionHypothesis]
      rfl

namespace Resolves

theorem within (resolves : Resolves resolvers context handler failure said response) :
    Within .resolving said := by
  cases resolves with
  | answered consults silent _ =>
      exact .cons (.inr rfl) (.append consults.within (silent.within _))
  | unanswered consults silent _ =>
      exact .cons (.inr rfl) (.append consults.within (silent.within _))

theorem questions (resolves : Resolves resolvers context handler failure said response) :
    View.questions.of said = [failure] := by
  cases resolves with
  | answered consults silent _ =>
      rw [View.of_cons_some rfl, View.of_append, consults.questions, View.of_silent silent]
      rfl
  | unanswered consults silent _ =>
      rw [View.of_cons_some rfl, View.of_append, consults.questions, View.of_silent silent]
      rfl

end Resolves

end Switchyard.Dispatch.Resolvers
