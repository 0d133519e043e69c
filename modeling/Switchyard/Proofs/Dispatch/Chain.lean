import Switchyard.Dispatch.Chain
import Switchyard.Proofs.Dispatch.Transcript

/-!
# What a chain says

`Asks`, `Shows` and `Tells` are the transcripts of the three calls of interceptors.  Interceptors
are asked up to the first that does not let the request pass, shown the response up to the first
that fails, and told of the end without exception.
-/

set_option autoImplicit false

namespace Switchyard

/-- The failure that an attempt of an interceptor is. -/
def Attempt.failure? {α : Type} (phase : Phase) (attempt : Attempt Cause α) : Option Failure :=
  match attempt.caught with
  | .ok _ => none
  | .error cause => some (.interceptorFailed phase cause)

theorem Attempt.failure?_of_error {α : Type} {attempt : Attempt Cause α} {cause : Cause}
    (failed : attempt.caught = .error cause) (phase : Phase) :
    attempt.failure? phase = some (.interceptorFailed phase cause) := by
  simp [failure?, failed]

@[simp]
theorem Attempt.failure?_returned {α : Type} {value : α} {phase : Phase} :
    (Attempt.returned value).failure? phase = none := rfl

/-- Whether an interceptor let the request pass. -/
def Attempt.passes (attempt : Attempt Cause Bool) : Bool :=
  attempt = .returned true

/-- Whether a call came back without a failure. -/
def Attempt.returns {α : Type} (attempt : Attempt Cause α) : Bool :=
  match attempt with
  | .returned _ => true
  | .failed _ | .panicked _ => false

theorem Attempt.returns_of_error {α : Type} {attempt : Attempt Cause α} {cause : Cause}
    (failed : attempt.caught = .error cause) : attempt.returns = false := by
  cases attempt with
  | returned value => cases failed
  | failed cause => rfl
  | panicked message => rfl

theorem Attempt.passes_of_error {attempt : Attempt Cause Bool} {cause : Cause}
    (failed : attempt.caught = .error cause) : attempt.passes = false := by
  cases attempt with
  | returned value => cases failed
  | failed cause => rfl
  | panicked message => rfl

namespace Dispatch

open Http (Response)

namespace Transcript

/-- The number of leading interceptors that let the request pass. -/
def passed (said : Transcript) : Nat :=
  ((View.asks.of said).takeWhile fun ask => ask.2.passes).length

/-- Whether an interceptor stopped the request. -/
def stopped (said : Transcript) : Bool :=
  (View.asks.of said).any fun ask => ask.2 = .returned false

/-- The failure of an interceptor that was asked. -/
def refusal? (said : Transcript) : Option Failure :=
  (View.asks.of said).findSome? fun ask => ask.2.failure? .preHandle

/-- The number of interceptors, from the first one shown the response on, that did not fail. -/
def pleased (said : Transcript) : Nat :=
  ((View.shows.of said).takeWhile fun shown => shown.2.returns).length

/-- The failure of an interceptor that was shown the response. -/
def objection? (said : Transcript) : Option Failure :=
  (View.shows.of said).findSome? fun shown => shown.2.failure? .postHandle

variable {position : Nat} {left : Option Response} {response altered : Response}
  {said : Transcript}

@[simp]
theorem passed_further :
    passed (.preHandled position (.returned true) left :: said) = passed said + 1 := by
  rw [passed, View.of_cons_some rfl]
  rfl

@[simp]
theorem stopped_further :
    stopped (.preHandled position (.returned true) left :: said) = stopped said := by
  rw [stopped, View.of_cons_some rfl]
  rfl

@[simp]
theorem refusal?_further :
    refusal? (.preHandled position (.returned true) left :: said) = refusal? said := by
  rw [refusal?, View.of_cons_some rfl]
  rfl

@[simp]
theorem pleased_further :
    pleased (.postHandled position (.returned ()) response altered :: said) = pleased said + 1 := by
  rw [pleased, View.of_cons_some rfl]
  rfl

@[simp]
theorem objection?_further :
    objection? (.postHandled position (.returned ()) response altered :: said) =
      objection? said := by
  rw [objection?, View.of_cons_some rfl]
  rfl

end Transcript

/-- Whether a call of an interceptor is one of the interceptor at that position. -/
def Event.Genuine {σ : Type} (interceptors : List (Interceptor σ)) (handler : Handler σ) :
    Event → Prop
  | .preHandled position attempt left => ∃ interceptor exchange state changed,
      interceptors[position]? = some interceptor ∧
      (interceptor.preHandle exchange handler state).1 = (attempt, changed) ∧
      changed.response = left
  | .postHandled position attempt shown altered => ∃ interceptor exchange state changed,
      interceptors[position]? = some interceptor ∧
      (interceptor.postHandle exchange handler shown state).1 = (attempt, changed, altered)
  | .afterCompleted position failure attempt => ∃ interceptor exchange state,
      interceptors[position]? = some interceptor ∧
      (interceptor.afterCompletion exchange handler failure state).1 = attempt
  | _ => True

theorem Silent.genuine {σ : Type} {said : Transcript} (silent : Silent said)
    (interceptors : List (Interceptor σ)) (handler : Handler σ) :
    ∀ event ∈ said, event.Genuine interceptors handler := by
  intro event membership
  obtain ⟨notice, rfl⟩ := silent event membership
  exact True.intro

namespace Chain

variable {σ : Type} {handler : Handler σ} {exchange : Exchange}
  {interceptors : List (Interceptor σ)}
  {placed : List (Interceptor σ × Nat)} {cursor : Nat} {said : Transcript} {asked : Asked}
  {response : Response} {shown : Shown} {failure : Option Failure}

/-- Asking interceptors, of which the first has the position given. -/
inductive Asks (handler : Handler σ) :
    Nat → Exchange → List (Interceptor σ) → Transcript → Asked → Prop where
  | passed {cursor : Nat} {exchange : Exchange} :
      Asks handler cursor exchange [] [] ⟨.ok true, cursor, exchange⟩
  | further {cursor : Nat} {exchange changed : Exchange} {interceptor : Interceptor σ}
      {rest : List (Interceptor σ)} {state : σ} {said : Transcript} {asked : Asked}
      (called : (interceptor.preHandle exchange handler state).1 = (.returned true, changed))
      (others : Asks handler (cursor + 1) changed rest said asked) :
      Asks handler cursor exchange (interceptor :: rest)
        (.preHandled cursor (.returned true) changed.response :: said) asked
  | stopped {cursor : Nat} {exchange changed : Exchange} {interceptor : Interceptor σ}
      {rest : List (Interceptor σ)} {state : σ}
      (called : (interceptor.preHandle exchange handler state).1 = (.returned false, changed)) :
      Asks handler cursor exchange (interceptor :: rest)
        [.preHandled cursor (.returned false) changed.response] ⟨.ok false, cursor, changed⟩
  | failed {cursor : Nat} {exchange changed : Exchange} {interceptor : Interceptor σ}
      {rest : List (Interceptor σ)} {state : σ} {attempt : Attempt Cause Bool} {cause : Cause}
      (called : (interceptor.preHandle exchange handler state).1 = (attempt, changed))
      (failed : attempt.caught = .error cause) :
      Asks handler cursor exchange (interceptor :: rest)
        [.preHandled cursor attempt changed.response]
        ⟨.error (.interceptorFailed .preHandle cause), cursor, changed⟩

/-- Showing a response to interceptors with their positions. -/
inductive Shows (handler : Handler σ) :
    Exchange → Response → List (Interceptor σ × Nat) → Transcript → Shown → Prop where
  | done {exchange : Exchange} {response : Response} :
      Shows handler exchange response [] [] ⟨.ok (), response, exchange⟩
  | further {exchange changed : Exchange} {response altered : Response}
      {interceptor : Interceptor σ} {position : Nat} {rest : List (Interceptor σ × Nat)} {state : σ}
      {said : Transcript} {shown : Shown}
      (called : (interceptor.postHandle exchange handler response state).1 =
        (.returned (), changed, altered))
      (others : Shows handler changed altered rest said shown) :
      Shows handler exchange response ((interceptor, position) :: rest)
        (.postHandled position (.returned ()) response altered :: said) shown
  | failed {exchange changed : Exchange} {response altered : Response}
      {interceptor : Interceptor σ} {position : Nat} {rest : List (Interceptor σ × Nat)} {state : σ}
      {attempt : Attempt Cause Unit} {cause : Cause}
      (called : (interceptor.postHandle exchange handler response state).1 =
        (attempt, changed, altered))
      (failed : attempt.caught = .error cause) :
      Shows handler exchange response ((interceptor, position) :: rest)
        [.postHandled position attempt response altered]
        ⟨.error (.interceptorFailed .postHandle cause), altered, changed⟩

/-- Telling interceptors with their positions of the end. -/
inductive Tells (handler : Handler σ) (exchange : Exchange) (failure : Option Failure) :
    List (Interceptor σ × Nat) → Transcript → Prop where
  | done : Tells handler exchange failure [] []
  | further {interceptor : Interceptor σ} {position : Nat} {rest : List (Interceptor σ × Nat)}
      {state : σ} {attempt : Attempt Cause Unit} {logs said : Transcript}
      (called : (interceptor.afterCompletion exchange handler failure state).1 = attempt)
      (silent : Silent logs) (others : Tells handler exchange failure rest said) :
      Tells handler exchange failure ((interceptor, position) :: rest)
        (.afterCompleted position failure attempt :: (logs ++ said))

theorem ask_emits (handler : Handler σ) (exchange : Exchange)
    (interceptors : List (Interceptor σ)) :
    (ask handler cursor exchange interceptors).Emits
      (Asks handler cursor exchange interceptors) := by
  induction interceptors generalizing cursor exchange with
  | nil => exact Act.emits_pure .passed
  | cons interceptor rest inductionHypothesis =>
      unfold ask
      apply (Act.emits_perform _).bind
      rintro _ ⟨attempt, changed⟩ ⟨rfl, state, called⟩
      refine (Act.emits_note ?_).bind ?_
      · nofun
      rintro _ _ rfl
      split
      case h_1 passing =>
        rw [Attempt.caught_eq_ok] at passing
        subst passing
        apply (inductionHypothesis changed).mono
        intro said asked others
        exact .further called others
      case h_2 stopping =>
        rw [Attempt.caught_eq_ok] at stopping
        subst stopping
        exact Act.emits_pure (.stopped called)
      case h_3 cause failed => exact Act.emits_pure (.failed called failed)

theorem present_emits (handler : Handler σ) (exchange : Exchange) (response : Response)
    (placed : List (Interceptor σ × Nat)) :
    (present handler exchange response placed).Emits
      (Shows handler exchange response placed) := by
  induction placed generalizing exchange response with
  | nil => exact Act.emits_pure .done
  | cons first rest inductionHypothesis =>
      obtain ⟨interceptor, position⟩ := first
      unfold present
      apply (Act.emits_perform _).bind
      rintro _ ⟨attempt, changed, altered⟩ ⟨rfl, state, called⟩
      refine (Act.emits_note ?_).bind ?_
      · nofun
      rintro _ _ rfl
      split
      case h_1 returned =>
        rw [Attempt.caught_eq_ok] at returned
        subst returned
        apply (inductionHypothesis changed altered).mono
        intro said shown others
        exact .further called others
      case h_2 cause failed => exact Act.emits_pure (.failed called failed)

theorem tell_emits (handler : Handler σ) (exchange : Exchange) (failure : Option Failure)
    (placed : List (Interceptor σ × Nat)) :
    (tell handler exchange failure placed).Emits
      fun said _ => Tells handler exchange failure placed said := by
  induction placed with
  | nil => exact Act.emits_pure .done
  | cons first rest inductionHypothesis =>
      obtain ⟨interceptor, position⟩ := first
      unfold tell
      apply (Act.emits_perform _).bind
      rintro _ attempt ⟨rfl, state, called⟩
      refine (Act.emits_note ?_).bind ?_
      · nofun
      rintro _ _ rfl
      split
      · apply inductionHypothesis.mono
        intro said _ others
        exact .further called .nil others
      · apply (Act.emits_log _).bind
        rintro _ _ rfl
        apply inductionHypothesis.mono
        intro said _ others
        exact show Tells handler exchange failure ((interceptor, position) :: rest)
          (.afterCompleted position failure attempt :: ([.logged _] ++ said)) from
            .further called (.single _) others

/-- The positions of interceptors, the last one first. -/
theorem positions_backwards (interceptors : List (Interceptor σ)) :
    (backwards interceptors).map Prod.snd = (List.range interceptors.length).reverse := by
  rw [backwards, List.map_reverse, List.zipIdx_map_snd, List.range_eq_range']

theorem getElem?_of_mem_backwards {pair : Interceptor σ × Nat}
    (membership : pair ∈ backwards interceptors) : interceptors[pair.2]? = some pair.1 :=
  List.mem_zipIdx_iff_getElem?.mp (List.mem_reverse.mp membership)

theorem applyPreHandle_emits (chain : Chain σ) (exchange : Exchange) :
    (chain.applyPreHandle exchange).Emits fun said result =>
      ∃ asked,
        Asks chain.handler chain.cursor exchange (chain.interceptors.drop chain.cursor) said asked ∧
        result = (asked.verdict,
          { chain with cursor := asked.cursor, state := stateAfter asked.verdict },
          asked.exchange) := by
  unfold applyPreHandle
  apply (ask_emits _ _ _).bind
  intro said asked asks
  exact Act.emits_pure ⟨asked, by simpa using asks, rfl⟩

theorem applyPostHandle_emits {chain : Chain σ} (handling : chain.state = .handling)
    (exchange : Exchange) (response : Response) :
    (chain.applyPostHandle exchange response).Emits fun said result =>
      Shows chain.handler exchange response (backwards chain.interceptors) said result.1 ∧
        result.2 = { chain with state := .postHandling } := by
  unfold applyPostHandle
  rw [if_pos handling]
  apply (present_emits _ _ _ _).bind
  intro said shown shows
  exact Act.emits_pure ⟨by simpa using shows, rfl⟩

theorem complete_emits {chain : Chain σ} (unfinished : chain.state ≠ .completed)
    (exchange : Exchange) (failure : Option Failure) :
    (chain.complete exchange failure).Emits fun said _ =>
      Tells chain.handler exchange failure (backwards (chain.interceptors.take chain.cursor))
        said := by
  unfold complete
  rw [if_neg unfinished]
  apply (tell_emits _ _ _ _).bind
  intro said _ tells
  exact Act.emits_pure (by simpa using tells)

namespace Asks

theorem within (asks : Asks handler cursor exchange interceptors said asked) :
    Within .asking said := by
  induction asks with
  | passed => exact .nil
  | further _ _ inductionHypothesis => exact .cons (.inr rfl) inductionHypothesis
  | stopped => exact .cons (.inr rfl) .nil
  | failed => exact .cons (.inr rfl) .nil

theorem positions (asks : Asks handler cursor exchange interceptors said asked) :
    (View.asks.of said).map Prod.fst =
      (List.range' cursor interceptors.length).take (Transcript.passed said + 1) := by
  induction asks with
  | passed => rfl
  | further _ _ inductionHypothesis =>
      rw [Transcript.passed_further, View.of_cons_some rfl, List.map_cons, inductionHypothesis]
      simp [List.range'_succ]
  | stopped => simp [View.of, View.asks, Transcript.passed, Attempt.passes, List.range'_succ]
  | failed _ failed =>
      simp [View.of, View.asks, Transcript.passed, Attempt.passes_of_error failed, List.range'_succ]

theorem cursor_eq (asks : Asks handler cursor exchange interceptors said asked) :
    asked.cursor = cursor + Transcript.passed said := by
  induction asks with
  | passed => rfl
  | further _ _ inductionHypothesis =>
      rw [inductionHypothesis, Transcript.passed_further]
      omega
  | stopped => simp [View.of, View.asks, Transcript.passed, Attempt.passes]
  | failed _ failed => simp [View.of, View.asks, Transcript.passed, Attempt.passes_of_error failed]

theorem cursor_le (asks : Asks handler cursor exchange interceptors said asked) :
    asked.cursor ≤ cursor + interceptors.length := by
  induction asks with
  | passed => exact Nat.le_refl _
  | further _ _ inductionHypothesis =>
      rw [List.length_cons]
      omega
  | stopped => exact Nat.le_add_right _ _
  | failed => exact Nat.le_add_right _ _

theorem verdict_ok_true (asks : Asks handler cursor exchange interceptors said asked)
    (through : asked.verdict = .ok true) :
    Transcript.passed said = interceptors.length ∧ Transcript.refusal? said = none ∧
      Transcript.stopped said = false := by
  induction asks with
  | passed => exact ⟨rfl, rfl, rfl⟩
  | further _ _ inductionHypothesis =>
      obtain ⟨passed, refusal, stopped⟩ := inductionHypothesis through
      refine ⟨?_, ?_, ?_⟩
      · simp [passed]
      · simp [refusal]
      · simp [stopped]
  | stopped => cases through
  | failed => cases through

theorem verdict_ok_false (asks : Asks handler cursor exchange interceptors said asked)
    (stopping : asked.verdict = .ok false) :
    Transcript.refusal? said = none ∧ Transcript.stopped said = true ∧
      ∃ position, .preHandled position (.returned false) asked.exchange.response ∈ said := by
  induction asks with
  | passed => cases stopping
  | further _ _ inductionHypothesis =>
      obtain ⟨refusal, stopped, position, membership⟩ := inductionHypothesis stopping
      refine ⟨?_, ?_, position, List.mem_cons_of_mem _ membership⟩
      · simp [refusal]
      · simp [stopped]
  | stopped => exact ⟨rfl, rfl, _, List.mem_singleton_self _⟩
  | failed => cases stopping

theorem verdict_error {failure : Failure}
    (asks : Asks handler cursor exchange interceptors said asked)
    (refused : asked.verdict = .error failure) : Transcript.refusal? said = some failure := by
  induction asks with
  | passed => cases refused
  | further _ _ inductionHypothesis =>
      simpa using inductionHypothesis refused
  | stopped => cases refused
  | failed _ failed =>
      cases refused
      simp [Transcript.refusal?, View.of, View.asks, Attempt.failure?_of_error failed]

/-- The interceptors asked are the ones at their positions. -/
theorem genuine {whole : List (Interceptor σ)}
    (asks : Asks handler cursor exchange interceptors said asked)
    (placed : whole.drop cursor = interceptors) :
    ∀ event ∈ said, event.Genuine whole handler := by
  have first {cursor : Nat} {interceptor : Interceptor σ} {rest : List (Interceptor σ)}
      (placed : whole.drop cursor = interceptor :: rest) : whole[cursor]? = some interceptor := by
    have head := congrArg List.head? placed
    rwa [List.head?_drop] at head
  induction asks with
  | passed =>
      intro event membership
      cases membership
  | further called _ inductionHypothesis =>
      intro event membership
      rcases List.mem_cons.mp membership with rfl | inRest
      · exact ⟨_, _, _, _, first placed, called, rfl⟩
      · refine inductionHypothesis ?_ event inRest
        rw [← List.tail_drop, placed]
        rfl
  | stopped called =>
      intro event membership
      rw [List.mem_singleton.mp membership]
      exact ⟨_, _, _, _, first placed, called, rfl⟩
  | failed called =>
      intro event membership
      rw [List.mem_singleton.mp membership]
      exact ⟨_, _, _, _, first placed, called, rfl⟩

end Asks

namespace Shows

theorem within (shows : Shows handler exchange response placed said shown) :
    Within .showing said := by
  induction shows with
  | done => exact .nil
  | further _ _ inductionHypothesis => exact .cons (.inr rfl) inductionHypothesis
  | failed => exact .cons (.inr rfl) .nil

theorem positions (shows : Shows handler exchange response placed said shown) :
    (View.shows.of said).map Prod.fst =
      (placed.map Prod.snd).take (Transcript.pleased said + 1) := by
  induction shows with
  | done => rfl
  | further _ _ inductionHypothesis =>
      rw [Transcript.pleased_further, View.of_cons_some rfl, List.map_cons, inductionHypothesis]
      simp
  | failed _ failed =>
      simp [View.of, View.shows, Transcript.pleased, Attempt.returns_of_error failed]

theorem outcome_ok (shows : Shows handler exchange response placed said shown)
    (outcome : shown.outcome = .ok ()) :
    Transcript.objection? said = none := by
  induction shows with
  | done => rfl
  | further _ _ inductionHypothesis =>
      simpa using inductionHypothesis outcome
  | failed => cases outcome

theorem outcome_error {failure : Failure}
    (shows : Shows handler exchange response placed said shown)
    (outcome : shown.outcome = .error failure) : Transcript.objection? said = some failure := by
  induction shows with
  | done => cases outcome
  | further _ _ inductionHypothesis =>
      simpa using inductionHypothesis outcome
  | failed _ failed =>
      cases outcome
      simp [Transcript.objection?, View.of, View.shows, Attempt.failure?_of_error failed]

theorem genuine (shows : Shows handler exchange response placed said shown)
    (positioned : ∀ pair ∈ placed, interceptors[pair.2]? = some pair.1) :
    ∀ event ∈ said, event.Genuine interceptors handler := by
  induction shows with
  | done =>
      intro event membership
      cases membership
  | further called _ inductionHypothesis =>
      intro event membership
      rcases List.mem_cons.mp membership with rfl | inRest
      · exact ⟨_, _, _, _, positioned _ List.mem_cons_self, called⟩
      · exact inductionHypothesis
          (fun pair inPlaced => positioned pair (List.mem_cons_of_mem _ inPlaced)) event inRest
  | failed called =>
      intro event membership
      rw [List.mem_singleton.mp membership]
      exact ⟨_, _, _, _, positioned _ List.mem_cons_self, called⟩

end Shows

namespace Tells

theorem within (tells : Tells handler exchange failure placed said) : Within .telling said := by
  induction tells with
  | done => exact .nil
  | further _ silent _ inductionHypothesis =>
      exact .cons (.inr rfl) (.append (silent.within _) inductionHypothesis)

theorem tellings (tells : Tells handler exchange failure placed said) :
    View.tellings.of said = placed.map fun pair => (pair.2, failure) := by
  induction tells with
  | done => rfl
  | further _ silent _ inductionHypothesis =>
      rw [View.of_cons_some rfl, View.of_append, View.of_silent silent, inductionHypothesis]
      rfl

theorem tellings_backwards (tells : Tells handler exchange failure (backwards interceptors) said) :
    View.tellings.of said =
      (List.range interceptors.length).reverse.map fun position => (position, failure) := by
  rw [tells.tellings, ← positions_backwards, List.map_map]
  rfl

theorem genuine (tells : Tells handler exchange failure placed said)
    (positioned : ∀ pair ∈ placed, interceptors[pair.2]? = some pair.1) :
    ∀ event ∈ said, event.Genuine interceptors handler := by
  induction tells with
  | done =>
      intro event membership
      cases membership
  | further called silent _ inductionHypothesis =>
      intro event membership
      rcases List.mem_cons.mp membership with rfl | inRest
      · exact ⟨_, _, _, positioned _ List.mem_cons_self, called⟩
      · rcases List.mem_append.mp inRest with inLogs | inSaid
        · exact silent.genuine _ _ event inLogs
        · exact inductionHypothesis
            (fun pair inPlaced => positioned pair (List.mem_cons_of_mem _ inPlaced)) event inSaid

end Tells

end Chain

end Dispatch

end Switchyard
