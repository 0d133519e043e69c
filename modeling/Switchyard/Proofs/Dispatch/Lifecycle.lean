import Mathlib.Data.List.Basic
import Mathlib.Data.List.Range
import Switchyard.Proofs.Dispatch.Chain

/-!
# Chains that are called in any order

The calls of a chain may come in any order and any number.  In all of them the cursor counts the
interceptors that let the request pass, the response is shown to nobody before all of them have, and
nobody is told of an end without having let the request pass.  A chain that has ended stays as it is
until it asks again; asking takes it back from its end, so that an interceptor is told twice exactly
if it let the request pass and an end, a question and another end came after that.
-/

set_option autoImplicit false

namespace Switchyard.Dispatch

open Http (Response)

namespace Transcript

/-- The positions of the interceptors that let the request pass, each as often as it did. -/
def passing (said : Transcript) : List Nat :=
  ((View.asks.of said).filter fun ask => ask.2.passes).map Prod.fst

/-- The positions of the interceptors that were told of an end, each as often as it was. -/
def informed (said : Transcript) : List Nat :=
  (View.tellings.of said).map Prod.fst

variable {said rest : Transcript}

@[simp]
theorem passing_append : passing (said ++ rest) = passing said ++ passing rest := by
  simp [passing]

@[simp]
theorem informed_append : informed (said ++ rest) = informed said ++ informed rest := by
  simp [informed]

theorem passing_of_within {stage : Stage} (within : Within stage said) (other : .asking ≠ stage) :
    passing said = [] := by
  rw [passing, View.of_eq_nil within other]
  rfl

theorem informed_of_within {stage : Stage} (within : Within stage said)
    (other : .telling ≠ stage) : informed said = [] := by
  rw [informed, View.of_eq_nil within other]
  rfl

end Transcript

namespace Chain

open Transcript (informed passing)

variable {σ : Type} {handler : Handler σ} {exchange : Exchange}
  {interceptors : List (Interceptor σ)} {cursor position : Nat} {said : Transcript} {asked : Asked}
  {failure : Option Failure} {chain changed : Chain σ}

theorem Asks.passing_eq (asks : Asks handler cursor exchange interceptors said asked) :
    passing said = List.range' cursor (Transcript.passed said) := by
  induction asks with
  | passed => rfl
  | further _ _ inductionHypothesis =>
      rw [Transcript.passed_further, List.range'_succ, ← inductionHypothesis, passing,
        View.of_cons_some rfl]
      rfl
  | stopped => rfl
  | failed _ failed =>
      have refused := Attempt.passes_of_error failed
      simp [passing, Transcript.passed, View.of, View.asks, refused]

theorem Tells.informed_eq
    (tells : Tells handler exchange failure (backwards interceptors) said) :
    informed said = (List.range interceptors.length).reverse := by
  rw [informed, tells.tellings_backwards, List.map_map]
  exact List.map_id _

/-- A call of a chain, with what it is given. -/
inductive Call where
  | ask (exchange : Exchange)
  | present (exchange : Exchange) (response : Response)
  | complete (exchange : Exchange) (failure : Option Failure)

namespace Call

def phase : Call → Phase
  | .ask _ => .preHandle
  | .present .. => .postHandle
  | .complete .. => .afterCompletion

/-- The chain as a call leaves it. -/
def perform (chain : Chain σ) : Call → Act σ (Chain σ)
  | .ask exchange => do
      let (_, changed, _) ← chain.applyPreHandle exchange
      return changed
  | .present exchange response => do
      let (_, changed) ← chain.applyPostHandle exchange response
      return changed
  | .complete exchange failure => chain.complete exchange failure

end Call

/-- What a call says, and what it does to the chain. -/
inductive Takes (chain : Chain σ) : Call → Transcript → Chain σ → Prop where
  | asked {exchange : Exchange} {said : Transcript} {asked : Asked}
      (asks : Asks chain.handler chain.cursor exchange (chain.interceptors.drop chain.cursor)
        said asked) :
      Takes chain (.ask exchange) said
        { chain with cursor := asked.cursor, state := stateAfter asked.verdict }
  | shown {exchange : Exchange} {response : Response} {said : Transcript} {shown : Shown}
      (handling : chain.state = .handling)
      (shows : Shows chain.handler exchange response (backwards chain.interceptors) said shown) :
      Takes chain (.present exchange response) said { chain with state := .postHandling }
  | unshown {exchange : Exchange} {response : Response} (elsewhere : chain.state ≠ .handling) :
      Takes chain (.present exchange response) [] chain
  | told {exchange : Exchange} {failure : Option Failure} {said : Transcript}
      (unfinished : chain.state ≠ .completed)
      (tells : Tells chain.handler exchange failure
        (backwards (chain.interceptors.take chain.cursor)) said) :
      Takes chain (.complete exchange failure) said { chain with state := .completed }
  | untold {exchange : Exchange} {failure : Option Failure} (finished : chain.state = .completed) :
      Takes chain (.complete exchange failure) [] chain

theorem perform_emits (chain : Chain σ) (call : Call) :
    (call.perform chain).Emits (Takes chain call) := by
  cases call with
  | ask exchange =>
      apply (applyPreHandle_emits _ _).bind
      rintro said _ ⟨asked, asks, rfl⟩
      exact Act.emits_pure (by simpa using Takes.asked asks)
  | present exchange response =>
      by_cases handling : chain.state = .handling
      · apply (applyPostHandle_emits handling _ _).bind
        rintro said ⟨shown, _⟩ ⟨shows, rfl⟩
        exact Act.emits_pure (by simpa using Takes.shown handling shows)
      · simp only [Call.perform, applyPostHandle, if_neg handling]
        exact Act.emits_pure (.unshown handling)
  | complete exchange failure =>
      by_cases finished : chain.state = .completed
      · simp only [Call.perform, complete, if_pos finished]
        exact Act.emits_pure (.untold finished)
      · simp only [Call.perform, complete, if_neg finished]
        apply (tell_emits _ _ _ _).bind
        intro said _ tells
        exact Act.emits_pure (by simpa using Takes.told finished tells)

/-- A call that was made, with what was said in it. -/
structure Turn where
  call : Call
  said : Transcript

def transcript (turns : List Turn) : Transcript :=
  turns.flatMap Turn.said

def phases (turns : List Turn) : List Phase :=
  turns.map fun turn => turn.call.phase

/-- The chain that calls in any order have made of a new one.  The world of a call need not be the
one that the call before has left. -/
inductive Lived (handler : Handler σ) (interceptors : List (Interceptor σ)) :
    List Turn → Chain σ → Prop where
  | fresh : Lived handler interceptors [] { handler, interceptors }
  | next {turns : List Turn} {chain changed : Chain σ} {call : Call} {world after : World σ}
      {said : Transcript} (lived : Lived handler interceptors turns chain)
      (ran : (call.perform chain).run world = (changed, after))
      (appended : after.events = world.events ++ said) :
      Lived handler interceptors (turns ++ [⟨call, said⟩]) changed

variable {turns before after : List Turn} {turn : Turn} {call : Call} {world later : World σ}

theorem takes_of_ran (ran : (call.perform chain).run world = (changed, later))
    (appended : later.events = world.events ++ said) : Takes chain call said changed :=
  (perform_emits chain call).related ran appended

@[simp]
theorem transcript_append : transcript (before ++ after) = transcript before ++ transcript after :=
  List.flatMap_append

@[simp]
theorem transcript_singleton : transcript [turn] = turn.said :=
  List.flatMap_singleton ..

@[simp]
theorem phases_append : phases (before ++ after) = phases before ++ phases after :=
  List.map_append

@[simp]
theorem phases_singleton : phases [turn] = [turn.call.phase] := rfl

namespace Takes

theorem handler_eq (takes : Takes chain call said changed) : changed.handler = chain.handler := by
  cases takes <;> rfl

theorem interceptors_eq (takes : Takes chain call said changed) :
    changed.interceptors = chain.interceptors := by
  cases takes <;> rfl

theorem genuine (takes : Takes chain call said changed) :
    ∀ event ∈ said, event.Genuine chain.interceptors chain.handler := by
  cases takes with
  | asked asks => exact asks.genuine rfl
  | shown _ shows => exact shows.genuine fun pair => getElem?_of_mem_backwards
  | unshown => exact List.forall_mem_nil _
  | told _ tells =>
      refine tells.genuine fun pair membership => ?_
      have taken := getElem?_of_mem_backwards membership
      rw [List.getElem?_take] at taken
      split at taken
      case isTrue => exact taken
      case isFalse => cases taken
  | untold => exact List.forall_mem_nil _

/-- The interceptors that let the request pass in a call are those that the cursor moves across. -/
theorem range_cursor (takes : Takes chain call said changed) :
    List.range changed.cursor = List.range chain.cursor ++ passing said := by
  cases takes with
  | asked asks =>
      have joined := @List.range'_append_1 0 chain.cursor (Transcript.passed said)
      rw [Nat.zero_add] at joined
      simp only [asks.passing_eq, asks.cursor_eq, List.range_eq_range', joined]
  | shown _ shows => simp [Transcript.passing_of_within shows.within]
  | unshown => simp [passing]
  | told _ tells => simp [Transcript.passing_of_within tells.within]
  | untold => simp [passing]

theorem cursor_le (takes : Takes chain call said changed)
    (bounded : chain.cursor ≤ chain.interceptors.length) :
    changed.cursor ≤ chain.interceptors.length := by
  cases takes with
  | asked asks =>
      have reached := asks.cursor_le
      rw [List.length_drop, Nat.add_sub_cancel' bounded] at reached
      exact reached
  | shown => exact bounded
  | unshown => exact bounded
  | told => exact bounded
  | untold => exact bounded

theorem le_cursor (takes : Takes chain call said changed) : chain.cursor ≤ changed.cursor := by
  have lengths := congrArg List.length takes.range_cursor
  simp only [List.length_append, List.length_range] at lengths
  omega

theorem cursor_eq (takes : Takes chain call said changed) (other : call.phase ≠ .preHandle) :
    changed.cursor = chain.cursor := by
  cases takes with
  | asked => exact absurd rfl other
  | shown => rfl
  | unshown => rfl
  | told => rfl
  | untold => rfl

/-- The handler may only be called once all interceptors have let the request pass. -/
theorem cursor_of_handling (takes : Takes chain call said changed)
    (bounded : chain.cursor ≤ chain.interceptors.length)
    (known : chain.state = .handling → chain.cursor = chain.interceptors.length)
    (handling : changed.state = .handling) : changed.cursor = chain.interceptors.length := by
  cases takes with
  | @asked _ _ asked asks =>
      have through : asked.verdict = .ok true := by
        cases verdict : asked.verdict with
        | error failure => simp [stateAfter, verdict] at handling
        | ok passes =>
            cases passes with
            | false => simp [stateAfter, verdict] at handling
            | true => rfl
      have moved := asks.cursor_eq
      rw [(asks.verdict_ok_true through).1, List.length_drop,
        Nat.add_sub_cancel' bounded] at moved
      exact moved
  | shown => cases handling
  | unshown => exact known handling
  | told => cases handling
  | untold => exact known handling

theorem handling_of_shows (takes : Takes chain call said changed)
    (present : View.shows.of said ≠ []) : chain.state = .handling := by
  cases takes with
  | asked asks => exact absurd (View.of_eq_nil asks.within (by decide)) present
  | shown handling => exact handling
  | unshown => exact absurd rfl present
  | told _ tells => exact absurd (View.of_eq_nil tells.within (by decide)) present
  | untold => exact absurd rfl present

/-- Whoever is told of the end in a call has let the request pass before, and whoever has is told. -/
theorem informed_eq (takes : Takes chain call said changed)
    (bounded : chain.cursor ≤ chain.interceptors.length) :
    informed said =
      if call.phase = .afterCompletion ∧ chain.state ≠ .completed then
        (List.range chain.cursor).reverse
      else
        [] := by
  cases takes with
  | asked asks => exact Transcript.informed_of_within asks.within (by decide)
  | shown _ shows => exact Transcript.informed_of_within shows.within (by decide)
  | unshown => rfl
  | told unfinished tells =>
      rw [if_pos ⟨rfl, unfinished⟩, tells.informed_eq, List.length_take, Nat.min_eq_left bounded]
  | untold finished =>
      rw [if_neg fun both => both.2 finished]
      rfl

theorem count_informed (takes : Takes chain call said changed)
    (bounded : chain.cursor ≤ chain.interceptors.length) (position : Nat) :
    (informed said).count position =
      if call.phase = .afterCompletion ∧ chain.state ≠ .completed ∧ position < chain.cursor then 1
      else 0 := by
  rw [takes.informed_eq bounded]
  split
  case isTrue tells => simp [List.count_range, tells]
  case isFalse silent => simp [← and_assoc, silent]

/-- A chain has ended if this call ends it, or if it had ended and this call does not ask. -/
theorem completed_iff (takes : Takes chain call said changed) : changed.state = .completed ↔
    call.phase = .afterCompletion ∨ call.phase = .postHandle ∧ chain.state = .completed := by
  cases takes with
  | @asked _ _ asked asks =>
      have unfinished : stateAfter asked.verdict ≠ .completed := by
        unfold stateAfter
        split <;> decide
      simpa [Call.phase] using unfinished
  | shown handling => simp [Call.phase, handling]
  | unshown => simp [Call.phase]
  | told => simp [Call.phase]
  | untold finished => simp [Call.phase, finished]

end Takes

/-- What holds of a chain through all its calls. -/
structure Sound (handler : Handler σ) (interceptors : List (Interceptor σ)) (said : Transcript)
    (chain : Chain σ) : Prop where
  handler_eq : chain.handler = handler
  interceptors_eq : chain.interceptors = interceptors
  cursor_le : chain.cursor ≤ interceptors.length
  passing_eq : passing said = List.range chain.cursor
  all_of_handling : chain.state = .handling → chain.cursor = interceptors.length
  genuine : ∀ event ∈ said, event.Genuine interceptors handler

theorem Sound.step {earlier : Transcript} (sound : Sound handler interceptors earlier chain)
    (takes : Takes chain call said changed) :
    Sound handler interceptors (earlier ++ said) changed := by
  obtain ⟨rfl, rfl, bounded, passing_eq, known, genuine⟩ := sound
  refine ⟨takes.handler_eq, takes.interceptors_eq, takes.cursor_le bounded, ?_,
    takes.cursor_of_handling bounded known, ?_⟩
  · rw [Transcript.passing_append, passing_eq, takes.range_cursor]
  · intro event membership
    rcases List.mem_append.mp membership with inEarlier | inSaid
    · exact genuine event inEarlier
    · exact takes.genuine event inSaid

theorem Lived.sound (lived : Lived handler interceptors turns chain) :
    Sound handler interceptors (transcript turns) chain := by
  induction lived with
  | fresh => exact ⟨rfl, rfl, Nat.zero_le _, rfl, nofun, List.forall_mem_nil _⟩
  | next _ ran appended inductionHypothesis =>
      rw [transcript_append, transcript_singleton]
      exact inductionHypothesis.step (takes_of_ran ran appended)

/-- Every call among those that were made was a call of a chain that the calls before it left. -/
theorem Lived.takes (lived : Lived handler interceptors (before ++ turn :: after) chain) :
    ∃ earlier later, Lived handler interceptors before earlier ∧
      Takes earlier turn.call turn.said later := by
  generalize whole : before ++ turn :: after = turns at lived
  induction lived generalizing after with
  | fresh => simp at whole
  | @next turns chain changed call world later said lived ran appended inductionHypothesis =>
      rcases List.eq_nil_or_concat' after with rfl | ⟨others, last, rfl⟩
      · obtain ⟨rfl, same⟩ := List.append_inj' whole rfl
        obtain rfl := List.singleton_inj.mp same
        exact ⟨chain, changed, lived, takes_of_ran ran appended⟩
      · rw [← List.cons_append, ← List.append_assoc] at whole
        exact inductionHypothesis (List.append_inj' whole rfl).1

/-- A chain has ended if the last call but for presentations was to end it. -/
theorem Lived.completed_iff (lived : Lived handler interceptors turns chain) :
    chain.state = .completed ↔
      ((phases turns).filter fun phase => phase ≠ .postHandle).getLast? =
        some .afterCompletion := by
  induction lived with
  | fresh => simp [phases]
  | @next turns chain changed call world later said lived ran appended inductionHypothesis =>
      rw [(takes_of_ran ran appended).completed_iff, inductionHypothesis, phases_append]
      cases call <;> simp [Call.phase]

/-- An interceptor let the request pass, and calls of these phases came after that in this order,
perhaps with others between them. -/
def Followed (position : Nat) (wanted : List Phase) (turns : List Turn) : Prop :=
  ∃ before after, turns = before ++ after ∧ position ∈ passing (transcript before) ∧
    wanted.Sublist (phases after)

theorem followed_nil : Followed position [] turns ↔ position ∈ passing (transcript turns) := by
  constructor
  · rintro ⟨before, after, rfl, passed, -⟩
    simp [passed]
  · intro passed
    exact ⟨turns, [], (List.append_nil _).symm, passed, List.nil_sublist _⟩

theorem concat_sublist_concat {α : Type} {first second : List α} {item other : α} :
    (first ++ [item]).Sublist (second ++ [other]) ↔
      (first ++ [item]).Sublist second ∨ item = other ∧ first.Sublist second := by
  have reversed : (item :: first.reverse).Sublist (other :: second.reverse) ↔ _ :=
    List.cons_sublist_cons'
  simpa only [← List.reverse_concat', List.reverse_sublist] using reversed

theorem followed_concat (wanted : List Phase) (phase : Phase) :
    Followed position (wanted ++ [phase]) (turns ++ [turn]) ↔
      Followed position (wanted ++ [phase]) turns ∨
        turn.call.phase = phase ∧ Followed position wanted turns := by
  constructor
  · rintro ⟨before, after, split, passed, among⟩
    rcases List.eq_nil_or_concat' after with rfl | ⟨earlier, last, rfl⟩
    · simp [phases] at among
    · rw [← List.append_assoc] at split
      obtain ⟨rfl, same⟩ := List.append_inj' split rfl
      obtain rfl := List.singleton_inj.mp same
      rw [phases_append, phases_singleton, concat_sublist_concat] at among
      rcases among with inEarlier | ⟨rfl, before'⟩
      · exact .inl ⟨before, earlier, rfl, passed, inEarlier⟩
      · exact .inr ⟨rfl, before, earlier, rfl, passed, before'⟩
  · rintro (⟨before, after, rfl, passed, among⟩ | ⟨rfl, before, after, rfl, passed, among⟩)
    · refine ⟨before, after ++ [turn], List.append_assoc .., passed, ?_⟩
      exact among.trans (by simp)
    · refine ⟨before, after ++ [turn], List.append_assoc .., passed, ?_⟩
      rw [phases_append, phases_singleton]
      exact among.append_right _

/-- How often an interceptor has been told of an end, by what came after it let the request pass. -/
structure Tallied (position : Nat) (turns : List Turn) (chain : Chain σ) (count : Nat) : Prop where
  passed : 1 ≤ count → position < chain.cursor
  told_of_completed : chain.state = .completed → position < chain.cursor → 1 ≤ count
  ended : Followed position [.afterCompletion] turns ↔ 1 ≤ count
  reopened : Followed position [.afterCompletion, .preHandle] turns ↔
    2 ≤ count ∨ 1 ≤ count ∧ chain.state ≠ .completed
  again : Followed position [.afterCompletion, .preHandle, .afterCompletion] turns ↔ 2 ≤ count

theorem Tallied.step {count : Nat} (bounded : chain.cursor ≤ chain.interceptors.length)
    (passing_eq : passing (transcript turns) = List.range chain.cursor)
    (tallied : Tallied position turns chain count) (takes : Takes chain call said changed) :
    Tallied position (turns ++ [⟨call, said⟩]) changed
      (count + (informed said).count position) := by
  have told := takes.count_informed bounded position
  have finished := takes.completed_iff
  have moved := takes.le_cursor
  have ended : Followed position [.afterCompletion] (turns ++ [⟨call, said⟩]) ↔ _ :=
    followed_concat [] .afterCompletion
  have reopened : Followed position [.afterCompletion, .preHandle] (turns ++ [⟨call, said⟩]) ↔ _ :=
    followed_concat [.afterCompletion] .preHandle
  have again : Followed position [.afterCompletion, .preHandle, .afterCompletion]
      (turns ++ [⟨call, said⟩]) ↔ _ :=
    followed_concat [.afterCompletion, .preHandle] .afterCompletion
  rw [List.nil_append, followed_nil, passing_eq, List.mem_range, tallied.ended] at ended
  rw [List.singleton_append, tallied.reopened, tallied.ended] at reopened
  rw [List.cons_append, List.singleton_append, tallied.again, tallied.reopened] at again
  obtain ⟨passed, told_of_completed, -, -, -⟩ := tallied
  cases call with
  | ask exchange =>
      simp only [Call.phase, reduceCtorEq, false_and, or_self, iff_false, if_false, true_and, or_false]
        at told finished ended reopened again
      constructor <;> grind
  | present exchange response =>
      have still := takes.cursor_eq (by simp [Call.phase])
      simp only [Call.phase, reduceCtorEq, false_and, false_or, true_and, if_false, or_false]
        at told finished ended reopened again
      constructor <;> grind
  | complete exchange failure =>
      have still := takes.cursor_eq (by simp [Call.phase])
      simp only [Call.phase, reduceCtorEq, false_and, iff_true, true_and, or_false]
        at told finished ended reopened again
      constructor <;> grind

theorem Lived.tallied (lived : Lived handler interceptors turns chain) (position : Nat) :
    Tallied position turns chain ((informed (transcript turns)).count position) := by
  induction lived with
  | fresh =>
      have nothing {phase : Phase} {rest : List Phase} :
          ¬ Followed position (phase :: rest) [] := by
        rintro ⟨before, after, nil, passed, -⟩
        obtain ⟨rfl, rfl⟩ := List.append_eq_nil_iff.mp nil.symm
        cases passed
      constructor <;> simp [nothing, transcript, informed]
  | @next turns chain changed call world later said lived ran appended inductionHypothesis =>
      have sound := lived.sound
      rw [transcript_append, transcript_singleton, Transcript.informed_append, List.count_append]
      exact inductionHypothesis.step (sound.interceptors_eq ▸ sound.cursor_le) sound.passing_eq
        (takes_of_ran ran appended)

/-- Whatever interceptors do and in whatever order a chain is called, its cursor is the number of
times that an interceptor let the request pass, and those interceptors are the first ones, once
each; the response is shown only after all of them did, and the end is told only to interceptors
that did before.  A chain has ended if its last call but for presentations was to end it.  An
interceptor is told at most once unless the chain is ended, asked and ended again after that
interceptor let the request pass, and then it is told again. -/
theorem told_once_iff (lived : Lived handler interceptors turns chain) :
    (∀ event ∈ transcript turns, event.Genuine interceptors handler) ∧
      chain.cursor = (View.asks.of (transcript turns)).countP (fun ask => ask.2.passes) ∧
      chain.cursor ≤ interceptors.length ∧
      passing (transcript turns) = List.range chain.cursor ∧
      (∀ before turn after, turns = before ++ turn :: after →
        (View.shows.of turn.said ≠ [] →
          passing (transcript before) = List.range interceptors.length) ∧
        ∀ position ∈ informed turn.said, position ∈ passing (transcript before)) ∧
      (chain.state = .completed ↔
        ((phases turns).filter fun phase => phase ≠ .postHandle).getLast? =
          some .afterCompletion) ∧
      ∀ position, (informed (transcript turns)).count position ≤ 1 ↔
        ¬ Followed position [.afterCompletion, .preHandle, .afterCompletion] turns := by
  have sound := lived.sound
  refine ⟨sound.genuine, ?_, sound.cursor_le, sound.passing_eq, ?_, lived.completed_iff, ?_⟩
  · have lengths := congrArg List.length sound.passing_eq
    rw [passing, List.length_map, List.length_range, ← List.countP_eq_length_filter] at lengths
    exact lengths.symm
  · rintro before turn after rfl
    obtain ⟨earlier, later, lived, takes⟩ := lived.takes
    obtain ⟨-, rfl, bounded, passing_eq, all, -⟩ := lived.sound
    constructor
    · intro present
      rw [passing_eq, all (takes.handling_of_shows present)]
    · intro position membership
      rw [takes.informed_eq bounded] at membership
      split at membership
      case isTrue =>
          rw [passing_eq]
          exact List.mem_reverse.mp membership
      case isFalse => cases membership
  · intro position
    rw [(lived.tallied position).again]
    omega

/-- Calls one after another, each in the world that the one before it left. -/
def live (chain : Chain σ) (world : World σ) : List Call → List Turn × Chain σ
  | [] => ([], chain)
  | call :: rest =>
      let (changed, later) := (call.perform chain).run world
      let (turns, last) := live changed later rest
      (⟨call, later.events.drop world.events.length⟩ :: turns, last)

/-- Any calls can follow. -/
theorem Lived.live (lived : Lived handler interceptors turns chain) (world : World σ)
    (calls : List Call) :
    Lived handler interceptors (turns ++ (chain.live world calls).1)
      (chain.live world calls).2 := by
  induction calls generalizing chain world turns with
  | nil => simpa [Chain.live] using lived
  | cons call rest inductionHypothesis =>
      obtain ⟨said, speaks, -⟩ := perform_emits chain call world
      have news : ((call.perform chain).run world).2.events.drop world.events.length = said := by
        rw [speaks.appended, List.drop_left]
      have next := inductionHypothesis (lived.next rfl speaks.appended)
        ((call.perform chain).run world).2
      rwa [List.append_assoc, ← news] at next

/-- A new chain around a handler that is never called, with two interceptors that let all requests
pass. -/
def pristine : Chain Unit := { handler := ⟨0, "idle", .custom⟩, interceptors := [{}, {}] }

/-- The exchange of a request for the root. -/
def plain : Exchange where
  context := { head := ⟨.get, .origin "/" none, .http11, .empty⟩, content := [] }

/-- Calls of the new chain, in a world where nothing has been said. -/
def rehearsed (calls : List Call) : List Turn × Chain Unit :=
  pristine.live ⟨(), .idle, ⟨[], 0⟩, []⟩ calls

theorem lived_rehearsed (calls : List Call) :
    Lived pristine.handler pristine.interceptors (rehearsed calls).1 (rehearsed calls).2 :=
  Lived.fresh.live _ calls

theorem told_once_iff_of_rehearsed :
    let calls : List Call := [.ask plain, .complete plain none, .complete plain none]
    Lived pristine.handler pristine.interceptors (rehearsed calls).1 (rehearsed calls).2 ∧
      (rehearsed calls).2.cursor = 2 ∧ informed (transcript (rehearsed calls).1) = [1, 0] ∧
      ¬ Followed 0 [.afterCompletion, .preHandle, .afterCompletion] (rehearsed calls).1 := by
  intro calls
  have lived := lived_rehearsed calls
  obtain ⟨-, -, -, -, -, -, once⟩ := told_once_iff lived
  exact ⟨lived, rfl, rfl, (once 0).mp (by decide)⟩

/-- Asked again after its end, a chain is as if it had none: both interceptors are told twice. -/
theorem reopened_told_twice :
    let calls : List Call :=
      [.ask plain, .complete plain none, .ask plain, .complete plain none]
    Lived pristine.handler pristine.interceptors (rehearsed calls).1 (rehearsed calls).2 ∧
      (rehearsed (calls.take 2)).2.state = .completed ∧
      (rehearsed (calls.take 3)).2.state = .handling ∧
      informed (transcript (rehearsed calls).1) = [1, 0, 1, 0] ∧
      ¬ ∀ position, (informed (transcript (rehearsed calls).1)).count position ≤ 1 := by
  intro calls
  refine ⟨lived_rehearsed calls, rfl, rfl, rfl, fun once => ?_⟩
  exact absurd (once 0) (by decide)

end Chain

end Switchyard.Dispatch
