import Switchyard.Proofs.Dispatch.Resolution

/-!
# Answers in the place of failures

Every failure gets a response.  Resolvers are called one after the other until one answers, each on
the state that the calls before it have left, and the answer or the error body is rendered: as far
as it can be written, and without a body otherwise.
-/

set_option autoImplicit false

namespace Switchyard.Dispatch

open Conversion (Registry)
open Http (Fields Response Status contentLengthName contentTypeName)
open Media (MediaRange)

/-- The resolvers that were called, by their positions, with what came of it. -/
def View.resolverCalls : View (Attempt Cause (Option Answer) × Nat) where
  read
    | .resolverCalled position attempt => some (attempt, position)
    | _ => none
  stage := .resolving
  staged := by rintro ⟨⟩ <;> simp [Event.stage?]

namespace World

variable {σ : Type}

/-- What a world has become once an event has been noted. -/
def noting (world : World σ) (event : Event) : World σ :=
  { world with events := world.events ++ [event] }

/-- What a world has become once a resolver at a position has been called. -/
def afterCall (world : World σ) (position : Nat) (attempt : Attempt Cause (Option Answer))
    (between : σ) : World σ :=
  { world with user := between }.noting (.resolverCalled position attempt)

/-- What a world has become once notices have been logged. -/
def logging (world : World σ) (notices : List Notice) : World σ :=
  { world with events := world.events ++ notices.map .logged }

theorem logging_nil (world : World σ) : world.logging [] = world := by
  simp [logging]

theorem speaks_noting (world : World σ) {event : Event} (held : ∀ lease, event ≠ .released lease) :
    Speaks world [event] (world.noting event) where
  appended := rfl
  trackers := rfl
  unreleased lease membership := held lease (List.mem_singleton.mp membership).symm

theorem speaks_afterCall (world : World σ) (position : Nat)
    (attempt : Attempt Cause (Option Answer)) (between : σ) :
    Speaks world [.resolverCalled position attempt]
      (world.afterCall position attempt between) where
  appended := rfl
  trackers := rfl
  unreleased _ membership := by cases List.mem_singleton.mp membership

theorem speaks_logging (world : World σ) (notices : List Notice) :
    Speaks world (notices.map .logged) (world.logging notices) where
  appended := rfl
  trackers := rfl
  unreleased lease := by simp

theorem silent_logging (notices : List Notice) : Silent (notices.map .logged) := by
  intro event membership
  obtain ⟨notice, -, rfl⟩ := List.mem_map.mp membership
  exact ⟨notice, rfl⟩

end World

namespace Resolvers

variable {σ : Type} {context : Context} {handler : Option (Handler σ)} {failure : Failure}
  {state after : σ} {asked : List (Resolver σ)} {attempts : List (Attempt Cause (Option Answer))}

/-- A resolver that leaves a failure to the next one: it declines, fails or breaks off. -/
def Passes (attempt : Attempt Cause (Option Answer)) : Prop :=
  attempt = .returned none ∨ (∃ cause, attempt = .failed cause) ∨
    ∃ message, attempt = .panicked message

/-- The answer that was given, if there was one. -/
def answerOf (attempts : List (Attempt Cause (Option Answer))) : Option Answer :=
  attempts.findSome? fun attempt =>
    match attempt with
    | .returned answer => answer
    | _ => none

/-- What comes of calling resolvers until one answers, from one state of the user to another. -/
inductive Asks (context : Context) (handler : Option (Handler σ)) (failure : Failure) :
    σ → List (Resolver σ) → List (Attempt Cause (Option Answer)) → σ → Prop where
  | nobody {state : σ} : Asks context handler failure state [] [] state
  | answered {state after : σ} {resolver : Resolver σ} {rest : List (Resolver σ)} {given : Answer}
      (called : resolver.resolve context handler failure state = (.returned (some given), after)) :
      Asks context handler failure state (resolver :: rest) [.returned (some given)] after
  | passed {state between after : σ} {resolver : Resolver σ} {rest : List (Resolver σ)}
      {attempt : Attempt Cause (Option Answer)} {attempts : List (Attempt Cause (Option Answer))}
      (called : resolver.resolve context handler failure state = (attempt, between))
      (passes : Passes attempt)
      (others : Asks context handler failure between rest attempts after) :
      Asks context handler failure state (resolver :: rest) (attempt :: attempts) after

theorem answerOf_cons_of_passes {attempt : Attempt Cause (Option Answer)}
    (passes : Passes attempt) : answerOf (attempt :: attempts) = answerOf attempts := by
  rcases passes with rfl | ⟨cause, rfl⟩ | ⟨message, rfl⟩ <;> rfl

/-- A resolver is called exactly if all before it have been and have passed. -/
theorem Asks.called_iff (asks : Asks context handler failure state asked attempts after)
    {position : Nat} (placed : position < asked.length) :
    position < attempts.length ↔
      ∀ earlier < position, ∃ attempt, attempts[earlier]? = some attempt ∧ Passes attempt := by
  induction asks generalizing position with
  | nobody => simp at placed
  | answered called =>
      cases position with
      | zero => simp
      | succ position =>
          constructor
          · intro inside
            simp at inside
          · intro passed
            obtain ⟨attempt, first, passes⟩ := passed 0 (by omega)
            cases first
            rcases passes with impossible | ⟨cause, impossible⟩ | ⟨message, impossible⟩ <;>
              cases impossible
  | @passed _ _ _ _ _ attempt attempts called passes others inductionHypothesis =>
      cases position with
      | zero => simp
      | succ position =>
          have inner := inductionHypothesis (by simpa using placed)
          rw [List.length_cons, Nat.succ_lt_succ_iff, inner]
          constructor
          · intro passed earlier before
            cases earlier with
            | zero => exact ⟨attempt, rfl, passes⟩
            | succ earlier => exact passed earlier (by omega)
          · intro passed earlier before
            exact passed (earlier + 1) (by omega)

/-- One resolver is called; where it passes, the others are asked. -/
theorem ask_cons_run {resolver : Resolver σ} {rest : List (Resolver σ)} {world : World σ}
    {attempt : Attempt Cause (Option Answer)} {between : σ} (position : Nat)
    (called : resolver.resolve context handler failure world.user = (attempt, between)) :
    (∃ given, attempt = .returned (some given) ∧
      (ask context handler failure position (resolver :: rest)).run world =
        (some given, world.afterCall position attempt between)) ∨
    Passes attempt ∧ ∃ notices,
      (ask context handler failure position (resolver :: rest)).run world =
        (ask context handler failure (position + 1) rest).run
          ((world.afterCall position attempt between).logging notices) := by
  have performed : (Act.perform (resolver.resolve context handler failure)).run world =
      (attempt, { world with user := between }) := by
    change ((resolver.resolve context handler failure world.user).1,
      { world with user := (resolver.resolve context handler failure world.user).2 }) = _
    rw [called]
  simp only [ask, StateT.run_bind, performed]
  cases attempt with
  | returned answer =>
      cases answer with
      | some given => exact .inl ⟨given, rfl, rfl⟩
      | none =>
          refine .inr ⟨.inl rfl, [], ?_⟩
          rw [World.logging_nil]
          rfl
  | failed cause => exact .inr ⟨.inr (.inl ⟨cause, rfl⟩), [.resolverFailed cause], rfl⟩
  | panicked message =>
      exact .inr ⟨.inr (.inr ⟨message, rfl⟩), [.resolverPanicked (.ofPanic message)], rfl⟩

theorem ask_run (context : Context) (handler : Option (Handler σ)) (failure : Failure)
    (position : Nat) (asked : List (Resolver σ)) (world : World σ) :
    ∃ attempts said after,
      (ask context handler failure position asked).run world = (answerOf attempts, after) ∧
      Asks context handler failure world.user asked attempts after.user ∧
      Speaks world said after ∧ after.now = world.now ∧
      View.resolverCalls.of said = attempts.zipIdx position := by
  induction asked generalizing position world with
  | nil => exact ⟨[], [], world, rfl, .nobody, .nil, rfl, rfl⟩
  | cons resolver rest inductionHypothesis =>
      cases called : resolver.resolve context handler failure world.user with
      | mk attempt between =>
          have speaks := World.speaks_afterCall world position attempt between
          rcases ask_cons_run position called with ⟨given, rfl, ran⟩ | ⟨passes, notices, ran⟩
          · exact ⟨_, _, _, ran, .answered called, speaks, rfl, rfl⟩
          · obtain ⟨attempts, said, after, others, asks, speaking, clock, calls⟩ :=
              inductionHypothesis (position + 1)
                ((world.afterCall position attempt between).logging notices)
            refine ⟨attempt :: attempts, _, after, ?_, .passed called passes asks,
              (speaks.append (World.speaks_logging _ notices)).append speaking, clock, ?_⟩
            · rw [ran, others, answerOf_cons_of_passes passes]
            · rw [View.of_append, View.of_append_silent (World.silent_logging notices), calls]
              rfl

/-- A response without a body that describes none, and is otherwise as it was drafted. -/
structure Bare (draft response : Response) : Prop where
  status : response.status = draft.status
  version : response.version = draft.version
  body : response.body = []
  untyped : response.fields.getAll contentTypeName = []
  unmeasured : response.fields.getAll contentLengthName = []
  others : ∀ name, name ≠ contentTypeName → name ≠ contentLengthName →
    response.fields.getAll name = draft.fields.getAll name

/-- A response with a payload as far as it can be written. -/
inductive Conveys (registry : Registry) (accepted : List MediaRange) (draft : Response) :
    Option Payload → Response → Prop where
  | nothing : Conveys registry accepted draft none draft
  | written {payload : Payload} {response : Response}
      (fills : registry.Fills payload accepted [] draft response) :
      Conveys registry accepted draft (some payload) response
  | unwritten {payload : Payload} {failure : Failure} {response : Response}
      (refuses : registry.Refuses payload accepted [] draft failure)
      (bare : Bare draft response) : Conveys registry accepted draft (some payload) response

/-- The response that an answer gets in the place of a failure of some status. -/
inductive Delivers (registry : Registry) (accepted : List MediaRange) (status : Status) :
    Answer → Response → Prop where
  | raw {response : Response} : Delivers registry accepted status (.raw response) response
  | typed {payload : Option Payload} {response : Response}
      (conveys : Conveys registry accepted (.ofStatus status) payload response) :
      Delivers registry accepted status (.typed payload) response
  | entity {own : Status} {fields : Fields} {payload : Option Payload} {response : Response}
      (conveys : Conveys registry accepted { Response.ofStatus own with fields } payload response) :
      Delivers registry accepted status (.entity own fields payload) response

theorem bare_withoutBody (draft : Response) : Bare draft (withoutBody draft) where
  status := rfl
  version := rfl
  body := rfl
  untyped := by
    rw [withoutBody, Fields.getAll_erase_of_ne (by decide), Fields.getAll_erase_self]
  unmeasured := Fields.getAll_erase_self
  others name typing framing := by
    rw [withoutBody, Fields.getAll_erase_of_ne framing, Fields.getAll_erase_of_ne typing]

theorem conveys_write (registry : Registry) (accepted : List MediaRange) (draft : Response)
    (payload : Option Payload) :
    match registry.write payload accepted [] draft with
    | .ok written => Conveys registry accepted draft payload written
    | .error _ => Conveys registry accepted draft payload (withoutBody draft) := by
  rcases registry.write_refuses_or_fills payload accepted [] draft with
    ⟨rfl, outcome⟩ | ⟨present, failure, rfl, refuses, outcome⟩ |
      ⟨present, written, rfl, fills, outcome⟩
  · rw [outcome]
    exact .nothing
  · rw [outcome]
    exact .unwritten refuses (bare_withoutBody draft)
  · rw [outcome]
    exact .written fills

/-- A drafted response is conveyed with its payload; what cannot be written is logged. -/
theorem render_run_of_unwritten {answer : Answer} {status : Status} {draft : Response}
    {payload : Option Payload} (drafted : answer.draft status = .unwritten draft payload)
    (registry : Registry) (context : Context) (world : World σ) :
    ∃ notices response,
      (render registry context answer status).run world = (response, world.logging notices) ∧
      Conveys registry (Media.acceptedRanges context.head.fields) draft payload response := by
  have conveys :=
    conveys_write registry (Media.acceptedRanges context.head.fields) draft payload
  simp only [render, drafted, Registry.run_fill]
  cases outcome : registry.write payload (Media.acceptedRanges context.head.fields) [] draft with
  | ok written =>
      rw [outcome] at conveys
      exact ⟨[], written, by rw [World.logging_nil]; rfl, conveys⟩
  | error failure =>
      rw [outcome] at conveys
      exact ⟨[.errorBodyDropped failure], withoutBody draft, rfl, conveys⟩

theorem render_run (registry : Registry) (context : Context) (answer : Answer) (status : Status)
    (world : World σ) :
    ∃ notices response,
      (render registry context answer status).run world = (response, world.logging notices) ∧
      Delivers registry (Media.acceptedRanges context.head.fields) status answer response := by
  cases answer with
  | raw response => exact ⟨[], response, by rw [World.logging_nil]; rfl, .raw⟩
  | typed payload =>
      have drafted : (Answer.typed payload).draft status =
          .unwritten (.ofStatus status) payload := rfl
      obtain ⟨notices, response, ran, conveys⟩ :=
        render_run_of_unwritten drafted registry context world
      exact ⟨notices, response, ran, .typed conveys⟩
  | entity own fields payload =>
      have drafted : (Answer.entity own fields payload).draft status =
          .unwritten { Response.ofStatus own with fields } payload := rfl
      obtain ⟨notices, response, ran, conveys⟩ :=
        render_run_of_unwritten drafted registry context world
      exact ⟨notices, response, ran, .entity conveys⟩

/-- The answer of last resort to a failure. -/
def lastResort (resolvers : Resolvers σ) (context : Context) (failure : Failure) (millis : Nat) :
    Answer :=
  .typed (some (.json (errorBody resolvers.errorCode context failure millis)))

/-- What becomes of the answer that resolvers have found, or not. -/
def substitute (resolvers : Resolvers σ) (context : Context) (failure : Failure) :
    Option Answer → Act σ Answer
  | some answer => pure answer
  | none => fallback resolvers.errorCode context failure

theorem resolve_eq (resolvers : Resolvers σ) (context : Context) (handler : Option (Handler σ))
    (failure : Failure) :
    resolvers.resolve context handler failure = (do
      Act.note (.resolving failure)
      let found ← ask context handler failure 0 resolvers.resolvers
      let answer ← substitute resolvers context failure found
      render resolvers.registry context answer failure.status) := by
  unfold resolve
  refine bind_congr fun _ => bind_congr fun found => ?_
  cases found <;> rfl

theorem substitute_run (resolvers : Resolvers σ) (context : Context) (failure : Failure)
    (found : Option Answer) (world : World σ) :
    ∃ notices, (substitute resolvers context failure found).run world =
      (found.getD (resolvers.lastResort context failure world.now.millis),
        world.logging notices) := by
  cases found with
  | some answer => exact ⟨[], by rw [World.logging_nil]; rfl⟩
  | none => exact ⟨[.requestFailed failure], rfl⟩

/-- Every failure gets a response, whatever the resolvers do.  A resolver is called exactly if all
before it have declined, failed or broken off; the first answer, or else the error body, becomes the
response: a complete one as it is, any other with the status of the failure or its own, and without
a body if that cannot be written. -/
theorem resolve_delivers (resolvers : Resolvers σ) (context : Context)
    (handler : Option (Handler σ)) (failure : Failure) (world : World σ) :
    ∃ attempts said response after,
      (resolvers.resolve context handler failure).run world = (response, after) ∧
      Asks context handler failure world.user resolvers.resolvers attempts after.user ∧
      Speaks world said after ∧ View.resolverCalls.of said = attempts.zipIdx ∧
      (∀ position < resolvers.resolvers.length,
        (position < attempts.length ↔
          ∀ earlier < position, ∃ attempt, attempts[earlier]? = some attempt ∧ Passes attempt)) ∧
      Delivers resolvers.registry (Media.acceptedRanges context.head.fields) failure.status
        ((answerOf attempts).getD (resolvers.lastResort context failure world.now.millis))
        response := by
  obtain ⟨attempts, said, asked, ran, asks, speaks, clock, calls⟩ :=
    ask_run context handler failure 0 resolvers.resolvers (world.noting (.resolving failure))
  obtain ⟨lines, settled⟩ := substitute_run resolvers context failure (answerOf attempts) asked
  obtain ⟨notices, response, rendered, delivers⟩ := render_run resolvers.registry context
    ((answerOf attempts).getD (resolvers.lastResort context failure asked.now.millis))
    failure.status (asked.logging lines)
  have opened : Speaks world [.resolving failure] (world.noting (.resolving failure)) :=
    World.speaks_noting world nofun
  have spoken := (opened.append speaks).append
    ((World.speaks_logging asked lines).append (World.speaks_logging _ notices))
  refine ⟨attempts, _, response, (asked.logging lines).logging notices, ?_, asks, spoken, ?_,
    fun position placed => asks.called_iff placed, clock ▸ delivers⟩
  · have noted : (Act.note (.resolving failure)).run world =
        ((), world.noting (.resolving failure)) := rfl
    rw [resolve_eq, StateT.run_bind, noted]
    change StateT.run (_ >>= _) (world.noting (.resolving failure)) = _
    rw [StateT.run_bind, ran]
    change StateT.run (_ >>= _) asked = _
    rw [StateT.run_bind, settled]
    exact rendered
  · have quiet := (World.silent_logging lines).append (World.silent_logging notices)
    rw [View.of_append_silent quiet]
    exact calls

end Resolvers

end Switchyard.Dispatch
