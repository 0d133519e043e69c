import Switchyard.Proofs.Serving.Stages

/-!
# The order of calls in a dispatch

Interceptors are asked up to the first that does not let the request pass, the handler is called
if all of them do, the response is shown from the last interceptor on up to the first that fails,
and exactly those that let the request pass are told of its end before the response is written.  An
adapter of the user that breaks off leaves the early stages in order, and takes the end away.
-/

set_option autoImplicit false

namespace Switchyard

/-- The failure of a computation that failed. -/
def failureOf {α : Type} : Except Failure α → Option Failure
  | .ok _ => none
  | .error failure => some failure

namespace Serving

open Dispatch (Adapters Called Context Handler Interceptor PendingCall Silent
  Transcript UserAdapter View Within)
open Dispatch.Chain (Asked Asks)
open Http (Connection RequestHead Response)
open Route (Routed Router)

variable {σ : Type} {cursor : Nat} {first second opening said : Transcript}
  {result : Except Failure Response} {ending : Ending} {services : Services σ} {session : Session}
  {context : Context} {handler : Handler σ} {interceptors : List (Interceptor σ)}

/-- The failure with which a dispatch ended, if it did: that of an interceptor that was asked, of
preparing the call, of the call, or of an interceptor that was shown the response. -/
def failure? (adapters : Adapters σ) (context : Context) (handler : Handler σ)
    (said : Transcript) : Option Failure :=
  match said.refusal? with
  | some failure => some failure
  | none =>
      if said.stopped then none
      else
        match View.calls.of said with
        | [] => failureOf (adapters.prepare context handler)
        | result :: _ =>
            match result.attempt with
            | .returned _ => said.objection?
            | .failed failure => some failure
            | .panicked _ => none

/-- The order of calls in a dispatch to a handler through interceptors. -/
structure Orderly (adapters : Adapters σ) (context : Context) (handler : Handler σ)
    (interceptors : List (Interceptor σ)) (said : Transcript) : Prop where
  asked : (View.asks.of said).map Prod.fst =
    (List.range interceptors.length).take (said.passed + 1)
  called : View.calls.of said = [] ∨ ∃ call state,
    adapters.prepare context handler = .ok call ∧ View.calls.of said = [(call.run state).1]
  calledThrough : View.calls.of said ≠ [] → said.passed = interceptors.length
  shownRendered : View.shows.of said ≠ [] → ∃ result response,
    View.calls.of said = [result] ∧ result.Renders adapters.registry context response
  shown : ∀ result response, View.calls.of said = [result] → result.attempt = .returned response →
    (View.shows.of said).map Prod.fst =
      (List.range interceptors.length).reverse.take (said.pleased + 1)

/-- The order of calls at the end of a dispatch that ended with a failure or without one. -/
structure Finished (failure : Option Failure) (said : Transcript) : Prop where
  told : View.tellings.of said =
    (List.range said.passed).reverse.map fun position => (position, failure)
  written : ∃ before after response, said = before ++ after ∧ View.tellings.of after = [] ∧
    View.writes.of before = [] ∧ View.writes.of after = [response]
  questioned : View.questions.of said = (failure.filter fun failure => !failure.isFatal).toList

/-- A dispatch came to an answer, and its end is that of the failure in it. -/
def Answered (adapters : Adapters σ) (context : Context) (handler : Handler σ)
    (said : Transcript) (ending : Ending) : Prop :=
  ∃ outcome, ending = .answered outcome ∧ Finished (failure? adapters context handler said) said

/-- Transcripts of which the early stages are the same. -/
structure Alike (said other : Transcript) : Prop where
  asks : View.asks.of said = View.asks.of other
  calls : View.calls.of said = View.calls.of other
  shows : View.shows.of said = View.shows.of other

namespace Alike

variable {other : Transcript} {adapters : Adapters σ}

theorem passed (alike : Alike said other) : said.passed = other.passed := by
  unfold Transcript.passed
  rw [alike.asks]

theorem orderly (alike : Alike said other)
    (order : Orderly adapters context handler interceptors other) :
    Orderly adapters context handler interceptors said where
  asked := by
    rw [alike.asks, alike.passed]
    exact order.asked
  called := by
    rw [alike.calls]
    exact order.called
  calledThrough := by
    rw [alike.calls, alike.passed]
    exact order.calledThrough
  shownRendered := by
    rw [alike.shows, alike.calls]
    exact order.shownRendered
  shown := by
    unfold Transcript.pleased
    rw [alike.shows, alike.calls]
    exact order.shown

theorem failure? (alike : Alike said other) :
    failure? adapters context handler said = failure? adapters context handler other := by
  unfold Serving.failure? Transcript.refusal? Transcript.stopped Transcript.objection?
  rw [alike.asks, alike.calls, alike.shows]

end Alike

namespace Handled

variable {adapters : Adapters σ} {asked : Asked} {called : Called} {tail : Transcript}

theorem orderly_of_asks (asks : Asks handler 0 { context } interceptors said asked) :
    Orderly adapters context handler interceptors said where
  asked := by
    rw [asks.positions, List.range_eq_range']
  called := .inl (calls_of_asks asks)
  calledThrough present := absurd (calls_of_asks asks) present
  shownRendered present := absurd (shows_of_asks asks) present
  shown result response called := by
    rw [calls_of_asks asks] at called
    cases called

/-- The order of calls where the handler was called and the response shown to some interceptors. -/
theorem orderly_of_called (asks : Asks handler 0 { context } interceptors said asked)
    (verdict : asked.verdict = .ok true) {call : PendingCall σ}
    (prepared : adapters.prepare context handler = .ok call) {state : σ}
    (within : Within .showing tail)
    (returned : View.shows.of tail ≠ [] → ∃ response,
      (call.run state).1.attempt = .returned response)
    (shown : ∀ response, (call.run state).1.attempt = .returned response →
      (View.shows.of tail).map Prod.fst =
        (List.range interceptors.length).reverse.take (tail.pleased + 1)) :
    Orderly adapters context handler interceptors (said ++ .called (call.run state).1 :: tail) := by
  refine ⟨?_, .inr ⟨call, state, prepared, calls_of_called asks within⟩, ?_, ?_, ?_⟩
  · rw [asks_of_called within, passed_of_called within, asks.positions, List.range_eq_range']
  · intro
    rw [passed_of_called within]
    exact (asks.verdict_ok_true verdict).1
  · rw [showing_of_called rfl asks]
    intro present
    obtain ⟨response, returned⟩ := returned present
    exact ⟨_, response, calls_of_called asks within,
      (Adapters.prepare_faithful prepared _).renders returned⟩
  · intro result response only returned
    rw [calls_of_called asks within, List.cons.injEq] at only
    obtain ⟨rfl, -⟩ := only
    unfold Transcript.pleased
    rw [showing_of_called rfl asks]
    exact shown response returned

theorem orderly (handled : Handled adapters context handler interceptors first cursor result) :
    Orderly adapters context handler interceptors first := by
  cases handled with
  | refused asks verdict => exact orderly_of_asks asks
  | stopped asks verdict => exact orderly_of_asks asks
  | unprepared asks verdict prepared => exact orderly_of_asks asks
  | failed asks verdict prepared called silent =>
      refine orderly_of_called asks verdict prepared (silent.within _) ?_ ?_
      · intro present
        exact absurd (View.of_silent silent) present
      · intro response returned
        rw [called] at returned
        cases returned
  | shown asks verdict prepared called silent shows =>
      refine orderly_of_called asks verdict prepared ((silent.within _).append shows.within) ?_ ?_
      · intro
        exact ⟨_, called⟩
      · intro _ _
        unfold Transcript.pleased
        rw [View.of_silent_append silent, ← Dispatch.Chain.positions_backwards]
        exact shows.positions

theorem passed_eq (handled : Handled adapters context handler interceptors first cursor result) :
    first.passed = cursor := by
  cases handled with
  | refused asks verdict => simp [asks.cursor_eq]
  | stopped asks verdict => simp [asks.cursor_eq]
  | unprepared asks verdict prepared => simp [asks.cursor_eq]
  | failed asks verdict prepared called silent =>
      rw [passed_of_called (silent.within _), asks.cursor_eq, Nat.zero_add]
  | shown asks verdict prepared called silent shows =>
      rw [passed_of_called ((silent.within _).append shows.within), asks.cursor_eq, Nat.zero_add]

theorem cursor_le (handled : Handled adapters context handler interceptors first cursor result) :
    cursor ≤ interceptors.length := by
  cases handled with
  | refused asks verdict => simpa using asks.cursor_le
  | stopped asks verdict => simpa using asks.cursor_le
  | unprepared asks verdict prepared => simpa using asks.cursor_le
  | failed asks verdict prepared called silent => simpa using asks.cursor_le
  | shown asks verdict prepared called silent shows => simpa using asks.cursor_le

theorem failure?_of_called (asks : Asks handler 0 { context } interceptors said asked)
    (verdict : asked.verdict = .ok true) (within : Within .showing tail) :
    failure? adapters context handler (said ++ .called called :: tail) =
      match called.attempt with
      | .returned _ => tail.objection?
      | .failed failure => some failure
      | .panicked _ => none := by
  obtain ⟨-, unrefused, unstopped⟩ := asks.verdict_ok_true verdict
  unfold Transcript.refusal? at unrefused
  unfold Transcript.stopped at unstopped
  unfold failure? Transcript.refusal? Transcript.stopped Transcript.objection?
  rw [asks_of_called within, calls_of_called asks within, showing_of_called rfl asks, unrefused,
    unstopped]
  rfl

theorem failure?_eq (handled : Handled adapters context handler interceptors first cursor result) :
    failure? adapters context handler first = failureOf result := by
  cases handled with
  | refused asks verdict =>
      unfold failure?
      rw [asks.verdict_error verdict]
      rfl
  | stopped asks verdict =>
      obtain ⟨unrefused, stopped, -⟩ := asks.verdict_ok_false verdict
      unfold failure?
      rw [unrefused, stopped]
      rfl
  | unprepared asks verdict prepared =>
      obtain ⟨-, unrefused, unstopped⟩ := asks.verdict_ok_true verdict
      unfold failure?
      rw [unrefused, unstopped, calls_of_asks asks, prepared]
      rfl
  | failed asks verdict prepared called silent =>
      rw [failure?_of_called asks verdict (silent.within _), called]
      rfl
  | @shown _ _ _ _ _ _ _ shown asks verdict prepared called silent shows =>
      rw [failure?_of_called asks verdict ((silent.within _).append shows.within), called]
      unfold Transcript.objection?
      rw [View.of_silent_append silent]
      cases outcome : shown.outcome with
      | ok => exact shows.outcome_ok outcome
      | error failure => exact shows.outcome_error outcome

/-- The call of a handler that came to a response or a failure did not break off. -/
theorem unbroken {message : Option String}
    (handled : Handled adapters context handler interceptors first cursor result) :
    .adapter (.panicked message) ∉ View.calls.of first := by
  have apart {called : Called} (unbroken : called.attempt ≠ .panicked message) :
      .adapter (.panicked message) ∉ [called] := by
    intro membership
    cases List.mem_singleton.mp membership
    exact unbroken rfl
  cases handled with
  | refused asks verdict => simp [calls_of_asks asks]
  | stopped asks verdict => simp [calls_of_asks asks]
  | unprepared asks verdict prepared => simp [calls_of_asks asks]
  | failed asks verdict prepared called silent =>
      rw [calls_of_called asks (silent.within _)]
      exact apart (by simp [called])
  | shown asks verdict prepared called silent shows =>
      rw [calls_of_called asks ((silent.within _).append shows.within)]
      exact apart (by simp [called])

end Handled

theorem Orderly.unbroken {adapters : Adapters σ} (steady : adapters.Steady)
    (order : Orderly adapters context handler interceptors said) (message : Option String) :
    .adapter (.panicked message) ∉ View.calls.of said := by
  rcases order.called with uncalled | ⟨call, state, prepared, called⟩
  · rw [uncalled]
    exact List.not_mem_nil
  · rw [called, List.mem_singleton]
    intro broken
    exact steady.unbroken prepared state message (congrArg Called.attempt broken.symm)

namespace Concludes

theorem tellings (within : cursor ≤ interceptors.length)
    (concludes : Concludes services session context handler interceptors cursor
      result second ending) :
    View.tellings.of second =
      (List.range cursor).reverse.map fun position => (position, failureOf result) := by
  have length : (interceptors.take cursor).length = cursor := by
    rw [List.length_take, Nat.min_eq_left within]
  cases concludes with
  | succeeded tells answers =>
      rw [View.of_append, tells.tellings_backwards, length,
        View.of_eq_nil answers.within (by decide), List.append_nil]
      rfl
  | failed _ resolves tells answers =>
      rw [View.of_append, View.of_append, View.of_eq_nil resolves.within (by decide),
        tells.tellings_backwards, length, View.of_eq_nil answers.within (by decide),
        List.append_nil]
      rfl
  | fatal _ silent tells answers quiet =>
      rw [View.of_silent_append silent, View.of_append, View.of_append_silent quiet,
        tells.tellings_backwards, length, View.of_eq_nil answers.within (by decide),
        List.append_nil]
      rfl

/-- Resolvers are asked to respond to the failure of the request, unless that is fatal. -/
theorem questions (concludes : Concludes services session context handler interceptors cursor
      result second ending) :
    View.questions.of second =
      ((failureOf result).filter fun failure => !failure.isFatal).toList := by
  cases concludes with
  | succeeded tells answers =>
      rw [View.of_append, View.of_eq_nil tells.within (by decide),
        View.of_eq_nil answers.within (by decide)]
      rfl
  | failed curable resolves tells answers =>
      rw [View.of_append, View.of_append, resolves.questions,
        View.of_eq_nil tells.within (by decide), View.of_eq_nil answers.within (by decide)]
      simp [failureOf, Option.filter, curable]
  | fatal fatal silent tells answers quiet =>
      rw [View.of_append, View.of_append, View.of_append, View.of_silent silent,
        View.of_eq_nil tells.within (by decide), View.of_eq_nil answers.within (by decide),
        View.of_silent quiet]
      simp [failureOf, Option.filter, fatal]

theorem written (concludes : Concludes services session context handler interceptors cursor
      result second ending) :
    ∃ before after response, second = before ++ after ∧ View.tellings.of after = [] ∧
      View.writes.of before = [] ∧ View.writes.of after = [response] := by
  cases concludes with
  | @succeeded _ telling answering _ _ tells answers =>
      obtain ⟨date, writes⟩ := answers.writes
      exact ⟨telling, answering, _, rfl, View.of_eq_nil answers.within (by decide),
        View.of_eq_nil tells.within (by decide), writes⟩
  | @failed _ resolving telling answering _ _ _ _ resolves tells answers =>
      obtain ⟨date, writes⟩ := answers.writes
      refine ⟨resolving ++ telling, answering, _, (List.append_assoc ..).symm,
        View.of_eq_nil answers.within (by decide), ?_, writes⟩
      rw [View.of_append, View.of_eq_nil resolves.within (by decide),
        View.of_eq_nil tells.within (by decide)]
      rfl
  | @fatal _ start telling answering closing _ _ _ silent tells answers quiet =>
      obtain ⟨date, writes⟩ := answers.writes
      refine ⟨start ++ telling, answering ++ closing, _, (List.append_assoc ..).symm, ?_, ?_,
        (View.of_append_silent quiet).trans writes⟩
      · rw [View.of_append_silent quiet, View.of_eq_nil answers.within (by decide)]
      · rw [View.of_silent_append silent, View.of_eq_nil tells.within (by decide)]

theorem answered (concludes : Concludes services session context handler interceptors cursor
      result second ending) :
    ∃ outcome, ending = .answered outcome := by
  cases concludes <;> exact ⟨_, rfl⟩

end Concludes

theorem alike_first (silent : Silent opening)
    (concludes : Concludes services session context handler interceptors cursor
      result second ending) :
    Alike (opening ++ (first ++ second)) first :=
  ⟨view_first True.intro silent concludes, view_first True.intro silent concludes,
    view_first True.intro silent concludes⟩

theorem finished_of_concludes (silent : Silent opening)
    (handled : Handled services.adapters context handler interceptors first cursor result)
    (concludes : Concludes services session context handler interceptors cursor
      result second ending) :
    Finished (failureOf result) (opening ++ (first ++ second)) where
  told := by
    rw [View.of_silent_append silent, View.of_append, handled.of_late id,
      concludes.tellings handled.cursor_le,
      (alike_first silent concludes).passed, handled.passed_eq]
    rfl
  written := by
    obtain ⟨before, after, response, rfl, untold, unwritten, written⟩ := concludes.written
    refine ⟨opening ++ (first ++ before), after, response, by simp, untold, ?_, written⟩
    rw [View.of_silent_append silent, View.of_append, handled.of_late id, unwritten]
    rfl
  questioned := by
    rw [View.of_silent_append silent, View.of_append, handled.of_late id, concludes.questions]
    rfl

theorem Course.orderly (course : Course services session context handler interceptors said ending) :
    Orderly services.adapters context handler interceptors said := by
  cases course with
  | answered silent handled concludes =>
      exact (alike_first silent concludes).orderly handled.orderly
  | died silent asks verdict prepared called quiet =>
      have alike {said : Transcript} : Alike (_ ++ said) said :=
        ⟨View.of_silent_append silent, View.of_silent_append silent, View.of_silent_append silent⟩
      refine alike.orderly (Handled.orderly_of_called asks verdict prepared (quiet.within _) ?_ ?_)
      · intro present
        exact absurd (View.of_silent quiet) present
      · intro response returned
        rw [called] at returned
        cases returned

/-- A dispatch comes to an answer, unless an adapter of the user breaks off in it: then nobody
is told of its end, and nothing is written. -/
theorem Course.answered_or_died
    (course : Course services session context handler interceptors said ending) :
    (Answered services.adapters context handler said ending ∧
      ∀ message, .adapter (.panicked message) ∉ View.calls.of said) ∨
    ∃ message, View.calls.of said = [.adapter (.panicked message)] ∧ ending = .died message ∧
      View.tellings.of said = [] ∧ View.writes.of said = [] := by
  cases course with
  | @answered _ first _ _ _ _ silent handled concludes =>
      have alike : Alike _ first := alike_first silent concludes
      obtain ⟨outcome, answered⟩ := concludes.answered
      refine .inl ⟨⟨outcome, answered, ?_⟩, ?_⟩
      · rw [alike.failure?, handled.failure?_eq]
        exact finished_of_concludes silent handled concludes
      · intro message
        rw [alike.calls]
        exact handled.unbroken
  | @died _ _ _ _ _ _ message silent asks verdict prepared called quiet =>
      rw [Called.attempt_eq_panicked called]
      refine .inr ⟨message, ?_, rfl, ?_, ?_⟩
      · rw [View.of_silent_append silent]
        exact Handled.calls_of_called asks (quiet.within _)
      · rw [View.of_silent_append silent]
        exact Handled.late_of_called id asks.within (quiet.within _)
      · rw [View.of_silent_append silent]
        exact Handled.late_of_called id asks.within (quiet.within _)

variable {router : Router (Handler σ)} {head : RequestHead} {content : Octets}
  {connection : Connection} {route : Routed (Handler σ)}

/-- In a dispatch that finds a route, interceptors are asked up to the first that does not let the
request pass; the handler is called at most once, and only if all of them do; and its response is
shown from the last interceptor on up to the first that fails, if there is one.  Before a response
is written, each of the interceptors that let the request pass, and no other, is told once of the
failure of the request or of its success, the last one first: that is so exactly if the code of no
adapter of the user breaks off in the dispatch, and always where it never does.  Where it breaks
off, nobody is told of anything, and nothing is written. -/
theorem dispatched_in_order (within : content.length ≤ services.config.maxBodySize)
    (routed : router.at? head.path = some route)
    (dispatched : Dispatched services router session head content connection said ending) :
    (∀ event ∈ said,
        event.Genuine (services.interceptors.forPath head.path) route.handler) ∧
      Orderly services.adapters (session.context head content route.captures) route.handler
        (services.interceptors.forPath head.path) said ∧
      (Answered services.adapters (session.context head content route.captures) route.handler
          said ending ↔
        ∀ message, .adapter (.panicked message) ∉ View.calls.of said) ∧
      (services.adapters.Steady →
        Answered services.adapters (session.context head content route.captures) route.handler
          said ending) ∧
      ∀ message, .adapter (.panicked message) ∈ View.calls.of said →
        View.calls.of said = [.adapter (.panicked message)] ∧ ending = .died message ∧
          View.tellings.of said = [] ∧ View.writes.of said = [] := by
  have course := dispatched.course within routed
  have order := course.orderly
  refine ⟨course.genuine, order, ?_⟩
  rcases course.answered_or_died with
    ⟨answered, unbroken⟩ | ⟨broken, called, died, untold, unwritten⟩
  · exact ⟨⟨fun _ => unbroken, fun _ => answered⟩, fun _ => answered,
      fun message panicked => absurd panicked (unbroken message)⟩
  · have panicked : .adapter (.panicked broken) ∈ View.calls.of said := by
      rw [called]
      exact List.mem_singleton_self _
    refine ⟨⟨?_, fun unbroken => absurd panicked (unbroken broken)⟩,
      fun steady => absurd panicked (order.unbroken steady broken), ?_⟩
    · rintro ⟨outcome, answered, -⟩
      cases died.symm.trans answered
    · intro message membership
      rw [called, List.mem_singleton] at membership
      cases membership
      exact ⟨called, died, untold, unwritten⟩

/-- An interceptor that lets all requests pass and breaks off when it is told of their end. -/
def fragile : Dispatch.Interceptor Unit where
  afterCompletion _ _ _ state := (.panicked (some "dropped"), state)

/-- Services with two interceptors, of which the last one breaks off at the end. -/
def guarded : Services Unit where
  interceptors := (Dispatch.Interceptors.none.addLast {}).addLast fragile
  adapters := .ofUser [] .standard
  resolvers := ⟨[], 0, .standard⟩

/-- A handler of empty responses. -/
def blank : Handler Unit :=
  ⟨0, "blank", .raw fun _ => .give (.ofStatus .ok)⟩

theorem dispatched_in_order_of_guarded :
    ([] : Octets).length ≤ guarded.config.maxBodySize ∧
      (anywhere blank).at? rootHead.path = some ⟨blank, "/*", []⟩ ∧ guarded.adapters.Steady ∧
      ∃ said ending, Dispatched guarded (anywhere blank) lasting rootHead [] {} said ending ∧
        View.tellings.of said = [(1, none), (0, none)] ∧
        Orderly guarded.adapters (lasting.context rootHead [] []) blank
          (guarded.interceptors.forPath rootHead.path) said ∧
        ∃ outcome, ending = .answered outcome ∧ Finished none said := by
  have within : ([] : Octets).length ≤ guarded.config.maxBodySize := by decide
  have routed := anywhere_at? blank rootHead.path
  have steady : guarded.adapters.Steady := Adapters.steady_ofUser nofun
  have dispatched := dispatched_rehearsal guarded blank
  have unfailed : failure? guarded.adapters (lasting.context rootHead [] []) blank
      (rehearsal guarded blank).2.events = none := by decide +kernel
  obtain ⟨-, order, -, answers, -⟩ := dispatched_in_order within routed dispatched
  obtain ⟨outcome, answered, finished⟩ := answers steady
  rw [unfailed] at finished
  exact ⟨within, routed, steady, _, _, dispatched, by decide +kernel, order, outcome, answered,
    finished⟩

/-- An adapter that does the same with all calls. -/
def taker (attempt : Attempt Failure Response) : UserAdapter Unit where
  name := "taker"
  supports _ := true
  handle _ _ state := (attempt, state)

/-- Services with two interceptors and an adapter that breaks off. -/
def shattered : Services Unit :=
  { guarded with adapters := .ofUser [taker (.panicked (some "boom"))] .standard }

/-- Two interceptors let the request pass, and neither is told of its end. -/
theorem shattered_untold : ∃ said ending,
    Dispatched shattered (anywhere blank) lasting rootHead [] {} said ending ∧
      said.passed = 2 ∧ View.tellings.of said = [] ∧ View.writes.of said = [] ∧
      ∀ failure, ¬ Finished failure said := by
  have passed : Transcript.passed (rehearsal shattered blank).2.events = 2 := by decide
  have untold : View.tellings.of (rehearsal shattered blank).2.events = [] := by decide
  refine ⟨_, _, dispatched_rehearsal shattered blank, passed, untold, by decide, ?_⟩
  intro failure finished
  have told := finished.told
  rw [untold, passed] at told
  cases told

end Serving

end Switchyard
