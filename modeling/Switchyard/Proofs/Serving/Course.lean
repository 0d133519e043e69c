import Switchyard.Proofs.Dispatch.Chain
import Switchyard.Proofs.Dispatch.Resolution
import Switchyard.Serving.Pipeline

/-!
# The course of a dispatch

`Handled` is the transcript of a request up to the response or the failure that it comes to, and
`Concludes` that of its end.  Every dispatch that finds a route takes its `Course` through the two,
unless an adapter of the user breaks off.
-/

set_option autoImplicit false

namespace Switchyard.Serving

open Dispatch (Act Adapters Chain Context Exchange Handler Interceptor PendingCall Silent
  Transcript)
open Dispatch.Chain (Asked Asks Shown Shows Tells backwards)
open Dispatch.Resolvers (Resolves)
open Http (Connection RequestHead Response SendError)
open Route (Routed Router)

variable {σ : Type}

/-- Leaving a connection that stays open, or is closed. -/
def leaving (stays : Bool) : Transcript :=
  if stays then [] else [.closed]

/-- Writing a response, closing the connection unless it stays and the response was taken, and
nothing but log lines then. -/
inductive Answers (session : Session) (response : Response) :
    Transcript → Except Failure Unit → Prop where
  | mk {date : Octets} {sent : Except SendError Unit} {logs : Transcript} (silent : Silent logs) :
      Answers session response
        (.wrote
          (finalized response (session.keepAlive && !response.wantsClose) session.version date)
          sent ::
          (leaving (session.keepAlive && !response.wantsClose && succeeded sent) ++ logs))
        (sent.mapError .transportFailed)

/-- The way of a request to its response or its failure, with the number of interceptors that let
it pass. -/
inductive Handled (adapters : Adapters σ) (context : Context) (handler : Handler σ)
    (interceptors : List (Interceptor σ)) :
    Transcript → Nat → Except Failure Response → Prop where
  | refused {said : Transcript} {asked : Asked} {failure : Failure}
      (asks : Asks handler 0 { context } interceptors said asked)
      (verdict : asked.verdict = .error failure) :
      Handled adapters context handler interceptors said asked.cursor (.error failure)
  | stopped {said : Transcript} {asked : Asked}
      (asks : Asks handler 0 { context } interceptors said asked)
      (verdict : asked.verdict = .ok false) :
      Handled adapters context handler interceptors said asked.cursor
        (.ok (asked.exchange.response.getD (.ofStatus .ok)))
  | unprepared {said : Transcript} {asked : Asked} {failure : Failure}
      (asks : Asks handler 0 { context } interceptors said asked)
      (verdict : asked.verdict = .ok true)
      (prepared : adapters.prepare context handler = .error failure) :
      Handled adapters context handler interceptors said asked.cursor (.error failure)
  | failed {said logs : Transcript} {asked : Asked} {call : PendingCall σ} {state : σ}
      {failure : Failure} (asks : Asks handler 0 { context } interceptors said asked)
      (verdict : asked.verdict = .ok true)
      (prepared : adapters.prepare context handler = .ok call)
      (called : (call.run state).1.attempt = .failed failure) (silent : Silent logs) :
      Handled adapters context handler interceptors (said ++ .called (call.run state).1 :: logs)
        asked.cursor (.error failure)
  | shown {said logs showing : Transcript} {asked : Asked} {call : PendingCall σ} {state : σ}
      {response : Response} {shown : Shown}
      (asks : Asks handler 0 { context } interceptors said asked)
      (verdict : asked.verdict = .ok true)
      (prepared : adapters.prepare context handler = .ok call)
      (called : (call.run state).1.attempt = .returned response) (silent : Silent logs)
      (shows : Shows handler asked.exchange response (backwards interceptors) showing shown) :
      Handled adapters context handler interceptors
        (said ++ .called (call.run state).1 :: (logs ++ showing)) asked.cursor
        (shown.outcome.map fun _ => shown.response)

/-- The end of a request that so many of the interceptors let pass and that came to a response or
to a failure. -/
inductive Concludes (services : Services σ) (session : Session) (context : Context)
    (handler : Handler σ) (interceptors : List (Interceptor σ)) (passed : Nat) :
    Except Failure Response → Transcript → Ending → Prop where
  | succeeded {exchange : Exchange} {telling answering : Transcript} {response : Response}
      {outcome : Except Failure Unit}
      (tells : Tells handler exchange none (backwards (interceptors.take passed)) telling)
      (answers : Answers session response answering outcome) :
      Concludes services session context handler interceptors passed (.ok response)
        (telling ++ answering) (.answered outcome)
  | failed {exchange : Exchange} {resolving telling answering : Transcript} {failure : Failure}
      {response : Response} {outcome : Except Failure Unit} (curable : failure.isFatal = false)
      (resolves : Resolves services.resolvers context (some handler) failure resolving response)
      (tells : Tells handler exchange (some failure) (backwards (interceptors.take passed)) telling)
      (answers : Answers session response answering outcome) :
      Concludes services session context handler interceptors passed (.error failure)
        (resolving ++ (telling ++ answering)) (.answered outcome)
  | fatal {exchange : Exchange} {opening telling answering closing : Transcript}
      {failure : Failure} {outcome : Except Failure Unit} (fatal : failure.isFatal = true)
      (silent : Silent opening)
      (tells : Tells handler exchange (some failure) (backwards (interceptors.take passed)) telling)
      (answers : Answers session.closing
        (Dispatch.fatalResponse services.config.errorCode failure) answering outcome)
      (quiet : Silent closing) :
      Concludes services session context handler interceptors passed (.error failure)
        (opening ++ (telling ++ (answering ++ closing))) (.answered (.error failure))

/-- The way of a request that has not been handled yet to its end, or to the call of its handler. -/
inductive Advances (services : Services σ) (passage : Passage σ) :
    Transcript → Progress σ → Prop where
  | ended {first second : Transcript} {passed : Nat} {result : Except Failure Response}
      {ending : Ending} {left : Connection}
      (handled : Handled services.adapters passage.context passage.chain.handler
        passage.chain.interceptors first passed result)
      (concludes : Concludes services passage.session passage.context passage.chain.handler
        passage.chain.interceptors passed result second ending) :
      Advances services passage (first ++ second) (.ended ending left)
  | suspended {said : Transcript} {asked : Asked} {call : PendingCall σ}
      (asks : Asks passage.chain.handler 0 { context := passage.context }
        passage.chain.interceptors said asked)
      (verdict : asked.verdict = .ok true)
      (prepared : services.adapters.prepare passage.context passage.chain.handler = .ok call) :
      Advances services passage said
        (.suspended
          ⟨{ passage with
              chain := { passage.chain with cursor := asked.cursor, state := .handling }
              exchange := asked.exchange },
            call⟩)

/-- The course of a dispatch to a handler through interceptors. -/
inductive Course (services : Services σ) (session : Session) (context : Context)
    (handler : Handler σ) (interceptors : List (Interceptor σ)) :
    Transcript → Ending → Prop where
  | answered {opening first second : Transcript} {passed : Nat}
      {result : Except Failure Response} {ending : Ending} (silent : Silent opening)
      (handled : Handled services.adapters context handler interceptors first passed result)
      (concludes : Concludes services session context handler interceptors passed result second
        ending) :
      Course services session context handler interceptors (opening ++ (first ++ second)) ending
  | died {opening said logs : Transcript} {asked : Asked} {call : PendingCall σ} {state : σ}
      {message : Option String} (silent : Silent opening)
      (asks : Asks handler 0 { context } interceptors said asked)
      (verdict : asked.verdict = .ok true)
      (prepared : services.adapters.prepare context handler = .ok call)
      (called : (call.run state).1.attempt = .panicked message) (quiet : Silent logs) :
      Course services session context handler interceptors
        (opening ++ (said ++ .called (call.run state).1 :: logs)) (.died message)

/-- The course of a dispatch that never gets to a route: its body is too long, or no route matches
its path. -/
inductive Dismissed (services : Services σ) (session : Session) (head : RequestHead)
    (content : Octets) : Transcript → Ending → Prop where
  | tooLong {opening answering : Transcript} {outcome : Except Failure Unit}
      (exceeds : services.config.maxBodySize < content.length) (silent : Silent opening)
      (answers : Answers session.closing
        (plainResponse .payloadTooLarge "request body too large") answering outcome) :
      Dismissed services session head content (opening ++ answering) (.answered outcome)
  | unrouted {opening answering : Transcript} {outcome : Except Failure Unit}
      (within : content.length ≤ services.config.maxBodySize)
      (policy : services.config.notFound = .fixedResponse) (silent : Silent opening)
      (answers : Answers session.closing (.ofStatus .notFound) answering outcome) :
      Dismissed services session head content (opening ++ answering) (.answered outcome)
  | raised {opening resolving answering : Transcript} {response : Response}
      {outcome : Except Failure Unit} (within : content.length ≤ services.config.maxBodySize)
      (policy : services.config.notFound = .raise) (silent : Silent opening)
      (resolves : Resolves services.resolvers (session.context head content []) none
        (.routeNotFound head.path) resolving response)
      (answers : Answers session response answering outcome) :
      Dismissed services session head content (opening ++ (resolving ++ answering))
        (.answered outcome)

/-- What was said in a dispatch from its beginning to its end, and how it ended.  Whatever else
happens in the world between the two parts of a suspended request is of no account. -/
inductive Dispatched (services : Services σ) (router : Router (Handler σ)) (session : Session)
    (head : RequestHead) (content : Octets) (connection : Connection) :
    Transcript → Ending → Prop where
  | atOnce {world after : Dispatch.World σ} {said : Transcript} {ending : Ending}
      {left : Connection}
      (served : (serve services router session head content connection).run world =
        (.ended ending left, after))
      (appended : after.events = world.events ++ said) :
      Dispatched services router session head content connection said ending
  | suspended {world between later after : Dispatch.World σ} {first second : Transcript}
      {request : Suspended σ} {ending : Ending} {left : Connection}
      (served : (serve services router session head content connection).run world =
        (.suspended request, between))
      (appended : between.events = world.events ++ first)
      (resumed : (resume services request).run later = ((ending, left), after))
      (further : after.events = later.events ++ second) :
      Dispatched services router session head content connection (first ++ second) ending

theorem send_emits (connection : Connection) (response : Response) :
    (send (σ := σ) connection response).Emits fun said result =>
      said = [.wrote response result.1] ∧ result = connection.write response := by
  unfold send
  refine (Act.emits_note ?_).bind ?_
  · nofun
  rintro _ _ rfl
  exact Act.emits_pure ⟨rfl, rfl⟩

theorem leave_emits (connection : Connection) (stays : Bool) :
    (leave (σ := σ) connection stays).Emits fun said left =>
      said = leaving stays ∧ left = if stays then connection else connection.close := by
  unfold leave leaving
  split
  · exact Act.emits_pure ⟨rfl, rfl⟩
  · unfold hangUp
    refine (Act.emits_note ?_).bind ?_
    · nofun
    rintro _ _ rfl
    exact Act.emits_pure ⟨rfl, rfl⟩

theorem conclude_emits (outcome : Except SendError Unit) :
    (conclude (σ := σ) outcome).Emits fun said result =>
      Silent said ∧ result = outcome.mapError .transportFailed := by
  unfold conclude
  cases outcome with
  | ok => exact Act.emits_pure ⟨.nil, rfl⟩
  | error error =>
      apply (Act.emits_log _).bind
      rintro _ _ rfl
      exact Act.emits_pure ⟨.single _, rfl⟩

theorem report_emits (session : Session) (outcome : Except SendError Unit) :
    (report (σ := σ) session outcome).Emits fun said result =>
      Silent said ∧ result = outcome.mapError .transportFailed := by
  unfold report
  by_cases sampled : session.sampled = true
  · rw [if_pos sampled]
    apply (Act.emits_log _).bind
    rintro _ _ rfl
    apply (conclude_emits outcome).mono
    rintro said _ ⟨silent, rfl⟩
    exact ⟨Silent.append (.single _) silent, rfl⟩
  · rw [if_neg sampled]
    exact conclude_emits outcome

theorem answer_emits (session : Session) (connection : Connection) (response : Response) :
    (answer (σ := σ) session connection response).Emits fun said result =>
      Answers session response said result.1 := by
  unfold answer
  apply Act.emits_now.bind
  rintro _ clock rfl
  apply (send_emits _ _).bind
  rintro _ ⟨sent, written⟩ ⟨rfl, -⟩
  apply (leave_emits _ _).bind
  rintro _ left ⟨rfl, -⟩
  apply (report_emits _ _).bind
  rintro logs _ ⟨silent, rfl⟩
  apply Act.emits_pure
  rw [List.append_nil]
  exact .mk silent

theorem endWith_emits (session : Session) (connection : Connection) (response : Response) :
    (endWith (σ := σ) session connection response).Emits fun said result =>
      ∃ outcome, result.1 = .answered outcome ∧ Answers session response said outcome := by
  unfold endWith
  apply (answer_emits _ _ _).bind
  rintro answering ⟨outcome, left⟩ answers
  refine Act.emits_pure ⟨outcome, rfl, ?_⟩
  rw [List.append_nil]
  exact answers

namespace Passage

variable {services : Services σ} {passage : Passage σ}

theorem finish_emits (untold : passage.chain.state ≠ .completed) (response : Response)
    (failure : Option Failure) :
    (passage.finish response failure).Emits fun said result =>
      ∃ telling answering outcome, said = telling ++ answering ∧
        Tells passage.chain.handler passage.exchange failure
          (backwards (passage.chain.interceptors.take passage.chain.cursor)) telling ∧
        Answers passage.session response answering outcome ∧ result.1 = .answered outcome := by
  unfold finish
  apply (Chain.complete_emits untold _ _).bind
  intro telling _ tells
  apply (endWith_emits _ _ _).mono
  rintro answering ⟨_, left⟩ ⟨outcome, rfl, answers⟩
  exact ⟨telling, answering, outcome, rfl, tells, answers, rfl⟩

theorem finishFatal_emits (untold : passage.chain.state ≠ .completed) {failure : Failure}
    (fatal : failure.isFatal = true) :
    (passage.finishFatal services.config.errorCode failure).Emits fun said result =>
      Concludes services passage.session passage.context passage.chain.handler
        passage.chain.interceptors passage.chain.cursor (.error failure) said result.1 := by
  unfold finishFatal
  apply (Act.emits_log _).bind
  rintro _ _ rfl
  apply (Chain.complete_emits untold _ _).bind
  intro telling _ tells
  apply (answer_emits _ _ _).bind
  rintro answering ⟨outcome, left⟩ answers
  cases outcome with
  | ok =>
      exact Act.emits_pure (Concludes.fatal fatal (.single _) tells answers .nil)
  | error unwritten =>
      apply (Act.emits_log _).bind
      rintro _ _ rfl
      exact Act.emits_pure (Concludes.fatal fatal (.single _) tells answers (.single _))

theorem finishFailed_emits (untold : passage.chain.state ≠ .completed) (failure : Failure) :
    (passage.finishFailed services failure).Emits fun said result =>
      Concludes services passage.session passage.context passage.chain.handler
        passage.chain.interceptors passage.chain.cursor (.error failure) said result.1 := by
  unfold finishFailed
  by_cases fatal : failure.isFatal = true
  · rw [if_pos fatal]
    exact finishFatal_emits untold fatal
  · rw [if_neg fatal]
    apply (Dispatch.Resolvers.resolve_emits _ _ _ _).bind
    intro resolving response resolves
    apply (finish_emits untold _ _).mono
    rintro _ ⟨_, left⟩ ⟨telling, answering, outcome, rfl, tells, answers, rfl⟩
    exact .failed (by simpa using fatal) resolves tells answers

theorem advance_emits (fresh : passage.chain.cursor = 0)
    (blank : passage.exchange = { context := passage.context }) :
    (passage.advance services).Emits (Advances services passage) := by
  unfold advance
  apply (Chain.applyPreHandle_emits _ _).bind
  rintro said _ ⟨asked, asks, rfl⟩
  rw [fresh, blank, List.drop_zero] at asks
  cases verdict : asked.verdict with
  | error failure =>
      refine (finishFailed_emits ?_ failure).bind ?_
      · simp [Chain.stateAfter]
      rintro second ⟨ending, left⟩ concludes
      apply Act.emits_pure
      rw [List.append_nil]
      exact .ended (.refused asks verdict) concludes
  | ok passes =>
      cases passes with
      | false =>
          refine (finish_emits ?_ _ none).bind ?_
          · simp [Chain.stateAfter]
          rintro _ ⟨_, left⟩ ⟨telling, answering, outcome, rfl, tells, answers, rfl⟩
          apply Act.emits_pure
          rw [List.append_nil]
          exact .ended (.stopped asks verdict) (.succeeded tells answers)
      | true =>
          simp only
          split
          case h_1 failure unprepared =>
            refine (finishFailed_emits ?_ failure).bind ?_
            · simp [Chain.stateAfter]
            rintro second ⟨ending, left⟩ concludes
            apply Act.emits_pure
            rw [List.append_nil]
            exact .ended (.unprepared asks verdict unprepared) concludes
          case h_2 call prepared =>
            apply Act.emits_pure
            rw [List.append_nil]
            exact .suspended asks verdict prepared

end Passage

theorem perform_emits (call : PendingCall σ) :
    call.perform.Emits fun said attempt => ∃ state logs, Silent logs ∧
      said = .called (call.run state).1 :: logs ∧ attempt = (call.run state).1.attempt := by
  unfold PendingCall.perform
  apply (Act.emits_perform _).bind
  rintro _ _ ⟨rfl, state, rfl⟩
  refine (Act.emits_note ?_).bind ?_
  · nofun
  rintro _ _ rfl
  split
  · apply (Act.emits_log _).bind
    rintro _ _ rfl
    exact Act.emits_pure ⟨state, [.logged .handlerExecuted], .single _, rfl, rfl⟩
  · exact Act.emits_pure ⟨state, [], .nil, rfl, rfl⟩

variable {services : Services σ} {passage : Passage σ} {request : Suspended σ}
  {router : Router (Handler σ)} {session : Session} {head : RequestHead} {content : Octets}
  {connection : Connection} {route : Routed (Handler σ)} {ending : Ending}

theorem resume_emits {opening first : Transcript} (silent : Silent opening)
    (advances : Advances services passage first (.suspended request)) :
    (resume services request).Emits fun second result =>
      Course services passage.session passage.context passage.chain.handler
        passage.chain.interceptors (opening ++ first ++ second) result.1 := by
  cases advances with
  | @suspended _ asked call asks verdict prepared =>
      unfold resume
      apply (perform_emits call).bind
      rintro _ _ ⟨state, logs, quiet, rfl, rfl⟩
      cases called : (call.run state).1.attempt with
      | panicked message =>
          apply Act.emits_pure
          rw [List.append_nil, List.append_assoc]
          exact .died silent asks verdict prepared called quiet
      | failed failure =>
          refine (Passage.finishFailed_emits ?_ failure).mono ?_
          · simp
          intro second result concludes
          have course := Course.answered silent
            (.failed asks verdict prepared called quiet) concludes
          simpa using course
      | returned response =>
          apply (Chain.applyPostHandle_emits rfl _ _).bind
          rintro showing ⟨shown, _⟩ ⟨shows, rfl⟩
          have handled := Handled.shown asks verdict prepared called quiet shows
          cases outcome : shown.outcome with
          | ok =>
              rw [outcome] at handled
              simp only [outcome]
              refine (Passage.finish_emits ?_ _ none).mono ?_
              · simp
              rintro _ ⟨_, left⟩ ⟨telling, answering, outcome, rfl, tells, answers, rfl⟩
              have course := Course.answered silent handled (.succeeded tells answers)
              simpa using course
          | error failure =>
              rw [outcome] at handled
              simp only [outcome]
              refine (Passage.finishFailed_emits ?_ failure).mono ?_
              · simp
              intro second result concludes
              have course := Course.answered silent handled concludes
              simpa using course

/-- The passage of a request that a route has been found for. -/
def Passage.start (services : Services σ) (session : Session) (head : RequestHead)
    (content : Octets) (connection : Connection) (route : Routed (Handler σ)) : Passage σ where
  session := session
  connection := connection
  context := session.context head content route.captures
  chain := ⟨route.handler, services.interceptors.forPath head.path, 0, .init⟩
  exchange := ⟨session.context head content route.captures, [], none⟩

theorem serve_of_routed (within : content.length ≤ services.config.maxBodySize)
    (routed : router.at? head.path = some route) :
    serve services router session head content connection = (do
      if session.sampled then
        Act.log .dispatching
      (Passage.start services session head content connection route).advance services) := by
  unfold serve
  rw [if_neg (Nat.not_lt.mpr within), routed]
  rfl

theorem serve_emits (within : content.length ≤ services.config.maxBodySize)
    (routed : router.at? head.path = some route) :
    (serve services router session head content connection).Emits fun said progress =>
      ∃ opening rest, Silent opening ∧ said = opening ++ rest ∧
        Advances services (.start services session head content connection route) rest
          progress := by
  have advancing :
      ((Passage.start services session head content connection route).advance services).Emits
        (Advances services (.start services session head content connection route)) :=
    Passage.advance_emits rfl rfl
  rw [serve_of_routed within routed]
  split
  · apply (Act.emits_log _).bind
    rintro _ _ rfl
    apply advancing.mono
    intro rest progress advances
    exact ⟨[.logged .dispatching], rest, .single _, rfl, advances⟩
  · apply advancing.mono
    intro rest progress advances
    exact ⟨[], rest, .nil, rfl, advances⟩

theorem endUnrouted_emits (within : content.length ≤ services.config.maxBodySize)
    (session : Session) (connection : Connection) :
    (endUnrouted services session connection (session.context head content [])).Emits
      fun said result => ∀ opening, Silent opening →
        Dismissed services session head content (opening ++ said) result.1 := by
  unfold endUnrouted
  apply (Act.emits_log _).bind
  rintro _ _ rfl
  split
  case h_1 policy =>
    apply (endWith_emits _ _ _).mono
    rintro answering ⟨_, left⟩ ⟨outcome, rfl, answers⟩ opening silent
    rw [← List.append_assoc]
    exact .unrouted within policy (silent.append (.single _)) answers
  case h_2 policy =>
    apply (Dispatch.Resolvers.resolve_emits _ _ _ _).bind
    intro resolving response resolves
    apply (endWith_emits _ _ _).mono
    rintro answering ⟨_, left⟩ ⟨outcome, rfl, answers⟩ opening silent
    rw [← List.append_assoc]
    exact .raised within policy (silent.append (.single _)) resolves answers

/-- A request that is too long or finds no route is dismissed at once. -/
theorem serve_emits_dismissed
    (lost : services.config.maxBodySize < content.length ∨ router.at? head.path = none) :
    (serve services router session head content connection).Emits fun said progress =>
      ∃ ending left, progress = .ended ending left ∧
        Dismissed services session head content said ending := by
  have beginning {rest : Act σ (Progress σ)}
      (rests : rest.Emits fun said progress => ∀ opening, Silent opening →
        ∃ ending left, progress = .ended ending left ∧
          Dismissed services session head content (opening ++ said) ending) :
      (do if session.sampled then Act.log .dispatching
          rest : Act σ (Progress σ)).Emits fun said progress =>
        ∃ ending left, progress = .ended ending left ∧
          Dismissed services session head content said ending := by
    split
    · apply (Act.emits_log _).bind
      rintro _ _ rfl
      apply rests.mono
      intro said progress dismissed
      exact dismissed _ (.single _)
    · apply rests.mono
      intro said progress dismissed
      exact dismissed [] .nil
  unfold serve
  apply beginning
  by_cases exceeds : services.config.maxBodySize < content.length
  · rw [if_pos exceeds]
    apply (Act.emits_log _).bind
    rintro _ _ rfl
    apply (endWith_emits _ _ _).bind
    rintro answering ⟨_, left⟩ ⟨outcome, rfl, answers⟩
    apply Act.emits_pure
    intro opening silent
    refine ⟨_, left, rfl, ?_⟩
    rw [List.append_nil, ← List.append_assoc]
    exact .tooLong exceeds (silent.append (.single _)) answers
  · rw [if_neg exceeds, lost.resolve_left exceeds]
    apply (endUnrouted_emits (Nat.not_lt.mp exceeds) _ _).bind
    rintro said ⟨ending, left⟩ dismissed
    apply Act.emits_pure
    intro opening silent
    rw [List.append_nil]
    exact ⟨ending, left, rfl, dismissed opening silent⟩

/-- Leads a request to its end. -/
def Progress.complete (services : Services σ) : Progress σ → Act σ (Ending × Connection)
  | .ended ending left => pure (ending, left)
  | .suspended request => resume services request

/-- Serves a request to its end without a pause. -/
def process (services : Services σ) (router : Router (Handler σ)) (session : Session)
    (head : RequestHead) (content : Octets) (connection : Connection) :
    Act σ (Ending × Connection) :=
  serve services router session head content connection >>= Progress.complete services

/-- A request served without a pause is dispatched, whatever the world. -/
theorem exists_dispatched (within : content.length ≤ services.config.maxBodySize)
    (routed : router.at? head.path = some route) (world : Dispatch.World σ) :
    ∃ said, ((process services router session head content connection).run world).2.events =
        world.events ++ said ∧
      Dispatched services router session head content connection said
        ((process services router session head content connection).run world).1.1 := by
  obtain ⟨first, ⟨appended, -, -⟩, opening, rest, silent, rfl, advances⟩ :=
    (serve_emits within routed :
      (serve services router session head content connection).Emits _) world
  cases served : (serve services router session head content connection).run world with
  | mk progress between =>
      have ran : (process services router session head content connection).run world =
          (progress.complete services).run between := by
        unfold process
        rw [StateT.run_bind, served]
        rfl
      rw [ran]
      rw [served] at appended advances
      cases progress with
      | ended ending left => exact ⟨_, appended, .atOnce served appended⟩
      | suspended request =>
          obtain ⟨second, ⟨further, -, -⟩, -⟩ := resume_emits silent advances between
          refine ⟨_, ?_, .suspended served appended rfl further⟩
          rw [← List.append_assoc, ← appended]
          exact further

/-- Every dispatch that finds a route takes its course. -/
theorem Dispatched.course {said : Transcript}
    (within : content.length ≤ services.config.maxBodySize)
    (routed : router.at? head.path = some route)
    (dispatched : Dispatched services router session head content connection said ending) :
    Course services session (session.context head content route.captures) route.handler
      (services.interceptors.forPath head.path) said ending := by
  cases dispatched with
  | atOnce served appended =>
      obtain ⟨opening, rest, silent, rfl, advances⟩ :=
        (serve_emits within routed).related served appended
      cases advances with
      | ended handled concludes => exact .answered silent handled concludes
  | suspended served appended resumed further =>
      obtain ⟨opening, rest, silent, rfl, advances⟩ :=
        (serve_emits within routed).related served appended
      exact (resume_emits silent advances).related resumed further

theorem Dispatched.dismissed {said : Transcript}
    (lost : services.config.maxBodySize < content.length ∨ router.at? head.path = none)
    (dispatched : Dispatched services router session head content connection said ending) :
    Dismissed services session head content said ending := by
  cases dispatched with
  | atOnce served appended =>
      obtain ⟨_, _, same, dismissed⟩ := (serve_emits_dismissed lost).related served appended
      cases same
      exact dismissed
  | suspended served appended resumed further =>
      obtain ⟨_, _, same, -⟩ := (serve_emits_dismissed lost).related served appended
      cases same

/-- A dispatch finds a route and takes its course, or is dismissed. -/
theorem Dispatched.course_or_dismissed {said : Transcript}
    (dispatched : Dispatched services router session head content connection said ending) :
    (∃ route : Routed (Handler σ),
      Course services session (session.context head content route.captures) route.handler
        (services.interceptors.forPath head.path) said ending) ∨
      Dismissed services session head content said ending := by
  by_cases within : content.length ≤ services.config.maxBodySize
  · cases routed : router.at? head.path with
    | some route => exact .inl ⟨route, dispatched.course within routed⟩
    | none => exact .inr (dispatched.dismissed (.inr routed))
  · exact .inr (dispatched.dismissed (.inl (Nat.lt_of_not_le within)))

/-- A router that leads all requests to one handler. -/
def anywhere (handler : Handler Unit) : Router (Handler Unit) where
  fallback := some handler

theorem anywhere_at? (handler : Handler Unit) (path : String) :
    (anywhere handler).at? path = some ⟨handler, "/*", []⟩ := by
  simp [Router.at?, anywhere, Router.scan, Router.slot?, Route.fallbackText]

/-- A request for the root. -/
def rootHead : RequestHead := ⟨.get, .origin "/" none, .http11, .empty⟩

/-- The session of a request on a connection that may stay open. -/
def lasting : Session := ⟨"", false, true, .http11⟩

/-- What a request for the root comes to when it is served without a pause in a world where nothing
has happened yet. -/
def rehearsal (services : Services Unit) (handler : Handler Unit) :
    (Ending × Connection) × Dispatch.World Unit :=
  let passage := Passage.start services lasting rootHead [] {} ⟨handler, "/*", []⟩
  (passage.advance services >>= Progress.complete services).run ⟨(), .idle, ⟨[], 0⟩, []⟩

theorem dispatched_rehearsal (services : Services Unit) (handler : Handler Unit) :
    Dispatched services (anywhere handler) lasting rootHead [] {}
      (rehearsal services handler).2.events (rehearsal services handler).1.1 := by
  have within : ([] : Octets).length ≤ services.config.maxBodySize := Nat.zero_le _
  have routed := anywhere_at? handler rootHead.path
  have rehearsed : (process services (anywhere handler) lasting rootHead [] {}).run
      ⟨(), .idle, ⟨[], 0⟩, []⟩ = rehearsal services handler := by
    unfold process
    rw [serve_of_routed within routed]
    rfl
  obtain ⟨said, appended, dispatched⟩ := exists_dispatched within routed ⟨(), .idle, ⟨[], 0⟩, []⟩
  rw [rehearsed] at appended dispatched
  rw [appended]
  exact dispatched

end Switchyard.Serving
