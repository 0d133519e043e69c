import Switchyard.Proofs.Serving.Run
import Switchyard.Proofs.Serving.Stages

/-!
# What reaches the connection of a request

Wherever the pipeline ends a request, it `Hands` the connection one response, which says whether the
connection is kept open, and closes it accordingly, or because the response was not taken.  So every
request that a server has refused, or served to its end, has been `Attended` in that way, and every
other one can be led there.
-/

set_option autoImplicit false

namespace Switchyard.Serving

open Dispatch (Act Adapters Chain Context PendingCall Silent Transcript View)
open Dispatch.Chain (Asked)
open Http (Connection RequestHead Response SendError Version)
open Route (Router)

variable {σ : Type} {services : Services σ} {session : Session} {connection left : Connection}
  {response : Response} {said first rest : Transcript} {version : Version}

/-- Handing a connection the response to a request of a version. -/
inductive Hands (version : Version) (connection : Connection) : Transcript → Connection → Prop where
  | mk {said : Transcript} {response : Response} {keepAlive : Bool}
      (handed : View.handovers.of said = .wrote response (connection.write response).1 ::
        leaving (keepAlive && succeeded (connection.write response).1))
      (versioned : response.version = version)
      (announced : response.fields.getAll Http.connectionName = [connectionValue keepAlive]) :
      Hands version connection said
        (if keepAlive && succeeded (connection.write response).1
          then (connection.write response).2
          else (connection.write response).2.close)

theorem Hands.after (unheard : View.handovers.of first = [])
    (hands : Hands version connection said left) :
    Hands version connection (first ++ said) left := by
  cases hands with
  | mk handed versioned announced =>
      refine .mk ?_ versioned announced
      rw [View.of_append, unheard]
      exact handed

theorem Hands.before (hands : Hands version connection said left)
    (unheard : View.handovers.of rest = []) : Hands version connection (said ++ rest) left := by
  cases hands with
  | mk handed versioned announced =>
      refine .mk ?_ versioned announced
      rw [View.of_append, unheard, List.append_nil]
      exact handed

theorem answer_hands (session : Session) (connection : Connection) (response : Response) :
    (answer (σ := σ) session connection response).Emits fun said result =>
      Hands session.version connection said result.2 := by
  unfold answer
  apply Act.emits_now.bind
  rintro _ clock rfl
  apply (send_emits _ _).bind
  rintro _ ⟨sent, written⟩ ⟨rfl, wrote⟩
  have taken : (connection.write _).1 = sent := congrArg Prod.fst wrote.symm
  have kept : (connection.write _).2 = written := congrArg Prod.snd wrote.symm
  subst taken kept
  apply (leave_emits _ _).bind
  rintro _ left ⟨rfl, rfl⟩
  apply (report_emits _ _).bind
  rintro logs _ ⟨silent, -⟩
  apply Act.emits_pure
  refine .mk ?_ (version_finalized ..) (connection_finalized ..)
  rw [List.append_nil, List.nil_append, List.singleton_append, View.of_cons_some rfl,
    View.of_append_silent silent, handovers_leaving]

theorem endWith_hands (session : Session) (connection : Connection) (response : Response) :
    (endWith (σ := σ) session connection response).Emits fun said result =>
      Hands session.version connection said result.2 := by
  unfold endWith
  apply (answer_hands _ _ _).bind
  rintro said ⟨outcome, left⟩ hands
  apply Act.emits_pure
  rw [List.append_nil]
  exact hands

theorem endUnrouted_hands (services : Services σ) (session : Session) (connection : Connection)
    (context : Context) :
    (endUnrouted services session connection context).Emits fun said result =>
      Hands session.version connection said result.2 := by
  unfold endUnrouted
  apply (Act.emits_log _).bind
  rintro _ _ rfl
  have logged : View.handovers.of [.logged .noRoute] = [] := View.of_silent (.single _)
  split
  case h_1 =>
    apply (endWith_hands _ _ _).mono
    intro said result hands
    exact hands.after logged
  case h_2 =>
    apply (Dispatch.Resolvers.resolve_emits _ _ _ _).bind
    intro resolving response resolves
    apply (endWith_hands _ _ _).mono
    intro said result hands
    exact (hands.after (View.of_eq_nil resolves.within (by decide))).after logged

namespace Passage

variable {passage : Passage σ}

theorem finish_hands (untold : passage.chain.state ≠ .completed) (response : Response)
    (failure : Option Failure) :
    (passage.finish response failure).Emits fun said result =>
      Hands passage.session.version passage.connection said result.2 := by
  unfold finish
  apply (Chain.complete_emits untold _ _).bind
  intro telling _ tells
  apply (endWith_hands _ _ _).mono
  intro said result hands
  exact hands.after (View.of_eq_nil tells.within (by decide))

theorem finishFatal_hands (untold : passage.chain.state ≠ .completed) (errorCode : Int)
    (failure : Failure) :
    (passage.finishFatal errorCode failure).Emits fun said result =>
      Hands passage.session.version passage.connection said result.2 := by
  unfold finishFatal
  apply (Act.emits_log _).bind
  rintro _ _ rfl
  apply (Chain.complete_emits untold _ _).bind
  intro telling _ tells
  apply (answer_hands _ _ _).bind
  rintro said ⟨outcome, left⟩ hands
  have fatal {logs : Transcript} (silent : Silent logs) :
      Hands passage.session.version passage.connection
        ([.logged (.fatalFailure failure)] ++ (telling ++ (said ++ logs))) left := by
    have written := hands.before (View.of_silent silent)
    refine Hands.after (View.of_silent (.single _)) (Hands.after ?_ written)
    exact View.of_eq_nil tells.within (by decide)
  cases outcome with
  | ok => exact Act.emits_pure (fatal .nil)
  | error unwritten =>
      apply (Act.emits_log _).bind
      rintro _ _ rfl
      exact Act.emits_pure (fatal (.single _))

theorem finishFailed_hands (untold : passage.chain.state ≠ .completed) (services : Services σ)
    (failure : Failure) :
    (passage.finishFailed services failure).Emits fun said result =>
      Hands passage.session.version passage.connection said result.2 := by
  unfold finishFailed
  by_cases fatal : failure.isFatal = true
  · rw [if_pos fatal]
    exact finishFatal_hands untold _ failure
  · rw [if_neg fatal]
    apply (Dispatch.Resolvers.resolve_emits _ _ _ _).bind
    intro resolving response resolves
    apply (finish_hands untold _ _).mono
    intro said result hands
    exact hands.after (View.of_eq_nil resolves.within (by decide))

end Passage

/-- A suspended request that has the version and the connection of the one that came in, and of
which the call will not break off. -/
structure Suspended.Ready (version : Version) (connection : Connection) (request : Suspended σ) :
    Prop where
  version : request.passage.session.version = version
  connection : request.passage.connection = connection
  handling : request.passage.chain.state = .handling
  unbroken : ∀ state message, (request.call.run state).1.attempt ≠ .panicked message

/-- What serving a request up to the call of its handler has done to the connection. -/
def Leads (version : Version) (connection : Connection) (said : Transcript) :
    Progress σ → Prop
  | .ended _ left => Hands version connection said left
  | .suspended request => View.handovers.of said = [] ∧ request.Ready version connection

theorem Leads.after {progress : Progress σ} (unheard : View.handovers.of first = [])
    (leads : Leads version connection said progress) :
    Leads version connection (first ++ said) progress := by
  cases progress with
  | ended ending left => exact Hands.after unheard leads
  | suspended request =>
      refine ⟨?_, leads.2⟩
      rw [View.of_append, unheard, leads.1]
      rfl

/-- An exit of the pipeline is taken where nothing has reached the connection yet. -/
theorem leads_of_hands {exit : Act σ (Ending × Connection)}
    (unheard : View.handovers.of first = [])
    (hands : exit.Emits fun said result => Hands version connection said result.2) :
    (do let (ending, left) ← exit
        return .ended ending left : Act σ (Progress σ)).Emits fun said progress =>
      Leads version connection (first ++ said) progress := by
  apply hands.bind
  rintro said ⟨ending, left⟩ handed
  apply Act.emits_pure
  rw [List.append_nil]
  exact Hands.after unheard handed

theorem Passage.advance_leads (steady : services.adapters.Steady) (passage : Passage σ) :
    (passage.advance services).Emits fun said progress =>
      Leads passage.session.version passage.connection said progress := by
  unfold advance
  apply (Chain.applyPreHandle_emits _ _).bind
  rintro asking _ ⟨asked, asks, rfl⟩
  have unheard : View.handovers.of asking = [] := View.of_eq_nil asks.within (by decide)
  cases asked.verdict with
  | error failure =>
      refine leads_of_hands unheard (finishFailed_hands ?_ services failure)
      simp [Chain.stateAfter]
  | ok passes =>
      cases passes with
      | false =>
          refine leads_of_hands unheard (finish_hands ?_ _ none)
          simp [Chain.stateAfter]
      | true =>
          simp only
          split
          case h_1 failure unprepared =>
            refine leads_of_hands unheard (finishFailed_hands ?_ services failure)
            simp [Chain.stateAfter]
          case h_2 call prepared =>
            apply Act.emits_pure
            rw [List.append_nil]
            exact ⟨unheard, rfl, rfl, rfl, steady.unbroken prepared⟩

theorem serve_leads (steady : services.adapters.Steady) (router : Router (Dispatch.Handler σ))
    (session : Session) (head : RequestHead) (content : Octets) (connection : Connection) :
    (serve services router session head content connection).Emits fun said progress =>
      Leads session.version connection said progress := by
  have beginning {rest : Act σ (Progress σ)}
      (rests : rest.Emits fun said progress => Leads session.version connection said progress) :
      (do if session.sampled then Act.log .dispatching
          rest : Act σ (Progress σ)).Emits fun said progress =>
        Leads session.version connection said progress := by
    split
    · apply (Act.emits_log _).bind
      rintro _ _ rfl
      apply rests.mono
      intro said progress leads
      exact leads.after (View.of_silent (.single _))
    · exact rests
  unfold serve
  apply beginning
  split
  · apply (Act.emits_log _).bind
    rintro _ _ rfl
    exact leads_of_hands (View.of_silent (.single _)) (endWith_hands _ _ _)
  · split
    case h_1 => exact leads_of_hands View.of_nil (endUnrouted_hands _ _ _ _)
    case h_2 route routed =>
      exact Passage.advance_leads steady
        (.start services session head content connection route)

/-- A request that is resumed is led to its end. -/
theorem resume_hands {request : Suspended σ} (ready : request.Ready version connection) :
    (resume services request).Emits fun said result =>
      Hands version connection said result.2 := by
  obtain ⟨rfl, rfl, handling, unbroken⟩ := ready
  unfold resume
  apply (perform_emits _).bind
  rintro _ _ ⟨state, logs, quiet, rfl, rfl⟩
  have unheard : View.handovers.of (.called (request.call.run state).1 :: logs) = [] := by
    rw [View.of_cons_none rfl, View.of_silent quiet]
  cases called : (request.call.run state).1.attempt with
  | panicked message => exact absurd called (unbroken state message)
  | failed failure =>
      refine (Passage.finishFailed_hands ?_ services failure).mono ?_
      · simp [handling]
      · intro said result hands
        exact hands.after unheard
  | returned response =>
      apply (Chain.applyPostHandle_emits handling _ _).bind
      rintro showing ⟨shown, _⟩ ⟨shows, rfl⟩
      have unseen : View.handovers.of showing = [] := View.of_eq_nil shows.within (by decide)
      cases outcome : shown.outcome with
      | ok =>
          simp only [outcome]
          refine (Passage.finish_hands ?_ _ none).mono ?_
          · simp
          · intro said result hands
            exact (hands.after unseen).after unheard
      | error failure =>
          simp only [outcome]
          refine (Passage.finishFailed_hands ?_ services failure).mono ?_
          · simp
          · intro said result hands
            exact (hands.after unseen).after unheard

theorem Refuses.hands {arrival : Arrival} (refuses : Refuses arrival said left) :
    Hands arrival.request.head.version arrival.connection said left := by
  cases refuses with
  | @mk date logs silent =>
      refine @Hands.mk _ _ _ (busy arrival date) false ?_ (version_finalized ..)
        (connection_finalized ..)
      rw [View.of_cons_none rfl, View.of_cons_none rfl, View.of_cons_some rfl,
        View.of_silent_append silent]
      rfl

theorem Begins.leads {arrival : Arrival} {progress : Progress σ}
    (steady : services.adapters.Steady) (begins : Begins services arrival said progress) :
    Leads arrival.request.head.version arrival.connection said progress := by
  cases begins with
  | mk served speaks => exact (serve_leads steady _ _ _ _ _).related served speaks.appended

theorem Served.hands {arrival : Arrival} {ending : Ending} (steady : services.adapters.Steady)
    (served : Served services arrival said ending left) :
    Hands arrival.request.head.version arrival.connection said left := by
  cases served with
  | atOnce begins => exact begins.leads steady
  | resumed begins resumes =>
      obtain ⟨unheard, ready⟩ := begins.leads steady
      cases resumes with
      | mk resumed speaks =>
          exact Hands.after unheard ((resume_hands ready).related resumed speaks.appended)

/-- How a request has been answered: the response has been written once, with the version of the
request and one announcement of what becomes of the connection, which has been closed, once and
only afterwards, just where that was announced, or where the response was not taken. -/
structure Delivered (arrival : Arrival) (response : Response) (said : Transcript)
    (left : Connection) : Prop where
  handed :
    View.handovers.of said = [.wrote response (arrival.connection.write response).1] ∧
        left = (arrival.connection.write response).2 ∨
      View.handovers.of said = [.wrote response (arrival.connection.write response).1, .closed] ∧
        left = (arrival.connection.write response).2.close
  versioned : response.version = arrival.request.head.version
  announced : response.fields.getAll Http.connectionName = [connectionValue true] ∨
    response.fields.getAll Http.connectionName = [connectionValue false]
  closed_iff : (arrival.connection.write response).1 = .ok () →
    (.closed ∈ said ↔ response.fields.getAll Http.connectionName = [connectionValue false])
  closed_of_error : ∀ error, (arrival.connection.write response).1 = .error error → .closed ∈ said

theorem connectionValue_ne : connectionValue true ≠ connectionValue false := by
  decide

theorem Hands.delivered {arrival : Arrival}
    (hands : Hands arrival.request.head.version arrival.connection said left) :
    ∃ response, Delivered arrival response said left := by
  have closing : .closed ∈ said ↔ .closed ∈ View.handovers.of said := by
    simp [View.handovers, View.mem_events, Dispatch.Event.stage?]
  cases hands with
  | @mk response keepAlive handed versioned announced =>
      have announcement : response.fields.getAll Http.connectionName = [connectionValue true] ∨
          response.fields.getAll Http.connectionName = [connectionValue false] := by
        cases keepAlive with
        | true => exact .inl announced
        | false => exact .inr announced
      refine ⟨response, ?_, versioned, announcement, ?_, ?_⟩
      · cases stays : keepAlive && succeeded (arrival.connection.write response).1 with
        | true => exact .inl ⟨by simpa [stays, leaving] using handed, by simp⟩
        | false => exact .inr ⟨by simpa [stays, leaving] using handed, by simp⟩
      · intro taken
        rw [closing, handed, announced, taken]
        cases keepAlive with
        | true => simp [succeeded, leaving, connectionValue_ne]
        | false => simp [leaving]
      · intro error refused
        rw [closing, handed, refused]
        simp [succeeded, leaving]

/-- Whether the connection of a request has been dealt with as far as the request has come. -/
def Account.Attended (account : Account σ) : Prop :=
  match account.standing with
  | .queued | .suspended _ => View.handovers.of account.said = []
  | .ended _ left | .refused left =>
      ∃ response, Delivered account.arrival response account.said left

theorem Account.Genuine.attended {account : Account σ} (steady : services.adapters.Steady)
    (genuine : account.Genuine services) : account.Attended := by
  cases genuine with
  | queued => exact View.of_nil
  | suspended begins => exact (begins.leads steady).1
  | ended served =>
      have hands := served.hands steady
      exact (hands.before (View.of_cons_none rfl)).delivered
  | refused refuses => exact refuses.hands.delivered

/-- In every run of a server of which no adapter of the user breaks off, whatever handlers,
interceptors, resolvers and transports do, every request that has been refused or has come to its
end has been answered with one response, which announces what has become of the connection; nothing
has reached the connections of the others, and these can all be led to their end. -/
theorem reached_attended {setup : Setup σ} {scene : Scene σ} {ticket : Nat} {account : Account σ}
    (steady : setup.services.adapters.Steady) (reached : Reached setup scene)
    (placed : scene.accounts[ticket]? = some account) :
    account.Attended ∧
      ∃ final, ((scene.start ticket).finish ticket).accounts[ticket]? = some final ∧
        final.arrival = account.arrival ∧ final.standing.isOver = true ∧ final.Attended := by
  have attended {scene : Scene σ} {account : Account σ} (reached : Reached setup scene)
      (placed : scene.accounts[ticket]? = some account) : account.Attended :=
    (reached.traced.genuine ticket account placed).attended steady
  obtain ⟨final, led, same, ended⟩ := reached.traced.exists_over placed
  have later := (reached.further (.started ticket)).further (.finished ticket)
  exact ⟨attended reached placed, final, led, same, ended, attended later led⟩

theorem reached_attended_of_crowded :
    solitary.services.adapters.Steady ∧ Reached solitary crowded ∧
      ∃ account, crowded.accounts[1]? = some account ∧ account.standing.isOver = true ∧
        account.Attended ∧
        ∃ final, ((crowded.start 1).finish 1).accounts[1]? = some final ∧
          final.arrival = account.arrival ∧ final.standing.isOver = true ∧ final.Attended := by
  have steady : solitary.services.adapters.Steady := Adapters.steady_ofUser nofun
  have placed : crowded.accounts[1]? = some ⟨visit, _, .refused _⟩ := rfl
  exact ⟨steady, crowded_reached, _, placed, rfl, reached_attended steady crowded_reached placed⟩

end Switchyard.Serving
