import Switchyard.Proofs.Json.ReadBack
import Switchyard.Proofs.Serving.Order

/-!
# Where failures lead

A failure on the way to a response is taken to the resolvers once, and their response is written;
a fatal one is answered with a fixed response, which tells of it in JSON, and is what the dispatch
comes to.  Where there is no failure, or writing is what fails, no resolver is consulted.
-/

set_option autoImplicit false

namespace Switchyard.Serving

open Dispatch (Context Handler Interceptor Silent Transcript View)
open Dispatch.Resolvers (Resolves)
open Http (Connection RequestHead Response SendError)
open Route (Routed Router)

variable {σ : Type} {cursor : Nat} {first second opening before said : Transcript}
  {result : Except Failure Response} {ending : Ending} {services : Services σ} {session : Session}
  {context : Context} {handler : Handler σ} {found : Option (Handler σ)}
  {interceptors : List (Interceptor σ)} {response : Response} {outcome : Except Failure Unit}
  {sent : Except SendError Unit} {failure : Failure} {trouble : Option Failure}

/-- The failure that arose in a dispatch before its response was written, if one did. -/
def trouble? (services : Services σ) (router : Router (Handler σ)) (session : Session)
    (head : RequestHead) (content : Octets) (said : Transcript) : Option Failure :=
  if services.config.maxBodySize < content.length then none
  else
    match router.at? head.path with
    | none =>
        match services.config.notFound with
        | .fixedResponse => none
        | .raise => some (.routeNotFound head.path)
    | some route =>
        failure? services.adapters (session.context head content route.captures) route.handler said

/-- The fixed response to a fatal failure: an object of JSON with the code of the configuration, the
kind of the failure and its message, sent as such on a connection that is closed.  It reads back as
that object where the code is a word. -/
structure Fixed (errorCode : Int) (failure : Failure) (response : Response) : Prop where
  status : response.status = .internalServerError
  typed : response.fields.getAll Http.contentTypeName = [Text.Utf8.encode "application/json"]
  body : response.body = Text.Utf8.encode
    ("\x7b\"code\":" ++ toString errorCode ++ ",\"exception\":" ++ Json.escaped failure.kind ++
      ",\"message\":" ++ Json.escaped failure.message ++ "\x7d")
  object : -(2 ^ 63) ≤ errorCode → errorCode < 2 ^ 63 →
    Json.Value.read response.body = .ok (.object
      [("code", .int errorCode), ("exception", .text failure.kind),
       ("message", .text failure.message)])
  closing : response.fields.getAll Http.connectionName = [Text.Utf8.encode "close"]

/-- How a dispatch is answered, given the failure that arose in it, the response written and what
came of writing it. -/
inductive Settled (services : Services σ) (session : Session) (context : Context)
    (handler : Option (Handler σ)) :
    Option Failure → Transcript → Response → Except SendError Unit → Ending → Prop where
  | untroubled {said : Transcript} {response : Response} {sent : Except SendError Unit}
      (unconsulted : View.consultations.of said = []) :
      Settled services session context handler none said response sent
        (.answered (sent.mapError .transportFailed))
  | resolved {failure : Failure} {before consulted after : Transcript} {response : Response}
      {date : Octets} {sent : Except SendError Unit} (curable : failure.isFatal = false)
      (unasked : View.consultations.of before = [])
      (resolves : Resolves services.resolvers context handler failure consulted response)
      (spent : View.consultations.of after = []) :
      Settled services session context handler (some failure) (before ++ (consulted ++ after))
        (finalized response (session.keepAlive && !response.wantsClose) session.version date) sent
        (.answered (sent.mapError .transportFailed))
  | fatal {failure : Failure} {said : Transcript} {response : Response}
      {sent : Except SendError Unit} (fatal : failure.isFatal = true)
      (unconsulted : View.consultations.of said = [])
      (fixed : Fixed services.config.errorCode failure response) :
      Settled services session context handler (some failure) said response sent
        (.answered (.error failure))

theorem Settled.fixed (fatal : failure.isFatal = true)
    (settled : Settled services session context found (some failure) said response sent ending) :
    ending = .answered (.error failure) ∧ Fixed services.config.errorCode failure response := by
  cases settled with
  | resolved curable => cases fatal.symm.trans curable
  | fatal _ _ fixed => exact ⟨rfl, fixed⟩

/-- One response is written, and the dispatch is settled with it. -/
def Settles (services : Services σ) (session : Session) (context : Context)
    (handler : Option (Handler σ)) (trouble : Option Failure) (said : Transcript)
    (ending : Ending) : Prop :=
  ∃ response sent stays, View.handovers.of said = .wrote response sent :: leaving stays ∧
    Settled services session context handler trouble said response sent ending

theorem Settled.after (unasked : View.consultations.of before = [])
    (settled : Settled services session context found trouble said response sent ending) :
    Settled services session context found trouble (before ++ said) response sent ending := by
  cases settled with
  | untroubled unconsulted =>
      apply Settled.untroubled
      simp [unasked, unconsulted]
  | resolved curable earlier resolves spent =>
      rw [← List.append_assoc]
      exact .resolved curable (by simp [unasked, earlier]) resolves spent
  | fatal fatal unconsulted fixed =>
      exact .fatal fatal (by simp [unasked, unconsulted]) fixed

theorem Settles.after (unasked : View.consultations.of before = [])
    (unheard : View.handovers.of before = [])
    (settles : Settles services session context found trouble said ending) :
    Settles services session context found trouble (before ++ said) ending := by
  obtain ⟨response, sent, stays, handed, settled⟩ := settles
  refine ⟨response, sent, stays, ?_, settled.after unasked⟩
  rw [View.of_append, unheard, List.nil_append]
  exact handed

theorem Settles.after_silent (silent : Silent opening)
    (settles : Settles services session context found trouble said ending) :
    Settles services session context found trouble (opening ++ said) ending :=
  settles.after (View.of_silent silent) (View.of_silent silent)

theorem Answers.append_silent {logs : Transcript}
    (answers : Answers session response said outcome) (quiet : Silent logs) :
    Answers session response (said ++ logs) outcome := by
  cases answers with
  | mk silent =>
      rw [List.cons_append, List.append_assoc]
      exact .mk (silent.append quiet)

theorem Answers.settles_untroubled {owner : Session}
    (answers : Answers owner response said outcome) :
    Settles services session context found none said (.answered outcome) := by
  obtain ⟨date, sent, rfl, handed⟩ := answers.handed
  exact ⟨_, sent, _, handed, .untroubled (View.of_eq_nil answers.within (by decide))⟩

/-- The response of the resolvers is written, whatever is said in between. -/
theorem Answers.settles_resolved {resolving between : Transcript}
    (curable : failure.isFatal = false)
    (resolves : Resolves services.resolvers context found failure resolving response)
    (unasked : View.consultations.of between = []) (unheard : View.handovers.of between = [])
    (answers : Answers session response said outcome) :
    Settles services session context found (some failure) (resolving ++ (between ++ said))
      (.answered outcome) := by
  obtain ⟨date, sent, rfl, handed⟩ := answers.handed
  have spent : View.consultations.of (between ++ said) = [] := by
    rw [View.of_append, unasked, View.of_eq_nil answers.within (by decide)]
    rfl
  have settled : Settled services session context found (some failure)
      ([] ++ (resolving ++ (between ++ said)))
      (finalized response (session.keepAlive && !response.wantsClose) session.version date) sent
      (.answered (sent.mapError .transportFailed)) :=
    .resolved curable View.of_nil resolves spent
  refine ⟨_, sent, _, Eq.trans ?_ handed, settled⟩
  rw [View.of_append, View.of_append, View.of_eq_nil resolves.within (by decide), unheard]
  rfl

section FatalResponse

/-- The members of the object that tells of a fatal failure, in the order of their names. -/
def fatalMembers (errorCode : Int) (failure : Failure) : List (String × Json.Value) :=
  [("code", .int errorCode), ("exception", .text failure.kind), ("message", .text failure.message)]

variable (errorCode : Int) (failure : Failure)

theorem body_fatalResponse : (Dispatch.fatalResponse errorCode failure).body =
    Text.Utf8.encode (Json.Value.object (fatalMembers errorCode failure)).render := by
  simp (disch := decide) only [Dispatch.fatalResponse, Response.withBody, fatalMembers,
    Json.Value.ofMembers, List.foldl_cons, List.foldl_nil, Json.insertMember, if_pos, if_neg]

theorem render_fatalMembers : (Json.Value.object (fatalMembers errorCode failure)).render =
    "\x7b\"code\":" ++ toString errorCode ++ ",\"exception\":" ++ Json.escaped failure.kind ++
      ",\"message\":" ++ Json.escaped failure.message ++ "\x7d" := by
  have code : "\x7b" ++ Json.escaped "code" ++ ":" = "\x7b\"code\":" := by decide
  have exception : "," ++ Json.escaped "exception" ++ ":" = ",\"exception\":" := by decide
  have message : "," ++ Json.escaped "message" ++ ":" = ",\"message\":" := by decide
  rw [← code, ← exception, ← message]
  simp only [fatalMembers, Json.Value.render, Json.renderMembers, Json.Value.int, Json.Num.text,
    String.intercalate_cons_cons, String.intercalate_singleton, String.append_assoc]

theorem ofMembers_fatalMembers :
    Json.Value.ofMembers (fatalMembers errorCode failure) =
      .object (fatalMembers errorCode failure) := by
  simp (disch := decide) only [fatalMembers, Json.Value.ofMembers, List.foldl_cons,
    List.foldl_nil, Json.insertMember, if_neg]

theorem fixed_fatalResponse (version : Http.Version) (date : Octets) : Fixed errorCode failure
    (finalized (Dispatch.fatalResponse errorCode failure) false version date) := by
  constructor
  · rw [status_finalized]
    rfl
  · rw [contentType_finalized]
    exact Http.Fields.getAll_set_self
  · rw [body_finalized, body_fatalResponse, render_fatalMembers]
  · intro least most
    have plain : ∀ member ∈ fatalMembers errorCode failure, Json.Plain member.2 := by
      have word : Json.Plain (.int errorCode) :=
        .int least (Int.lt_trans most (by decide))
      simp [fatalMembers, word, Json.Plain.text]
    rw [body_finalized, body_fatalResponse, Json.read_render plain, ofMembers_fatalMembers]
    rfl
  · exact connection_finalized ..

end FatalResponse

theorem Answers.settles_fatal (fatal : failure.isFatal = true)
    (answers : Answers session.closing (Dispatch.fatalResponse services.config.errorCode failure)
      said outcome) :
    Settles services session context found (some failure) said (.answered (.error failure)) := by
  obtain ⟨date, sent, rfl, handed⟩ := answers.handed
  exact ⟨_, sent, _, handed, .fatal fatal (View.of_eq_nil answers.within (by decide))
    (fixed_fatalResponse ..)⟩

theorem Concludes.settles (concludes : Concludes services session context handler interceptors
      cursor result second ending) :
    Settles services session context (some handler) (failureOf result) second ending := by
  cases concludes with
  | succeeded tells answers =>
      exact answers.settles_untroubled.after (View.of_eq_nil tells.within (by decide))
        (View.of_eq_nil tells.within (by decide))
  | failed curable resolves tells answers =>
      exact answers.settles_resolved curable resolves (View.of_eq_nil tells.within (by decide))
        (View.of_eq_nil tells.within (by decide))
  | fatal fatal silent tells answers quiet =>
      refine Settles.after_silent silent (Settles.after ?_ ?_ ?_)
      · exact View.of_eq_nil tells.within (by decide)
      · exact View.of_eq_nil tells.within (by decide)
      · exact (answers.append_silent quiet).settles_fatal fatal

variable {router : Router (Handler σ)} {head : RequestHead} {content : Octets}
  {connection : Connection}

theorem Course.settles (steady : services.adapters.Steady)
    (course : Course services session context handler interceptors said ending) :
    Settles services session context (some handler)
      (failure? services.adapters context handler said) said ending := by
  cases course with
  | @answered _ first _ _ _ _ silent handled concludes =>
      have alike : Alike _ first := alike_first silent concludes
      rw [alike.failure?, handled.failure?_eq]
      refine Settles.after_silent silent (Settles.after ?_ ?_ concludes.settles)
      · exact handled.of_late id
      · exact handled.of_late id
  | died silent asks verdict prepared called quiet =>
      exact absurd called (steady.unbroken prepared _ _)

theorem Dismissed.settles
    (lost : services.config.maxBodySize < content.length ∨ router.at? head.path = none)
    (dismissed : Dismissed services session head content said ending) :
    Settles services session
      (session.context head content ((router.at? head.path).elim [] Routed.captures))
      ((router.at? head.path).map Routed.handler)
      (trouble? services router session head content said) said ending := by
  cases dismissed with
  | tooLong exceeds silent answers =>
      unfold trouble?
      rw [if_pos exceeds]
      exact answers.settles_untroubled.after_silent silent
  | unrouted within policy silent answers =>
      unfold trouble?
      rw [if_neg (Nat.not_lt.mpr within), lost.resolve_left (Nat.not_lt.mpr within), policy]
      exact answers.settles_untroubled.after_silent silent
  | @raised _ resolving answering _ _ within policy silent resolves answers =>
      unfold trouble?
      rw [if_neg (Nat.not_lt.mpr within), lost.resolve_left (Nat.not_lt.mpr within), policy]
      have settles : Settles services session (session.context head content []) none
          (some (.routeNotFound head.path)) (resolving ++ ([] ++ answering)) _ :=
        answers.settles_resolved rfl resolves View.of_nil View.of_nil
      exact settles.after_silent silent

/-- In every dispatch one response is written.  If a failure that is not fatal arose before, the
resolvers are consulted once, about that failure, it is their response that is written, and the
dispatch succeeds exactly if writing does.  If a fatal one arose, no resolver is consulted, the
fixed response that tells of it is written, and the dispatch comes to that failure, whatever comes
of writing.  Otherwise no resolver is consulted; and none ever is because writing fails. -/
theorem dispatched_settles (steady : services.adapters.Steady)
    (dispatched : Dispatched services router session head content connection said ending) :
    Settles services session
      (session.context head content ((router.at? head.path).elim [] Routed.captures))
      ((router.at? head.path).map Routed.handler)
      (trouble? services router session head content said) said ending := by
  by_cases within : content.length ≤ services.config.maxBodySize
  · cases routed : router.at? head.path with
    | none =>
        have settles := (dispatched.dismissed (.inr routed)).settles (.inr routed)
        rw [routed] at settles
        exact settles
    | some route =>
        unfold trouble?
        rw [if_neg (Nat.not_lt.mpr within), routed]
        exact (dispatched.course within routed).settles steady
  · have exceeds := Nat.lt_of_not_le within
    exact (dispatched.dismissed (.inl exceeds)).settles (.inl exceeds)

/-- A resolver that leaves every failure to others. -/
def reticent : Dispatch.Resolver Unit where
  resolve _ _ _ state := (.returned none, state)

/-- A resolver that answers for every failure. -/
def apologetic : Dispatch.Resolver Unit where
  resolve _ _ _ state := (.returned (some (.raw (.ofStatus .serviceUnavailable))), state)

/-- Services with two resolvers, of which the last one answers. -/
def forgiving : Services Unit where
  adapters := .ofUser [] .standard
  resolvers := ⟨[reticent, apologetic], 0, .standard⟩

/-- A handler that fails. -/
def clumsy : Handler Unit :=
  ⟨0, "clumsy", .raw fun _ => ⟨false, fun state => (.failed (.plain "dropped"), state)⟩⟩

/-- A handler that no adapter supports. -/
def stranger : Handler Unit :=
  ⟨0, "stranger", .custom⟩

/-- One failure is taken to the resolvers, and one is answered with the fixed response. -/
theorem dispatched_settles_of_forgiving :
    forgiving.adapters.Steady ∧
      (∃ said ending,
        Dispatched forgiving (anywhere clumsy) lasting rootHead [] {} said ending ∧
        Settles forgiving lasting (lasting.context rootHead [] []) (some clumsy)
          (some (.handlerFailed "clumsy" (.plain "dropped"))) said ending) ∧
      ∃ said ending response sent stays,
        Dispatched forgiving (anywhere stranger) lasting rootHead [] {} said ending ∧
        View.handovers.of said = .wrote response sent :: leaving stays ∧
        ending = .answered (.error (.noAdapter "stranger")) ∧
        response.status = .internalServerError ∧
        Json.Value.read response.body = .ok (.object
          [("code", .int 0), ("exception", .text "NoAdapterForHandler"),
           ("message", .text "no adapter supports handler 'stranger'")]) := by
  have steady : forgiving.adapters.Steady := Dispatch.Adapters.steady_ofUser nofun
  have dispatched := dispatched_rehearsal forgiving clumsy
  have troubled : trouble? forgiving (anywhere clumsy) lasting rootHead []
      (rehearsal forgiving clumsy).2.events =
        some (.handlerFailed "clumsy" (.plain "dropped")) := by
    unfold trouble?
    rw [anywhere_at?]
    decide +kernel
  have settles := dispatched_settles steady dispatched
  rw [troubled, anywhere_at?] at settles
  have dispatchedToo := dispatched_rehearsal forgiving stranger
  have fatal : trouble? forgiving (anywhere stranger) lasting rootHead []
      (rehearsal forgiving stranger).2.events = some (.noAdapter "stranger") := by
    unfold trouble?
    rw [anywhere_at?]
    decide +kernel
  have settlesToo := dispatched_settles steady dispatchedToo
  rw [fatal, anywhere_at?] at settlesToo
  refine ⟨steady, ⟨_, _, dispatched, settles⟩, ?_⟩
  obtain ⟨response, sent, stays, handed, settled⟩ := settlesToo
  refine ⟨_, _, response, sent, stays, dispatchedToo, handed, ?_⟩
  obtain ⟨ended, fixed⟩ := settled.fixed rfl
  exact ⟨ended, fixed.status, fixed.object (by decide) (by decide)⟩

end Switchyard.Serving
