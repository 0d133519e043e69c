import Switchyard.Proofs.Dispatch.Framing
import Switchyard.Proofs.Serving.Stages

/-!
# The announced length of a written response

As long as no code of the user frames a response, every written response announces one length.  It
is the length of its body unless interceptors have changed the length of a response that had been
rendered with its length, and left that announced.
-/

set_option autoImplicit false

namespace Switchyard.Serving

open Dispatch (Adapters Called Context Handler Interceptor Silent Transcript View)
open Http (Connection RequestHead Response contentLengthName lengthValue lengthValue_inj
  transferEncodingName)
open Route (Router)

variable {σ : Type} {cursor length : Nat} {first second opening said : Transcript}
  {response : Response} {result : Except Failure Response} {ending : Ending}
  {services : Services σ} {session : Session} {adapters : Adapters σ} {context : Context}
  {handler : Handler σ} {interceptors : List (Interceptor σ)}

/-- Interceptors that all succeeded have left a response of another length than the one rendered,
and have left a length announced. -/
def Stale (said : Transcript) : Prop :=
  ∃ called rendered left, View.calls.of said = [called] ∧ called.attempt = .returned rendered ∧
    (View.alterations.of said).getLast? = some left ∧ said.objection? = none ∧
    left.fields.getAll contentLengthName ≠ [] ∧ left.body.length ≠ rendered.body.length

theorem not_stale_of_calls (uncalled : View.calls.of said = []) : ¬ Stale said := by
  rintro ⟨called, rendered, left, only, -⟩
  rw [uncalled] at only
  cases only

/-- A written response that announces one length, and has no transfer encoding. -/
structure Framed (response : Response) (length : Nat) : Prop where
  length : response.fields.getAll contentLengthName = [lengthValue length]
  encoding : response.fields.getAll transferEncodingName = []

/-- The length that is announced of a response in the end. -/
def announced (response : Response) (length : Nat) : Nat :=
  if response.fields.getAll contentLengthName = [] then response.body.length else length

theorem framed_finalized (announces : response.Announces length) (keepAlive : Bool)
    (version : Http.Version) (date : Octets) :
    Framed (finalized response keepAlive version date) (announced response length) := by
  constructor
  · rw [getAll_finalized_of_ne _ _ _ _ (by decide) (by decide),
      Response.getAll_withLength announces, announced]
    split <;> rfl
  · rw [getAll_finalized_of_ne _ _ _ _ (by decide) (by decide),
      Response.getAll_transferEncoding_withLength]
    exact announces.encoding

theorem Framed.iff (framed : Framed response length) {other : Nat} :
    Framed response other ↔ length = other := by
  constructor
  · intro also
    exact lengthValue_inj.mp (List.singleton_inj.mp (framed.length.symm.trans also.length))
  · rintro rfl
    exact framed

theorem announced_of_measured (response : Response) :
    announced response response.body.length = response.body.length := by
  unfold announced
  split <;> rfl

theorem announced_eq_iff : announced response length = response.body.length ↔
    ¬ (response.fields.getAll contentLengthName ≠ [] ∧ response.body.length ≠ length) := by
  unfold announced
  split
  case isTrue absent => simp [absent]
  case isFalse present => simp [present, eq_comm]

namespace Handled

open Dispatch.Chain (Asked Asks)

theorem not_stale_of_asks {asked : Asked}
    (asks : Asks handler 0 { context } interceptors said asked) : ¬ Stale said :=
  not_stale_of_calls (calls_of_asks asks)

theorem stale_of_called_iff {asked : Asked} {called : Called} {tail : Transcript}
    (asks : Asks handler 0 { context } interceptors said asked)
    (within : Dispatch.Within .showing tail) :
    Stale (said ++ .called called :: tail) ↔
      ∃ rendered left, called.attempt = .returned rendered ∧
        (View.alterations.of tail).getLast? = some left ∧ tail.objection? = none ∧
        left.fields.getAll contentLengthName ≠ [] ∧
        left.body.length ≠ rendered.body.length := by
  unfold Stale Transcript.objection?
  rw [calls_of_called asks within, showing_of_called rfl asks, showing_of_called rfl asks]
  simp

theorem not_stale_of_error {failure : Failure}
    (handled : Handled adapters context handler interceptors first cursor (.error failure)) :
    ¬ Stale first := by
  generalize reached : Except.error failure = result at handled
  cases handled with
  | refused asks verdict => exact not_stale_of_asks asks
  | stopped asks verdict => exact not_stale_of_asks asks
  | unprepared asks verdict prepared => exact not_stale_of_asks asks
  | failed asks verdict prepared called silent =>
      rw [stale_of_called_iff asks (silent.within _), called]
      rintro ⟨rendered, left, returned, -⟩
      cases returned
  | @shown _ _ _ _ _ _ _ shown asks verdict prepared called silent shows =>
      rw [stale_of_called_iff asks ((silent.within _).append shows.within)]
      rintro ⟨rendered, left, -, -, unopposed, -⟩
      cases outcome : shown.outcome with
      | ok => simp [outcome, Except.map] at reached
      | error objection =>
          unfold Transcript.objection? at unopposed
          rw [View.of_silent_append silent] at unopposed
          have opposed := shows.outcome_error outcome
          unfold Transcript.objection? at opposed
          rw [opposed] at unopposed
          cases unopposed

/-- The response that a request comes to announces no length or the one that it was rendered with;
and that is another than its own exactly if it is stale. -/
theorem announces
    (handled : Handled adapters context handler interceptors first cursor (.ok response))
    (unframed : ∀ event ∈ first, event.Unframed) :
    ∃ length, response.Announces length ∧
      (Stale first ↔
        response.fields.getAll contentLengthName ≠ [] ∧ response.body.length ≠ length) := by
  generalize reached : Except.ok response = result at handled
  cases handled with
  | refused => cases reached
  | unprepared => cases reached
  | failed => cases reached
  | @stopped _ asked asks verdict =>
      cases reached
      have bare : (asked.exchange.response.getD (.ofStatus .ok)).fields.Unframed := by
        obtain ⟨-, -, position, membership⟩ := asks.verdict_ok_false verdict
        cases present : asked.exchange.response with
        | none => exact Response.unframed_ofStatus .ok
        | some response =>
            rw [present] at membership
            exact unframed _ membership
      refine ⟨0, Response.announces_of_unframed bare, ?_⟩
      constructor
      · exact fun stale => absurd stale (not_stale_of_asks asks)
      · rintro ⟨present, -⟩
        exact absurd bare.length present
  | @shown said logs showing asked call state rendered shown asks verdict prepared called silent
      shows =>
      have measured : rendered.Measured :=
        Called.measured_of_renders ((Adapters.prepare_faithful prepared state).renders called)
          (unframed _ (List.mem_append_right _ List.mem_cons_self))
      have same := shows.response_eq
      cases outcome : shown.outcome with
      | error failure => simp [outcome, Except.map] at reached
      | ok =>
          obtain rfl : response = shown.response := by simpa [outcome, Except.map] using reached
          refine ⟨rendered.body.length, shows.announces ?_ measured, ?_⟩
          · intro event membership
            exact unframed event (List.mem_append_right _
              (List.mem_cons_of_mem _ (List.mem_append_right _ membership)))
          · rw [stale_of_called_iff asks ((silent.within _).append shows.within)]
            unfold Transcript.objection?
            rw [View.of_silent_append silent, View.of_silent_append silent]
            constructor
            · rintro ⟨first, left, returned, last, -, present, different⟩
              rw [called] at returned
              cases returned
              rw [last] at same
              exact same ▸ ⟨present, different⟩
            · rintro ⟨present, different⟩
              cases last : (View.alterations.of showing).getLast? with
              | none =>
                  rw [last] at same
                  exact absurd (congrArg (fun response => response.body.length) same) different
              | some left =>
                  rw [last, Option.getD_some] at same
                  rw [same] at present different
                  exact ⟨rendered, left, called, rfl, shows.outcome_ok outcome, present, different⟩

end Handled

theorem Answers.framed {outcome : Except Failure Unit}
    (answers : Answers session response said outcome) (announces : response.Announces length) :
    ∃ written, View.writes.of said = [written] ∧ Framed written (announced response length) ∧
      written.body = response.body := by
  obtain ⟨date, writes⟩ := answers.writes
  exact ⟨_, writes, framed_finalized announces _ _ date, body_finalized ..⟩

/-- A measured response is written with its own length. -/
theorem Answers.framed_of_measured {outcome : Except Failure Unit}
    (answers : Answers session response said outcome) (measured : response.Measured) :
    ∃ written, View.writes.of said = [written] ∧ Framed written written.body.length := by
  obtain ⟨written, writes, framed, same⟩ := answers.framed measured
  rw [announced_of_measured, ← same] at framed
  exact ⟨written, writes, framed⟩

namespace Concludes

theorem framed
    (concludes : Concludes services session context handler interceptors cursor (.ok response)
      second ending) (announces : response.Announces length) :
    ∃ written, View.writes.of second = [written] ∧ Framed written (announced response length) ∧
      written.body = response.body := by
  cases concludes with
  | succeeded tells answers =>
      rw [View.of_append, View.of_eq_nil tells.within (by decide)]
      exact answers.framed announces

/-- The response to a failure is written with its own length. -/
theorem framed_of_error {failure : Failure}
    (concludes : Concludes services session context handler interceptors cursor (.error failure)
      second ending) (unframed : ∀ event ∈ second, event.Unframed) :
    ∃ written, View.writes.of second = [written] ∧ Framed written written.body.length := by
  cases concludes with
  | failed curable resolves tells answers =>
      rw [View.of_append, View.of_append, View.of_eq_nil resolves.within (by decide),
        View.of_eq_nil tells.within (by decide)]
      refine answers.framed_of_measured (resolves.measured ?_)
      exact fun event membership => unframed event (List.mem_append_left _ membership)
  | fatal fatal silent tells answers quiet =>
      rw [View.of_silent_append silent, View.of_append, View.of_append_silent quiet,
        View.of_eq_nil tells.within (by decide)]
      exact answers.framed_of_measured
        (Response.announces_of_unframed (Response.unframed_withBody ..))

end Concludes

theorem stale_first (silent : Silent opening)
    (concludes : Concludes services session context handler interceptors cursor result second
      ending) :
    Stale (opening ++ (first ++ second)) ↔ Stale first := by
  have calls : View.calls.of (opening ++ (first ++ second)) = View.calls.of first :=
    view_first True.intro silent concludes
  have alterations :
      View.alterations.of (opening ++ (first ++ second)) = View.alterations.of first :=
    view_first True.intro silent concludes
  have shows : View.shows.of (opening ++ (first ++ second)) = View.shows.of first :=
    view_first True.intro silent concludes
  unfold Stale Transcript.objection?
  rw [calls, alterations, shows]

/-- A response was written, with one length, which is that of its body unless it is stale. -/
def Announced (said : Transcript) : Prop :=
  ∃ written, View.writes.of said = [written] ∧ (∃ length, Framed written length) ∧
    (Framed written written.body.length ↔ ¬ Stale said)

theorem Announced.of_framed {written : Response} (writes : View.writes.of said = [written])
    (framed : Framed written written.body.length) (fresh : ¬ Stale said) : Announced said :=
  ⟨written, writes, ⟨_, framed⟩, by simp [framed, fresh]⟩

theorem announced_of_concludes (silent : Silent opening)
    (handled : Handled adapters context handler interceptors first cursor result)
    (concludes : Concludes services session context handler interceptors cursor result second
      ending)
    (unframed : ∀ event ∈ opening ++ (first ++ second), event.Unframed) :
    Announced (opening ++ (first ++ second)) := by
  have early : ∀ event ∈ first, event.Unframed := fun event membership =>
    unframed event (List.mem_append_right _ (List.mem_append_left _ membership))
  have late : ∀ event ∈ second, event.Unframed := fun event membership =>
    unframed event (List.mem_append_right _ (List.mem_append_right _ membership))
  have writes : View.writes.of (opening ++ (first ++ second)) = View.writes.of second := by
    rw [View.of_silent_append silent, View.of_append, handled.of_late id, List.nil_append]
  cases result with
  | ok response =>
      obtain ⟨length, announces, stale⟩ := handled.announces early
      obtain ⟨written, only, framed, same⟩ := concludes.framed announces
      refine ⟨written, writes.trans only, ⟨_, framed⟩, ?_⟩
      rw [framed.iff, same, announced_eq_iff, stale_first silent concludes, stale]
  | error failure =>
      obtain ⟨written, only, framed⟩ := concludes.framed_of_error late
      refine .of_framed (writes.trans only) framed ?_
      rw [stale_first silent concludes]
      exact handled.not_stale_of_error

theorem announced_of_dismissed {head : RequestHead} {content : Octets}
    (dismissed : Dismissed services session head content said ending)
    (unframed : ∀ event ∈ said, event.Unframed) : Announced said := by
  have answered {session : Session} {opening answering : Transcript} {response : Response}
      {outcome : Except Failure Unit} (before : View.writes.of opening = [])
      (uncalled : View.calls.of opening = [])
      (answers : Answers session response answering outcome) (measured : response.Measured) :
      Announced (opening ++ answering) := by
    obtain ⟨written, writes, framed⟩ := answers.framed_of_measured measured
    refine .of_framed ?_ framed (not_stale_of_calls ?_)
    · rw [View.of_append, before, writes]
      rfl
    · rw [View.of_append, uncalled, View.of_eq_nil answers.within (by decide)]
      rfl
  cases dismissed with
  | tooLong _ silent answers =>
      exact answered (View.of_silent silent) (View.of_silent silent) answers
        (Response.announces_of_unframed (Response.unframed_withBody ..))
  | unrouted _ _ silent answers =>
      exact answered (View.of_silent silent) (View.of_silent silent) answers
        (Response.announces_of_unframed (Response.unframed_ofStatus _))
  | raised _ _ silent resolves answers =>
      rw [← List.append_assoc] at unframed ⊢
      refine answered ?_ ?_ answers (resolves.measured ?_)
      · rw [View.of_silent_append silent, View.of_eq_nil resolves.within (by decide)]
      · rw [View.of_silent_append silent, View.of_eq_nil resolves.within (by decide)]
      · exact fun event membership =>
          unframed event (List.mem_append_left _ (List.mem_append_right _ membership))

variable {router : Router (Handler σ)} {head : RequestHead} {content : Octets}
  {connection : Connection}

/-- In a dispatch in which no code of the user frames a response, the written response announces
one length; and that is the length of its body exactly if the response is not stale.  Only where
the code of an adapter of the user breaks off is nothing written. -/
theorem dispatched_announces
    (dispatched : Dispatched services router session head content connection said ending)
    (unframed : ∀ event ∈ said, event.Unframed) :
    Announced said ∨ ((∃ message, ending = .died message) ∧ View.writes.of said = []) := by
  rcases dispatched.course_or_dismissed with ⟨route, course⟩ | dismissed
  · cases course with
    | answered silent handled concludes =>
        exact .inl (announced_of_concludes silent handled concludes unframed)
    | died silent asks verdict prepared called quiet =>
        refine .inr ⟨⟨_, rfl⟩, ?_⟩
        rw [View.of_silent_append silent]
        exact Handled.late_of_called id asks.within (quiet.within _)
  · exact .inl (announced_of_dismissed dismissed unframed)

/-- An interceptor that replaces the body of every response, and leaves its fields as they are. -/
def clipping : Interceptor Unit where
  postHandle exchange _ response state :=
    ((.returned (), exchange, { response with body := Text.Utf8.encode "bye" }), state)

/-- Services with an interceptor that replaces bodies. -/
def clipped : Services Unit where
  interceptors := Dispatch.Interceptors.none.addLast clipping
  adapters := .ofUser [] .standard
  resolvers := ⟨[], 0, .standard⟩

/-- A handler of greetings. -/
def greet : Handler Unit :=
  ⟨0, "greet", .typed
    { produces := [.ofMedia (.bare "text" "plain")]
      handle := fun _ _ => .give (.typed (some (.text "hello"))) }⟩

theorem clipped_unframed : ∀ event ∈ (rehearsal clipped greet).2.events, event.Unframed := by
  decide +kernel

theorem clipped_writes :
    (View.writes.of (rehearsal clipped greet).2.events).map (fun written =>
      (written.fields.getAll contentLengthName, written.body.length)) =
      [([lengthValue 5], 3)] := by
  decide +kernel

theorem dispatched_announces_of_clipped :
    ∃ said ending, Dispatched clipped (anywhere greet) lasting rootHead [] {} said ending ∧
      (∀ event ∈ said, event.Unframed) ∧ Announced said := by
  have dispatched := dispatched_rehearsal clipped greet
  refine ⟨_, _, dispatched, clipped_unframed, ?_⟩
  rcases dispatched_announces dispatched clipped_unframed with announced | ⟨-, unwritten⟩
  · exact announced
  · have written := clipped_writes
    rw [unwritten] at written
    cases written

/-- A response of which an interceptor has replaced the body is written with the length that the
body had before, although no code of the user has framed it. -/
theorem clipped_announces_another_length :
    ∃ said ending written,
      Dispatched clipped (anywhere greet) lasting rootHead [] {} said ending ∧
      (∀ event ∈ said, event.Unframed) ∧ View.writes.of said = [written] ∧
      ¬ Framed written written.body.length := by
  obtain ⟨written, writes, measured⟩ := List.map_eq_singleton_iff.mp clipped_writes
  obtain ⟨announced, length⟩ := Prod.mk.inj measured
  refine ⟨_, _, written, dispatched_rehearsal clipped greet, clipped_unframed, writes, ?_⟩
  rintro ⟨own, -⟩
  rw [announced, length, List.singleton_inj, lengthValue_inj] at own
  cases own

end Switchyard.Serving
