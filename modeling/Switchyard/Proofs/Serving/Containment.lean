import Switchyard.Proofs.Serving.Accounts

/-!
# Dispatches through adapters of the user

A dispatch is contained if the interceptors that let the request pass are told of its end, one
response is written and the end is counted.  Whatever handlers, interceptors and resolvers do, that
is so; but an adapter of the user that breaks off takes all of it away, and what it gave up counts
neither way.
-/

set_option autoImplicit false

namespace Switchyard.Serving

open Dispatch (Adapters Called Context Handler Interceptor Transcript UserAdapter View)
open Http (Connection RequestHead Response)
open Route (Routed Router)

variable {σ : Type} {services : Services σ} {router : Router (Handler σ)} {session : Session}
  {head : RequestHead} {content : Octets} {connection : Connection} {said : Transcript}
  {ending : Ending} {route : Routed (Handler σ)} {adapter : UserAdapter σ} {context : Context}
  {handler : Handler σ} {interceptors : List (Interceptor σ)}

/-- Each interceptor that let the request pass was told of its end once, and no other was; one
response was written; and the request is counted as completed or as failed. -/
structure Contained (said : Transcript) (ending : Ending) : Prop where
  told : (View.tellings.of said).map Prod.fst = (List.range said.passed).reverse
  written : ∃ response, View.writes.of said = [response]
  counted : ∀ stats : Stats,
    (stats.ended ending).completed = stats.completed + 1 ∧
        (stats.ended ending).failed = stats.failed ∨
      (stats.ended ending).completed = stats.completed ∧
        (stats.ended ending).failed = stats.failed + 1

/-- Nobody was told of the end, nothing was written, and the request is not counted. -/
structure Abandoned (message : Option String) (said : Transcript) (ending : Ending) : Prop where
  died : ending = .died message
  untold : View.tellings.of said = []
  unwritten : View.writes.of said = []
  uncounted : ∀ stats : Stats,
    (stats.ended ending).completed = stats.completed ∧ (stats.ended ending).failed = stats.failed

theorem Finished.contained {failure : Option Failure} {outcome : Except Failure Unit}
    (finished : Finished failure said) : Contained said (.answered outcome) where
  told := by
    rw [finished.told, List.map_map]
    exact List.map_id _
  written := by
    obtain ⟨before, after, response, rfl, -, unwritten, written⟩ := finished.written
    exact ⟨response, by rw [View.of_append, unwritten, written, List.nil_append]⟩
  counted stats := by
    cases outcome with
    | ok => exact .inl ⟨rfl, rfl⟩
    | error failure => exact .inr ⟨rfl, rfl⟩

theorem Abandoned.not_contained {message : Option String}
    (abandoned : Abandoned message said ending) : ¬ Contained said ending := by
  intro contained
  obtain ⟨response, written⟩ := contained.written
  rw [abandoned.unwritten] at written
  cases written

/-- The course of a dispatch is contained, unless an adapter of the user breaks off in it. -/
theorem Course.contained_or_abandoned
    (course : Course services session context handler interceptors said ending) :
    (Contained said ending ∧ ∀ message, .adapter (.panicked message) ∉ View.calls.of said) ∨
      ∃ message, View.calls.of said = [.adapter (.panicked message)] ∧
        Abandoned message said ending := by
  rcases course.answered_or_died with
    ⟨⟨outcome, rfl, finished⟩, unbroken⟩ | ⟨message, called, rfl, untold, unwritten⟩
  · exact .inl ⟨finished.contained, unbroken⟩
  · exact .inr ⟨message, called, rfl, untold, unwritten, fun _ => ⟨rfl, rfl⟩⟩

/-- A dispatch through an adapter of the user that gets as far as its call is contained exactly if
that comes to an end, with a response or a failure.  If it breaks off, nobody is told, nothing is
written, and the request is not counted. -/
theorem contained_iff_of_user (within : content.length ≤ services.config.maxBodySize)
    (routed : router.at? head.path = some route)
    (chosen : services.adapters.resolve route.handler = .ok (.user adapter))
    (dispatched : Dispatched services router session head content connection said ending) :
    (View.calls.of said = [] ∧ Contained said ending) ∨
      ∃ attempt,
        (∃ state,
          (adapter.handle (session.context head content route.captures) route.handler state).1 =
            attempt) ∧
          View.calls.of said = [.adapter attempt] ∧
          (Contained said ending ↔ ∀ message, attempt ≠ .panicked message) ∧
          ∀ message, attempt = .panicked message → Abandoned message said ending := by
  have course := dispatched.course within routed
  rcases course.orderly.called with uncalled | ⟨call, state, prepared, called⟩
  · refine .inl ⟨uncalled, ?_⟩
    rcases course.contained_or_abandoned with ⟨contained, -⟩ | ⟨message, broken, -⟩
    · exact contained
    · rw [uncalled] at broken
      cases broken
  · rw [Adapters.run_of_user chosen prepared state] at called
    refine .inr ⟨_, ⟨state, rfl⟩, called, ?_⟩
    rcases course.contained_or_abandoned with ⟨contained, unbroken⟩ | ⟨message, broken, abandoned⟩
    · have ended (message : Option String) :
          (adapter.handle (session.context head content route.captures) route.handler state).1 ≠
            .panicked message := by
        intro panicked
        apply unbroken message
        rw [called, panicked]
        exact List.mem_singleton_self _
      exact ⟨⟨fun _ => ended, fun _ => contained⟩,
        fun message panicked => absurd panicked (ended message)⟩
    · have panicked := Called.adapter.inj (List.head_eq_of_cons_eq (called.symm.trans broken))
      refine ⟨⟨fun contained => absurd contained abandoned.not_contained,
        fun ended => absurd panicked (ended message)⟩, ?_⟩
      intro other same
      cases panicked.symm.trans same
      exact abandoned

/-- Services with one interceptor and an adapter that takes all calls. -/
def taking (attempt : Attempt Failure Response) : Services Unit where
  interceptors := Dispatch.Interceptors.none.addLast {}
  adapters := .ofUser [taker attempt] .standard
  resolvers := ⟨[], 0, .standard⟩

/-- An adapter that gives a response. -/
def served : Services Unit :=
  taking (.returned (.ofStatus .ok))

theorem contained_iff_of_user_of_served :
    ([] : Octets).length ≤ served.config.maxBodySize ∧
      (anywhere blank).at? rootHead.path = some ⟨blank, "/*", []⟩ ∧
      served.adapters.resolve blank = .ok (.user (taker (.returned (.ofStatus .ok)))) ∧
      ∃ said ending, Dispatched served (anywhere blank) lasting rootHead [] {} said ending ∧
        said.passed = 1 ∧ Contained said ending := by
  have within : ([] : Octets).length ≤ served.config.maxBodySize := by decide
  have routed := anywhere_at? blank rootHead.path
  have chosen : served.adapters.resolve blank =
      .ok (.user (taker (.returned (.ofStatus .ok)))) := rfl
  have dispatched := dispatched_rehearsal served blank
  refine ⟨within, routed, chosen, _, _, dispatched, by decide, ?_⟩
  rcases contained_iff_of_user within routed chosen dispatched with
    ⟨-, contained⟩ | ⟨attempt, ⟨state, returned⟩, -, exact, -⟩
  · exact contained
  · exact exact.mpr fun message panicked => by cases returned.trans panicked

/-- An adapter that breaks off. -/
def dropped : Services Unit :=
  taking (.panicked (some "boom"))

/-- An interceptor let the request pass and is not told of its end. -/
theorem dropped_abandoned : ∃ said ending,
    dropped.adapters.resolve blank = .ok (.user (taker (.panicked (some "boom")))) ∧
      Dispatched dropped (anywhere blank) lasting rootHead [] {} said ending ∧
      said.passed = 1 ∧ View.tellings.of said = [] ∧ View.writes.of said = [] ∧
      (({} : Stats).ended ending).completed = 0 ∧ (({} : Stats).ended ending).failed = 0 ∧
      ¬ Contained said ending := by
  have unwritten : View.writes.of (rehearsal dropped blank).2.events = [] := by decide
  refine ⟨_, _, rfl, dispatched_rehearsal dropped blank, by decide, by decide,
    unwritten, by decide, by decide, ?_⟩
  intro contained
  obtain ⟨response, written⟩ := contained.written
  rw [unwritten] at written
  cases written

end Switchyard.Serving
