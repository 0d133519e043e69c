import Switchyard.Proofs.Dispatch.Calling
import Switchyard.Proofs.Http.Fields
import Switchyard.Proofs.Serving.Course

/-!
# The stages of a dispatch

What is said up to the response or failure of a request belongs to the early stages, and what is
said at its end to the late ones, so that views of the one see nothing of the other.  All calls of
interceptors in a dispatch are calls of the interceptors at their positions.
-/

set_option autoImplicit false

namespace Switchyard.Serving

open Dispatch (Adapters Called Context Event Handler Interceptor Silent Stage Transcript View
  Within)
open Dispatch.Chain (Asked Asks Tells backwards)
open Http (Response SendError)

variable {σ : Type} {cursor : Nat} {first second opening said tail : Transcript}
  {result : Except Failure Response} {ending : Ending} {services : Services σ} {session : Session}
  {adapters : Adapters σ} {context : Context} {handler : Handler σ}
  {interceptors : List (Interceptor σ)} {asked : Asked} {called : Called}

section Finalized

variable (response : Response) (keepAlive : Bool) (version : Http.Version) (date : Octets)

theorem body_finalized : (finalized response keepAlive version date).body = response.body :=
  Response.body_withLength

theorem status_finalized : (finalized response keepAlive version date).status = response.status :=
  Response.status_withLength

theorem version_finalized : (finalized response keepAlive version date).version = version :=
  rfl

theorem connection_finalized :
    (finalized response keepAlive version date).fields.getAll Http.connectionName =
      [connectionValue keepAlive] :=
  Http.Fields.getAll_set_self

theorem getAll_finalized_of_ne {name : String} (notDate : name ≠ Http.dateName)
    (notConnection : name ≠ Http.connectionName) :
    (finalized response keepAlive version date).fields.getAll name =
      (response.withLength response.body.length).fields.getAll name :=
  (Http.Fields.getAll_set_of_ne notConnection).trans
    (Http.Fields.getAll_setIfAbsent_of_ne notDate)

theorem contentType_finalized :
    (finalized response keepAlive version date).fields.getAll Http.contentTypeName =
      response.fields.getAll Http.contentTypeName :=
  (getAll_finalized_of_ne response keepAlive version date (by decide) (by decide)).trans
    (Response.getAll_withLength_of_ne (by decide))

end Finalized

theorem within_leaving (stays : Bool) : Within .answering (leaving stays) := by
  unfold leaving
  split
  · exact .nil
  · exact .cons (.inr rfl) .nil

theorem Answers.within {response : Response} {outcome : Except Failure Unit}
    (answers : Answers session response said outcome) : Within .answering said := by
  cases answers with
  | mk silent => exact .cons (.inr rfl) ((within_leaving _).append (silent.within _))

theorem Answers.writes {response : Response} {outcome : Except Failure Unit}
    (answers : Answers session response said outcome) :
    ∃ date, View.writes.of said =
      [finalized response (session.keepAlive && !response.wantsClose) session.version date] := by
  cases answers with
  | @mk date sent logs silent =>
      refine ⟨date, ?_⟩
      rw [View.of_cons_some rfl, View.of_append_silent silent]
      unfold leaving
      split <;> rfl

theorem handovers_leaving (stays : Bool) : View.handovers.of (leaving stays) = leaving stays := by
  cases stays <;> rfl

/-- The response is written once, and nothing follows but closing the connection. -/
theorem Answers.handed {response : Response} {outcome : Except Failure Unit}
    (answers : Answers session response said outcome) :
    ∃ date, ∃ sent : Except SendError Unit, outcome = sent.mapError .transportFailed ∧
      View.handovers.of said =
        .wrote
          (finalized response (session.keepAlive && !response.wantsClose) session.version date)
          sent :: leaving (session.keepAlive && !response.wantsClose && succeeded sent) := by
  cases answers with
  | @mk date sent logs silent =>
      refine ⟨date, sent, rfl, ?_⟩
      rw [View.of_cons_some rfl, View.of_append_silent silent]
      exact congrArg _ (handovers_leaving _)

/-- A stage up to the call of the handler and the interceptors' view of its response. -/
def early : Stage → Prop
  | .asking | .calling | .showing => True
  | .resolving | .telling | .answering => False

theorem Concludes.of_early {α : Type} {view : View α} (belongs : early view.stage)
    (concludes : Concludes services session context handler interceptors cursor
      result second ending) :
    view.of second = [] := by
  have apart (stage : Stage) (late : ¬ early stage) : view.stage ≠ stage := by
    rintro rfl
    exact late belongs
  cases concludes with
  | succeeded tells answers =>
      rw [View.of_append, View.of_eq_nil tells.within (apart _ id),
        View.of_eq_nil answers.within (apart _ id)]
      rfl
  | failed _ resolves tells answers =>
      rw [View.of_append, View.of_append, View.of_eq_nil resolves.within (apart _ id),
        View.of_eq_nil tells.within (apart _ id), View.of_eq_nil answers.within (apart _ id)]
      rfl
  | fatal _ silent tells answers quiet =>
      rw [View.of_append, View.of_append, View.of_append, View.of_silent silent,
        View.of_eq_nil tells.within (apart _ id), View.of_eq_nil answers.within (apart _ id),
        View.of_silent quiet]
      rfl

/-- The early stages of a dispatch are those of the way to its response or failure. -/
theorem view_first {α : Type} {view : View α} (belongs : early view.stage) (silent : Silent opening)
    (concludes : Concludes services session context handler interceptors cursor
      result second ending) :
    view.of (opening ++ (first ++ second)) = view.of first := by
  rw [View.of_silent_append silent, View.of_append, concludes.of_early belongs, List.append_nil]

namespace Handled

theorem calls_of_asks (asks : Asks handler 0 { context } interceptors said asked) :
    View.calls.of said = [] :=
  View.of_eq_nil asks.within (by decide)

theorem shows_of_asks (asks : Asks handler 0 { context } interceptors said asked) :
    View.shows.of said = [] :=
  View.of_eq_nil asks.within (by decide)

theorem asks_of_called (within : Within .showing tail) :
    View.asks.of (said ++ .called called :: tail) = View.asks.of said := by
  rw [View.of_append, View.of_cons_none rfl, View.of_eq_nil within (by decide), List.append_nil]

theorem calls_of_called (asks : Asks handler 0 { context } interceptors said asked)
    (within : Within .showing tail) :
    View.calls.of (said ++ .called called :: tail) = [called] := by
  rw [View.of_append, calls_of_asks asks, View.of_cons_some rfl,
    View.of_eq_nil within (by decide)]
  rfl

theorem showing_of_called {α : Type} {view : View α} (staged : view.stage = .showing)
    (asks : Asks handler 0 { context } interceptors said asked) :
    view.of (said ++ .called called :: tail) = view.of tail := by
  have apart : (Event.called called).stage? ≠ some view.stage := by
    rw [staged]
    exact fun same => by cases same
  rw [View.of_append, View.of_cons_of_ne apart,
    View.of_eq_nil asks.within (by rw [staged]; decide), List.nil_append]

theorem passed_of_called (within : Within .showing tail) :
    (said ++ .called called :: tail).passed = said.passed := by
  unfold Transcript.passed
  rw [asks_of_called within]

theorem late_of_called {α : Type} {view : View α} (belongs : ¬ early view.stage)
    (asking : Within .asking said) (showing : Within .showing tail) :
    view.of (said ++ .called called :: tail) = [] := by
  have apart (stage : Stage) (soon : early stage) : view.stage ≠ stage := by
    rintro rfl
    exact belongs soon
  have unread : (Event.called called).stage? ≠ some view.stage := by
    intro same
    exact apart .calling True.intro (Option.some.inj same).symm
  rw [View.of_append, View.of_cons_of_ne unread, View.of_eq_nil asking (apart _ True.intro),
    View.of_eq_nil showing (apart _ True.intro)]
  rfl

theorem of_late {α : Type} {view : View α} (belongs : ¬ early view.stage)
    (handled : Handled adapters context handler interceptors first cursor result) :
    view.of first = [] := by
  have asking {said : Transcript} {asked : Asked}
      (asks : Asks handler 0 { context } interceptors said asked) : view.of said = [] :=
    View.of_eq_nil asks.within fun same => belongs (same ▸ True.intro)
  cases handled with
  | refused asks verdict => exact asking asks
  | stopped asks verdict => exact asking asks
  | unprepared asks verdict prepared => exact asking asks
  | failed asks verdict prepared called silent =>
      exact late_of_called belongs asks.within (silent.within _)
  | shown asks verdict prepared called silent shows =>
      exact late_of_called belongs asks.within ((silent.within _).append shows.within)

end Handled

/-- Events of other stages than those of interceptors are no calls of interceptors. -/
theorem genuine_of_within {stage : Stage} (within : Within stage said)
    (other : stage = .calling ∨ stage = .resolving ∨ stage = .answering) :
    ∀ event ∈ said, event.Genuine interceptors handler := by
  intro event membership
  have staged := within event membership
  rcases other with rfl | rfl | rfl <;> cases event <;> simp_all [Event.stage?, Event.Genuine]

theorem genuine_append (early : ∀ event ∈ first, event.Genuine interceptors handler)
    (late : ∀ event ∈ second, event.Genuine interceptors handler) :
    ∀ event ∈ first ++ second, event.Genuine interceptors handler := by
  intro event membership
  rcases List.mem_append.mp membership with inFirst | inSecond
  · exact early event inFirst
  · exact late event inSecond

theorem Handled.genuine
    (handled : Handled adapters context handler interceptors first cursor result) :
    ∀ event ∈ first, event.Genuine interceptors handler := by
  cases handled with
  | refused asks verdict => exact asks.genuine rfl
  | stopped asks verdict => exact asks.genuine rfl
  | unprepared asks verdict prepared => exact asks.genuine rfl
  | failed asks verdict prepared called silent =>
      apply genuine_append (asks.genuine rfl)
      exact genuine_of_within (.cons (.inr rfl) (silent.within _)) (.inl rfl)
  | shown asks verdict prepared called silent shows =>
      apply genuine_append (asks.genuine rfl)
      rw [← List.cons_append]
      apply genuine_append (genuine_of_within (.cons (.inr rfl) (silent.within _)) (.inl rfl))
      exact shows.genuine fun _ => Dispatch.Chain.getElem?_of_mem_backwards

theorem Concludes.genuine
    (concludes : Concludes services session context handler interceptors cursor result second
      ending) :
    ∀ event ∈ second, event.Genuine interceptors handler := by
  have telling {exchange : Dispatch.Exchange} {failure : Option Failure} {said : Transcript}
      (tells : Tells handler exchange failure (backwards (interceptors.take cursor)) said) :
      ∀ event ∈ said, event.Genuine interceptors handler := by
    apply tells.genuine
    intro pair membership
    have placed := Dispatch.Chain.getElem?_of_mem_backwards membership
    rw [List.getElem?_take] at placed
    split at placed
    · exact placed
    · cases placed
  cases concludes with
  | succeeded tells answers =>
      exact genuine_append (telling tells) (genuine_of_within answers.within (.inr (.inr rfl)))
  | failed _ resolves tells answers =>
      apply genuine_append (genuine_of_within resolves.within (.inr (.inl rfl)))
      exact genuine_append (telling tells) (genuine_of_within answers.within (.inr (.inr rfl)))
  | fatal _ silent tells answers quiet =>
      refine genuine_append (silent.genuine _ _) (genuine_append (telling tells) ?_)
      exact genuine_append (genuine_of_within answers.within (.inr (.inr rfl))) (quiet.genuine _ _)

theorem Course.genuine (course : Course services session context handler interceptors said ending) :
    ∀ event ∈ said, event.Genuine interceptors handler := by
  cases course with
  | answered silent handled concludes =>
      exact genuine_append (silent.genuine _ _) (genuine_append handled.genuine concludes.genuine)
  | died silent asks verdict prepared called quiet =>
      refine genuine_append (silent.genuine _ _) (genuine_append (asks.genuine rfl) ?_)
      exact genuine_of_within (.cons (.inr rfl) (quiet.within _)) (.inl rfl)

end Switchyard.Serving
