import Switchyard.Proofs.Conversion.Negotiation
import Switchyard.Proofs.Dispatch.Calling
import Switchyard.Proofs.Dispatch.Chain
import Switchyard.Proofs.Dispatch.Resolution
import Switchyard.Proofs.Http.Framing

/-!
# Framing as far as the user's code is concerned

As long as no code of the user frames a response, what is rendered announces its own length, and so
does the response to a failure; what interceptors make of a response announces the length with which
they were shown it, or none.
-/

set_option autoImplicit false

namespace Switchyard

open Conversion (Registry)
open Http (Fields Response Status contentLengthName transferEncodingName)
open Media (MediaRange)

namespace Conversion.Registry

variable {registry : Registry} {response written : Response} {accepted produces : List MediaRange}

theorem unframed_of_withContentType {contentType : String}
    (succeeds : withContentType response contentType = .ok written)
    (unframed : response.fields.Unframed) : written.fields.Unframed := by
  simp only [withContentType] at succeeds
  split at succeeds
  · cases succeeds
    exact unframed
  · split at succeeds
    · cases succeeds
      constructor
      · exact (Fields.getAll_set_of_ne (by decide)).trans unframed.length
      · exact (Fields.getAll_set_of_ne (by decide)).trans unframed.encoding
    · cases succeeds

theorem measured_of_write {payload : Option Payload}
    (succeeds : registry.write payload accepted produces response = .ok written)
    (unframed : response.fields.Unframed) : written.Measured := by
  cases payload with
  | none =>
      cases succeeds
      exact Response.announces_of_unframed unframed
  | some present =>
      obtain ⟨selected, converter, described, body, -, -, -, description, rfl⟩ :=
        writePayload_eq_ok succeeds
      have bare := unframed_of_withContentType description unframed
      constructor
      · exact .inr (Response.getAll_withLength_of_unframed bare body.length)
      · exact Response.getAll_transferEncoding_withLength.trans bare.encoding

end Conversion.Registry

namespace Dispatch

variable {σ : Type} {registry : Registry} {context : Context} {response : Response}
  {said : Transcript} {failure : Failure} {length : Nat}

/-- An answer whose own fields say nothing of framing. -/
def Answer.Unframed : Answer → Prop
  | .raw response => response.fields.Unframed
  | .typed _ => True
  | .entity _ fields _ => fields.Unframed

instance : DecidablePred Answer.Unframed
  | .raw response => inferInstanceAs (Decidable response.fields.Unframed)
  | .typed _ => inferInstanceAs (Decidable True)
  | .entity _ fields _ => inferInstanceAs (Decidable fields.Unframed)

/-- Whether the code of the user that an event is about has not framed a response.  An interceptor
that is shown a response may remove what frames it, but adds nothing. -/
def Event.Unframed : Event → Prop
  | .preHandled _ (.returned false) (some response) => response.fields.Unframed
  | .called (.handler (.returned answer) _) => answer.Unframed
  | .called (.adapter (.returned response)) => response.fields.Unframed
  | .postHandled _ _ shown altered =>
      (altered.fields.getAll contentLengthName).Sublist (shown.fields.getAll contentLengthName) ∧
      (altered.fields.getAll transferEncodingName).Sublist
        (shown.fields.getAll transferEncodingName)
  | .resolverCalled _ (.returned (some answer)) => answer.Unframed
  | _ => True

instance : DecidablePred Event.Unframed := by
  intro event
  unfold Event.Unframed
  split <;> infer_instance

namespace Answer

theorem unframed_of_draft {answer : Answer} {status : Status} {payload : Option Payload}
    (drafted : answer.draft status = .unwritten response payload) (unframed : answer.Unframed) :
    response.fields.Unframed := by
  cases answer with
  | raw found => cases drafted
  | typed found =>
      cases drafted
      exact Response.unframed_ofStatus status
  | entity own fields found =>
      cases drafted
      exact unframed

theorem measured_of_render {answer : Answer} {accepted produces : List MediaRange}
    (rendered : answer.render registry accepted produces = .ok response)
    (unframed : answer.Unframed) : response.Measured := by
  unfold render at rendered
  split at rendered
  case h_1 found drafted =>
    cases rendered
    cases answer <;> cases drafted
    exact Response.announces_of_unframed unframed
  case h_2 draft payload drafted =>
    exact Registry.measured_of_write rendered (unframed_of_draft drafted unframed)

end Answer

theorem Called.measured_of_renders {result : Called}
    (renders : result.Renders registry context response)
    (unframed : (Event.called result).Unframed) : response.Measured := by
  cases result with
  | adapter attempt =>
      obtain rfl : attempt = .returned response := renders
      exact Response.announces_of_unframed unframed
  | handler attempt outcome =>
      obtain ⟨-, answer, produces, rfl, rendered⟩ := renders
      exact Answer.measured_of_render rendered unframed

namespace Resolvers

theorem measured_withoutBody (unframed : response.fields.Unframed) :
    (withoutBody response).Measured := by
  constructor
  · exact .inl Fields.getAll_erase_self
  · exact (Fields.getAll_erase_of_ne (by decide)).trans
      ((Fields.getAll_erase_of_ne (by decide)).trans unframed.encoding)

theorem measured_of_renders {answer : Answer} {status : Status}
    (renders : Renders registry context answer status response) (unframed : answer.Unframed) :
    response.Measured := by
  unfold Renders at renders
  split at renders
  case h_1 found drafted =>
    cases answer <;> cases drafted
    exact renders ▸ Response.announces_of_unframed unframed
  case h_2 draft payload drafted =>
    have bare := Answer.unframed_of_draft drafted unframed
    split at renders
    case h_1 written succeeds => exact renders ▸ Registry.measured_of_write succeeds bare
    case h_2 => exact renders ▸ measured_withoutBody bare

theorem Resolves.measured {resolvers : Resolvers σ} {handler : Option (Handler σ)}
    (resolves : Resolves resolvers context handler failure said response)
    (unframed : ∀ event ∈ said, event.Unframed) : response.Measured := by
  cases resolves with
  | answered consults _ renders =>
      obtain ⟨position, membership⟩ := consults.answer_mem
      apply measured_of_renders renders
      exact unframed _ (List.mem_cons_of_mem _ (List.mem_append_left _ membership))
  | unanswered _ _ renders => exact measured_of_renders renders True.intro

end Resolvers

namespace Chain.Shows

variable {handler : Handler σ} {exchange : Exchange} {placed : List (Interceptor σ × Nat)}
  {shown : Shown}

/-- What interceptors leave announces the length that they were shown, or none. -/
theorem announces (shows : Shows handler exchange response placed said shown)
    (unframed : ∀ event ∈ said, event.Unframed) (announces : response.Announces length) :
    shown.response.Announces length := by
  have altered {position : Nat} {attempt : Attempt Cause Unit} {response altered : Response}
      (unframed : (Event.postHandled position attempt response altered).Unframed)
      (announces : response.Announces length) : altered.Announces length := by
    obtain ⟨lengths, encodings⟩ := unframed
    constructor
    · rcases announces.length with absent | present
      · exact .inl (List.sublist_nil.mp (absent ▸ lengths))
      · rw [present] at lengths
        exact List.sublist_singleton.mp lengths
    · exact List.sublist_nil.mp (announces.encoding ▸ encodings)
  induction shows with
  | done => exact announces
  | further _ _ inductionHypothesis =>
      refine inductionHypothesis ?_ (altered (unframed _ List.mem_cons_self) announces)
      intro event membership
      exact unframed event (List.mem_cons_of_mem _ membership)
  | failed => exact altered (unframed _ List.mem_cons_self) announces

/-- The response is the one that the last interceptor left. -/
theorem response_eq (shows : Shows handler exchange response placed said shown) :
    shown.response = (View.alterations.of said).getLast?.getD response := by
  induction shows with
  | done => rfl
  | @further _ _ _ altered _ _ _ _ said _ _ _ inductionHypothesis =>
      rw [View.of_cons_some rfl, inductionHypothesis, List.getLast?_cons]
      rfl
  | failed => rfl

end Chain.Shows

end Dispatch

end Switchyard
