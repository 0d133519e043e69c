import Switchyard.Conversion.Filling
import Switchyard.Proofs.Conversion.Negotiation

/-!
# What writing does to a response

A payload that cannot be written leaves the response alone, whichever step fails; one that can be
written adds the fields that describe it, as far as they are missing, and its body.
-/

set_option autoImplicit false

namespace Switchyard

namespace Http

/-- The field that a value is given under a name, unless the name has one already. -/
def Fields.missing (fields : Fields) (name : String) (value : Octets) : List Field :=
  if fields.contains name then [] else [⟨name, value⟩]

/-- The field that announces a length, unless the framing is given already. -/
def Response.missingLength (response : Response) (length : Nat) : List Field :=
  if response.isChunked then []
  else response.fields.missing contentLengthName (lengthValue length)

variable {fields : Fields} {name other : String} {value otherValue : Octets}
  {response : Response} {length : Nat}

namespace Fields

theorem erase_eq_self (absent : fields.contains name = false) : fields.erase name = fields := by
  have different : ∀ field ∈ fields.entries, field.name ≠ name := by
    simpa [contains] using absent
  unfold erase
  congr 1
  rw [List.filter_eq_self]
  simpa using different

theorem set_eq_of_contains_eq_false (absent : fields.contains name = false) :
    fields.set name value = ⟨fields.entries ++ fields.missing name value⟩ := by
  simp [set, erase_eq_self absent, append, missing, absent]

theorem contains_missing_of_ne (different : other ≠ name) :
    contains ⟨fields.entries ++ fields.missing name value⟩ other = fields.contains other := by
  have named : (fields.missing name value).any (fun field => field.name = other) = false := by
    unfold missing
    split
    · rfl
    · simpa using Ne.symm different
  simp [contains, named]

theorem missing_append_of_ne (different : other ≠ name) :
    missing ⟨fields.entries ++ fields.missing name value⟩ other otherValue =
      fields.missing other otherValue := by
  have same : contains ⟨fields.entries ++ fields.missing name value⟩ other =
      fields.contains other := contains_missing_of_ne different
  exact congrArg (fun found : Bool => if found then [] else [Field.mk other otherValue]) same

theorem mem_missing {field : Field} (added : field ∈ fields.missing name value) :
    fields.contains name = false ∧ field = ⟨name, value⟩ := by
  unfold missing at added
  split at added
  case isTrue => cases added
  case isFalse absent => exact ⟨by simpa using absent, List.mem_singleton.mp added⟩

end Fields

theorem Response.withLength_eq (response : Response) (length : Nat) :
    response.withLength length =
      { response with fields := ⟨response.fields.entries ++ response.missingLength length⟩ } := by
  unfold withLength missingLength
  by_cases chunked : response.isChunked = true
  · simp [chunked]
  · by_cases announced : response.fields.contains contentLengthName = true
    · simp [announced, Fields.missing]
    · rw [Fields.set_eq_of_contains_eq_false (by simpa using announced)]
      simp [chunked, announced]

/-- A field of another name does not frame the body. -/
theorem Response.missingLength_append (response : Response) (length : Nat)
    (framing : contentLengthName ≠ name) (encoding : transferEncodingName ≠ name) :
    missingLength
        { response with fields := ⟨response.fields.entries ++ response.fields.missing name value⟩ }
        length =
      response.missingLength length := by
  have chunked : isChunked
      { response with fields := ⟨response.fields.entries ++ response.fields.missing name value⟩ } =
        response.isChunked :=
    Fields.contains_missing_of_ne encoding
  unfold missingLength
  rw [chunked, Fields.missing_append_of_ne framing]

end Http

namespace Conversion

open Http (Field Fields Response contentLengthName contentTypeName)
open Media (MediaRange)

namespace Filling

variable {α β : Type} {first : Filling α} {next : α → Filling β} {response after : Response}
  {value : α} {failure : Failure}

theorem run_bind_of_ok (succeeds : first.run response = (.ok value, after)) :
    (first >>= next).run response = (next value).run after := by
  change ExceptT.bindCont next (first.run response).1 (first.run response).2 = _
  rw [succeeds]
  rfl

theorem run_bind_of_error (fails : first.run response = (.error failure, after)) :
    (first >>= next).run response = (.error failure, after) := by
  change ExceptT.bindCont next (first.run response).1 (first.run response).2 = _
  rw [fails]
  rfl

theorem run_bind_of_except (outcome : Except Failure α) (response : Response) :
    (liftM outcome >>= next).run response =
      match outcome with
      | .ok value => (next value).run response
      | .error failure => (.error failure, response) := by
  cases outcome <;> rfl

theorem run_nameContentType (contentType : String) (response : Response) :
    (nameContentType contentType).run response =
      match Registry.withContentType response contentType with
      | .ok described => (.ok (), described)
      | .error failure => (.error failure, response) := by
  unfold nameContentType Registry.withContentType
  rw [run_bind_of_ok (rfl : (get : Filling Response).run response = (.ok response, response))]
  by_cases typed : response.fields.contains contentTypeName = true
  · simp only [typed]
    rfl
  · by_cases allowed : Http.isFieldValue (Text.Utf8.encode contentType) = true
    · simp only [typed, allowed]
      rfl
    · simp only [typed, allowed]
      rfl

end Filling

namespace Registry

variable {registry : Registry} {payload : Payload} {accepted produces : List MediaRange}
  {response described written : Response} {failure : Failure}

/-- A response is filled in place as another one is made of it. -/
theorem run_fillPayload (registry : Registry) (payload : Payload)
    (accepted produces : List MediaRange) (response : Response) :
    (registry.fillPayload payload accepted produces).run response =
      match registry.writePayload payload accepted produces response with
      | .ok written => (.ok (), written)
      | .error failure => (.error failure, response) := by
  simp only [fillPayload, writePayload, Filling.run_bind_of_except, bodyOf]
  cases selection : registry.select payload.kind accepted produces with
  | error failure => rfl
  | ok selected =>
      cases writing : registry.writer payload.kind selected with
      | error failure => simp only [writing, bind, Except.bind]
      | ok converter =>
          cases octets : converter.write payload with
          | error reason => simp only [writing, octets, bind, Except.bind]
          | ok body =>
              have named := Filling.run_nameContentType
                (contentTypeText selected converter.charset) response
              cases description :
                  withContentType response (contentTypeText selected converter.charset) with
              | error failure =>
                  rw [description] at named
                  simp only [writing, octets, bind, Except.bind, description]
                  exact Filling.run_bind_of_error named
              | ok described =>
                  rw [description] at named
                  simp only [writing, octets, bind, Except.bind, description]
                  exact Filling.run_bind_of_ok named

theorem run_fill (registry : Registry) (payload : Option Payload)
    (accepted produces : List MediaRange) (response : Response) :
    (registry.fill payload accepted produces).run response =
      match registry.write payload accepted produces response with
      | .ok written => (.ok (), written)
      | .error failure => (.error failure, response) := by
  cases payload with
  | none => rfl
  | some present => exact run_fillPayload registry present accepted produces response

/-- Why a payload is not written: no media type is acceptable, no converter writes it in the
selected one, the converter fails, or the content type cannot be sent. -/
inductive Refuses (registry : Registry) (payload : Payload) (accepted produces : List MediaRange)
    (response : Response) : Failure → Prop where
  | unacceptable
      (unselected : MediaRange.negotiate? accepted (registry.producible payload.kind produces) =
        none) :
      Refuses registry payload accepted produces response
        (.notAcceptable (MediaRange.join (registry.producible payload.kind produces)))
  | unwritable {selected : MediaRange}
      (selection : registry.select payload.kind accepted produces = .ok selected)
      (unable : ∀ converter ∈ registry.converters,
        converter.canWrite payload.kind selected = false) :
      Refuses registry payload accepted produces response
        (.conversionFailed .writing
          s!"no converter writes {payload.kind.name} as {selected.text}")
  | unconverted {selected : MediaRange} {converter : Converter} {reason : String}
      (selection : registry.select payload.kind accepted produces = .ok selected)
      (writing : registry.writer payload.kind selected = .ok converter)
      (fails : converter.write payload = .error reason) :
      Refuses registry payload accepted produces response (.conversionFailed .writing reason)
  | unspeakable {selected : MediaRange} {converter : Converter} {body : Octets}
      (selection : registry.select payload.kind accepted produces = .ok selected)
      (writing : registry.writer payload.kind selected = .ok converter)
      (octets : converter.write payload = .ok body)
      (untyped : response.fields.contains contentTypeName = false)
      (disallowed : Http.isFieldValue
        (Text.Utf8.encode (contentTypeText selected converter.charset)) = false) :
      Refuses registry payload accepted produces response
        (.conversionFailed .writing "failed to parse header value")

/-- What a response has become in which a payload has been written: it has the body and, behind the
fields that it had, those that describe the body as far as they were missing. -/
structure Fills (registry : Registry) (payload : Payload) (accepted produces : List MediaRange)
    (response written : Response) : Prop where
  status : written.status = response.status
  version : written.version = response.version
  filled : ∃ selected converter,
    registry.select payload.kind accepted produces = .ok selected ∧
    registry.writer payload.kind selected = .ok converter ∧
    converter.write payload = .ok written.body ∧
    written.fields.entries = response.fields.entries ++
      (response.fields.missing contentTypeName
          (Text.Utf8.encode (contentTypeText selected converter.charset)) ++
        response.missingLength written.body.length)

theorem withContentType_eq {contentType : String}
    (succeeds : withContentType response contentType = .ok described) :
    described = { response with fields :=
      ⟨response.fields.entries ++
        response.fields.missing contentTypeName (Text.Utf8.encode contentType)⟩ } := by
  by_cases typed : response.fields.contains contentTypeName = true
  · simp only [withContentType, typed, if_true, Except.ok.injEq] at succeeds
    simp [← succeeds, Fields.missing, typed]
  · have untyped : response.fields.contains contentTypeName = false := by simpa using typed
    rw [withContentType_eq_ok untyped succeeds, Fields.set_eq_of_contains_eq_false untyped]

theorem fills_of_writePayload
    (succeeds : registry.writePayload payload accepted produces response = .ok written) :
    registry.Fills payload accepted produces response written := by
  obtain ⟨selected, converter, described, body, selection, writing, octets, description, rfl⟩ :=
    writePayload_eq_ok succeeds
  obtain rfl := withContentType_eq description
  refine ⟨Http.Response.status_withLength, ?_, selected, converter, selection, writing, octets, ?_⟩
  · rw [Response.withLength_eq]
  · rw [Response.withLength_eq, Response.missingLength_append response body.length (by decide)
      (by decide), List.append_assoc]

theorem refuses_of_writePayload
    (fails : registry.writePayload payload accepted produces response = .error failure) :
    registry.Refuses payload accepted produces response failure := by
  rcases bind_eq_error.mp fails with unselected | ⟨selected, selection, fails⟩
  · obtain ⟨unacceptable, rfl⟩ := select_eq_error unselected
    exact .unacceptable unacceptable
  rcases bind_eq_error.mp fails with unwritten | ⟨converter, writing, fails⟩
  · obtain ⟨unable, rfl⟩ := writer_eq_error unwritten
    exact .unwritable selection unable
  cases octets : converter.write payload with
  | error reason =>
      rw [octets] at fails
      cases fails
      exact .unconverted selection writing octets
  | ok body =>
      rw [octets] at fails
      rcases bind_eq_error.mp fails with undescribed | ⟨described, -, fails⟩
      · obtain ⟨untyped, disallowed, rfl⟩ := withContentType_eq_error undescribed
        exact .unspeakable selection writing octets untyped disallowed
      · cases fails

/-- Writing does nothing, fails for one of four reasons, or fills the response. -/
theorem write_refuses_or_fills (registry : Registry) (payload : Option Payload)
    (accepted produces : List MediaRange) (response : Response) :
    payload = none ∧ registry.write payload accepted produces response = .ok response ∨
    (∃ present failure, payload = some present ∧
      registry.Refuses present accepted produces response failure ∧
      registry.write payload accepted produces response = .error failure) ∨
    ∃ present written, payload = some present ∧
      registry.Fills present accepted produces response written ∧
      registry.write payload accepted produces response = .ok written := by
  cases payload with
  | none => exact .inl ⟨rfl, rfl⟩
  | some present =>
      right
      cases outcome : registry.writePayload present accepted produces response with
      | error failure =>
          exact .inl ⟨present, failure, rfl, refuses_of_writePayload outcome, outcome⟩
      | ok written => exact .inr ⟨present, written, rfl, fills_of_writePayload outcome, outcome⟩

/-- Fields that a response had are kept, and those that it is given were missing. -/
theorem Fills.getAll_eq_or_missing
    (fills : registry.Fills payload accepted produces response written) (name : String) :
    written.fields.getAll name = response.fields.getAll name ∨
      response.fields.contains name = false ∧
        (name = contentTypeName ∨ name = contentLengthName ∧ response.isChunked = false) := by
  obtain ⟨selected, converter, -, -, -, entries⟩ := fills.filled
  by_cases given : ∃ field ∈ response.fields.missing contentTypeName
        (Text.Utf8.encode (contentTypeText selected converter.charset)) ++
      response.missingLength written.body.length, field.name = name
  · right
    obtain ⟨field, added, rfl⟩ := given
    rcases List.mem_append.mp added with typing | length
    · obtain ⟨absent, rfl⟩ := Fields.mem_missing typing
      exact ⟨absent, .inl rfl⟩
    · unfold Response.missingLength at length
      split at length
      case isTrue => cases length
      case isFalse plain =>
          obtain ⟨absent, rfl⟩ := Fields.mem_missing length
          exact ⟨absent, .inr ⟨rfl, by simpa using plain⟩⟩
  · left
    have others := List.filter_eq_nil_iff.mpr fun field added named =>
      given ⟨field, added, of_decide_eq_true named⟩
    rw [Fields.getAll, entries, List.filter_append, others, List.append_nil]
    rfl

/-- Filling a response with a payload either fails, for one of four reasons, and leaves the response
as it was, or adds the body and the missing ones of two fields.  Without a payload it does
nothing. -/
theorem run_fill_leaves_or_fills (registry : Registry) (payload : Option Payload)
    (accepted produces : List MediaRange) (response : Response) :
    payload = none ∧
        (registry.fill payload accepted produces).run response = (.ok (), response) ∨
    (∃ present failure, payload = some present ∧
      registry.Refuses present accepted produces response failure ∧
      (registry.fill payload accepted produces).run response = (.error failure, response)) ∨
    ∃ present written, payload = some present ∧
      registry.Fills present accepted produces response written ∧
      (∀ name, written.fields.getAll name = response.fields.getAll name ∨
        response.fields.contains name = false ∧
          (name = contentTypeName ∨ name = contentLengthName ∧ response.isChunked = false)) ∧
      (registry.fill payload accepted produces).run response = (.ok (), written) := by
  rw [run_fill]
  rcases write_refuses_or_fills registry payload accepted produces response with
    ⟨absent, outcome⟩ | ⟨present, failure, rfl, refuses, outcome⟩ |
      ⟨present, written, rfl, fills, outcome⟩
  · exact .inl ⟨absent, by rw [outcome]⟩
  · exact .inr (.inl ⟨present, failure, rfl, refuses, by rw [outcome]⟩)
  · exact .inr (.inr ⟨present, written, rfl, fills, fills.getAll_eq_or_missing, by rw [outcome]⟩)

end Registry

end Conversion

end Switchyard
