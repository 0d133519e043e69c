import Switchyard.Conversion.Registry
import Switchyard.Proofs.Http.Fields
import Switchyard.Proofs.Media.Negotiation
import Switchyard.Proofs.Outcome

/-!
# The media type of a written response

A payload is written in a single media type that the client accepts.  It is a producible one where
a single type can be agreed upon, or else where the producible types cover octets.  A wildcard
before a suffix covers none, and octets are sent for it all the same to a client that accepts all
subtypes.
-/

set_option autoImplicit false

namespace Switchyard.Conversion.Registry

open Http (Response contentTypeName)
open Media (MediaRange)

variable {registry : Registry} {kind : PayloadKind} {payload : Payload}
  {accepted produces : List MediaRange} {selected : MediaRange} {response written : Response}

theorem select_eq_ok (succeeds : registry.select kind accepted produces = .ok selected) :
    MediaRange.negotiate? accepted (registry.producible kind produces) = some selected := by
  simp only [select, choose] at succeeds
  split at succeeds
  · cases succeeds
    assumption
  · cases succeeds

theorem select_eq_error {failure : Failure}
    (fails : registry.select kind accepted produces = .error failure) :
    MediaRange.negotiate? accepted (registry.producible kind produces) = none ∧
      failure = .notAcceptable (MediaRange.join (registry.producible kind produces)) := by
  simp only [select, choose] at fails
  split at fails
  case h_1 => cases fails
  case h_2 unselected =>
      cases fails
      exact ⟨unselected, rfl⟩

theorem writer_eq_ok {converter : Converter}
    (succeeds : registry.writer kind selected = .ok converter) :
    converter ∈ registry.converters ∧ converter.canWrite kind selected = true := by
  unfold writer at succeeds
  split at succeeds
  case h_1 found =>
    cases succeeds
    exact ⟨List.mem_of_find?_eq_some found, by simpa using List.find?_some found⟩
  case h_2 => cases succeeds

theorem writer_eq_error {failure : Failure}
    (fails : registry.writer kind selected = .error failure) :
    (∀ converter ∈ registry.converters, converter.canWrite kind selected = false) ∧
      failure =
        .conversionFailed .writing s!"no converter writes {kind.name} as {selected.text}" := by
  unfold writer at fails
  split at fails
  case h_1 => cases fails
  case h_2 unable =>
      cases fails
      exact ⟨by simpa using unable, rfl⟩

theorem withContentType_eq_ok {contentType : String}
    (untyped : response.fields.contains contentTypeName = false)
    (succeeds : withContentType response contentType = .ok written) :
    written = { response with
      fields := response.fields.set contentTypeName (Text.Utf8.encode contentType) } := by
  simp only [withContentType, untyped, Bool.false_eq_true, if_false] at succeeds
  split at succeeds
  · cases succeeds
    rfl
  · cases succeeds

/-- The content type is the only one, whatever length is announced beside it. -/
theorem getAll_of_withContentType {contentType : String} {described : Response} (length : Nat)
    (untyped : response.fields.contains contentTypeName = false)
    (succeeds : withContentType response contentType = .ok described) :
    (described.withLength length).fields.getAll contentTypeName =
      [Text.Utf8.encode contentType] := by
  rw [Response.getAll_withLength_of_ne (by decide), withContentType_eq_ok untyped succeeds]
  exact Http.Fields.getAll_set_self

theorem withContentType_eq_error {contentType : String} {failure : Failure}
    (fails : withContentType response contentType = .error failure) :
    response.fields.contains contentTypeName = false ∧
      Http.isFieldValue (Text.Utf8.encode contentType) = false ∧
      failure = .conversionFailed .writing "failed to parse header value" := by
  simp only [withContentType] at fails
  split at fails
  case isTrue => cases fails
  case isFalse untyped =>
      split at fails
      case isTrue => cases fails
      case isFalse disallowed =>
          cases fails
          exact ⟨by simpa using untyped, by simpa using disallowed, rfl⟩

theorem writePayload_eq_ok
    (succeeds : registry.writePayload payload accepted produces response = .ok written) :
    ∃ selected converter described body,
      registry.select payload.kind accepted produces = .ok selected ∧
      registry.writer payload.kind selected = .ok converter ∧
      converter.write payload = .ok body ∧
      withContentType response (contentTypeText selected converter.charset) = .ok described ∧
      written = { described.withLength body.length with body } := by
  unfold writePayload at succeeds
  obtain ⟨selected, selection, succeeds⟩ := bind_eq_ok.mp succeeds
  obtain ⟨converter, writing, succeeds⟩ := bind_eq_ok.mp succeeds
  split at succeeds
  case h_1 => cases succeeds
  case h_2 body octets =>
    obtain ⟨described, description, succeeds⟩ := bind_eq_ok.mp succeeds
    cases succeeds
    exact ⟨selected, converter, described, body, selection, writing, octets, description, rfl⟩

/-- What is negotiated is a single media type that the client accepts. -/
theorem negotiated_accepted {producible : List MediaRange}
    (negotiated : MediaRange.negotiate? accepted producible = some selected) :
    selected.isConcrete = true ∧ ∃ range ∈ accepted, selected.isCompatible range = true := by
  rcases MediaRange.negotiate?_eq_some negotiated with
    ⟨membership, concrete⟩ | ⟨-, rfl, candidate, membership, covers⟩
  · obtain ⟨range, listed, other, -, compatible, rfl⟩ := MediaRange.mem_candidates.mp membership
    exact ⟨concrete, range, listed, (MediaRange.isCompatible_mostSpecific compatible).1⟩
  · obtain ⟨range, listed, other, -, -, rfl⟩ := MediaRange.mem_candidates.mp membership
    refine ⟨by decide +kernel, range, listed, ?_⟩
    exact MediaRange.isCompatible_octetStream_of_mostSpecific covers

/-- What is negotiated is producible where a candidate is a single type, and otherwise where the
producible types cover octets. -/
theorem negotiated_producible_iff {producible : List MediaRange}
    (negotiated : MediaRange.negotiate? accepted producible = some selected) :
    (∃ range ∈ producible, selected.isCompatible range = true) ↔
      (∃ candidate ∈ MediaRange.candidates accepted producible, candidate.isConcrete = true) ∨
        ∃ range ∈ producible, MediaRange.octetStream.isCompatible range = true := by
  rcases MediaRange.negotiate?_eq_some negotiated with
    ⟨membership, concrete⟩ | ⟨general, rfl, -⟩
  · obtain ⟨range, -, other, listed, compatible, produced⟩ :=
      MediaRange.mem_candidates.mp membership
    constructor
    · intro
      exact .inl ⟨selected, membership, concrete⟩
    · intro
      refine ⟨other, listed, ?_⟩
      exact produced ▸ (MediaRange.isCompatible_mostSpecific compatible).2
  · constructor
    · exact Or.inr
    · rintro (single | covered)
      · exact absurd single general
      · exact covered

/-- Only a wildcard before a suffix is passed over, for a client that accepts all subtypes. -/
theorem negotiated_producible_or_suffixed {producible : List MediaRange}
    (negotiated : MediaRange.negotiate? accepted producible = some selected) :
    (∃ range ∈ producible, selected.isCompatible range = true) ∨
      (∃ range ∈ accepted, range.media.type = "application" ∧ range.media.subtype = "*") ∧
      ∃ range ∈ producible, range.media.type = "application" ∧
        range.isWildcardSubtype = true ∧ range.media.suffix?.isSome = true := by
  rcases MediaRange.negotiate?_eq_some negotiated with
    ⟨membership, concrete⟩ | ⟨-, rfl, candidate, membership, covers⟩
  · exact .inl ((negotiated_producible_iff negotiated).mpr (.inl ⟨selected, membership, concrete⟩))
  · obtain ⟨range, listed, other, otherListed, compatible, rfl⟩ :=
      MediaRange.mem_candidates.mp membership
    rcases MediaRange.isCompatible_octetStream_or_suffixed compatible covers with
      covered | ⟨type, subtype, otherType, wildcard, suffixed⟩
    · exact .inl ⟨other, otherListed, covered⟩
    · exact .inr ⟨⟨range, listed, type, subtype⟩, other, otherListed, otherType, wildcard, suffixed⟩

/-- A payload that is written into a response without a content type is written in a single media
type that the client accepts.  That type is a producible one exactly if a single type can be agreed
upon or the producible types cover octets; where it is not, the client accepts all subtypes and a
producible type has a wildcard before a suffix. -/
theorem write_negotiates
    (succeeds : registry.write (some payload) accepted produces response = .ok written)
    (untyped : response.fields.contains contentTypeName = false) :
    ∃ selected, ∃ converter ∈ registry.converters,
      registry.select payload.kind accepted produces = .ok selected ∧
      converter.canWrite payload.kind selected = true ∧
      written.fields.getAll contentTypeName =
        [Text.Utf8.encode (contentTypeText selected converter.charset)] ∧
      selected.isConcrete = true ∧
      (∃ range ∈ accepted, selected.isCompatible range = true) ∧
      ((∃ range ∈ registry.producible payload.kind produces, selected.isCompatible range = true) ↔
        (∃ candidate ∈ MediaRange.candidates accepted (registry.producible payload.kind produces),
          candidate.isConcrete = true) ∨
        ∃ range ∈ registry.producible payload.kind produces,
          MediaRange.octetStream.isCompatible range = true) ∧
      ((∃ range ∈ registry.producible payload.kind produces, selected.isCompatible range = true) ∨
        (∃ range ∈ accepted, range.media.type = "application" ∧ range.media.subtype = "*") ∧
        ∃ range ∈ registry.producible payload.kind produces, range.media.type = "application" ∧
          range.isWildcardSubtype = true ∧ range.media.suffix?.isSome = true) := by
  obtain ⟨selected, converter, described, body, selection, writing, octets, description, rfl⟩ :=
    writePayload_eq_ok succeeds
  have negotiated := select_eq_ok selection
  obtain ⟨membership, writes⟩ := writer_eq_ok writing
  obtain ⟨concrete, covered⟩ := negotiated_accepted negotiated
  exact ⟨selected, converter, membership, selection, writes,
    getAll_of_withContentType body.length untyped description, concrete, covered,
    negotiated_producible_iff negotiated, negotiated_producible_or_suffixed negotiated⟩

/-- All subtypes of one type. -/
def applications : MediaRange :=
  .ofMedia (.bare "application" "*")

/-- The subtypes of one type that end with a suffix. -/
def suffixedApplications : MediaRange :=
  .ofMedia (.bare "application" "*+json")

/-- The response that a text becomes in octets. -/
def greeting : Response :=
  ⟨.ok, .http11, ⟨[⟨contentTypeName, Text.Utf8.encode "application/octet-stream; charset=utf-8"⟩,
    ⟨Http.contentLengthName, Http.lengthValue 2⟩]⟩, Text.Utf8.encode "hi"⟩

theorem write_greeting :
    standard.write (some (.text "hi")) [applications] [suffixedApplications] (.ofStatus .ok) =
      .ok greeting := by
  decide +kernel

theorem write_negotiates_greeting :
    standard.write (some (.text "hi")) [applications] [suffixedApplications] (.ofStatus .ok) =
        .ok greeting ∧
      (Response.ofStatus .ok).fields.contains contentTypeName = false ∧
      ∃ selected, ∃ converter ∈ standard.converters,
        standard.select .text [applications] [suffixedApplications] = .ok selected ∧
        greeting.fields.getAll contentTypeName =
          [Text.Utf8.encode (contentTypeText selected converter.charset)] ∧
        selected.isCompatible applications = true := by
  obtain ⟨selected, converter, membership, selection, -, written, -, accepted, -⟩ :=
    write_negotiates write_greeting (by decide)
  obtain ⟨range, listed, compatible⟩ := accepted
  rw [List.mem_singleton] at listed
  exact ⟨write_greeting, by decide, selected, converter, membership, selection, written,
    listed ▸ compatible⟩

/-- What is written need not be of a type that the response may be produced in. -/
theorem write_beside_produces :
    standard.write (some (.text "hi")) [applications] [suffixedApplications] (.ofStatus .ok) =
        .ok greeting ∧
      standard.select .text [applications] [suffixedApplications] = .ok .octetStream ∧
      (∀ range ∈ standard.producible .text [suffixedApplications],
        MediaRange.octetStream.isCompatible range = false) := by
  refine ⟨write_greeting, by decide +kernel, ?_⟩
  decide +kernel

end Switchyard.Conversion.Registry
