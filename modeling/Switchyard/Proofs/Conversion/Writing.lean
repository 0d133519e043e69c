import Switchyard.Proofs.Conversion.RoundTrip

/-!
# What the standard converters write

A media type that was read has a text without control characters, so that it can always be sent as
the value of a field.  JSON is negotiated in its own types alone, since a client that accepts more
than one type is sent `application/json`.  So every payload that is not a form is written where a
media type can be agreed upon.
-/

set_option autoImplicit false

namespace Switchyard

namespace Http

/-- Whether a character may stand in the value of a field. -/
def isFieldChar (c : Char) : Bool :=
  c == '\t' || (32 ≤ c.toNat && c.toNat ≠ 127)

theorem isFieldValue_utf8EncodeChar (c : Char) :
    isFieldValue (String.utf8EncodeChar c) = isFieldChar c := by
  by_cases ascii : c.toNat < 128
  · rw [Text.utf8EncodeChar_of_ascii ascii]
    simpa using Text.forall_ascii
      (p := fun c => isFieldValue [UInt8.ofNat c.toNat] == isFieldChar c) (by decide) ascii
  · have beyond : 32 ≤ c.toNat ∧ c.toNat ≠ 127 := by omega
    have allowed : isFieldChar c = true := by simp [isFieldChar, beyond]
    rw [allowed, isFieldValue, List.all_eq_true]
    intro octet membership
    have high := Text.high_utf8EncodeChar (Nat.le_of_not_lt ascii) octet membership
    have printed : (32 : UInt8) ≤ octet ∧ octet ≠ 127 := by
      rw [UInt8.le_iff_toNat_le, ne_eq, ← UInt8.toNat_inj]
      simp only [UInt8.reduceToNat]
      omega
    simp [printed]

/-- A text may be the value of a field exactly if its characters may. -/
theorem isFieldValue_encode (text : String) :
    isFieldValue (Text.Utf8.encode text) = text.toList.all isFieldChar := by
  simp only [isFieldValue, Text.Utf8.encode, List.all_flatMap]
  congr 1
  funext c
  exact isFieldValue_utf8EncodeChar c

end Http

namespace Media

open Http (isFieldChar)

theorem isFieldChar_of_quoted {c : Char} (quoted : isQuotedChar c = true) :
    isFieldChar c = true := by
  simp only [isQuotedChar, Bool.and_eq_true, decide_eq_true_eq] at quoted
  simp [isFieldChar, quoted.2, Nat.succ_le_of_lt quoted.1]

theorem isFieldChar_of_token {c : Char} (token : isTokenChar c = true) : isFieldChar c = true :=
  forall_token (by decide) token

theorem all_fieldChar_spaces (count : Nat) :
    (List.replicate count ' ').all isFieldChar = true := by
  simp [isFieldChar]

theorem Word.all_fieldChar {text : String} (word : Word text) :
    text.toList.all isFieldChar = true :=
  List.all_eq_true.mpr fun c membership => isFieldChar_of_token (word.token c membership)

theorem SpelledValue.all_fieldChar {inQuotes : Bool} {after : Nat} {value : List Char}
    (spelled : SpelledValue inQuotes after value) :
    (valueChars inQuotes after value).all isFieldChar = true := by
  cases spelled with
  | token token =>
      rw [valueChars, if_neg (by simp), List.all_eq_true]
      exact fun c membership => isFieldChar_of_token (token c membership)
  | @quoted first rest _ quoted _ =>
      have quote : isFieldChar '"' = true := by decide
      have inner : (first :: rest).all isFieldChar = true :=
        List.all_eq_true.mpr fun c membership => isFieldChar_of_quoted (quoted c membership)
      rw [List.all_cons] at inner
      simp only [valueChars, if_true, List.all_cons, List.all_append, List.cons_append, quote,
        all_fieldChar_spaces, inner, Bool.and_true]

theorem Param.Spelled.all_fieldChar {param : Param} (spelled : param.Spelled) :
    param.text.toList.all isFieldChar = true := by
  have signs : isFieldChar ';' = true ∧ isFieldChar '=' = true := by decide
  simp only [Param.toList_text, Param.chars, List.all_cons, List.all_append, signs,
    all_fieldChar_spaces, spelled.word.all_fieldChar, spelled.value.all_fieldChar, Bool.true_and]

namespace MediaType

variable {media : MediaType}

/-- The text of a media type that was read may be the value of a field. -/
theorem Spelled.all_fieldChar (spelled : media.Spelled) :
    media.text.toList.all isFieldChar = true := by
  have signs : isFieldChar '/' = true ∧ isFieldChar ';' = true := by decide
  have closing : (continued (media.tail.map fun count => List.replicate count ' ')).all
      isFieldChar = true := by
    cases media.tail with
    | none => rfl
    | some count =>
        simp only [Option.map_some, continued, List.all_cons, signs, all_fieldChar_spaces,
          Bool.true_and]
  have params : ∀ param ∈ media.params, param.text.toList.all isFieldChar = true := by
    rcases spelled.listed with ⟨bare, -⟩ | ⟨-, -, chars, listed⟩
    · simp [bare]
    · exact fun param membership => (listed.spelled_of_mem param membership).all_fieldChar
  simp only [toList_text, List.all_append, List.all_cons, spelled.word.all_fieldChar,
    spelled.subword.all_fieldChar, signs, closing, Bool.true_and, Bool.and_true, List.all_flatMap]
  exact List.all_eq_true.mpr params

/-- The media types of JSON, which are `application/json` and those that end with its suffix. -/
def IsJson (media : MediaType) : Prop :=
  media.type = "application" ∧
    (media.subtype = "json" ∨ ∃ base, base ≠ "" ∧ media.subtype = base ++ "+json")

end MediaType

namespace MediaRange

variable {accepted : List MediaRange} {selected range other : MediaRange}

/-- JSON itself. -/
def json : MediaRange :=
  .ofMedia (.bare "application" "json")

/-- All media types with the suffix of JSON. -/
def suffixedJson : MediaRange :=
  .ofMedia (.bare "application" "*+json")

/-- A single media type that has a type in common with those of JSON is one of them. -/
theorem isJson_of_isCompatible (single : range.isConcrete = true)
    (compatible : range.isCompatible json = true ∨ range.isCompatible suffixedJson = true) :
    range.media.IsJson := by
  have subtype : range.media.subtype ≠ "*" := by
    intro everything
    simp [isConcrete, isWildcardSubtype_of_subtype everything] at single
  simp only [isConcrete, Bool.and_eq_true, Bool.not_eq_true'] at single
  rcases compatible with own | suffixed
  · have plain : json.isWildcardType = false ∧ json.isWildcardSubtype = false := by decide
    have spelled : json.media.type = "application" ∧ json.media.subtype = "json" := ⟨rfl, rfl⟩
    have parts : range.media.type = "application" ∧ range.media.subtype = "json" := by
      simpa [isCompatible, single, plain, spelled, subtype] using own
    exact ⟨parts.1, .inl parts.2⟩
  · have general : suffixedJson.isWildcardType = false ∧ suffixedJson.isWildcardSubtype = true ∧
        suffixedJson.media.suffix? = some "json" := by decide
    have spelled : suffixedJson.media.type = "application" ∧
        suffixedJson.media.subtype = "*+json" := ⟨rfl, rfl⟩
    have parts : range.media.type = "application" ∧
        (range.media.subtype = "*+json" ∨ "json" = range.media.subtype ∨
          some "json" = range.media.suffix?) := by
      simpa [isCompatible, single, general, spelled, subtype, sharesSuffix] using suffixed
    refine ⟨parts.1, ?_⟩
    rcases parts.2 with wildcard | own | suffix
    · exact .inr ⟨"*", by decide, wildcard.trans rfl⟩
    · exact .inl own.symm
    · obtain ⟨spelled, given, -⟩ := MediaType.subtype_eq_of_suffix? suffix.symm
      exact .inr ⟨_, given, spelled.trans (String.append_assoc ..)⟩

/-- A client that accepts all subtypes of `application` is sent JSON as `application/json`. -/
theorem isConcrete_mostSpecific_json (wildcard : range.isWildcardSubtype = true) :
    (range.mostSpecific json).isConcrete = true := by
  have least : json.specificityRank = 0 ∧ json.isConcrete = true := by decide
  have ranked : ¬ range.specificityRank ≤ json.specificityRank := by
    rw [least.1, specificityRank, wildcard]
    split <;> simp
  rw [mostSpecific, if_neg ranked]
  exact least.2

/-- What is negotiated for JSON is a single type of its own. -/
theorem negotiated_json
    (negotiated : negotiate? accepted [json, suffixedJson] = some selected) :
    selected.isConcrete = true ∧
      (selected.isCompatible json = true ∨ selected.isCompatible suffixedJson = true) := by
  rcases negotiate?_eq_some negotiated with
    ⟨membership, single⟩ | ⟨general, rfl, candidate, membership, covers⟩
  · obtain ⟨range, -, other, produced, compatible, rfl⟩ := mem_candidates.mp membership
    have shared := (isCompatible_mostSpecific compatible).2
    refine ⟨single, ?_⟩
    rcases List.mem_pair.mp produced with rfl | rfl
    · exact .inl shared
    · exact .inr shared
  · obtain ⟨range, listed, other, produced, compatible, rfl⟩ := mem_candidates.mp membership
    have apart : octetStream.isCompatible other = false := by
      rcases List.mem_pair.mp produced with rfl | rfl <;> decide
    rcases isCompatible_octetStream_or_suffixed compatible covers with
      octets | ⟨type, subtype, -⟩
    · rw [apart] at octets
      cases octets
    -- The accepted range takes in `application/json` too, and that is a single type.
    · have compatible : range.isCompatible json = true := by
        have same : json.media.type = "application" := rfl
        simp [isCompatible, type, subtype, same]
      exact absurd
        ⟨_, mem_candidates.mpr ⟨range, listed, json, List.mem_cons_self, compatible, rfl⟩,
          isConcrete_mostSpecific_json (isWildcardSubtype_of_subtype subtype)⟩ general

end MediaRange

end Media

namespace Conversion.Registry

open Http (Response contentTypeName)
open Media (MediaRange MediaType)

variable {payload : Payload} {accepted produces : List MediaRange} {selected : MediaRange}
  {converter : Converter} {response written : Response}

theorem producible_json :
    standard.producible .json [] = [MediaRange.json, MediaRange.suffixedJson] := by
  decide

theorem writer_json (compatible : selected.isCompatible MediaRange.json = true ∨
    selected.isCompatible MediaRange.suffixedJson = true) :
    standard.writer .json selected = .ok .ofJson := by
  have reaches : reachesAny [MediaRange.json, MediaRange.suffixedJson] selected = true := by
    rw [MediaRange.isCompatible_comm selected, MediaRange.isCompatible_comm selected] at compatible
    rcases compatible with own | suffixed
    · simp [reachesAny, own]
    · simp [reachesAny, suffixed]
  have writes : Converter.ofJson.canWrite .json selected = true := reaches
  simp [writer, standard, Converter.ofOctets, Converter.ofText, writes]

/-- Some standard converter writes whatever is selected for a payload that is not a form. -/
theorem exists_writer (writable : payload.kind ≠ .form)
    (selection : standard.select payload.kind accepted [] = .ok selected) :
    ∃ converter body, standard.writer payload.kind selected = .ok converter ∧
      converter.write payload = .ok body := by
  cases payload with
  | octets content => exact ⟨_, content, writer_octets selected, rfl⟩
  | text content => exact ⟨_, Text.Utf8.encode content, writer_text selected, rfl⟩
  | json value =>
      have negotiated := select_eq_ok selection
      change MediaRange.negotiate? accepted (standard.producible .json []) = _ at negotiated
      rw [producible_json] at negotiated
      exact ⟨_, _, writer_json (MediaRange.negotiated_json negotiated).2, rfl⟩
  | form entries => exact absurd rfl writable

theorem all_fieldChar_charset :
    ∀ converter ∈ standard.converters, ∀ name ∈ converter.charset,
      name.toList.all Http.isFieldChar = true := by
  decide

/-- The content type of what a standard converter writes may be sent. -/
theorem isFieldValue_contentTypeText (spelled : selected.media.Spelled)
    (membership : converter ∈ standard.converters) :
    Http.isFieldValue (Text.Utf8.encode (contentTypeText selected converter.charset)) = true := by
  have text : selected.text.toList.all Http.isFieldChar = true := spelled.all_fieldChar
  rw [Http.isFieldValue_encode]
  unfold contentTypeText
  split
  case h_1 => exact text
  case h_2 name charset =>
      split
      case h_1 => exact text
      case h_2 =>
          have sign : "; charset=".toList.all Http.isFieldChar = true := by decide
          have named := all_fieldChar_charset converter membership name charset
          rw [String.toList_append, String.toList_append, List.all_append, List.all_append, text,
            sign, named]
          rfl

theorem status_of_withContentType {contentType : String}
    (succeeds : withContentType response contentType = .ok written) :
    written.status = response.status := by
  simp only [withContentType] at succeeds
  split at succeeds
  · cases succeeds
    rfl
  · split at succeeds
    · cases succeeds
      rfl
    · cases succeeds

/-- Writing a payload leaves the status of the response alone. -/
theorem status_of_write {registry : Registry} {payload : Option Payload}
    (succeeds : registry.write payload accepted produces response = .ok written) :
    written.status = response.status := by
  cases payload with
  | none =>
      cases succeeds
      rfl
  | some present =>
      obtain ⟨selected, converter, described, body, -, -, -, description, rfl⟩ :=
        writePayload_eq_ok succeeds
      exact Response.status_withLength.trans (status_of_withContentType description)

/-- Octets are written as they are. -/
theorem body_of_write_octets {content : Octets}
    (succeeds : standard.write (some (.octets content)) accepted produces response = .ok written) :
    written.body = content := by
  obtain ⟨selected, converter, described, body, -, writing, octets, -, rfl⟩ :=
    writePayload_eq_ok succeeds
  obtain rfl := Except.ok.inj ((writer_octets selected).symm.trans writing)
  exact (Except.ok.inj octets).symm

theorem withContentType_succeeds (response : Response) {contentType : String}
    (allowed : Http.isFieldValue (Text.Utf8.encode contentType) = true) :
    ∃ described, withContentType response contentType = .ok described := by
  simp only [withContentType, allowed, if_true]
  split
  · exact ⟨_, rfl⟩
  · exact ⟨_, rfl⟩

/-- A payload that is not a form is written where a media type is selected for it. -/
theorem writePayload_succeeds (response : Response) (writable : payload.kind ≠ .form)
    (spelled : selected.media.Spelled)
    (selection : standard.select payload.kind accepted [] = .ok selected) :
    ∃ written, standard.writePayload payload accepted [] response = .ok written := by
  obtain ⟨converter, body, writing, octets⟩ := exists_writer writable selection
  obtain ⟨described, description⟩ := withContentType_succeeds response
    (isFieldValue_contentTypeText spelled (writer_eq_ok writing).1)
  refine ⟨{ described.withLength body.length with body }, ?_⟩
  simp only [writePayload, selection, writing, octets, description, bind, Except.bind, pure,
    Except.pure]

/-- A payload that is not a form is written exactly if a media type is selected for it. -/
theorem written_or_unacceptable (response : Response) (writable : payload.kind ≠ .form)
    (acceptedRead : ∀ range ∈ accepted, ∃ text, MediaRange.parse? text = some range) :
    (∃ selected written, standard.select payload.kind accepted [] = .ok selected ∧
      standard.write (some payload) accepted [] response = .ok written) ∨
    (∃ producible,
      standard.select payload.kind accepted [] = .error (.notAcceptable producible) ∧
      standard.write (some payload) accepted [] response = .error (.notAcceptable producible)) := by
  cases negotiated : MediaRange.negotiate? accepted (standard.producible payload.kind []) with
  | none =>
      have unselected : standard.select payload.kind accepted [] = .error (.notAcceptable
          (MediaRange.join (standard.producible payload.kind []))) := by
        simp only [select, choose, negotiated]
      refine .inr ⟨_, unselected, ?_⟩
      simp only [write, writePayload, unselected, bind, Except.bind]
  | some selected =>
      have selection : standard.select payload.kind accepted [] = .ok selected := by
        simp only [select, choose, negotiated]
      have spelled : selected.media.Spelled :=
        spelled_of_selected acceptedRead (List.forall_mem_nil _) selection
      obtain ⟨written, succeeds⟩ := writePayload_succeeds response writable spelled selection
      exact .inl ⟨selected, written, selection, succeeds⟩

/-- With the standard converters, whatever of octets, text and JSON is to be written for a client
and whatever it accepts, one of the converters writes it in the selected media type, or no media
type is acceptable.  What is selected for JSON is a JSON type. -/
theorem write_unless_unacceptable (writable : payload.kind ≠ .form)
    (acceptedRead : ∀ range ∈ accepted, ∃ text, MediaRange.parse? text = some range) :
    (∃ selected converter written,
      standard.select payload.kind accepted [] = .ok selected ∧
      standard.writer payload.kind selected = .ok converter ∧
      converter ∈ standard.converters ∧
      converter.canWrite payload.kind selected = true ∧
      (payload.kind = .json → selected.media.IsJson) ∧
      standard.write (some payload) accepted [] response = .ok written) ∨
    (∃ producible,
      standard.select payload.kind accepted [] = .error (.notAcceptable producible) ∧
      standard.write (some payload) accepted [] response = .error (.notAcceptable producible)) := by
  rcases written_or_unacceptable response writable acceptedRead with
    ⟨selected, written, selection, succeeds⟩ | refused
  · obtain ⟨converter, -, writing, -⟩ := exists_writer writable selection
    obtain ⟨membership, writes⟩ := writer_eq_ok writing
    refine .inl ⟨selected, converter, written, selection, writing, membership, writes, ?_, succeeds⟩
    intro json
    have negotiated := select_eq_ok selection
    rw [json, producible_json] at negotiated
    obtain ⟨single, shared⟩ := MediaRange.negotiated_json negotiated
    exact MediaRange.isJson_of_isCompatible single shared
  · exact .inr refused

/-- A client that accepts all subtypes is sent JSON, although octets could stand for them. -/
theorem write_unless_unacceptable_of_applications :
    (Payload.json .null).kind ≠ .form ∧
      (∀ range ∈ [applications], ∃ text, MediaRange.parse? text = some range) ∧
      ((∃ selected converter written,
        standard.select .json [applications] [] = .ok selected ∧
        standard.writer .json selected = .ok converter ∧
        converter ∈ standard.converters ∧ converter.canWrite .json selected = true ∧
        (PayloadKind.json = .json → selected.media.IsJson) ∧
        standard.write (some (.json .null)) [applications] [] (.ofStatus .ok) = .ok written) ∨
      (∃ producible, standard.select .json [applications] [] = .error (.notAcceptable producible) ∧
        standard.write (some (.json .null)) [applications] [] (.ofStatus .ok) =
          .error (.notAcceptable producible))) := by
  have read : ∀ range ∈ [applications], ∃ text, MediaRange.parse? text = some range := by
    intro range listed
    rw [List.mem_singleton.mp listed]
    exact ⟨"application/*", by decide⟩
  have writable : (Payload.json .null).kind ≠ .form := by decide
  exact ⟨writable, read, write_unless_unacceptable writable read⟩

end Conversion.Registry

end Switchyard
