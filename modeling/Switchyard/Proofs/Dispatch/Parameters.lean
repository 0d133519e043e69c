import Switchyard.Dispatch.Context
import Switchyard.Proofs.Conversion.Reading
import Switchyard.Proofs.Text.Decoding
import Switchyard.Proofs.Text.Split

/-!
# Parameters in form-encoded bodies

A form-encoded body is decoded twice: by the converter that reads it as a form, and for the
parameters of the request.  The two agree on the bodies that are UTF-8 and on no other one, as the
converter replaces octets that are none and the parameters are then those of an empty body.
-/

set_option autoImplicit false

namespace Switchyard

namespace Form

variable {octets : Octets} {form : Form} {name : String}

theorem get?_eq_head?_getAll (form : Form) (name : String) :
    form.get? name = (form.getAll name).head? := by
  rw [get?, getAll, List.head?_map, List.head?_filter]

/-- Octets without any entry are ampersands only, which are a text. -/
theorem exists_text_of_empty (none : ofOctets octets = .empty) :
    ∃ text, octets = Text.Utf8.encode text := by
  have ampersands : ∀ octet ∈ octets, octet = 38 := by
    intro octet membership
    by_contra other
    obtain ⟨piece, found, inPiece⟩ := Text.exists_mem_splitOn other membership
    have kept : entryOfPiece piece ∈ (ofOctets octets).entries :=
      List.mem_map_of_mem (List.mem_filter.mpr
        ⟨found, by simpa using List.ne_nil_of_mem inPiece⟩)
    rw [none] at kept
    cases kept
  refine ⟨String.ofList (List.replicate octets.length '&'), ?_⟩
  have spelled : String.utf8EncodeChar '&' = [38] := by decide
  rw [Text.Utf8.encode, String.toList_ofList, List.flatMap_replicate, spelled,
    List.flatten_replicate_singleton]
  exact List.eq_replicate_iff.mpr ⟨rfl, ampersands⟩

end Form

namespace Conversion.Registry

open Http (RequestHead)

variable {head : RequestHead} {body : Octets} {payload : Payload} {converter : Converter}

theorem eq_ofForm_of_canRead {contentType : Media.MediaRange}
    (membership : converter ∈ standard.converters)
    (reads : converter.canRead .form contentType = true) : converter = .ofForm := by
  simp only [standard, List.mem_cons, List.not_mem_nil, or_false] at membership
  rcases membership with rfl | rfl | rfl | rfl
  · cases reads
  · cases reads
  · cases reads
  · rfl

/-- A body is read as a form if it is there and declared to be one, and never fails to be. -/
theorem read_form_iff : standard.read .form head body = .ok (some payload) ↔
    body ≠ [] ∧ Qualifies .form head .ofForm ∧ payload = .form (.ofOctets body) := by
  by_cases empty : body = []
  · simp [empty, read_nil]
  cases qualified : standard.qualified? .form head with
  | none =>
      have unable := qualified?_eq_none_iff.mp qualified .ofForm (by simp [standard])
      rw [read_of_unqualified qualified empty]
      cases head.carriesBody <;> simp [unable]
  | some found =>
      obtain ⟨converter, contentType⟩ := found
      obtain ⟨declares, reads, earlier, later, split, -⟩ := qualified?_eq_some qualified
      obtain rfl := eq_ofForm_of_canRead (by simp [split]) reads
      have able : Qualifies .form head .ofForm := ⟨contentType, declares, reads⟩
      have whole : Converter.ofForm.read body contentType = .ok (.form (.ofOctets body)) := rfl
      rw [read_of_qualified qualified empty, whole]
      simp [able, empty, eq_comm]

end Conversion.Registry

namespace Dispatch.Context

open Conversion (Converter Registry)

variable {context : Context} {name : String} {contentType : Media.MediaType} {form : Form}

theorem parameters_of_unasked (unasked : context.queryForm.getAll name = []) :
    context.parameterValues name = context.bodyForm.getAll name ∧
      context.parameter name = context.bodyForm.get? name := by
  constructor
  · rw [parameterValues, unasked]
  · rw [parameter, Form.get?_eq_head?_getAll context.queryForm, unasked]
    rfl

theorem bodyForm_encode {text : String} (declared : context.head.contentType? = some contentType)
    (encoded : contentType.essence = Converter.formType.essence)
    (spelled : context.content = Text.Utf8.encode text) :
    context.bodyForm = .ofOctets context.content := by
  simp only [bodyForm, declared, encoded, if_true, spelled, Text.Utf8.decodeText_encode]
  rfl

theorem bodyForm_of_flawed (flawed : ∀ text, context.content ≠ Text.Utf8.encode text) :
    context.bodyForm = .empty := by
  unfold bodyForm
  split
  case h_1 => rfl
  case h_2 =>
      split
      case isFalse => rfl
      case isTrue =>
          split
          case h_1 text decoded =>
              exact absurd (Text.Utf8.decodeText_eq_ok_iff.mp decoded) (flawed text)
          case h_2 => rfl

/-- A body that is read as a form has the parameters of that form exactly if it is UTF-8.  If it is
not, only names that the form lacks too are answered alike. -/
theorem parameters_read_iff (declared : context.head.contentType? = some contentType)
    (encoded : contentType.essence = Converter.formType.essence)
    (read : Registry.standard.read .form context.head context.content = .ok (some (.form form))) :
    (context.bodyForm = form ↔ ∃ text, context.content = Text.Utf8.encode text) ∧
      ∀ name, context.queryForm.getAll name = [] →
        ((context.parameterValues name = form.getAll name ∧
            context.parameter name = form.get? name) ↔
          (∃ text, context.content = Text.Utf8.encode text) ∨ form.getAll name = []) := by
  obtain ⟨-, -, same⟩ := Registry.read_form_iff.mp read
  obtain rfl := Payload.form.inj same
  by_cases legible : ∃ text, context.content = Text.Utf8.encode text
  · obtain ⟨text, spelled⟩ := legible
    have agree := bodyForm_encode declared encoded spelled
    refine ⟨iff_of_true agree ⟨text, spelled⟩, fun name unasked => ?_⟩
    obtain ⟨values, value⟩ := parameters_of_unasked unasked
    rw [agree] at values value
    exact iff_of_true ⟨values, value⟩ (.inl ⟨text, spelled⟩)
  · have nothing := bodyForm_of_flawed (not_exists.mp legible)
    constructor
    · rw [nothing]
      exact iff_of_false (fun empty => legible (Form.exists_text_of_empty empty.symm)) legible
    · intro name unasked
      obtain ⟨values, value⟩ := parameters_of_unasked unasked
      rw [nothing] at values value
      rw [values, value, Form.get?_eq_head?_getAll (.ofOctets context.content)]
      constructor
      · rintro ⟨lacks, -⟩
        exact .inr lacks.symm
      · rintro (spelled | lacks)
        · exact absurd spelled legible
        · rw [lacks]
          exact ⟨rfl, rfl⟩

/-- A request with the form data `b=1&a=`, and an octet behind it. -/
def submitting (octet : UInt8) : Context where
  head := ⟨.post, .origin "/" none, .http11,
    ⟨[⟨Http.contentTypeName, Text.Utf8.encode "application/x-www-form-urlencoded"⟩]⟩⟩
  content := [98, 61, 49, 38, 97, 61, octet]

theorem parse?_formType : Media.MediaType.parse? "application/x-www-form-urlencoded" =
    some Converter.formType :=
  rfl

theorem visible?_formType : Text.visible? (Text.Utf8.encode "application/x-www-form-urlencoded") =
    some "application/x-www-form-urlencoded" :=
  rfl

theorem declared_submitting (octet : UInt8) :
    (submitting octet).head.contentType? = some Converter.formType := by
  have named : (submitting octet).head.fields.text? Http.contentTypeName =
      some "application/x-www-form-urlencoded" := visible?_formType
  rw [Http.RequestHead.contentType?, named]
  exact parse?_formType

theorem read_submitting (octet : UInt8) :
    Registry.standard.read .form (submitting octet).head (submitting octet).content =
      .ok (some (.form (.ofOctets (submitting octet).content))) := by
  have untrimmed : Text.trim "application/x-www-form-urlencoded" =
      "application/x-www-form-urlencoded" := rfl
  have declares : Conversion.Declares (submitting octet).head (.ofMedia Converter.formType) := by
    refine .named rfl visible?_formType ?_
    rw [Media.MediaRange.parse?, untrimmed, parse?_formType]
    rfl
  exact Registry.read_form_iff.mpr ⟨by simp [submitting], ⟨_, declares, by decide⟩, rfl⟩

theorem parameters_read_iff_of_submitted :
    (submitting 50).head.contentType? = some Converter.formType ∧
      Converter.formType.essence = "application/x-www-form-urlencoded" ∧
      Registry.standard.read .form (submitting 50).head (submitting 50).content =
        .ok (some (.form ⟨[("b", "1"), ("a", "2")]⟩)) ∧
      (submitting 50).bodyForm = ⟨[("b", "1"), ("a", "2")]⟩ ∧
      (submitting 50).parameter "b" = some "1" := by
  have read := read_submitting 50
  have form : Form.ofOctets (submitting 50).content = ⟨[("b", "1"), ("a", "2")]⟩ := rfl
  rw [form] at read
  obtain ⟨agree, answers⟩ := parameters_read_iff (declared_submitting 50) rfl read
  have legible : ∃ text, (submitting 50).content = Text.Utf8.encode text := ⟨"b=1&a=2", rfl⟩
  exact ⟨declared_submitting 50, rfl, read, agree.mpr legible,
    ((answers "b" rfl).mpr (.inl legible)).2⟩

/-- One octet that is not UTF-8 takes all parameters away, of which the form that is read has
both. -/
theorem parameter_submitting_flawed :
    (submitting 255).head.contentType? = some Converter.formType ∧
      Registry.standard.read .form (submitting 255).head (submitting 255).content =
        .ok (some (.form (.ofOctets (submitting 255).content))) ∧
      (Form.ofOctets (submitting 255).content).entries = [("b", "1"), ("a", "\uFFFD")] ∧
      (submitting 255).queryForm.getAll "b" = [] ∧
      (submitting 255).parameterValues "b" = [] ∧ (submitting 255).parameter "b" = none := by
  have declared := declared_submitting 255
  have nothing : (submitting 255).bodyForm = .empty := by
    rw [bodyForm, declared]
    rfl
  obtain ⟨values, value⟩ :=
    parameters_of_unasked (rfl : (submitting 255).queryForm.getAll "b" = [])
  rw [nothing] at values value
  exact ⟨declared, read_submitting 255, rfl, rfl, values, value⟩

end Dispatch.Context

end Switchyard
