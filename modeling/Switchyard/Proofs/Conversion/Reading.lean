import Mathlib.Data.List.Basic
import Switchyard.Conversion.Registry

/-!
# Which converter reads a body

A body that is there is read by the first converter that qualifies for it, and by no other one.  If
none does, the body is passed over where the method carries none, and refused otherwise.
-/

set_option autoImplicit false

namespace Switchyard.Conversion

open Http (Method RequestHead contentTypeName)
open Media (MediaRange)

/-- A converter with what it is called to read. -/
structure Call where
  converter : Converter
  body : Octets
  contentType : MediaRange

/-- Steps that call converters, with all calls noted in their order. -/
abbrev Calling := StateM (List Call)

def Call.perform (call : Call) : Calling (Except String Payload) := do
  modify fun calls => calls ++ [call]
  return call.converter.read call.body call.contentType

/-- The media type that a request declares, which is octets if it names none. -/
inductive Declares (head : RequestHead) : MediaRange → Prop where
  | silent (unnamed : head.fields.get? contentTypeName = none) : Declares head .octetStream
  | named {value : Octets} {text : String} {contentType : MediaRange}
      (first : head.fields.get? contentTypeName = some value)
      (legible : Text.visible? value = some text)
      (parsed : MediaRange.parse? text = some contentType) : Declares head contentType

/-- Whether a converter reads a kind of payload from the media type that a request declares. -/
def Qualifies (kind : PayloadKind) (head : RequestHead) (converter : Converter) : Prop :=
  ∃ contentType, Declares head contentType ∧ converter.canRead kind contentType = true

namespace Registry

/-- Reads a body as `read` does, and notes the calls. -/
def reading (registry : Registry) (kind : PayloadKind) (head : RequestHead) (body : Octets) :
    Calling (Except Failure (Option Payload)) := do
  match registry.qualified? kind head with
  | none =>
      if !head.carriesBody || body.isEmpty then return .ok none
      else return .error (.unsupportedMediaType (declaredText head))
  | some (converter, contentType) =>
      if body.isEmpty then return .ok none
      else
        match ← Call.perform ⟨converter, body, contentType⟩ with
        | .ok payload => return .ok (some payload)
        | .error reason => return .error (.conversionFailed .reading reason)

variable {registry : Registry} {kind : PayloadKind} {head : RequestHead} {body : Octets}
  {converter : Converter} {contentType : MediaRange}

theorem declaredType?_eq_some_iff :
    declaredType? head = some contentType ↔ Declares head contentType := by
  unfold declaredType?
  constructor
  · intro declared
    split at declared
    case h_1 unnamed =>
        obtain rfl := Option.some.inj declared
        exact .silent unnamed
    case h_2 value first =>
        obtain ⟨text, legible, parsed⟩ := Option.bind_eq_some_iff.mp declared
        exact .named first legible parsed
  · rintro (unnamed | ⟨first, legible, parsed⟩)
    · simp [unnamed]
    · simp [first, legible, parsed]

theorem carriesBody_iff : head.carriesBody = true ↔ head.method ∈ [Method.post, .put, .patch] := by
  unfold RequestHead.carriesBody Method.carriesBody
  cases head.method <;> simp

theorem qualified?_eq_none_iff :
    registry.qualified? kind head = none ↔
      ∀ converter ∈ registry.converters, ¬ Qualifies kind head converter := by
  unfold qualified? Qualifies
  cases declared : declaredType? head with
  | none =>
      refine iff_of_true rfl ?_
      rintro converter - ⟨contentType, declares, -⟩
      simp [declaredType?_eq_some_iff.mpr declares] at declared
  | some contentType =>
      have only (other : MediaRange) : Declares head other ↔ contentType = other := by
        rw [← declaredType?_eq_some_iff, declared, Option.some.injEq]
      simp [reader?, only]

/-- The converter that qualifies comes before all others that do. -/
theorem qualified?_eq_some
    (qualified : registry.qualified? kind head = some (converter, contentType)) :
    Declares head contentType ∧ converter.canRead kind contentType = true ∧
      ∃ earlier later, registry.converters = earlier ++ converter :: later ∧
        ∀ other ∈ earlier, other.canRead kind contentType = false := by
  unfold qualified? at qualified
  split at qualified
  case h_1 => cases qualified
  case h_2 declared =>
      obtain ⟨first, found, same⟩ := Option.map_eq_some_iff.mp qualified
      obtain ⟨rfl, rfl⟩ := Prod.mk.inj same
      obtain ⟨reads, earlier, later, split, unable⟩ := List.find?_eq_some_iff_append.mp found
      exact ⟨declaredType?_eq_some_iff.mp declared, reads, earlier, later, split,
        by simpa using unable⟩

theorem read_nil (registry : Registry) (kind : PayloadKind) (head : RequestHead) :
    registry.read kind head [] = .ok none := by
  unfold read
  cases registry.qualified? kind head <;> simp

theorem read_of_unqualified (unqualified : registry.qualified? kind head = none)
    (given : body ≠ []) :
    registry.read kind head body =
      if head.carriesBody then .error (.unsupportedMediaType (declaredText head))
      else .ok none := by
  cases carries : head.carriesBody <;> simp [read, unqualified, carries, given]

theorem read_of_qualified
    (qualified : registry.qualified? kind head = some (converter, contentType))
    (given : body ≠ []) :
    registry.read kind head body =
      match converter.read body contentType with
      | .ok payload => .ok (some payload)
      | .error reason => .error (.conversionFailed .reading reason) := by
  have filled : body.isEmpty = false := List.isEmpty_eq_false_iff.mpr given
  simp only [read, qualified, filled]
  rfl

/-- A body is read with a single call if it is there and a converter qualifies, and with none
otherwise. -/
theorem run_reading (registry : Registry) (kind : PayloadKind) (head : RequestHead)
    (body : Octets) (calls : List Call) :
    (registry.reading kind head body).run calls =
      (registry.read kind head body, calls ++
        if body = [] then []
        else (registry.qualified? kind head).toList.map fun found => ⟨found.1, body, found.2⟩) := by
  unfold reading read
  cases qualified : registry.qualified? kind head with
  | none =>
      cases unread : !head.carriesBody || body.isEmpty <;> simp <;> rfl
  | some found =>
      obtain ⟨converter, contentType⟩ := found
      by_cases empty : body = []
      · simp [empty]
        rfl
      · cases outcome : converter.read body contentType <;>
          simp [empty, Call.perform, outcome] <;> rfl

theorem read_eq_none_iff : registry.read kind head body = .ok none ↔
    body = [] ∨ (head.carriesBody = false ∧ registry.qualified? kind head = none) := by
  by_cases empty : body = []
  · simp [empty, read_nil]
  cases qualified : registry.qualified? kind head with
  | none =>
      rw [read_of_unqualified qualified empty]
      cases head.carriesBody <;> simp [empty]
  | some found =>
      rw [read_of_qualified qualified empty]
      cases found.1.read body found.2 <;> simp [empty]

theorem read_unsupported_iff :
    (∃ declared, registry.read kind head body = .error (.unsupportedMediaType declared)) ↔
      body ≠ [] ∧ head.carriesBody = true ∧ registry.qualified? kind head = none := by
  by_cases empty : body = []
  · simp [empty, read_nil]
  cases qualified : registry.qualified? kind head with
  | none =>
      rw [read_of_unqualified qualified empty]
      cases head.carriesBody <;> simp [empty]
  | some found =>
      rw [read_of_qualified qualified empty]
      cases found.1.read body found.2 <;> simp

/-- Converters behind the one that qualifies make no difference. -/
theorem qualified?_append {found : Converter × MediaRange} (more : List Converter)
    (qualified : registry.qualified? kind head = some found) :
    qualified? ⟨registry.converters ++ more⟩ kind head = some found := by
  unfold qualified? at qualified ⊢
  split at qualified
  case h_1 => cases qualified
  case h_2 contentType declared =>
      obtain ⟨converter, first, rfl⟩ := Option.map_eq_some_iff.mp qualified
      rw [reader?] at first
      simp [reader?, first]

theorem exists_qualified
    (qualifies : ∃ converter ∈ registry.converters, Qualifies kind head converter) :
    ∃ found, registry.qualified? kind head = some found := by
  rw [← Option.ne_none_iff_exists']
  intro none
  obtain ⟨converter, listed, able⟩ := qualifies
  exact qualified?_eq_none_iff.mp none converter listed able

/-- There is nothing to read exactly if the body is empty, or if the method carries none and no
converter qualifies; a body that is carried is refused exactly if no converter qualifies.  Otherwise
the first converter that does is called, once and with the whole body, and no other one is.  So a
body that is carried is never passed over, and converters that are added behind those that there
are change nothing where one of these qualifies. -/
theorem read_calls_first (registry : Registry) (kind : PayloadKind) (head : RequestHead)
    (body : Octets) :
    (registry.read kind head body = .ok none ↔
        body = [] ∨ (head.method ∉ [Method.post, .put, .patch] ∧
          ∀ converter ∈ registry.converters, ¬ Qualifies kind head converter)) ∧
      ((∃ declared, registry.read kind head body = .error (.unsupportedMediaType declared)) ↔
        body ≠ [] ∧ head.method ∈ [Method.post, .put, .patch] ∧
          ∀ converter ∈ registry.converters, ¬ Qualifies kind head converter) ∧
      ((body = [] ∨ ∀ converter ∈ registry.converters, ¬ Qualifies kind head converter) →
        (registry.reading kind head body).run [] = (registry.read kind head body, [])) ∧
      ((body ≠ [] ∧ ∃ converter ∈ registry.converters, Qualifies kind head converter) →
        ∃ contentType earlier converter later,
          Declares head contentType ∧
          registry.converters = earlier ++ converter :: later ∧
          converter.canRead kind contentType = true ∧
          (∀ other ∈ earlier, other.canRead kind contentType = false) ∧
          (registry.reading kind head body).run [] =
            (registry.read kind head body, [⟨converter, body, contentType⟩]) ∧
          registry.read kind head body =
            match converter.read body contentType with
            | .ok payload => .ok (some payload)
            | .error reason => .error (.conversionFailed .reading reason)) ∧
      (body ≠ [] → head.method ∈ [Method.post, .put, .patch] →
        registry.read kind head body ≠ .ok none) ∧
      ((∃ converter ∈ registry.converters, Qualifies kind head converter) →
        ∀ more, read ⟨registry.converters ++ more⟩ kind head body =
          registry.read kind head body) := by
  simp only [← qualified?_eq_none_iff, ← carriesBody_iff, Bool.not_eq_true, run_reading,
    List.nil_append]
  refine ⟨read_eq_none_iff, read_unsupported_iff, ?_, ?_, ?_, ?_⟩
  · rintro (rfl | unqualified)
    · simp
    · simp [unqualified]
  · rintro ⟨given, qualifies⟩
    obtain ⟨⟨converter, contentType⟩, qualified⟩ := exists_qualified qualifies
    obtain ⟨declares, reads, earlier, later, split, unable⟩ := qualified?_eq_some qualified
    refine ⟨contentType, earlier, converter, later, declares, split, reads, unable, ?_,
      read_of_qualified qualified given⟩
    simp [given, qualified]
  · rintro given carries none
    simp [read_eq_none_iff, given, carries] at none
  · intro qualifies more
    obtain ⟨found, qualified⟩ := exists_qualified qualifies
    simp only [read, qualified, qualified?_append more qualified]

end Registry

end Switchyard.Conversion
