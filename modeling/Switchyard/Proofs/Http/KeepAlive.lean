import Switchyard.Http.Request
import Switchyard.Http.Response
import Switchyard.Proofs.Http.Fields
import Switchyard.Proofs.Text.Split

/-!
# Connections that stay open

The options of a connection may be listed on one field or on several.  Whether a response asks for
the connection to be closed depends on all that are listed; whether a request keeps it open depends
on those of the first field.  The two come to the same unless the option that decides is listed on
a later field only.
-/

set_option autoImplicit false

namespace Switchyard.Http

namespace Fields

variable {fields : Fields} {option : String}

/-- The options that the connection fields list, from all lines that are legible. -/
def options (fields : Fields) : List String :=
  (fields.texts connectionName).flatMap fun line => (Text.fields ',' line).map Text.trim

def Lists (fields : Fields) (option : String) : Prop :=
  ∃ item ∈ fields.options, Text.sameIgnoringCase item option = true

instance (fields : Fields) (option : String) : Decidable (fields.Lists option) :=
  inferInstanceAs (Decidable (∃ item ∈ fields.options, _))

/-- Whether an option is listed, but not on the first connection field. -/
structure Overlooks (fields : Fields) (option : String) : Prop where
  listed : fields.Lists option
  later : ∀ line, fields.text? connectionName = some line → hasOption option line = false

theorem lists_iff : fields.Lists option ↔
    ∃ line ∈ fields.texts connectionName, hasOption option line = true := by
  simp only [Lists, options, hasOption, List.mem_flatMap, List.mem_map, List.any_eq_true]
  constructor
  · rintro ⟨_, ⟨line, listed, item, inLine, rfl⟩, same⟩
    exact ⟨line, listed, item, inLine, same⟩
  · rintro ⟨line, listed, item, inLine, same⟩
    exact ⟨_, ⟨line, listed, item, inLine, rfl⟩, same⟩

theorem mem_texts_of_text? {name line : String} (first : fields.text? name = some line) :
    line ∈ fields.texts name := by
  obtain ⟨value, found, visible⟩ := Option.bind_eq_some_iff.mp first
  rw [get?_eq_head?_getAll] at found
  exact List.mem_filterMap.mpr ⟨value, List.mem_of_head? found, visible⟩

/-- The first connection field says what all of them say, unless it is what overlooks the option. -/
theorem any_text?_iff : (fields.text? connectionName).any (hasOption option) = true ↔
    fields.Lists option ∧ ¬ fields.Overlooks option := by
  rw [Option.any_eq_true]
  constructor
  · rintro ⟨line, first, has⟩
    refine ⟨lists_iff.mpr ⟨line, mem_texts_of_text? first, has⟩, fun overlooked => ?_⟩
    simp [overlooked.later line first] at has
  · rintro ⟨listed, seen⟩
    by_contra absent
    refine seen ⟨listed, fun line first => ?_⟩
    by_contra has
    exact absent ⟨line, first, by simpa using has⟩

/-- A single connection field overlooks nothing. -/
theorem not_overlooks_of_single (single : (fields.getAll connectionName).length ≤ 1) :
    ¬ fields.Overlooks option := by
  rintro ⟨listed, later⟩
  obtain ⟨line, inTexts, has⟩ := lists_iff.mp listed
  obtain ⟨value, inValues, visible⟩ := List.mem_filterMap.mp inTexts
  obtain ⟨head, only⟩ : ∃ head, fields.getAll connectionName = [head] := by
    apply List.length_eq_one_iff.mp
    have := List.length_pos_of_mem inValues
    omega
  obtain rfl : value = head := by simpa [only] using inValues
  have first : fields.text? connectionName = some line := by
    simp [text?, get?_eq_head?_getAll, only, visible]
  simp [later line first] at has

/-- All legible connection fields on one line. -/
def folded (fields : Fields) : Fields :=
  fields.set connectionName
    (List.intercalate [44]
      ((fields.getAll connectionName).filter fun value => value.all Text.isVisibleOctet))

theorem hasOption_append (option line other : String) :
    hasOption option (line ++ "," ++ other) =
      (hasOption option line || hasOption option other) := by
  have cut : Text.fields ',' (line ++ "," ++ other) =
      Text.fields ',' line ++ Text.fields ',' other := Text.fields_append ',' line other
  simp [hasOption, cut]

theorem visible?_append {before after : Octets} {line other : String}
    (visible : Text.visible? before = some line) (alsoVisible : Text.visible? after = some other) :
    Text.visible? (before ++ 44 :: after) = some (line ++ "," ++ other) := by
  simp only [Text.visible?, Option.ite_none_right_eq_some, Option.some.injEq] at visible alsoVisible
  obtain ⟨legible, rfl⟩ := visible
  obtain ⟨alsoLegible, rfl⟩ := alsoVisible
  have comma : Text.isVisibleOctet 44 = true := by decide
  have all : (before ++ 44 :: after).all Text.isVisibleOctet = true := by
    simp [-List.all_eq_true, legible, alsoLegible, comma]
  rw [Text.visible?, if_pos all, Option.some.injEq, ← String.toList_inj]
  simp

/-- Lines that are written one after another with commas between them list what they list apart. -/
theorem visible?_intercalate (named : hasOption option "" = false) (values : List Octets)
    (legible : ∀ value ∈ values, value.all Text.isVisibleOctet = true) :
    ∃ line, Text.visible? (List.intercalate [44] values) = some line ∧
      hasOption option line = (values.filterMap Text.visible?).any (hasOption option) := by
  induction values with
  | nil => exact ⟨"", rfl, by simpa using named⟩
  | cons value rest inductionHypothesis =>
      rw [List.forall_mem_cons] at legible
      obtain ⟨line, visible⟩ : ∃ line, Text.visible? value = some line :=
        ⟨_, by rw [Text.visible?, if_pos legible.1]⟩
      obtain ⟨joined, together, listed⟩ := inductionHypothesis legible.2
      cases rest with
      | nil => exact ⟨line, by simpa [List.intercalate] using visible, by simp [visible]⟩
      | cons next others =>
          refine ⟨line ++ "," ++ joined, ?_, ?_⟩
          · have := visible?_append visible together
            simpa [List.intercalate] using this
          · rw [hasOption_append, listed]
            simp [visible]

theorem lists_folded (fields : Fields) (named : hasOption option "" = false) :
    fields.folded.Lists option ↔ fields.Lists option := by
  obtain ⟨line, visible, listed⟩ := visible?_intercalate named
    ((fields.getAll connectionName).filter fun value => value.all Text.isVisibleOctet) (by simp)
  have single : fields.folded.texts connectionName = [line] := by
    simp [texts, folded, visible]
  have skipped : ((fields.getAll connectionName).filter fun value =>
      value.all Text.isVisibleOctet).filterMap Text.visible? = fields.texts connectionName := by
    rw [List.filterMap_filter, texts]
    refine List.filterMap_congr fun value _ => ?_
    simp only [Text.visible?]
    split <;> rfl
  rw [skipped] at listed
  rw [lists_iff, lists_iff, single, ← List.any_eq_true, ← List.any_eq_true, ← listed]
  simp

end Fields

namespace RequestHead

/-- The option of a connection that decides whether it stays open. -/
def decidingOption? (version : Version) : Option String :=
  match version with
  | .http11 | .http2 | .http3 => some "close"
  | .http10 => some "keep-alive"
  | .http09 => none

/-- Whether the connection is to stay open by all the options that a request lists. -/
def StaysOpen (head : RequestHead) : Prop :=
  match head.version with
  | .http11 | .http2 | .http3 => ¬ head.fields.Lists "close"
  | .http10 => head.fields.Lists "keep-alive"
  | .http09 => False

theorem staysOpen_iff_of_seen {head : RequestHead}
    (seen : ∀ option ∈ decidingOption? head.version, ¬ head.fields.Overlooks option) :
    head.isKeepAlive = true ↔ head.StaysOpen := by
  unfold isKeepAlive StaysOpen
  cases version : head.version <;>
    simp_all [decidingOption?, Fields.any_text?_iff, ← Bool.not_eq_true]

theorem staysOpen_iff_of_overlooks {head : RequestHead} {option : String}
    (deciding : decidingOption? head.version = some option)
    (overlooked : head.fields.Overlooks option) :
    head.isKeepAlive = true ↔ ¬ head.StaysOpen := by
  have listed := overlooked.listed
  unfold isKeepAlive StaysOpen
  cases version : head.version <;>
    simp_all [decidingOption?, Fields.any_text?_iff, ← Bool.not_eq_true]

/-- A request keeps its connection open as all its options ask for, exactly if the option that
decides is not overlooked; with its options on a single line it always does.  A response asks for
the connection to be closed wherever it lists that. -/
theorem isKeepAlive_iff_staysOpen (head : RequestHead) (response : Response) :
    ((head.isKeepAlive = true ↔ head.StaysOpen) ↔
        ∀ option ∈ decidingOption? head.version, ¬ head.fields.Overlooks option) ∧
      (isKeepAlive { head with fields := head.fields.folded } = true ↔ head.StaysOpen) ∧
      (response.wantsClose = true ↔ response.fields.Lists "close") := by
  refine ⟨⟨fun agrees option deciding overlooked => ?_, staysOpen_iff_of_seen⟩, ?_, ?_⟩
  · have differs := staysOpen_iff_of_overlooks deciding overlooked
    rw [agrees] at differs
    exact iff_not_self differs
  · have single : (head.fields.folded.getAll connectionName).length ≤ 1 := by
      simp [Fields.folded]
    rw [staysOpen_iff_of_seen fun option _ => Fields.not_overlooks_of_single single]
    unfold StaysOpen
    have close := Fields.lists_folded head.fields (by decide : hasOption "close" "" = false)
    have keep := Fields.lists_folded head.fields (by decide : hasOption "keep-alive" "" = false)
    cases head.version <;> simp only [close, keep]
  · rw [Fields.lists_iff, Response.wantsClose, List.any_eq_true]

/-- A request that lists one option first and another one behind it, each on a field of its own. -/
def twofold (version : Version) (first second : String) : RequestHead :=
  { method := .get
    target := .origin "/k" none
    version
    fields :=
      ⟨[⟨connectionName, Text.Utf8.encode first⟩, ⟨connectionName, Text.Utf8.encode second⟩]⟩ }

instance (head : RequestHead) : Decidable head.StaysOpen := by
  unfold StaysOpen
  split <;> infer_instance

/-- A connection stays open though the client has asked for closing it, and is closed though the
client has asked for keeping it, where that is asked for on the second field.  A response with the
same fields does close the connection. -/
theorem twofold_isKeepAlive :
    (twofold .http11 "keep-alive" "close").isKeepAlive = true ∧
      ¬ (twofold .http11 "keep-alive" "close").StaysOpen ∧
      (twofold .http10 "x" "keep-alive").isKeepAlive = false ∧
      (twofold .http10 "x" "keep-alive").StaysOpen ∧
      Response.wantsClose
        { Response.ofStatus .ok with
          fields := (twofold .http11 "keep-alive" "close").fields } = true := by
  decide +kernel

end RequestHead

end Switchyard.Http
