import Mathlib.Logic.Relation
import Switchyard.Media.Accept
import Switchyard.Proofs.Media.Parameters
import Switchyard.Proofs.Text.Split

/-!
# Lines of accepted ranges

The entries of an accept field may be distributed over lines in any way, with spaces around them and
with nothing between two commas.  What a client accepts depends on what its lines list only, and a
single line can list all of it.
-/

set_option autoImplicit false

namespace Switchyard

namespace Text

/-- Blanks that stand around a field and not between two. -/
def Padding (separator : Char) (chars : List Char) : Prop :=
  ∀ c ∈ chars, isBlank c = true ∧ c ≠ separator

namespace Padding

variable {separator : Char} {chars front back : List Char}

theorem nil : Padding separator [] :=
  List.forall_mem_nil _

theorem blank (padding : Padding separator chars) : ∀ c ∈ chars, isBlank c = true :=
  fun c membership => (padding c membership).1

theorem uncut (padding : Padding separator chars) : separator ∉ chars :=
  fun membership => (padding separator membership).2 rfl

theorem trimChars_around (leading : Padding separator front) (trailing : Padding separator back)
    (chars : List Char) : trimChars (front ++ (chars ++ back)) = trimChars chars := by
  have behind : back.dropWhile isBlank = [] := List.dropWhile_eq_nil_iff.mpr trailing.blank
  rw [trimChars, List.dropWhile_append_of_pos leading.blank, List.dropWhile_append, behind]
  split
  case isTrue empty => rw [trimChars, List.isEmpty_iff.mp empty]
  case isFalse =>
      have reversed : ∀ c ∈ back.reverse, isBlank c = true := by simpa using trailing.blank
      rw [List.reverse_append, List.dropWhile_append_of_pos reversed, trimChars]

/-- Padding at either end of a list is padding of its first or its last field. -/
theorem splitFrom_around (leading : Padding separator front) (trailing : Padding separator back)
    (begun items : List Char) :
    (splitFrom separator (begun ++ front.reverse) [] (items ++ back)).map trimChars =
      (splitFrom separator begun [] items).map trimChars := by
  induction items generalizing begun front with
  | nil =>
      have field : splitFrom separator (begun ++ front.reverse) [] back =
          [front ++ (begun.reverse ++ back)] := by
        have taken := splitFrom_append trailing.uncut (begun ++ front.reverse) []
        simpa [splitFrom] using taken
      rw [List.nil_append, field, List.map_singleton, trimChars_around leading trailing]
      rfl
  | cons head rest inductionHypothesis =>
      simp only [List.cons_append, splitFrom]
      split
      · have first : trimChars (front ++ begun.reverse) = trimChars begun.reverse := by
          simpa using trimChars_around leading .nil begun.reverse
        have others := inductionHypothesis .nil []
        rw [splitFrom_eq, splitFrom_eq separator [] [begun.reverse]]
        simpa [first] using others
      · exact inductionHypothesis leading (head :: begun)

end Padding

theorem map_trim_fields (separator : Char) (text : String) :
    (fields separator text).map trim =
      ((splitOn separator text.toList).map trimChars).map String.ofList := by
  simp [fields, trim, Function.comp_def]

theorem map_trim_fields_around {separator : Char} {front back : String}
    (leading : Padding separator front.toList) (trailing : Padding separator back.toList)
    (text : String) :
    (fields separator (front ++ text ++ back)).map trim = (fields separator text).map trim := by
  have taken := splitFrom_append leading.uncut [] (text.toList ++ back.toList)
  have padded := leading.splitFrom_around trailing [] text.toList
  rw [map_trim_fields, map_trim_fields, String.toList_append, String.toList_append,
    List.append_assoc, splitOn, taken, List.append_nil, ← List.nil_append front.toList.reverse,
    padded, splitOn]

end Text

namespace Media

open Http (acceptName)

theorem padding_spaces (count : Nat) : Text.Padding ',' (spaces count).toList := by
  intro c membership
  rw [spaces, String.toList_ofList] at membership
  rw [List.eq_of_mem_replicate membership]
  decide

/-- One way of listing the same entries on other lines: two lines are joined with a comma, spaces
are put around a line, or a line without an entry is put in.  Read backwards, a line is cut at a
comma, so that spaces and empty entries may stand around any comma. -/
inductive Respells : List String → List String → Prop
  | joined (line other : String) (rest : List String) :
      Respells (line :: other :: rest) ((line ++ "," ++ other) :: rest)
  | spaced (front back : Nat) (line : String) (rest : List String) :
      Respells (line :: rest) ((spaces front ++ line ++ spaces back) :: rest)
  | blank (count : Nat) (rest : List String) : Respells rest (spaces count :: rest)
  | later (line : String) {rest others : List String} (respells : Respells rest others) :
      Respells (line :: rest) (line :: others)

/-- Lines that list the same entries, by any number of respellings in either direction. -/
def Respelled : List String → List String → Prop :=
  Relation.EqvGen Respells

/-- Two texts with a comma between them, with spaces and empty entries put around the comma. -/
def padded (before : String) (front : Nat) (gaps : List Nat) (back : Nat) (after : String) :
    String :=
  String.intercalate "," ((before ++ spaces front) :: (gaps.map spaces ++ [spaces back ++ after]))

def Legible (lines : List String) : Prop :=
  ∀ line ∈ lines, line.toList.all Text.isVisibleChar = true

/-- What lines list, without the blanks around the entries. -/
def listed (lines : List String) : List String :=
  (lines.flatMap acceptEntries).map Text.trim

/-- The ranges of positive weight that entries spell. -/
def weighted (entries : List String) : List MediaRange :=
  (MediaRange.parseAll entries).filter fun range => range.quality.isPositive

/-- The ranges that are accepted, everything if none are named. -/
def orAny : List MediaRange → List MediaRange
  | [] => [.any]
  | ranges => ranges

variable {fields : Http.Fields} {lines respelled : List String}

@[simp]
theorem listed_cons (line : String) (rest : List String) :
    listed (line :: rest) = (acceptEntries line).map Text.trim ++ listed rest := by
  simp [listed]

@[simp]
theorem legible_cons (line : String) (rest : List String) :
    Legible (line :: rest) ↔ line.toList.all Text.isVisibleChar = true ∧ Legible rest :=
  List.forall_mem_cons

@[simp]
theorem all_visible_toList_spaces (count : Nat) :
    (spaces count).toList.all Text.isVisibleChar = true := by
  rw [spaces, String.toList_ofList, all_visible_spaces]

theorem map_trim_acceptEntries (line : String) : (acceptEntries line).map Text.trim =
    ((Text.fields ',' line).map Text.trim).filter fun entry => !entry.isEmpty := by
  simp only [acceptEntries, List.filter_map, Function.comp_def]

theorem acceptEntries_append (line other : String) :
    acceptEntries (line ++ "," ++ other) = acceptEntries line ++ acceptEntries other := by
  have cut : Text.fields ',' (line ++ "," ++ other) =
      Text.fields ',' line ++ Text.fields ',' other := Text.fields_append ',' line other
  rw [acceptEntries, cut, List.filter_append]
  rfl

theorem map_trim_acceptEntries_spaced (front back : Nat) (line : String) :
    (acceptEntries (spaces front ++ line ++ spaces back)).map Text.trim =
      (acceptEntries line).map Text.trim := by
  rw [map_trim_acceptEntries, map_trim_acceptEntries,
    Text.map_trim_fields_around (padding_spaces front) (padding_spaces back)]

theorem map_trim_acceptEntries_spaces (count : Nat) :
    (acceptEntries (spaces count)).map Text.trim = [] := by
  have spaced := map_trim_acceptEntries_spaced count 0 ""
  rwa [String.append_empty, show spaces 0 = "" from rfl, String.append_empty,
    show (acceptEntries "").map Text.trim = [] by decide] at spaced

namespace Respells

theorem listed_eq (respells : Respells lines respelled) : listed lines = listed respelled := by
  induction respells with
  | joined line other rest => simp [acceptEntries_append]
  | spaced front back line rest => simp [map_trim_acceptEntries_spaced]
  | blank count rest => simp [map_trim_acceptEntries_spaces]
  | later line _ inductionHypothesis => rw [listed_cons, listed_cons, inductionHypothesis]

theorem legible_iff (respells : Respells lines respelled) :
    Legible lines ↔ Legible respelled := by
  induction respells with
  | joined line other rest =>
      have comma : Text.isVisibleChar ',' = true := by decide
      simp [-List.all_eq_true, comma, and_assoc]
  | spaced front back line rest => simp [-List.all_eq_true]
  | blank count rest => simp [-List.all_eq_true]
  | later line _ inductionHypothesis => rw [legible_cons, legible_cons, inductionHypothesis]

theorem append (respells : Respells lines respelled) (others : List String) :
    Respells (lines ++ others) (respelled ++ others) := by
  induction respells with
  | joined line other rest => exact .joined line other (rest ++ others)
  | spaced front back line rest => exact .spaced front back line (rest ++ others)
  | blank count rest => exact .blank count (rest ++ others)
  | later line _ inductionHypothesis => exact .later line inductionHypothesis

end Respells

namespace Respelled

/-- Respelled lines list the same and are legible together. -/
theorem same (alike : Respelled lines respelled) :
    listed lines = listed respelled ∧ (Legible lines ↔ Legible respelled) := by
  induction alike with
  | rel _ _ respells => exact ⟨respells.listed_eq, respells.legible_iff⟩
  | refl => exact ⟨rfl, Iff.rfl⟩
  | symm _ _ _ inductionHypothesis =>
      exact ⟨inductionHypothesis.1.symm, inductionHypothesis.2.symm⟩
  | trans _ _ _ _ _ first second =>
      exact ⟨first.1.trans second.1, first.2.trans second.2⟩

/-- What carries respellings over carries any number of them over. -/
theorem map {change : List String → List String}
    (carries : ∀ {lines respelled}, Respells lines respelled →
      Respells (change lines) (change respelled))
    (alike : Respelled lines respelled) : Respelled (change lines) (change respelled) := by
  induction alike with
  | rel _ _ respells => exact .rel _ _ (carries respells)
  | refl => exact .refl _
  | symm _ _ _ inductionHypothesis => exact .symm _ _ inductionHypothesis
  | trans _ _ _ _ _ first second => exact .trans _ _ _ first second

theorem later (line : String) (alike : Respelled lines respelled) :
    Respelled (line :: lines) (line :: respelled) :=
  alike.map fun respells => .later line respells

theorem within (alike : Respelled lines respelled) (earlier others : List String) :
    Respelled (earlier ++ (lines ++ others)) (earlier ++ (respelled ++ others)) := by
  induction earlier with
  | nil =>
      rw [List.nil_append, List.nil_append]
      exact alike.map fun respells => respells.append others
  | cons line _ inductionHypothesis => exact inductionHypothesis.later line

/-- All lines can be joined into one. -/
theorem intercalate (lines : List String) :
    Respelled lines [String.intercalate "," lines] := by
  induction lines with
  | nil => exact .rel _ _ (.blank 0 [])
  | cons line rest inductionHypothesis =>
      cases rest with
      | nil => exact .refl [line]
      | cons other rest =>
          rw [String.intercalate_cons_cons]
          exact .trans _ _ _ (inductionHypothesis.later line) (.rel _ _ (.joined line _ []))

theorem blanks (gaps : List Nat) (rest : List String) :
    Respelled rest (gaps.map spaces ++ rest) := by
  induction gaps with
  | nil => exact .refl rest
  | cons gap _ inductionHypothesis =>
      exact .trans _ _ _ inductionHypothesis (.rel _ _ (.blank gap _))

theorem cut (before after : String) : Respelled [before ++ "," ++ after] [before, after] :=
  .symm _ _ (.rel _ _ (.joined before after []))

theorem padded (before : String) (front : Nat) (gaps : List Nat) (back : Nat) (after : String) :
    Respelled [before ++ "," ++ after] [Media.padded before front gaps back after] := by
  have leading : Respelled [before, after] [before ++ spaces front, after] := by
    have spaced := Respells.spaced 0 front before [after]
    rw [show spaces 0 = "" from rfl, String.empty_append] at spaced
    exact .rel _ _ spaced
  have trailing : Respelled [after] [spaces back ++ after] := by
    have spaced := Respells.spaced back 0 after []
    rw [show spaces 0 = "" from rfl, String.append_empty] at spaced
    exact .rel _ _ spaced
  have filled : Respelled [after] (gaps.map spaces ++ [spaces back ++ after]) :=
    .trans _ _ _ trailing (blanks gaps [spaces back ++ after])
  exact .trans _ _ _ (.trans _ _ _ (cut before after) leading)
    (.trans _ _ _ (filled.later (before ++ spaces front)) (intercalate _))

end Respelled

theorem texts_of_legible {name : String}
    (values : fields.getAll name = lines.map Text.Utf8.encode) (legible : Legible lines) :
    fields.texts name = lines := by
  rw [Http.Fields.texts, values, List.filterMap_map]
  refine (List.filterMap_congr fun line membership => ?_).trans List.filterMap_some
  rw [Function.comp_apply, Text.visible?_encode, if_pos (legible line membership)]

theorem parse?_of_blank {entry : String} (blank : (Text.trim entry).isEmpty = true) :
    MediaRange.parse? entry = none := by
  rw [MediaRange.parse?, String.isEmpty_iff.mp blank]
  rfl

/-- Blank entries need not be left out, since they spell no range. -/
theorem parseAll_acceptEntries (line : String) : MediaRange.parseAll (acceptEntries line) =
    MediaRange.parseAll (Text.fields ',' line) := by
  rw [MediaRange.parseAll, acceptEntries, List.filterMap_filter]
  refine List.filterMap_congr fun entry _ => ?_
  split
  case isTrue => rfl
  case isFalse blank => rw [parse?_of_blank (by simpa using blank)]

/-- The ranges that lines spell are those that their entries spell. -/
theorem exists_cut (lines : List String) : ∃ entries : List (List String),
    List.Forall₂ (Text.Cut ',') lines entries ∧
      weighted (lines.flatMap acceptEntries) = weighted entries.flatten := by
  refine ⟨lines.map (Text.fields ','), ?_, ?_⟩
  · rw [List.forall₂_map_right_iff]
    exact List.forall₂_same.mpr fun line _ => Text.cut_fields ',' line
  · simp only [weighted, MediaRange.parseAll]
    rw [List.filterMap_flatMap, List.filterMap_flatten, List.map_map, ← List.flatMap_def]
    congr 2
    funext line
    exact parseAll_acceptEntries line

/-- Which ranges entries spell depends on what they are without blanks. -/
theorem weighted_flatMap_acceptEntries (lines : List String) :
    weighted (lines.flatMap acceptEntries) =
      ((listed lines).filterMap fun text =>
        (MediaType.parse? text).bind MediaRange.ofParsed?).filter
          fun range => range.quality.isPositive := by
  have read : MediaRange.parse? =
      (fun text => (MediaType.parse? text).bind MediaRange.ofParsed?) ∘ Text.trim := by
    funext text
    rw [MediaRange.parse?, Function.comp_apply]
  rw [weighted, MediaRange.parseAll, read, ← List.filterMap_map, listed]

theorem acceptedRanges_eq (values : fields.getAll acceptName = lines.map Text.Utf8.encode)
    (legible : Legible lines) :
    acceptedRanges fields = orAny (weighted (lines.flatMap acceptEntries)) := by
  rw [← texts_of_legible values legible]
  rfl

theorem orAny_ne_nil (ranges : List MediaRange) : orAny ranges ≠ [] := by
  cases ranges <;> simp [orAny]

theorem isPositive_of_mem_orAny {entries : List String} {range : MediaRange}
    (membership : range ∈ orAny (weighted entries)) : range.quality.isPositive = true := by
  cases found : weighted entries with
  | nil =>
      rw [found, orAny, List.mem_singleton] at membership
      rw [membership]
      decide
  | cons =>
      have kept : range ∈ weighted entries := by
        rw [found] at membership ⊢
        exact membership
      exact (List.mem_filter.mp kept).2

/-- A client accepts the ranges of positive weight that the entries of its lines spell, in their
order, or everything if there are none.  Other lines that list the same entries accept the same:
those that are joined into one line, cut at a comma, or padded around it. -/
theorem acceptedRanges_of_lines (values : fields.getAll acceptName = lines.map Text.Utf8.encode)
    (legible : Legible lines) :
    acceptedRanges fields ≠ [] ∧
      (∀ range ∈ acceptedRanges fields, range.quality.isPositive = true) ∧
      (∃ entries : List (List String), List.Forall₂ (Text.Cut ',') lines entries ∧
        acceptedRanges fields = orAny (weighted entries.flatten)) ∧
      (∀ (others : Http.Fields) (respelled : List String), Respelled lines respelled →
        others.getAll acceptName = respelled.map Text.Utf8.encode →
        acceptedRanges others = acceptedRanges fields) ∧
      Respelled lines [String.intercalate "," lines] ∧
      ∀ (earlier later : List String) (before after : String),
        lines = earlier ++ (before ++ "," ++ after) :: later →
        Respelled lines (earlier ++ before :: after :: later) ∧
          ∀ (front back : Nat) (gaps : List Nat),
            Respelled lines (earlier ++ padded before front gaps back after :: later) := by
  have accepted := acceptedRanges_eq values legible
  refine ⟨?_, ?_, ?_, ?_, .intercalate lines, ?_⟩
  · rw [accepted]
    exact orAny_ne_nil _
  · rw [accepted]
    exact fun range membership => isPositive_of_mem_orAny membership
  · obtain ⟨entries, cut, same⟩ := exists_cut lines
    exact ⟨entries, cut, by rw [accepted, same]⟩
  · intro others respelled alike otherValues
    obtain ⟨listed_eq, legible_iff⟩ := alike.same
    rw [accepted, acceptedRanges_eq otherValues (legible_iff.mp legible),
      weighted_flatMap_acceptEntries, weighted_flatMap_acceptEntries, listed_eq]
  · rintro earlier later before after rfl
    constructor
    · exact (Respelled.cut before after).within earlier later
    · intro front back gaps
      exact (Respelled.padded before front gaps back after).within earlier later

/-- A request's accept fields, one for each line. -/
def accepting (lines : List String) : Http.Fields :=
  ⟨lines.map fun line => ⟨acceptName, Text.Utf8.encode line⟩⟩

theorem getAll_accepting (lines : List String) :
    (accepting lines).getAll acceptName = lines.map Text.Utf8.encode := by
  simp [accepting, Http.Fields.getAll, List.filter_map, Function.comp_def]

theorem acceptedRanges_of_lines_of_padded :
    Legible ["text/html,bogus"] ∧ Respelled ["text/html,bogus"] ["text/html  ,, bogus"] ∧
      acceptedRanges (accepting ["text/html  ,, bogus"]) =
        acceptedRanges (accepting ["text/html,bogus"]) := by
  have legible : Legible ["text/html,bogus"] := List.forall_mem_singleton.mpr (by decide)
  obtain ⟨-, -, -, unchanged, -, commas⟩ :=
    acceptedRanges_of_lines (getAll_accepting ["text/html,bogus"]) legible
  have spread : Respelled ["text/html,bogus"] ["text/html  ,, bogus"] := by
    have around := (commas [] [] "text/html" "bogus" (by decide)).2 2 1 [0]
    have written : padded "text/html" 2 [0] 1 "bogus" = "text/html  ,, bogus" := by decide
    rwa [List.nil_append, written] at around
  exact ⟨legible, spread, unchanged _ _ spread (getAll_accepting _)⟩

end Media

end Switchyard
