import Mathlib.Algebra.BigOperators.Ring.List
import Mathlib.Algebra.Ring.Nat
import Mathlib.Data.String.Basic
import Switchyard.Proofs.Route.Parsing

/-!
# Counting what a pattern consists of

The segments of a pattern are gone through once.  On the way wildcards and variables are counted, and
the length of the text is brought down for every variable until that counts as a single character.
The variables stand apart from one another in the text, behind its first slash, so that there is
always enough left to take away.
-/

set_option autoImplicit false

namespace Switchyard.Route

/-- Texts that stand in another one, one behind the other and with no character in common. -/
inductive Apart : List (List Char) → List Char → Prop where
  | nil {text : List Char} : Apart [] text
  | cons {part rest : List Char} {parts : List (List Char)} (before : List Char)
      (others : Apart parts rest) : Apart (part :: parts) (before ++ (part ++ rest))

namespace Apart

variable {parts others : List (List Char)} {text rest : List Char}

theorem behind (front : List Char) (apart : Apart parts text) : Apart parts (front ++ text) := by
  cases apart with
  | nil => exact .nil
  | cons before others =>
      rw [← List.append_assoc]
      exact .cons (front ++ before) others

theorem append (apart : Apart parts text) (later : Apart others rest) :
    Apart (parts ++ others) (text ++ rest) := by
  induction apart with
  | nil => exact later.behind _
  | cons before _ inductionHypothesis =>
      simp only [List.append_assoc]
      exact .cons before inductionHypothesis

theorem utf8Len_le (apart : Apart parts text) :
    (parts.map String.utf8Len).sum ≤ String.utf8Len text := by
  induction apart with
  | nil => exact Nat.zero_le _
  | cons before _ inductionHypothesis =>
      simp only [List.map_cons, List.sum_cons, String.utf8Len_append]
      omega

theorem exists_intercalate_cons (separator field : List Char) (fields : List (List Char)) :
    ∃ between, separator.intercalate (field :: fields) =
      field ++ (between ++ separator.intercalate fields) := by
  cases fields with
  | nil => exact ⟨[], by simp [List.intercalate]⟩
  | cons next fields => exact ⟨separator, by simp [List.intercalate_cons_cons]⟩

/-- What stands apart in each field stands apart where the fields are joined. -/
theorem intercalate {β : Type} {inside : β → List (List Char)} {fields : List (List Char)}
    {items : List β} (separator : List Char)
    (each : List.Forall₂ (fun field item => Apart (inside item) field)
      (fields.filter fun field => !field.isEmpty) items) :
    Apart (items.flatMap inside) (separator.intercalate fields) := by
  induction fields generalizing items with
  | nil =>
      cases each
      exact .nil
  | cons field fields inductionHypothesis =>
      obtain ⟨between, joined⟩ := exists_intercalate_cons separator field fields
      rw [joined]
      -- An empty field belongs to no item, and is only stepped over.
      by_cases empty : field.isEmpty = true
      · rw [List.filter_cons_of_neg (by simpa using empty)] at each
        exact ((inductionHypothesis each).behind between).behind field
      · rw [List.filter_cons_of_pos (by simpa using empty)] at each
        cases each with
        | cons first others =>
            rw [List.flatMap_cons]
            exact first.append ((inductionHypothesis others).behind between)

end Apart

/-- The octets that are taken from the length of a pattern for its variables. -/
def deduction (names : List (List Char)) : Nat :=
  (names.map fun name => Pattern.octetCount name + 1).sum

theorem deduction_append (names others : List (List Char)) :
    deduction (names ++ others) = deduction names + deduction others := by
  simp [deduction]

/-- What has been counted of a pattern, and what is left of its length. -/
structure Tally where
  length : Nat
  captures : Nat := 0
  singleStars : Nat := 0
  doubleStars : Nat := 0
  deriving Repr, DecidableEq

namespace Tally

/-- A piece is counted; there is no tally if more has to be taken from the length than is left. -/
def addPiece? (tally : Tally) : Piece → Option Tally
  | .literal _ | .anyChar => some tally
  | .anyChars => some { tally with singleStars := tally.singleStars + 1 }
  | .variable name =>
      if Pattern.octetCount name + 1 ≤ tally.length then
        some { tally with
          length := tally.length - (Pattern.octetCount name + 1)
          captures := tally.captures + 1 }
      else none

def addSegment? (tally : Tally) : Segment → Option Tally
  | .anySegments => some { tally with doubleStars := tally.doubleStars + 1 }
  | .pieces parts => parts.foldlM addPiece? tally

/-- The tally once variables of these names and so many wildcards have been counted. -/
def after (tally : Tally) (names : List (List Char)) (singleStars doubleStars : Nat) : Tally where
  length := tally.length - deduction names
  captures := tally.captures + names.length
  singleStars := tally.singleStars + singleStars
  doubleStars := tally.doubleStars + doubleStars

theorem after_after (tally : Tally) (names others : List (List Char))
    (single double moreSingle moreDouble : Nat) :
    (tally.after names single double).after others moreSingle moreDouble =
      tally.after (names ++ others) (single + moreSingle) (double + moreDouble) := by
  simp only [after, deduction_append, List.length_append, Nat.add_assoc, Nat.sub_sub]

/-- Whatever is counted one by one is counted together, as long as enough is left for all. -/
theorem foldlM_eq_after {α : Type} {add? : Tally → α → Option Tally}
    {names : α → List (List Char)} {single double : α → Nat}
    (added : ∀ tally item, deduction (names item) ≤ tally.length →
      add? tally item = some (tally.after (names item) (single item) (double item)))
    (items : List α) (tally : Tally)
    (enough : deduction (items.flatMap names) ≤ tally.length) :
    items.foldlM add? tally =
      some (tally.after (items.flatMap names) (items.map single).sum (items.map double).sum) := by
  induction items generalizing tally with
  | nil => rfl
  | cons item items inductionHypothesis =>
      -- What is left after the first item is still enough for all others.
      rw [List.flatMap_cons, deduction_append] at enough
      have left : deduction (items.flatMap names) ≤
          (tally.after (names item) (single item) (double item)).length := by
        dsimp only [after]
        omega
      rw [List.foldlM_cons, added tally item (by omega), Option.bind_eq_bind, Option.bind_some,
        inductionHypothesis _ left, after_after]
      rfl

end Tally

/-- The name of a variable, if a piece is one. -/
def Piece.names : Piece → List (List Char)
  | .variable name => [name]
  | _ => []

theorem Segment.variableNames_pieces (parts : List Piece) :
    (Segment.pieces parts).variableNames = parts.flatMap Piece.names := by
  induction parts with
  | nil => rfl
  | cons part parts inductionHypothesis =>
      rw [List.flatMap_cons, ← inductionHypothesis]
      cases part <;> rfl

theorem sum_count_singleton {α : Type} [BEq α] (items : List α) (found : α) :
    (items.map fun item => [item].count found).sum = items.count found := by
  have counted := List.count_flatMap (l := items) (f := fun item => [item]) (x := found)
  rw [List.flatMap_singleton'] at counted
  exact counted.symm

namespace Tally

theorem addPiece?_eq (tally : Tally) (part : Piece) (enough : deduction part.names ≤ tally.length) :
    tally.addPiece? part =
      some (tally.after part.names ([part].count .anyChars) 0) := by
  cases part with
  | «variable» name => exact if_pos enough
  | literal _ | anyChars | anyChar => rfl

theorem addSegment?_eq (tally : Tally) (segment : Segment)
    (enough : deduction segment.variableNames ≤ tally.length) :
    tally.addSegment? segment =
      some (tally.after segment.variableNames segment.singleStars ([segment].count .anySegments)) := by
  cases segment with
  | anySegments => rfl
  | pieces parts =>
      rw [Segment.variableNames_pieces] at enough ⊢
      rw [addSegment?, foldlM_eq_after addPiece?_eq parts tally enough, sum_count_singleton]
      simp [Segment.singleStars]

end Tally

namespace Pattern

theorem octetCount_eq (chars : List Char) : octetCount chars = String.utf8Len chars := by
  suffices general : ∀ octets, chars.foldl (fun octets char => octets + char.utf8Size) octets =
      octets + String.utf8Len chars from (general 0).trans (Nat.zero_add _)
  induction chars with
  | nil => simp
  | cons c rest inductionHypothesis =>
      intro octets
      rw [List.foldl_cons, inductionHypothesis, String.utf8Len_cons]
      omega

/-- What is counted of a pattern, its segments being gone through from the left. -/
def tally? (pattern : Pattern) : Option Tally :=
  pattern.segments.foldlM Tally.addSegment? { length := octetCount pattern.text.toList }

variable {pattern : Pattern}

theorem singleStars_eq (pattern : Pattern) :
    pattern.singleStars = (pattern.segments.map Segment.singleStars).sum := by
  rw [singleStars, List.sum_eq_foldl, List.foldl_map]

theorem weight_eq (pattern : Pattern) :
    pattern.weight = octetCount pattern.text.toList - deduction pattern.variableNames := by
  rw [weight, deduction, List.sum_eq_foldl, List.foldl_map]

theorem tally?_eq (enough : deduction pattern.variableNames ≤ octetCount pattern.text.toList) :
    pattern.tally? = some
      { length := pattern.weight
        captures := pattern.variableNames.length
        singleStars := pattern.singleStars
        doubleStars := pattern.doubleStars } := by
  have counted := Tally.foldlM_eq_after Tally.addSegment?_eq pattern.segments
    { length := octetCount pattern.text.toList } enough
  rw [sum_count_singleton, ← singleStars_eq] at counted
  rw [tally?, counted, weight_eq]
  simp [Tally.after, variableNames, doubleStars]

end Pattern

theorem Piece.count_eq_zero_of_plain {text : List Char} (sign : Char)
    (plain : text.all isPlainChar = true) (special : isPlainChar sign = false) :
    text.count sign = 0 := by
  refine List.count_eq_zero.mpr fun inside => ?_
  rw [List.all_eq_true.mp plain sign inside] at special
  cases special

namespace Piece.Spells

variable {chars : List Char} {parts : List Piece}

theorem apart (spells : Spells chars parts) :
    Apart ((parts.flatMap names).map ('{' :: ·)) chars := by
  induction spells with
  | nil => exact .nil
  | literal _ _ _ inductionHypothesis => exact inductionHypothesis.behind _
  | anyChars _ inductionHypothesis => exact inductionHypothesis.behind ['*']
  | anyChar _ inductionHypothesis => exact inductionHypothesis.behind ['?']
  | closed _ _ _ _ inductionHypothesis => exact .cons [] (inductionHypothesis.behind ['}'])
  | @unclosed name _ _ _ =>
      rw [← List.append_nil ('{' :: name)]
      exact .cons [] .nil

theorem count_brace (spells : Spells chars parts) :
    chars.count '{' = (parts.flatMap names).length := by
  induction spells with
  | nil => rfl
  | literal _ plain _ inductionHypothesis =>
      simp [names, count_eq_zero_of_plain '{' plain rfl, inductionHypothesis]
  | anyChars _ inductionHypothesis => simpa [names] using inductionHypothesis
  | anyChar _ inductionHypothesis => simpa [names] using inductionHypothesis
  | closed _ unopened _ _ inductionHypothesis =>
      simp [names, List.count_eq_zero.mpr unopened, inductionHypothesis]
  | unclosed _ unopened _ => simp [names, List.count_eq_zero.mpr unopened]

theorem count_star (spells : Spells chars parts) :
    chars.count '*' =
      parts.count .anyChars + ((parts.flatMap names).map (List.count '*')).sum := by
  induction spells with
  | nil => rfl
  | literal _ plain _ inductionHypothesis =>
      simp [names, count_eq_zero_of_plain '*' plain rfl, inductionHypothesis]
  | anyChars _ inductionHypothesis => simp [names, inductionHypothesis]; omega
  | anyChar _ inductionHypothesis => simpa [names] using inductionHypothesis
  | closed _ unopened _ _ inductionHypothesis => simp [names, inductionHypothesis]; omega
  | unclosed _ unopened _ => simp [names]

end Piece.Spells

namespace Segment.Spells

variable {chars : List Char} {segment : Segment}

theorem apart (spells : Spells chars segment) :
    Apart (segment.variableNames.map ('{' :: ·)) chars := by
  cases spells with
  | anySegments => exact .nil
  | pieces _ spelled => exact variableNames_pieces _ ▸ spelled.apart

theorem count_brace (spells : Spells chars segment) :
    chars.count '{' = segment.variableNames.length := by
  cases spells with
  | anySegments => rfl
  | pieces _ spelled => exact variableNames_pieces _ ▸ spelled.count_brace

theorem count_star (spells : Spells chars segment) :
    chars.count '*' = segment.singleStars + 2 * [segment].count .anySegments +
      (segment.variableNames.map (List.count '*')).sum := by
  cases spells with
  | anySegments => rfl
  | pieces _ spelled =>
      rw [variableNames_pieces, spelled.count_star]
      simp [singleStars]

theorem count_doubleStar (spells : Spells chars segment) :
    [chars].count ['*', '*'] = [segment].count .anySegments := by
  cases spells with
  | anySegments => rfl
  | pieces other _ => simp [other]

end Segment.Spells

theorem count_pathSegments {c : Char} (inside : c ≠ '/') (chars : List Char) :
    ((pathSegments chars).map (List.count c)).sum = chars.count c := by
  rw [← List.count_flatten, pathSegments, List.flatten_filter_not_isEmpty, Text.flatten_splitOn,
    List.count_filter (by simpa using inside)]

theorem map_eq_map_of_forall₂ {α β γ : Type} {f : α → γ} {g : β → γ} {items : List α}
    {others : List β} (equal : List.Forall₂ (fun item other => f item = g other) items others) :
    items.map f = others.map g := by
  rwa [← List.forall₂_eq_eq_eq, List.forall₂_map_left_iff, List.forall₂_map_right_iff]

namespace Pattern

variable {text : String} {pattern : Pattern}

theorem apart_of_parse (parsed : parse text = .ok pattern) :
    Apart (pattern.variableNames.map ('{' :: ·)) text.toList.tail := by
  obtain ⟨leading, rfl, segments⟩ := parse_eq_ok parsed
  obtain ⟨rest, spelled⟩ := List.head?_eq_some_iff.mp leading
  -- The first slash only cuts off an empty field, so it is not needed to keep the variables apart.
  have behind : pathSegments ('/' :: rest) = pathSegments rest := by
    have fields := Text.splitOn_append_cons '/' [] rest
    rw [List.nil_append] at fields
    rw [pathSegments, fields]
    rfl
  rw [spelled, behind] at segments
  have apart := Apart.intercalate ['/']
    (segments.imp fun _ _ found => (Segment.spells_of_parse found).apart)
  rw [Text.splitOn_eq, List.intercalate_splitOn, ← List.map_flatMap] at apart
  rwa [spelled]

theorem deduction_lt_of_parse (parsed : parse text = .ok pattern) :
    deduction pattern.variableNames < octetCount text.toList := by
  obtain ⟨rest, spelled⟩ := List.head?_eq_some_iff.mp (parse_eq_ok parsed).1
  have apart := (apart_of_parse parsed).utf8Len_le
  -- The braces and names fit in behind the slash, whose octet is what remains at least.
  have slash : '/'.utf8Size = 1 := rfl
  have opening : '{'.utf8Size = 1 := rfl
  rw [spelled, List.tail_cons, List.map_map] at apart
  rw [spelled, octetCount_eq, String.utf8Len_cons, slash, Nat.lt_succ_iff]
  simpa [deduction, octetCount_eq, Function.comp_def, opening] using apart

/-- Every opening brace opens a variable. -/
theorem count_brace_of_parse (parsed : parse text = .ok pattern) :
    text.toList.count '{' = pattern.variableNames.length := by
  have each := map_eq_map_of_forall₂
    ((spells_of_parse parsed).imp fun _ _ spells => spells.count_brace)
  rw [← count_pathSegments (by decide), each]
  simp [variableNames]

theorem count_doubleStar_of_parse (parsed : parse text = .ok pattern) :
    (pathSegments text.toList).count ['*', '*'] = pattern.doubleStars := by
  have each := map_eq_map_of_forall₂
    ((spells_of_parse parsed).imp fun _ _ spells => spells.count_doubleStar)
  rw [← sum_count_singleton, each, sum_count_singleton]
  rfl

/-- A star stands for itself in a name, and is a wildcard or half of one elsewhere. -/
theorem count_star_of_parse (parsed : parse text = .ok pattern) :
    text.toList.count '*' = pattern.singleStars + 2 * pattern.doubleStars +
      (pattern.variableNames.map (List.count '*')).sum := by
  have each := map_eq_map_of_forall₂
    ((spells_of_parse parsed).imp fun _ _ spells => spells.count_star)
  have named : (pattern.variableNames.map (List.count '*')).sum =
      (pattern.segments.map fun segment => (segment.variableNames.map (List.count '*')).sum).sum := by
    rw [variableNames, List.map_flatMap, List.flatMap_def, List.sum_flatten, List.map_map]
    rfl
  rw [← count_pathSegments (by decide), each, List.sum_map_add, List.sum_map_add,
    List.sum_map_mul_left, sum_count_singleton, singleStars_eq, named]
  rfl

/-- Whatever text is read as a pattern, its variables stand apart behind the first slash, each of
them with its brace and its name.  So counting takes nothing from the length that is not left of it:
the length is that of the text in octets, less one and the name for every variable, and never zero,
and the counts are those of the wildcards and variables in the pattern and in its text. -/
theorem tally?_of_parse (parsed : parse text = .ok pattern) :
    Apart (pattern.variableNames.map ('{' :: ·)) text.toList.tail ∧
      pattern.tally? = some
        { length := pattern.weight
          captures := pattern.variableNames.length
          singleStars := (pattern.segments.map Segment.singleStars).sum
          doubleStars := pattern.segments.count .anySegments } ∧
      pattern.weight + (pattern.variableNames.map fun name =>
        (String.ofList name).utf8ByteSize + 1).sum = text.utf8ByteSize ∧
      1 ≤ pattern.weight ∧
      text.toList.count '{' = pattern.variableNames.length ∧
      (pathSegments text.toList).count ['*', '*'] = pattern.doubleStars ∧
      text.toList.count '*' = pattern.singleStars + 2 * pattern.doubleStars +
        (pattern.variableNames.map (List.count '*')).sum := by
  have enough := deduction_lt_of_parse parsed
  have weighed := weight_eq pattern
  have size : octetCount text.toList = text.utf8ByteSize := by
    rw [octetCount_eq, String.utf8Len_toList]
  have deducted : (pattern.variableNames.map fun name =>
      (String.ofList name).utf8ByteSize + 1).sum = deduction pattern.variableNames := by
    simp only [deduction, octetCount_eq, String.utf8ByteSize_ofList]
  rw [(parse_eq_ok parsed).2.1] at weighed
  refine ⟨apart_of_parse parsed, ?_, by omega, by omega, count_brace_of_parse parsed,
    count_doubleStar_of_parse parsed, count_star_of_parse parsed⟩
  rw [tally?_eq (by rw [(parse_eq_ok parsed).2.1]; omega), singleStars_eq]
  rfl

/-- Four variables of one and two octets around a `**` between slashes, the last one left open. -/
def crowded : Pattern :=
  ⟨"/é{id}{v}//**/*.{a}\x7bü",
    [.pieces [.literal ['é'], .variable ['i', 'd'], .variable ['v']], .anySegments,
      .pieces [.anyChars, .literal ['.'], .variable ['a'], .variable ['ü']]]⟩

theorem tally?_of_crowded :
    parse crowded.text = .ok crowded ∧
      Apart ["\x7bid".toList, "\x7bv".toList, "\x7ba".toList, ['{', 'ü']] "é{id}{v}//**/*.{a}\x7bü".toList ∧
      crowded.tally? = some { length := 13, captures := 4, singleStars := 1, doubleStars := 1 } ∧
      13 + (3 + 2 + 2 + 3) = crowded.text.utf8ByteSize := by
  have parsed : parse crowded.text = .ok crowded := by decide +kernel
  obtain ⟨apart, tallied, left, -⟩ := tally?_of_parse parsed
  exact ⟨parsed, apart, tallied, left⟩

end Pattern

end Switchyard.Route
