import Switchyard.Proofs.Outcome
import Switchyard.Proofs.Text.Split
import Switchyard.Route.Specificity

/-!
# What a parsed pattern looks like

Every segment of a pattern is what its text spells.  A literal pattern matches its own text and
captures nothing, and a pattern whose text ends with `/**` has a segment `**`.
-/

set_option autoImplicit false

namespace Switchyard

namespace Route

namespace Piece

/-- Whether a character of a pattern stands for itself. -/
def isPlainChar (c : Char) : Bool :=
  c ≠ '*' && c ≠ '?' && c ≠ '{' && c ≠ '}'

/-- The pieces that a text spells.  The closing brace of a variable may be missing at the end. -/
inductive Spells : List Char → List Piece → Prop where
  | nil : Spells [] []
  | literal {text rest : List Char} {pieces : List Piece} :
      text ≠ [] → text.all isPlainChar = true → Spells rest pieces →
      Spells (text ++ rest) (.literal text :: pieces)
  | anyChars {rest : List Char} {pieces : List Piece} :
      Spells rest pieces → Spells ('*' :: rest) (.anyChars :: pieces)
  | anyChar {rest : List Char} {pieces : List Piece} :
      Spells rest pieces → Spells ('?' :: rest) (.anyChar :: pieces)
  | closed {name rest : List Char} {pieces : List Piece} :
      name ≠ [] → '{' ∉ name → '}' ∉ name → Spells rest pieces →
      Spells ('{' :: name ++ '}' :: rest) (.variable name :: pieces)
  | unclosed {name : List Char} :
      name ≠ [] → '{' ∉ name → '}' ∉ name → Spells ('{' :: name) [.variable name]

theorem ofName_eq_ok {closes : Bool} {reversed : List Char} {piece : Piece}
    (named : ofName closes reversed = .ok piece) :
    piece = .variable reversed.reverse ∧ reversed ≠ [] ∧ '{' ∉ reversed := by
  simp only [ofName] at named
  split at named
  case isTrue => cases named
  case isFalse proper =>
      split at named <;> cases named
      simpa using proper

variable {closes : Bool} {reversed rest : List Char} {c : Char} {pieces : List Piece}

/-- How a text goes on: with a wildcard, a variable, or a character for itself. -/
theorem parseFrom_text_cons :
    parseFrom closes (.text reversed) (c :: rest) = .ok pieces ↔
      (c = '*' ∧ rest.head? ≠ some '*' ∧ ∃ later, parseFrom closes (.text []) rest = .ok later ∧
        ofText reversed ++ .anyChars :: later = pieces) ∨
      (c = '?' ∧ ∃ later, parseFrom closes (.text []) rest = .ok later ∧
        ofText reversed ++ .anyChar :: later = pieces) ∨
      (c = '{' ∧ ∃ later, parseFrom closes (.name []) rest = .ok later ∧
        ofText reversed ++ later = pieces) ∨
      isPlainChar c = true ∧ parseFrom closes (.text (c :: reversed)) rest = .ok pieces := by
  simp only [parseFrom]
  by_cases star : c = '*'
  · by_cases alone : rest.head? = some '*'
    · simp [star, alone, isPlainChar]
    · simp [star, alone, isPlainChar, map_eq_ok]
  · by_cases mark : c = '?'
    · simp [mark, isPlainChar, map_eq_ok]
    · by_cases brace : c = '{'
      · simp [brace, isPlainChar, map_eq_ok]
      · by_cases closing : c = '}'
        · simp [closing, isPlainChar]
        · simp [star, mark, brace, closing, isPlainChar]

theorem parseFrom_name_nil :
    parseFrom closes (.name reversed) [] = .ok pieces ↔
      ∃ piece, ofName closes reversed = .ok piece ∧ [piece] = pieces :=
  map_eq_ok

/-- How a name goes on: with its end, or with another character. -/
theorem parseFrom_name_cons :
    parseFrom closes (.name reversed) (c :: rest) = .ok pieces ↔
      (c = '}' ∧ ∃ piece later, ofName closes reversed = .ok piece ∧
        parseFrom closes (.text []) rest = .ok later ∧ piece :: later = pieces) ∨
      c ≠ '}' ∧ parseFrom closes (.name (c :: reversed)) rest = .ok pieces := by
  simp only [parseFrom]
  by_cases closing : c = '}'
  · simp [closing, bind_eq_ok, pure, Except.pure]
  · simp [closing]

theorem spells_ofText {reversed rest : List Char} {pieces : List Piece}
    (plain : reversed.all isPlainChar = true) (spells : Spells rest pieces) :
    Spells (reversed.reverse ++ rest) (ofText reversed ++ pieces) := by
  unfold ofText
  split
  case isTrue nothing => simpa [List.isEmpty_iff.mp nothing] using spells
  case isFalse something =>
      exact .literal (by simpa using something) (by simpa using plain) spells

/-- What is read of a text, with the characters of the piece that has been begun. -/
theorem spells_of_parseFrom {closes : Bool} (chars : List Char) :
    (∀ reversed pieces, parseFrom closes (.text reversed) chars = .ok pieces →
      reversed.all isPlainChar = true → Spells (reversed.reverse ++ chars) pieces) ∧
    (∀ reversed pieces, parseFrom closes (.name reversed) chars = .ok pieces →
      '}' ∉ reversed → Spells ('{' :: (reversed.reverse ++ chars)) pieces) := by
  induction chars with
  | nil =>
      constructor
      · intro reversed pieces parsed plain
        cases parsed
        simpa using spells_ofText plain .nil
      · intro reversed pieces parsed pending
        obtain ⟨piece, named, rfl⟩ := parseFrom_name_nil.mp parsed
        obtain ⟨rfl, inhabited, single⟩ := ofName_eq_ok named
        rw [List.append_nil]
        exact .unclosed (by simpa using inhabited) (by simpa using single) (by simpa using pending)
  | cons c rest inductionHypothesis =>
      obtain ⟨inText, inName⟩ := inductionHypothesis
      constructor
      · intro reversed pieces parsed plain
        rcases parseFrom_text_cons.mp parsed with
          ⟨rfl, -, later, behind, rfl⟩ | ⟨rfl, later, behind, rfl⟩ |
            ⟨rfl, later, behind, rfl⟩ | ⟨own, further⟩
        · exact spells_ofText plain (.anyChars (inText [] later behind rfl))
        · exact spells_ofText plain (.anyChar (inText [] later behind rfl))
        · exact spells_ofText plain (inName [] later behind (by simp))
        · simpa using inText (c :: reversed) pieces further (by simp [own, plain])
      · intro reversed pieces parsed pending
        rcases parseFrom_name_cons.mp parsed with
          ⟨rfl, piece, later, named, behind, rfl⟩ | ⟨notClosing, further⟩
        · obtain ⟨rfl, inhabited, single⟩ := ofName_eq_ok named
          exact .closed (by simpa using inhabited) (by simpa using single)
            (by simpa using pending) (inText [] later behind rfl)
        · have later := inName (c :: reversed) pieces further
            (by simp [Ne.symm notClosing, pending])
          simpa using later

theorem exists_variable_of_parseFrom_name {closes : Bool} {reversed chars : List Char}
    {pieces : List Piece} (parsed : parseFrom closes (.name reversed) chars = .ok pieces) :
    pieces.all isLiteral = false := by
  induction chars generalizing reversed pieces with
  | nil =>
      obtain ⟨piece, named, rfl⟩ := parseFrom_name_nil.mp parsed
      obtain ⟨rfl, -⟩ := ofName_eq_ok named
      rfl
  | cons c rest inductionHypothesis =>
      rcases parseFrom_name_cons.mp parsed with
        ⟨-, piece, later, named, -, rfl⟩ | ⟨-, further⟩
      · obtain ⟨rfl, -⟩ := ofName_eq_ok named
        rfl
      · exact inductionHypothesis further

/-- Reading text that turns out to be literal only collects its characters. -/
theorem eq_ofText_of_parseFrom {closes : Bool} {reversed chars : List Char}
    {pieces : List Piece} (parsed : parseFrom closes (.text reversed) chars = .ok pieces)
    (literal : pieces.all isLiteral = true) : pieces = ofText (chars.reverse ++ reversed) := by
  induction chars generalizing reversed pieces with
  | nil =>
      simp only [parseFrom, Except.ok.injEq] at parsed
      simp [← parsed]
  | cons c rest inductionHypothesis =>
      rcases parseFrom_text_cons.mp parsed with
        ⟨-, -, later, -, rfl⟩ | ⟨-, later, -, rfl⟩ | ⟨-, later, behind, rfl⟩ | ⟨-, further⟩
      · simp [isLiteral] at literal
      · simp [isLiteral] at literal
      · rw [List.all_append, exists_variable_of_parseFrom_name behind, Bool.and_false] at literal
        cases literal
      · simpa using inductionHypothesis further literal

theorem captures?_ofText (chars : List Char) :
    captures? (ofText chars.reverse) chars = some [] := by
  cases chars with
  | nil => rfl
  | cons c rest =>
      have self : (c :: rest).isPrefixOf (c :: rest) = true :=
        List.isPrefixOf_iff_prefix.mpr (List.prefix_refl _)
      simp [ofText, captures?, self]

end Piece

namespace Segment

/-- The segment that a text spells. -/
inductive Spells : List Char → Segment → Prop where
  | anySegments : Spells ['*', '*'] .anySegments
  | pieces {text : List Char} {parts : List Piece} :
      text ≠ ['*', '*'] → Piece.Spells text parts → Spells text (.pieces parts)

theorem spells_of_parse {chars : List Char} {segment : Segment}
    (parsed : parse chars = .ok segment) : Spells chars segment := by
  simp only [parse] at parsed
  split at parsed
  case isTrue stars =>
      cases parsed
      exact stars ▸ .anySegments
  case isFalse notStars =>
      obtain ⟨parts, found, rfl⟩ := map_eq_ok.mp parsed
      exact .pieces notStars ((Piece.spells_of_parseFrom chars).1 [] parts found rfl)

theorem captures?_of_parse {chars : List Char} {segment : Segment}
    (parsed : parse chars = .ok segment) (literal : segment.isLiteral = true)
    (segments : List Segment) (path : List (List Char)) :
    captures? (segment :: segments) (chars :: path) = captures? segments path := by
  simp only [parse] at parsed
  split at parsed
  · cases parsed
    cases literal
  · cases pieces : Piece.parse chars with
    | error fault => simp [pieces, Except.map] at parsed
    | ok found =>
        simp only [pieces, Except.map, Except.ok.injEq] at parsed
        subst parsed
        have spelled := Piece.eq_ofText_of_parseFrom pieces literal
        rw [List.append_nil] at spelled
        simp only [captures?, spelled, Piece.captures?_ofText]
        cases captures? segments path <;> rfl

theorem captures?_of_forall₂_parse {path : List (List Char)} {segments : List Segment}
    (parsed : List.Forall₂ (fun chars segment => parse chars = .ok segment) path segments)
    (literal : segments.all isLiteral = true) : captures? segments path = some [] := by
  induction parsed with
  | nil => rfl
  | cons first _ inductionHypothesis =>
      simp only [List.all_cons, Bool.and_eq_true] at literal
      rw [captures?_of_parse first literal.1]
      exact inductionHypothesis literal.2

theorem mem_of_forall₂_parse {path : List (List Char)} {segments : List Segment}
    (parsed : List.Forall₂ (fun chars segment => parse chars = .ok segment) path segments)
    {chars : List Char} {segment : Segment} (membership : chars ∈ path)
    (found : parse chars = .ok segment) : segment ∈ segments := by
  induction parsed with
  | nil => cases membership
  | @cons _ one _ _ first _ inductionHypothesis =>
      rcases List.mem_cons.mp membership with rfl | inRest
      · have equality : segment = one := Except.ok.inj (found.symm.trans first)
        simp [equality]
      · exact List.mem_cons_of_mem _ (inductionHypothesis inRest)

end Segment

namespace Pattern

/-- What a successful reading says about a pattern. -/
theorem parse_eq_ok {text : String} {pattern : Pattern} (parsed : parse text = .ok pattern) :
    text.toList.head? = some '/' ∧ pattern.text = text ∧
      List.Forall₂ (fun chars segment => Segment.parse chars = .ok segment)
        (pathSegments text.toList) pattern.segments := by
  simp only [parse] at parsed
  split at parsed
  case isTrue leading =>
      cases segments : (pathSegments text.toList).mapM Segment.parse with
      | error fault => simp [segments, Except.map] at parsed
      | ok found =>
          simp only [segments, Except.map, Except.ok.injEq] at parsed
          subst parsed
          exact ⟨leading, rfl, forall₂_of_mapM_eq_ok segments⟩
  case isFalse => cases parsed

theorem spells_of_parse {text : String} {pattern : Pattern}
    (parsed : parse text = .ok pattern) :
    List.Forall₂ Segment.Spells (pathSegments text.toList) pattern.segments :=
  (parse_eq_ok parsed).2.2.imp fun _ _ found => Segment.spells_of_parse found

/-- A literal pattern matches its own text. -/
theorem match?_text_of_isLiteral {text : String} {pattern : Pattern}
    (parsed : parse text = .ok pattern) (literal : pattern.isLiteral = true) (tolerant : Bool) :
    pattern.match? text tolerant = some [] := by
  obtain ⟨leading, rfl, segments⟩ := parse_eq_ok parsed
  have captured := Segment.captures?_of_forall₂_parse segments literal
  simp [match?, agreesOnSlash, leading, captured]

theorem doubleStars_ne_zero_of_isTree {text : String} {pattern : Pattern}
    (parsed : parse text = .ok pattern) (tree : pattern.isTree = true) :
    pattern.doubleStars ≠ 0 := by
  obtain ⟨-, rfl, segments⟩ := parse_eq_ok parsed
  obtain ⟨before, spelled⟩ := List.isPrefixOf_iff_prefix.mp tree
  have ending : pattern.text.toList = before.reverse ++ '/' :: ['*', '*'] := by
    rw [← List.reverse_reverse pattern.text.toList, ← spelled]
    simp
  have membership : ['*', '*'] ∈ pathSegments pattern.text.toList := by
    rw [ending, pathSegments, Text.splitOn_append_cons]
    simp [Text.splitOn, Text.splitFrom]
  have starred : Segment.anySegments ∈ pattern.segments :=
    Segment.mem_of_forall₂_parse segments membership rfl
  exact Nat.ne_of_gt (List.count_pos_iff.mpr starred)

end Pattern

end Route

end Switchyard
