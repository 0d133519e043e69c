import Switchyard.Proofs.Route.Parsing

/-!
# The grammar of patterns

A text is a pattern if it begins with a slash and each of its segments is `**` or a sequence of
literal characters, `?`, single `*` and named variables, and its pieces print as the text.  Beyond
that, the last variable of a segment may be left open where another one is closed; it prints closed.
-/

set_option autoImplicit false

namespace Switchyard.Route

namespace Piece

def printed : Piece → List Char
  | .literal text => text
  | .anyChars => ['*']
  | .anyChar => ['?']
  | .variable name => '{' :: (name ++ ['}'])

def print (pieces : List Piece) : List Char :=
  pieces.flatMap printed

/-- What may stand in a segment next to one another: characters for themselves, `?`, a `*` that no
other follows, and variables, whose names are not empty and have no braces. -/
inductive Sequence : List Char → Prop where
  | nil : Sequence []
  | plain {c : Char} {rest : List Char} (own : isPlainChar c = true) (others : Sequence rest) :
      Sequence (c :: rest)
  | anyChar {rest : List Char} (others : Sequence rest) : Sequence ('?' :: rest)
  | anyChars {rest : List Char} (alone : rest.head? ≠ some '*') (others : Sequence rest) :
      Sequence ('*' :: rest)
  | variable {name rest : List Char} (named : name ≠ []) (unopened : '{' ∉ name)
      (unclosed : '}' ∉ name) (others : Sequence rest) :
      Sequence ('{' :: (name ++ '}' :: rest))

theorem print_ofText (reversed : List Char) : print (ofText reversed) = reversed.reverse := by
  unfold ofText
  split
  case isTrue nothing => simp [List.isEmpty_iff.mp nothing, print]
  case isFalse => simp [print, printed]

theorem print_append (pieces others : List Piece) :
    print (pieces ++ others) = print pieces ++ print others :=
  List.flatMap_append

theorem print_cons (piece : Piece) (pieces : List Piece) :
    print (piece :: pieces) = piece.printed ++ print pieces :=
  List.flatMap_cons

variable {closes : Bool} {chars ending name rest : List Char} {pieces : List Piece}

/-- What is missing at the end of a text: nothing, or a brace where there is another one. -/
def Completes (closes : Bool) (ending : List Char) : Prop :=
  ending = [] ∨ ending = ['}'] ∧ closes = true

theorem Completes.head?_append_ne (completes : Completes closes ending)
    (alone : rest.head? ≠ some '*') : (rest ++ ending).head? ≠ some '*' := by
  cases rest with
  | nil => rcases completes with rfl | ⟨rfl, -⟩ <;> simp
  | cons c rest => simpa using alone

theorem closes_of_ofName {reversed : List Char} {piece : Piece}
    (named : ofName closes reversed = .ok piece) : closes = true := by
  cases closes with
  | true => rfl
  | false =>
      simp only [ofName] at named
      split at named <;> cases named

/-- What is read is a sequence, perhaps once a brace is added at its end. -/
theorem sequence_of_parseFrom (chars : List Char) :
    (∀ reversed pieces, parseFrom closes (.text reversed) chars = .ok pieces →
      ∃ ending, Completes closes ending ∧ Sequence (chars ++ ending)) ∧
    (∀ reversed pieces, parseFrom closes (.name reversed) chars = .ok pieces → '}' ∉ reversed →
      ∃ ending, Completes closes ending ∧
        Sequence ('{' :: (reversed.reverse ++ (chars ++ ending)))) := by
  induction chars with
  | nil =>
      constructor
      · intro reversed pieces _
        exact ⟨[], .inl rfl, .nil⟩
      · intro reversed pieces parsed pending
        obtain ⟨piece, named, -⟩ := parseFrom_name_nil.mp parsed
        obtain ⟨-, inhabited, single⟩ := ofName_eq_ok named
        exact ⟨['}'], .inr ⟨rfl, closes_of_ofName named⟩, .variable (by simpa using inhabited)
          (by simpa using single) (by simpa using pending) .nil⟩
  | cons c rest inductionHypothesis =>
      obtain ⟨inText, inName⟩ := inductionHypothesis
      constructor
      · intro reversed pieces parsed
        rcases parseFrom_text_cons.mp parsed with
          ⟨rfl, alone, later, behind, -⟩ | ⟨rfl, later, behind, -⟩ |
            ⟨rfl, later, behind, -⟩ | ⟨own, further⟩
        · obtain ⟨ending, completes, sequence⟩ := inText [] later behind
          exact ⟨ending, completes, .anyChars (completes.head?_append_ne alone) sequence⟩
        · obtain ⟨ending, completes, sequence⟩ := inText [] later behind
          exact ⟨ending, completes, .anyChar sequence⟩
        · exact inName [] later behind (by simp)
        · obtain ⟨ending, completes, sequence⟩ := inText _ pieces further
          exact ⟨ending, completes, .plain own sequence⟩
      · intro reversed pieces parsed pending
        rcases parseFrom_name_cons.mp parsed with
          ⟨rfl, piece, later, named, behind, -⟩ | ⟨notClosing, further⟩
        · obtain ⟨-, inhabited, single⟩ := ofName_eq_ok named
          obtain ⟨ending, completes, sequence⟩ := inText [] later behind
          exact ⟨ending, completes, .variable (by simpa using inhabited) (by simpa using single)
            (by simpa using pending) sequence⟩
        · obtain ⟨ending, completes, sequence⟩ := inName (c :: reversed) pieces further
            (by simp [Ne.symm notClosing, pending])
          exact ⟨ending, completes, by simpa using sequence⟩

theorem parseFrom_name_append (unclosed : '}' ∉ name) (reversed rest : List Char) :
    parseFrom closes (.name reversed) (name ++ rest) =
      parseFrom closes (.name (name.reverse ++ reversed)) rest := by
  induction name generalizing reversed with
  | nil => rfl
  | cons c name inductionHypothesis =>
      simp only [List.mem_cons, not_or] at unclosed
      rw [List.cons_append, parseFrom, if_neg (Ne.symm unclosed.1), inductionHypothesis unclosed.2]
      simp

/-- A sequence is read, and its pieces print as it is written. -/
theorem exists_parseFrom_of_sequence (sequence : Sequence chars)
    (closing : '}' ∈ chars → closes = true) (reversed : List Char) :
    ∃ pieces, parseFrom closes (.text reversed) chars = .ok pieces ∧
      print pieces = reversed.reverse ++ chars := by
  induction sequence generalizing reversed with
  | nil => exact ⟨ofText reversed, rfl, by simpa using print_ofText reversed⟩
  | @plain c rest own _ inductionHypothesis =>
      obtain ⟨pieces, parsed, printed⟩ := inductionHypothesis
        (fun inside => closing (List.mem_cons_of_mem _ inside)) (c :: reversed)
      exact ⟨pieces, parseFrom_text_cons.mpr (.inr (.inr (.inr ⟨own, parsed⟩))),
        by simpa using printed⟩
  | anyChar _ inductionHypothesis =>
      obtain ⟨pieces, parsed, printed⟩ := inductionHypothesis
        (fun inside => closing (List.mem_cons_of_mem _ inside)) []
      refine ⟨_, parseFrom_text_cons.mpr (.inr (.inl ⟨rfl, pieces, parsed, rfl⟩)), ?_⟩
      rw [print_append, print_cons, print_ofText, printed]
      rfl
  | anyChars alone _ inductionHypothesis =>
      obtain ⟨pieces, parsed, printed⟩ := inductionHypothesis
        (fun inside => closing (List.mem_cons_of_mem _ inside)) []
      refine ⟨_, parseFrom_text_cons.mpr (.inl ⟨rfl, alone, pieces, parsed, rfl⟩), ?_⟩
      rw [print_append, print_cons, print_ofText, printed]
      rfl
  | @«variable» name rest named unopened unclosed _ inductionHypothesis =>
      obtain ⟨pieces, parsed, printed⟩ := inductionHypothesis
        (fun inside => closing (by simp [inside])) []
      have read : ofName closes name.reverse = .ok (.variable name) := by
        simp [ofName, named, unopened, closing]
      have behind : parseFrom closes (.name []) (name ++ '}' :: rest) =
          .ok (.variable name :: pieces) := by
        rw [parseFrom_name_append unclosed, List.append_nil]
        exact parseFrom_name_cons.mpr (.inl ⟨rfl, _, pieces, read, parsed, rfl⟩)
      refine ⟨_, parseFrom_text_cons.mpr (.inr (.inr (.inl ⟨rfl, _, behind, rfl⟩))), ?_⟩
      rw [print_append, print_cons, print_ofText, printed]
      simp [Piece.printed]

/-- A brace that is missing at the end is read as if it were there. -/
theorem parseFrom_of_append_brace (chars : List Char) :
    (∀ reversed pieces, parseFrom closes (.text reversed) (chars ++ ['}']) = .ok pieces →
      parseFrom closes (.text reversed) chars = .ok pieces) ∧
    (∀ reversed pieces, parseFrom closes (.name reversed) (chars ++ ['}']) = .ok pieces →
      parseFrom closes (.name reversed) chars = .ok pieces) := by
  induction chars with
  | nil =>
      constructor
      · intro reversed pieces parsed
        simp [parseFrom] at parsed
      · intro reversed pieces parsed
        rcases parseFrom_name_cons.mp parsed with
          ⟨-, piece, later, named, behind, rfl⟩ | ⟨notClosing, -⟩
        · cases behind
          exact parseFrom_name_nil.mpr ⟨piece, named, rfl⟩
        · exact absurd rfl notClosing
  | cons c rest inductionHypothesis =>
      obtain ⟨inText, inName⟩ := inductionHypothesis
      constructor
      · intro reversed pieces parsed
        apply parseFrom_text_cons.mpr
        rcases parseFrom_text_cons.mp parsed with
          ⟨star, alone, later, behind, printed⟩ | ⟨mark, later, behind, printed⟩ |
            ⟨brace, later, behind, printed⟩ | ⟨own, further⟩
        · have single : rest.head? ≠ some '*' := by
            cases rest with
            | nil => simp
            | cons next _ => simpa using alone
          exact .inl ⟨star, single, later, inText [] later behind, printed⟩
        · exact .inr (.inl ⟨mark, later, inText [] later behind, printed⟩)
        · exact .inr (.inr (.inl ⟨brace, later, inName [] later behind, printed⟩))
        · exact .inr (.inr (.inr ⟨own, inText _ pieces further⟩))
      · intro reversed pieces parsed
        apply parseFrom_name_cons.mpr
        rcases parseFrom_name_cons.mp parsed with
          ⟨closing, piece, later, named, behind, printed⟩ | ⟨notClosing, further⟩
        · exact .inl ⟨closing, piece, later, named, inText [] later behind, printed⟩
        · exact .inr ⟨notClosing, inName _ pieces further⟩

end Piece

namespace Segment

def printed : Segment → List Char
  | .anySegments => ['*', '*']
  | .pieces parts => Piece.print parts

/-- A segment as it should be written. -/
def Grammatical (chars : List Char) : Prop :=
  chars = ['*', '*'] ∨ Piece.Sequence chars

/-- A segment whose last variable lacks its closing brace, although another one is closed. -/
def LeftOpen (chars : List Char) : Prop :=
  '}' ∈ chars ∧ Piece.Sequence (chars ++ ['}'])

variable {chars : List Char} {segment : Segment}

theorem exists_parse_of_grammatical (grammatical : Grammatical chars) :
    ∃ segment, parse chars = .ok segment ∧ segment.printed = chars := by
  by_cases stars : chars = ['*', '*']
  · exact ⟨.anySegments, if_pos stars, stars.symm⟩
  · have closing : '}' ∈ chars → chars.contains '}' = true := by simp
    obtain ⟨pieces, parsed, printed⟩ :=
      Piece.exists_parseFrom_of_sequence (grammatical.resolve_left stars) closing []
    refine ⟨.pieces pieces, ?_, printed⟩
    rw [parse, if_neg stars]
    exact map_eq_ok.mpr ⟨pieces, parsed, rfl⟩

theorem exists_parse_of_leftOpen (leftOpen : LeftOpen chars) :
    ∃ segment, parse chars = .ok segment ∧ segment.printed = chars ++ ['}'] := by
  obtain ⟨inside, sequence⟩ := leftOpen
  have notStars : chars ≠ ['*', '*'] := by
    rintro rfl
    simp at inside
  have closing : '}' ∈ chars ++ ['}'] → chars.contains '}' = true := by simpa using inside
  obtain ⟨pieces, parsed, printed⟩ := Piece.exists_parseFrom_of_sequence sequence closing []
  refine ⟨.pieces pieces, ?_, printed⟩
  rw [parse, if_neg notStars]
  exact map_eq_ok.mpr ⟨pieces, (Piece.parseFrom_of_append_brace chars).1 [] pieces parsed, rfl⟩

theorem grammatical_or_leftOpen_of_parse (parsed : parse chars = .ok segment) :
    Grammatical chars ∨ LeftOpen chars := by
  simp only [parse] at parsed
  split at parsed
  case isTrue stars => exact .inl (.inl stars)
  case isFalse =>
      obtain ⟨pieces, found, -⟩ := map_eq_ok.mp parsed
      obtain ⟨ending, rfl | ⟨rfl, inside⟩, sequence⟩ :=
        (Piece.sequence_of_parseFrom chars).1 [] pieces found
      · exact .inl (.inr (by simpa using sequence))
      · exact .inr ⟨by simpa using inside, sequence⟩

theorem exists_parse_iff (chars : List Char) :
    (∃ segment, parse chars = .ok segment) ↔ Grammatical chars ∨ LeftOpen chars := by
  constructor
  · rintro ⟨segment, parsed⟩
    exact grammatical_or_leftOpen_of_parse parsed
  · rintro (grammatical | leftOpen)
    · obtain ⟨segment, parsed, -⟩ := exists_parse_of_grammatical grammatical
      exact ⟨segment, parsed⟩
    · obtain ⟨segment, parsed, -⟩ := exists_parse_of_leftOpen leftOpen
      exact ⟨segment, parsed⟩

theorem not_grammatical_of_leftOpen (leftOpen : LeftOpen chars) : ¬ Grammatical chars := by
  intro grammatical
  obtain ⟨segment, parsed, printed⟩ := exists_parse_of_grammatical grammatical
  obtain ⟨other, otherParsed, otherPrinted⟩ := exists_parse_of_leftOpen leftOpen
  obtain rfl := Except.ok.inj (parsed.symm.trans otherParsed)
  simpa using printed.symm.trans otherPrinted

/-- What is read of a segment prints as its text exactly if the segment is as it should be. -/
theorem printed_of_parse (parsed : parse chars = .ok segment) :
    Grammatical chars ∧ segment.printed = chars ∨
      ¬ Grammatical chars ∧ segment.printed = chars ++ ['}'] := by
  rcases grammatical_or_leftOpen_of_parse parsed with grammatical | leftOpen
  · obtain ⟨other, otherParsed, printed⟩ := exists_parse_of_grammatical grammatical
    obtain rfl := Except.ok.inj (parsed.symm.trans otherParsed)
    exact .inl ⟨grammatical, printed⟩
  · obtain ⟨other, otherParsed, printed⟩ := exists_parse_of_leftOpen leftOpen
    obtain rfl := Except.ok.inj (parsed.symm.trans otherParsed)
    exact .inr ⟨not_grammatical_of_leftOpen leftOpen, printed⟩

end Segment

namespace Pattern

/-- A text is read as a pattern exactly if it begins with a slash and its segments are as they
should be, or else lack only the brace that closes their last variable while another one is closed.
The parts of a segment print as its text, with that brace added. -/
theorem parse_of_grammar (text : String) :
    ((∃ pattern, parse text = .ok pattern) ↔
      text.toList.head? = some '/' ∧ ∀ segment ∈ pathSegments text.toList,
        Segment.Grammatical segment ∨ Segment.LeftOpen segment) ∧
    ∀ pattern, parse text = .ok pattern →
      List.Forall₂ (fun chars segment =>
        Segment.Grammatical chars ∧ segment.printed = chars ∨
          ¬ Segment.Grammatical chars ∧ segment.printed = chars ++ ['}'])
        (pathSegments text.toList) pattern.segments := by
  constructor
  · simp only [← Segment.exists_parse_iff, ← exists_mapM_eq_ok_iff]
    constructor
    · rintro ⟨pattern, parsed⟩
      have leading := (parse_eq_ok parsed).1
      rw [parse, if_pos leading] at parsed
      obtain ⟨segments, mapped, -⟩ := map_eq_ok.mp parsed
      exact ⟨leading, segments, mapped⟩
    · rintro ⟨leading, segments, mapped⟩
      refine ⟨⟨text, segments⟩, ?_⟩
      rw [parse, if_pos leading, mapped]
      rfl
  · intro pattern parsed
    exact (parse_eq_ok parsed).2.2.imp fun _ _ found => Segment.printed_of_parse found

/-- Two variables of which the second one is left open. -/
theorem leftOpen_second : Segment.LeftOpen "{a}\x7bb".toList := by
  have second : Piece.Sequence ('{' :: (['b'] ++ '}' :: [])) :=
    .variable (by decide) (by decide) (by decide) .nil
  have both : Piece.Sequence ('{' :: (['a'] ++ '}' :: '{' :: (['b'] ++ '}' :: []))) :=
    .variable (by decide) (by decide) (by decide) second
  exact ⟨by decide, both⟩

/-- A pattern is read although a brace is missing, and its parts do not print as its text. -/
theorem parse_of_leftOpen_second :
    parse "/{a}\x7bb" = .ok ⟨"/{a}\x7bb", [.pieces [.variable ['a'], .variable ['b']]]⟩ ∧
      "{a}\x7bb".toList ∈ pathSegments "/{a}\x7bb".toList ∧
      ¬ Segment.Grammatical "{a}\x7bb".toList ∧
      (Segment.pieces [.variable ['a'], .variable ['b']]).printed = "{a}{b}".toList :=
  ⟨by decide, by decide, Segment.not_grammatical_of_leftOpen leftOpen_second, by decide⟩

end Pattern

end Switchyard.Route
