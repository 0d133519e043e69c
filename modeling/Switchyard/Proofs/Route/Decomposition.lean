import Mathlib.Data.List.Lex
import Switchyard.Proofs.Route.Parsing

/-!
# Decompositions of a path

A path is matched along a decomposition: each wildcard and each variable of the pattern has a share
in the path, and what the pattern says literally stands between the shares.  There may be many
decompositions of one path.  `match?` finds one whenever there is one, and it finds the least: the
one that gives the first wildcard as little as possible, then the second one, and so on.
-/

set_option autoImplicit false

namespace Switchyard.Route

/-- What a wildcard or a variable stands for in a path. -/
inductive Share where
  | segments (run : List (List Char))
  | chars (run : List Char)
  | value (name run : List Char)
  deriving DecidableEq

namespace Share

def size : Share → Nat
  | .segments run => run.length
  | .chars run => run.length
  | .value _ run => run.length

def capture? : Share → Option (String × String)
  | .value name run => some (String.ofList name, String.ofList run)
  | _ => none

/-- What the variables stand for in a decomposition. -/
def captures (shares : List Share) : Captures :=
  shares.filterMap capture?

/-- Whether the first two shares that differ in size are in order. -/
def Before (shares others : List Share) : Prop :=
  List.Lex (· < ·) (shares.map size) (others.map size)

theorem Before.append {shares others : List Share} (before : Before shares others)
    (sameLength : shares.length = others.length) (later further : List Share) :
    Before (shares ++ later) (others ++ further) := by
  unfold Before at before ⊢
  rw [List.map_append, List.map_append]
  have mapped : (shares.map size).length = (others.map size).length := by simpa using sameLength
  generalize shares.map size = sizes at before mapped ⊢
  generalize others.map size = otherSizes at before mapped ⊢
  induction before with
  | nil => simp at mapped
  | rel smaller => exact .rel smaller
  | cons _ inductionHypothesis => exact .cons (inductionHypothesis (by simpa using mapped))

theorem Before.append_left {later further : List Share} (before : Before later further)
    (shares : List Share) : Before (shares ++ later) (shares ++ further) := by
  induction shares with
  | nil => exact before
  | cons share rest inductionHypothesis => exact .cons inductionHypothesis

/-- Shares that fit and come before all others that do. -/
def Least (Fits : List Share → Prop) (shares : List Share) : Prop :=
  Fits shares ∧ ∀ others, Fits others → others = shares ∨ Before shares others

/-- A search answers with the captures of the least shares that fit, or with nothing if none do. -/
inductive Finds (Fits : List Share → Prop) : Option Captures → Prop where
  | nothing : (∀ shares, ¬ Fits shares) → Finds Fits none
  | least {shares : List Share} : Least Fits shares → Finds Fits (some (captures shares))

variable {Fits Others : List Share → Prop} {found : Option Captures}

theorem Finds.congr (finds : Finds Fits found) (same : ∀ shares, Fits shares ↔ Others shares) :
    Finds Others found := by
  have equal : Fits = Others := funext fun shares => propext (same shares)
  exact equal ▸ finds

theorem Finds.isSome_iff (finds : Finds Fits found) :
    found.isSome = true ↔ ∃ shares, Fits shares := by
  cases finds with
  | nothing unfit => simpa using unfit
  | least least => simpa using ⟨_, least.1⟩

theorem Finds.eq_some {captures : Captures} (finds : Finds Fits (some captures)) :
    ∃ shares, Least Fits shares ∧ captures = Share.captures shares := by
  cases finds with
  | least least => exact ⟨_, least, rfl⟩

/-- Two parts that are searched one after the other, where the first one has a fixed number of
shares. -/
theorem Finds.append {behind : Option Captures} (finds : Finds Fits found)
    (sameLength : ∀ shares others, Fits shares → Fits others → shares.length = others.length)
    (later : Finds Others behind) :
    Finds (fun shares => ∃ front rest, shares = front ++ rest ∧ Fits front ∧ Others rest)
      (found.bind fun captures => behind.map fun more => captures ++ more) := by
  cases finds with
  | nothing unfit =>
      apply Finds.nothing
      rintro _ ⟨front, _, rfl, fits, -⟩
      exact unfit front fits
  | @least front least =>
      cases later with
      | nothing unfit =>
          apply Finds.nothing
          rintro _ ⟨_, rest, rfl, -, fits⟩
          exact unfit rest fits
      | @least rest restLeast =>
          have joined : captures front ++ captures rest = captures (front ++ rest) := by
            simp [captures]
          simp only [Option.bind_some, Option.map_some, joined]
          refine .least ⟨⟨front, rest, rfl, least.1, restLeast.1⟩, ?_⟩
          rintro _ ⟨other, further, rfl, fits, furtherFits⟩
          rcases least.2 other fits with rfl | before
          · rcases restLeast.2 further furtherFits with rfl | before
            · exact .inl rfl
            · exact .inr (before.append_left other)
          · exact .inr (before.append (sameLength _ _ least.1 fits) rest further)

end Share

/-- A list is cut after its shortest first part behind which the rest is accepted. -/
inductive CutsFirst {α β : Type} (accept : List α → Option β) (items : List α) :
    Option (List α × β) → Prop where
  | nowhere : (∀ run rest, items = run ++ rest → accept rest = none) → CutsFirst accept items none
  | after {run rest : List α} {made : β} :
      items = run ++ rest → accept rest = some made →
      (∀ shorter other, items = shorter ++ other → shorter.length < run.length →
        accept other = none) →
      CutsFirst accept items (some (run, made))

namespace CutsFirst

variable {α β : Type} {accept : List α → Option β}

theorem nil : CutsFirst accept [] ((accept []).map fun made => ([], made)) := by
  cases accepted : accept [] with
  | none =>
      apply CutsFirst.nowhere
      intro run rest parts
      obtain ⟨rfl, rfl⟩ := List.append_eq_nil_iff.mp parts.symm
      exact accepted
  | some made => exact .after rfl accepted (by simp)

theorem here {items : List α} {made : β} (accepted : accept items = some made) :
    CutsFirst accept items (some ([], made)) :=
  .after rfl accepted (by simp)

/-- Where the whole list is not accepted, the first item belongs to the first part. -/
theorem cons {item : α} {items : List α} {found : Option (List α × β)}
    (refused : accept (item :: items) = none) (cuts : CutsFirst accept items found) :
    CutsFirst accept (item :: items) (found.map fun cut => (item :: cut.1, cut.2)) := by
  cases cuts with
  | nowhere refusal =>
      apply CutsFirst.nowhere
      intro run rest parts
      cases run with
      | nil => exact (List.nil_append rest ▸ parts) ▸ refused
      | cons head tail =>
          simp only [List.cons_append, List.cons.injEq] at parts
          exact refusal tail rest parts.2
  | after parts accepted shortest =>
      refine .after (by rw [parts, List.cons_append]) accepted ?_
      intro shorter other otherParts less
      cases shorter with
      | nil => exact (List.nil_append other ▸ otherParts) ▸ refused
      | cons head tail =>
          simp only [List.cons_append, List.cons.injEq] at otherParts
          exact shortest tail other otherParts.2 (by simpa using less)

/-- The captures behind the shortest share that lets the rest be matched are those of the least
decomposition. -/
theorem finds {items : List α} {accept : List α → Option Captures}
    {found : Option (List α × Captures)} {Fits : List α → List Share → Prop}
    (cuts : CutsFirst accept items found) (share : List α → Share)
    (behind : ∀ rest, Share.Finds (Fits rest) (accept rest))
    (sized : ∀ run, (share run).size = run.length) :
    Share.Finds (fun shares => ∃ run rest later,
        items = run ++ rest ∧ shares = share run :: later ∧ Fits rest later)
      (found.map fun cut => (share cut.1).capture?.toList ++ cut.2) := by
  cases cuts with
  | nowhere refusal =>
      apply Share.Finds.nothing
      rintro _ ⟨run, rest, later, parts, rfl, fits⟩
      have searched := behind rest
      rw [refusal run rest parts] at searched
      cases searched with
      | nothing unfit => exact unfit later fits
  | @after run rest made parts accepted shortest =>
      have searched := behind rest
      rw [accepted] at searched
      obtain ⟨later, least, rfl⟩ := searched.eq_some
      have joined : (share run).capture?.toList ++ Share.captures later =
          Share.captures (share run :: later) := by
        cases captured : (share run).capture? <;> simp [Share.captures, captured]
      simp only [Option.map_some, joined]
      refine .least ⟨⟨run, rest, later, parts, rfl, least.1⟩, ?_⟩
      rintro _ ⟨other, further, others, otherParts, rfl, fits⟩
      rcases Nat.lt_trichotomy other.length run.length with less | same | more
      · have searched := behind further
        rw [shortest other further otherParts less] at searched
        cases searched with
        | nothing unfit => exact absurd fits (unfit others)
      · obtain ⟨rfl, rfl⟩ := List.append_inj (otherParts.symm.trans parts) same
        rcases least.2 others fits with rfl | before
        · exact .inl rfl
        · exact .inr (.cons before)
      · exact .inr (.rel (by rwa [sized, sized]))

end CutsFirst

namespace Piece

/-- A text is cut along pieces, each of which stands for its part. -/
inductive Decomposes : List Piece → List Char → List Share → Prop where
  | nil : Decomposes [] [] []
  | literal {pieces : List Piece} {rest : List Char} {shares : List Share} (chars : List Char) :
      Decomposes pieces rest shares → Decomposes (.literal chars :: pieces) (chars ++ rest) shares
  | anyChar {pieces : List Piece} {rest : List Char} {shares : List Share} (c : Char) :
      Decomposes pieces rest shares → Decomposes (.anyChar :: pieces) (c :: rest) shares
  | anyChars {pieces : List Piece} {rest : List Char} {shares : List Share} (run : List Char) :
      Decomposes pieces rest shares →
      Decomposes (.anyChars :: pieces) (run ++ rest) (.chars run :: shares)
  | value {pieces : List Piece} {rest : List Char} {shares : List Share} (name run : List Char) :
      Decomposes pieces rest shares →
      Decomposes (.variable name :: pieces) (run ++ rest) (.value name run :: shares)

theorem Decomposes.length_eq {pieces : List Piece} {text other : List Char}
    {shares others : List Share} (decomposes : Decomposes pieces text shares)
    (otherDecomposes : Decomposes pieces other others) : shares.length = others.length := by
  induction decomposes generalizing other others with
  | nil =>
      cases otherDecomposes
      rfl
  | literal chars _ inductionHypothesis =>
      cases otherDecomposes with
      | literal _ rest => exact inductionHypothesis rest
  | anyChar c _ inductionHypothesis =>
      cases otherDecomposes with
      | anyChar _ rest => exact inductionHypothesis rest
  | anyChars run _ inductionHypothesis =>
      cases otherDecomposes with
      | anyChars _ rest => simpa using inductionHypothesis rest
  | value name run _ inductionHypothesis =>
      cases otherDecomposes with
      | value _ _ rest => simpa using inductionHypothesis rest

theorem cutsFirst_firstCut? {β : Type} (accept : List Char → Option β) (reversed text : List Char) :
    ∃ found, CutsFirst accept text found ∧
      firstCut? accept reversed text = found.map fun cut => (reversed.reverse ++ cut.1, cut.2) := by
  induction text generalizing reversed with
  | nil =>
      refine ⟨_, CutsFirst.nil, ?_⟩
      cases accepted : accept [] <;> simp [firstCut?, accepted]
  | cons c rest inductionHypothesis =>
      cases accepted : accept (c :: rest) with
      | some made => exact ⟨_, .here accepted, by simp [firstCut?, accepted]⟩
      | none =>
          obtain ⟨found, cuts, equality⟩ := inductionHypothesis (c :: reversed)
          refine ⟨_, cuts.cons accepted, ?_⟩
          simp only [firstCut?, accepted, equality, Option.map_map]
          congr 1
          funext cut
          simp

theorem cutsFirst_of_nil {β : Type} (accept : List Char → Option β) (text : List Char) :
    CutsFirst accept text (firstCut? accept [] text) := by
  obtain ⟨found, cuts, equality⟩ := cutsFirst_firstCut? accept [] text
  rw [equality]
  simpa using cuts

/-- Pieces are matched with a text along its least decomposition. -/
theorem finds (pieces : List Piece) (text : List Char) :
    Share.Finds (Decomposes pieces text) (captures? pieces text) := by
  induction pieces generalizing text with
  | nil =>
      cases text with
      | nil =>
          have least : Share.Least (Decomposes [] []) [] := by
            refine ⟨.nil, ?_⟩
            intro others decomposes
            cases decomposes
            exact .inl rfl
          exact .least least
      | cons c rest =>
          apply Share.Finds.nothing
          intro shares decomposes
          cases decomposes
  | cons piece pieces inductionHypothesis =>
      cases piece with
      | literal chars =>
          simp only [captures?]
          split
          case isTrue starts =>
              obtain ⟨rest, rfl⟩ := List.isPrefixOf_iff_prefix.mp starts
              rw [List.drop_left]
              refine (inductionHypothesis rest).congr fun shares => ⟨.literal chars, ?_⟩
              intro decomposes
              generalize spelled : chars ++ rest = text at decomposes
              cases decomposes with
              | literal _ decomposes => exact List.append_cancel_left spelled ▸ decomposes
          case isFalse apart =>
              apply Share.Finds.nothing
              intro shares decomposes
              cases decomposes with
              | literal _ _ => exact apart (List.isPrefixOf_iff_prefix.mpr (List.prefix_append _ _))
      | anyChar =>
          cases text with
          | nil =>
              apply Share.Finds.nothing
              intro shares decomposes
              cases decomposes
          | cons c rest =>
              refine (inductionHypothesis rest).congr fun shares => ⟨.anyChar c, ?_⟩
              intro decomposes
              cases decomposes with
              | anyChar _ decomposes => exact decomposes
      | anyChars =>
          have cuts := cutsFirst_of_nil (captures? pieces) text
          have searched := cuts.finds .chars inductionHypothesis fun run => rfl
          refine (searched.congr fun shares => ?_ :
            Share.Finds _ ((firstCut? (captures? pieces) [] text).map Prod.snd))
          constructor
          · rintro ⟨run, rest, later, rfl, rfl, decomposes⟩
            exact .anyChars run decomposes
          · intro decomposes
            cases decomposes with
            | anyChars run decomposes => exact ⟨run, _, _, rfl, rfl, decomposes⟩
      | «variable» name =>
          have cuts := cutsFirst_of_nil (captures? pieces) text
          have searched := cuts.finds (.value name) inductionHypothesis fun run => rfl
          refine searched.congr fun shares => ?_
          constructor
          · rintro ⟨run, rest, later, rfl, rfl, decomposes⟩
            exact .value name run decomposes
          · intro decomposes
            cases decomposes with
            | value _ run decomposes => exact ⟨run, _, _, rfl, rfl, decomposes⟩

theorem Decomposes.names {pieces : List Piece} {text : List Char} {shares : List Share}
    (decomposes : Decomposes pieces text shares) :
    (Share.captures shares).map Prod.fst =
      (Segment.variableNames (.pieces pieces)).map String.ofList := by
  induction decomposes with
  | nil => rfl
  | literal _ _ inductionHypothesis => exact inductionHypothesis
  | anyChar _ _ inductionHypothesis => exact inductionHypothesis
  | anyChars _ _ inductionHypothesis => exact inductionHypothesis
  | value name _ _ inductionHypothesis =>
      exact congrArg (String.ofList name :: ·) inductionHypothesis

end Piece

namespace Segment

/-- The segments of a path are divided among the segments of a pattern. -/
inductive Decomposes : List Segment → List (List Char) → List Share → Prop where
  | nil : Decomposes [] [] []
  | anySegments {segments : List Segment} {rest : List (List Char)} {shares : List Share}
      (run : List (List Char)) :
      Decomposes segments rest shares →
      Decomposes (.anySegments :: segments) (run ++ rest) (.segments run :: shares)
  | pieces {parts : List Piece} {segments : List Segment} {first : List Char}
      {rest : List (List Char)} {front shares : List Share} :
      Piece.Decomposes parts first front → Decomposes segments rest shares →
      Decomposes (.pieces parts :: segments) (first :: rest) (front ++ shares)

theorem Decomposes.names {segments : List Segment} {path : List (List Char)}
    {shares : List Share} (decomposes : Decomposes segments path shares) :
    (Share.captures shares).map Prod.fst =
      (segments.flatMap variableNames).map String.ofList := by
  induction decomposes with
  | nil => rfl
  | anySegments _ _ inductionHypothesis => exact inductionHypothesis
  | pieces front _ inductionHypothesis =>
      rw [List.flatMap_cons, List.map_append, ← front.names, ← inductionHypothesis]
      simp [Share.captures]

theorem cutsFirst_suffixes {β : Type} (accept : List (List Char) → Option β)
    (path : List (List Char)) :
    ∃ found, CutsFirst accept path found ∧
      (suffixes path).findSome? accept = found.map Prod.snd := by
  induction path with
  | nil =>
      refine ⟨_, CutsFirst.nil, ?_⟩
      cases accepted : accept [] <;> simp [suffixes, accepted]
  | cons first rest inductionHypothesis =>
      cases accepted : accept (first :: rest) with
      | some made => exact ⟨_, .here accepted, by simp [suffixes, accepted]⟩
      | none =>
          obtain ⟨found, cuts, equality⟩ := inductionHypothesis
          refine ⟨_, cuts.cons accepted, ?_⟩
          simp [suffixes, accepted, equality, Function.comp_def]

/-- Segments are matched with those of a path along their least decomposition. -/
theorem finds (segments : List Segment) (path : List (List Char)) :
    Share.Finds (Decomposes segments path) (captures? segments path) := by
  induction segments generalizing path with
  | nil =>
      cases path with
      | nil =>
          have least : Share.Least (Decomposes [] []) [] := by
            refine ⟨.nil, ?_⟩
            intro others decomposes
            cases decomposes
            exact .inl rfl
          exact .least least
      | cons first rest =>
          apply Share.Finds.nothing
          intro shares decomposes
          cases decomposes
  | cons segment segments inductionHypothesis =>
      cases segment with
      | anySegments =>
          obtain ⟨found, cuts, equality⟩ := cutsFirst_suffixes (captures? segments) path
          have searched := cuts.finds .segments inductionHypothesis fun run => rfl
          simp only [captures?, equality]
          refine searched.congr fun shares => ?_
          constructor
          · rintro ⟨run, rest, later, rfl, rfl, decomposes⟩
            exact .anySegments run decomposes
          · intro decomposes
            cases decomposes with
            | anySegments run decomposes => exact ⟨run, _, _, rfl, rfl, decomposes⟩
      | pieces parts =>
          cases path with
          | nil =>
              apply Share.Finds.nothing
              intro shares decomposes
              cases decomposes
          | cons first rest =>
              have searched := (Piece.finds parts first).append
                (fun _ _ front other => front.length_eq other) (inductionHypothesis rest)
              have split : captures? (.pieces parts :: segments) (first :: rest) =
                  (Piece.captures? parts first).bind fun captures =>
                    (captures? segments rest).map fun more => captures ++ more := by
                simp only [captures?]
                cases Piece.captures? parts first <;> rfl
              rw [split]
              refine searched.congr fun shares => ?_
              constructor
              · rintro ⟨front, later, rfl, decomposes, behind⟩
                exact .pieces decomposes behind
              · intro decomposes
                cases decomposes with
                | pieces front behind => exact ⟨_, _, rfl, front, behind⟩

end Segment

namespace Pattern

variable {text : String} {pattern : Pattern}

theorem endsWithAnySegments_iff (parsed : parse text = .ok pattern) :
    pattern.endsWithAnySegments = true ↔
      (pathSegments text.toList).getLast? = some ['*', '*'] := by
  have spelled := List.rel_reverse (spells_of_parse parsed)
  simp only [endsWithAnySegments, decide_eq_true_eq, ← List.head?_reverse]
  generalize (pathSegments text.toList).reverse = texts at spelled ⊢
  generalize pattern.segments.reverse = segments at spelled ⊢
  cases spelled with
  | nil => simp
  | cons last _ =>
      cases last with
      | anySegments => simp
      | pieces notStars _ => simpa using notStars

/-- Whether a path may have the trailing slash that it has, or have none.  The text of a pattern
that ends with `**` admits both. -/
def SlashesAgree (text path : List Char) (tolerant : Bool) : Prop :=
  (pathSegments text).getLast? = some ['*', '*'] ∨
    hasTrailingSlash path = hasTrailingSlash text ∨
      (tolerant = true ∧ hasTrailingSlash path = true ∧ hasTrailingSlash text = false)

theorem agreesOnSlash_iff (parsed : parse text = .ok pattern) (tolerant : Bool)
    (path : List Char) :
    pattern.agreesOnSlash tolerant path = true ↔ SlashesAgree text.toList path tolerant := by
  obtain ⟨-, rfl, -⟩ := parse_eq_ok parsed
  simp [agreesOnSlash, SlashesAgree, endsWithAnySegments_iff parsed, or_assoc, and_assoc]

/-- A pattern means what its text spells: a path is matched exactly if it begins with a slash, has
a trailing slash only where it may, and can be decomposed.  The captures are those of the least
decomposition, one for each variable. -/
theorem match?_along_least (parsed : parse text = .ok pattern) (path : String)
    (tolerant : Bool) :
    List.Forall₂ Segment.Spells (pathSegments text.toList) pattern.segments ∧
      ((pattern.match? path tolerant).isSome = true ↔
        path.toList.head? = some '/' ∧ SlashesAgree text.toList path.toList tolerant ∧
          ∃ shares, Segment.Decomposes pattern.segments (pathSegments path.toList) shares) ∧
      ∀ captures, pattern.match? path tolerant = some captures →
        captures.map Prod.fst = pattern.variableNames.map String.ofList ∧
          ∃ shares,
            Share.Least (Segment.Decomposes pattern.segments (pathSegments path.toList)) shares ∧
              captures = Share.captures shares := by
  have finds := Segment.finds pattern.segments (pathSegments path.toList)
  refine ⟨spells_of_parse parsed, ?_, ?_⟩
  · rw [← agreesOnSlash_iff parsed, ← finds.isSome_iff]
    simp only [match?]
    split <;> simp_all
  · intro captures matched
    simp only [match?] at matched
    split at matched
    case isTrue =>
        obtain ⟨shares, least, rfl⟩ := (matched ▸ finds).eq_some
        exact ⟨least.1.names, shares, least, rfl⟩
    case isFalse => cases matched

/-- A pattern with a file name and what follows its first dot, at any depth. -/
def filePattern : Pattern :=
  ⟨"/**/{name}.{rest}",
    [.anySegments, .pieces [.variable "name".toList, .literal ['.'], .variable "rest".toList]]⟩

/-- Of the two ways to cut `b.c.d` at a dot, the one with the shorter name counts. -/
theorem match?_along_least_of_file :
    parse "/**/{name}.{rest}" = .ok filePattern ∧
      filePattern.match? "/a//b.c.d" false = some [("name", "b"), ("rest", "c.d")] ∧
      ∃ shares,
        Share.Least (Segment.Decomposes filePattern.segments (pathSegments "/a//b.c.d".toList))
            shares ∧
          [("name", "b"), ("rest", "c.d")] = Share.captures shares := by
  have parsed : parse "/**/{name}.{rest}" = .ok filePattern := by decide +kernel
  have matched : filePattern.match? "/a//b.c.d" false = some [("name", "b"), ("rest", "c.d")] := by
    decide +kernel
  exact ⟨parsed, matched, ((match?_along_least parsed "/a//b.c.d" false).2.2 _ matched).2⟩

end Pattern

end Switchyard.Route
