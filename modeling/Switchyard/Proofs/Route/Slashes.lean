import Switchyard.Proofs.Route.Decomposition
import Switchyard.Proofs.Route.Lookup

/-!
# A slash behind a path

Where trailing slashes are tolerated, the same patterns match a path with a slash behind it and
without.  They compare alike as well, unless one of them is the path itself: with the slash it no
longer is, and the counts decide.  There a literal pattern can lose against one with `?`, whose
wildcards are not counted, and against one with more slashes.
-/

set_option autoImplicit false

namespace Switchyard.Route

variable {chars : List Char} {pieces : List Piece} {texts : List (List Char)}
  {segments : List Segment}

theorem pathSegments_append_slash (chars : List Char) :
    pathSegments (chars ++ ['/']) = pathSegments chars := by
  rw [pathSegments, Text.splitOn_append_cons]
  simp [pathSegments, Text.splitOn, Text.splitFrom]

theorem hasTrailingSlash_append_slash (inhabited : chars ≠ []) :
    hasTrailingSlash (chars ++ ['/']) = true := by
  simp [hasTrailingSlash, List.length_pos_iff.mpr inhabited]

theorem hasTrailingSlash_eq_false (ending : chars.getLast? ≠ some '/') :
    hasTrailingSlash chars = false := by
  simp [hasTrailingSlash, ending]

/-- Whether a text has one slash in front of each segment and no others. -/
def Tidy (chars : List Char) : Prop :=
  (pathSegments chars).flatMap (fun segment => '/' :: segment) = chars

theorem mem_of_mem_pathSegments {segment : List Char} {c : Char}
    (found : segment ∈ pathSegments chars) (inSegment : c ∈ segment) : c ∈ chars :=
  Text.mem_of_mem_splitOn (List.mem_of_mem_filter found) inSegment

/-- A text decomposes along the pieces that it spells, each wildcard and each variable standing for
itself. -/
theorem Piece.Spells.exists_decomposes (spells : Spells chars pieces) :
    ∃ shares, Decomposes pieces chars shares := by
  induction spells with
  | nil => exact ⟨_, .nil⟩
  | literal _ _ _ inductionHypothesis =>
      obtain ⟨shares, decomposes⟩ := inductionHypothesis
      exact ⟨_, .literal _ decomposes⟩
  | anyChars _ inductionHypothesis =>
      obtain ⟨shares, decomposes⟩ := inductionHypothesis
      exact ⟨_, .anyChars ['*'] decomposes⟩
  | anyChar _ inductionHypothesis =>
      obtain ⟨shares, decomposes⟩ := inductionHypothesis
      exact ⟨_, .anyChar '?' decomposes⟩
  | @closed name rest _ _ _ _ _ inductionHypothesis =>
      obtain ⟨shares, decomposes⟩ := inductionHypothesis
      have whole := Decomposes.value name ('{' :: (name ++ ['}'])) decomposes
      exact ⟨_, by simpa using whole⟩
  | @unclosed name _ _ _ =>
      have whole := Decomposes.value name ('{' :: name) .nil
      exact ⟨_, by simpa using whole⟩

/-- Literal pieces match nothing else than what they spell. -/
theorem Piece.Spells.eq_of_decomposes {other : List Char} {shares : List Share}
    (spells : Spells chars pieces) (literal : pieces.all isLiteral = true)
    (decomposes : Decomposes pieces other shares) : other = chars := by
  induction spells generalizing other with
  | nil =>
      cases decomposes
      rfl
  | literal _ _ _ inductionHypothesis =>
      cases decomposes with
      | literal _ others => rw [inductionHypothesis literal others]
  | anyChars | anyChar | closed | unclosed => cases literal

theorem Piece.Spells.mem_of_anyChar (spells : Spells chars pieces)
    (marked : .anyChar ∈ pieces) : '?' ∈ chars := by
  induction spells with
  | nil => cases marked
  | literal _ _ _ inductionHypothesis =>
      exact List.mem_append_right _ (inductionHypothesis (by simpa using marked))
  | anyChars _ inductionHypothesis =>
      exact List.mem_cons_of_mem _ (inductionHypothesis (by simpa using marked))
  | anyChar _ _ => exact List.mem_cons_self
  | closed _ _ _ _ inductionHypothesis =>
      have later := inductionHypothesis (by simpa using marked)
      simp [later]
  | unclosed => simp at marked

theorem Segment.exists_decomposes (spelled : List.Forall₂ Spells texts segments) :
    ∃ shares, Decomposes segments texts shares := by
  induction spelled with
  | nil => exact ⟨_, .nil⟩
  | cons spells _ inductionHypothesis =>
      obtain ⟨shares, decomposes⟩ := inductionHypothesis
      cases spells with
      | anySegments => exact ⟨_, .anySegments [['*', '*']] decomposes⟩
      | pieces _ spells =>
          obtain ⟨front, first⟩ := spells.exists_decomposes
          exact ⟨_, .pieces first decomposes⟩

theorem Segment.eq_of_decomposes {path : List (List Char)} {shares : List Share}
    (spelled : List.Forall₂ Spells texts segments)
    (literal : segments.all isLiteral = true) (decomposes : Decomposes segments path shares) :
    path = texts := by
  induction spelled generalizing path shares with
  | nil =>
      cases decomposes
      rfl
  | cons spells _ inductionHypothesis =>
      simp only [List.all_cons, Bool.and_eq_true] at literal
      cases decomposes with
      | anySegments => cases literal.1
      | pieces first others =>
          cases spells with
          | pieces _ spells =>
              rw [spells.eq_of_decomposes literal.1 first, inductionHypothesis literal.2 others]

theorem Segment.exists_text_of_mem {segment : Segment}
    (spelled : List.Forall₂ Spells texts segments)
    (membership : segment ∈ segments) : ∃ text ∈ texts, Spells text segment := by
  induction spelled with
  | nil => cases membership
  | cons spells _ inductionHypothesis =>
      rcases List.mem_cons.mp membership with rfl | inRest
      · exact ⟨_, List.mem_cons_self, spells⟩
      · obtain ⟨text, inTexts, found⟩ := inductionHypothesis inRest
        exact ⟨text, List.mem_cons_of_mem _ inTexts, found⟩

namespace Pattern

variable {path text : String} {patterns : List Pattern} {pattern other : Pattern}

/-- Every pattern matches its own text. -/
theorem exists_match?_text (parsed : parse text = .ok pattern) (tolerant : Bool) :
    ∃ captures, pattern.match? text tolerant = some captures := by
  have decomposes := Segment.exists_decomposes (spells_of_parse parsed)
  have leading := (parse_eq_ok parsed).1
  exact Option.isSome_iff_exists.mp
    ((match?_along_least parsed text tolerant).2.1.mpr ⟨leading, .inr (.inl rfl), decomposes⟩)

/-- A pattern without a slash at its end tolerates one at the end of a path. -/
theorem match?_append_slash (bare : pattern.text.toList.getLast? ≠ some '/')
    (leading : path.toList.head? = some '/') (ending : path.toList.getLast? ≠ some '/') :
    pattern.match? (path ++ "/") true = pattern.match? path true := by
  have inhabited : path.toList ≠ [] := by
    intro nothing
    simp [nothing] at leading
  have further : (path.toList ++ ['/']).head? = some '/' := by
    rw [List.head?_append, leading]
    rfl
  have segments := pathSegments_append_slash path.toList
  simp [match?, agreesOnSlash, leading, further, segments, hasTrailingSlash_eq_false bare,
    hasTrailingSlash_eq_false ending, hasTrailingSlash_append_slash inhabited]

theorem text_of_isExact (exact : pattern.isExact path = true) : pattern.text = path := by
  simp only [isExact, Bool.and_eq_true, decide_eq_true_eq] at exact
  exact exact.1

theorem isExact_append_slash (bare : pattern.text.toList.getLast? ≠ some '/') :
    pattern.isExact (path ++ "/") = false := by
  have different : pattern.text ≠ path ++ "/" := by
    intro spelled
    simp [spelled] at bare
  simp [isExact, different]

/-- The order asks of a path only whether one of the two patterns is it. -/
theorem compareSpecificity_congr {further : String}
    (inexact : pattern.isExact path = pattern.isExact further)
    (otherInexact : other.isExact path = other.isExact further) :
    pattern.compareSpecificity other path = pattern.compareSpecificity other further := by
  by_cases catchAll : pattern.isCatchAll = true <;>
    by_cases otherCatchAll : other.isCatchAll = true <;>
      simp_all [compareSpecificity, isExact]

theorem singleStars_eq_zero_iff :
    pattern.singleStars = 0 ↔ ∀ segment ∈ pattern.segments, segment.singleStars = 0 := by
  suffices general : ∀ (segments : List Segment) (counted : Nat),
      segments.foldl (fun stars segment => stars + segment.singleStars) counted = 0 ↔
        counted = 0 ∧ ∀ segment ∈ segments, segment.singleStars = 0 by
    simpa [singleStars] using general pattern.segments 0
  intro segments
  induction segments with
  | nil => simp
  | cons segment rest inductionHypothesis =>
      intro counted
      rw [List.foldl_cons, inductionHypothesis, List.forall_mem_cons, Nat.add_eq_zero_iff,
        and_assoc]

/-- A pattern has no wildcards that count if its pieces are literal or stand for one character. -/
theorem wildcards_eq_zero_iff :
    pattern.wildcards = 0 ↔ ∀ segment ∈ pattern.segments, ∃ parts, segment = .pieces parts ∧
      ∀ piece ∈ parts, piece = .anyChar ∨ piece.isLiteral = true := by
  have counts : pattern.wildcards = 0 ↔
      (∀ segment ∈ pattern.segments, segment.variableNames = []) ∧
        (∀ segment ∈ pattern.segments, segment.singleStars = 0) ∧
          .anySegments ∉ pattern.segments := by
    rw [← singleStars_eq_zero_iff, ← List.count_eq_zero, ← List.flatMap_eq_nil_iff,
      ← List.length_eq_zero_iff]
    simp only [wildcards, variableNames, doubleStars]
    omega
  rw [counts]
  constructor
  · rintro ⟨unnamed, unstarred, double⟩ segment membership
    cases segment with
    | anySegments => exact absurd membership double
    | pieces parts =>
        refine ⟨parts, rfl, fun piece inParts => ?_⟩
        cases piece with
        | literal _ => exact .inr rfl
        | anyChar => exact .inl rfl
        | anyChars => exact absurd inParts (List.count_eq_zero.mp (unstarred _ membership))
        | «variable» name =>
            have unlisted := List.filterMap_eq_nil_iff.mp (unnamed _ membership) _ inParts
            cases unlisted
  · intro fixed
    refine ⟨?_, ?_, ?_⟩
    · intro segment membership
      obtain ⟨parts, rfl, own⟩ := fixed segment membership
      refine List.filterMap_eq_nil_iff.mpr fun piece inParts => ?_
      rcases own piece inParts with rfl | literal
      · rfl
      · cases piece <;> first | rfl | cases literal
    · intro segment membership
      obtain ⟨parts, rfl, own⟩ := fixed segment membership
      refine List.count_eq_zero.mpr fun starred => ?_
      simpa [Piece.isLiteral] using own _ starred
    · intro double
      obtain ⟨parts, impossible, -⟩ := fixed _ double
      cases impossible

theorem wildcards_of_isLiteral (literal : pattern.isLiteral = true) : pattern.wildcards = 0 := by
  refine wildcards_eq_zero_iff.mpr fun segment membership => ?_
  have own := List.all_eq_true.mp literal segment membership
  cases segment with
  | anySegments => cases own
  | pieces parts =>
      exact ⟨parts, rfl, fun piece inParts => .inr (List.all_eq_true.mp own piece inParts)⟩

/-- Without a `?` in its text a pattern is literal if it has no wildcards that count. -/
theorem isLiteral_of_wildcards (parsed : parse text = .ok pattern)
    (bare : pattern.wildcards = 0) (unmarked : '?' ∉ text.toList) : pattern.isLiteral = true := by
  refine List.all_eq_true.mpr fun segment membership => ?_
  obtain ⟨parts, rfl, fixed⟩ := wildcards_eq_zero_iff.mp bare segment membership
  obtain ⟨chars, inText, spells⟩ := Segment.exists_text_of_mem (spells_of_parse parsed) membership
  refine List.all_eq_true.mpr fun piece inParts => ?_
  rcases fixed piece inParts with rfl | literal
  · cases spells with
    | pieces _ spells =>
        exact absurd (mem_of_mem_pathSegments inText (spells.mem_of_anyChar inParts)) unmarked
  · exact literal

/-- A literal pattern matches only paths that have its segments. -/
theorem pathSegments_of_match?_isLiteral (parsed : parse text = .ok pattern)
    (literal : pattern.isLiteral = true) {tolerant : Bool} {captures : Captures}
    (matched : pattern.match? path tolerant = some captures) :
    pathSegments path.toList = pathSegments text.toList := by
  obtain ⟨-, shares, least, -⟩ := (match?_along_least parsed path tolerant).2.2 captures matched
  exact Segment.eq_of_decomposes (spells_of_parse parsed) literal least.1

/-- Whether a pattern without wildcards that count, which may have `?`, comes before another one by
the length of its text, or by its place among patterns of that length. -/
def Outweighs (patterns : List Pattern) (pattern other : Pattern) : Prop :=
  pattern.wildcards = 0 ∧
    (other.weight < pattern.weight ∨
      pattern.weight = other.weight ∧ patterns.idxOf pattern < patterns.idxOf other)

instance (patterns : List Pattern) (pattern other : Pattern) :
    Decidable (Outweighs patterns pattern other) :=
  inferInstanceAs (Decidable (_ ∧ _))

/-- The counts put a pattern without wildcards behind those that outweigh it. -/
theorem rank_eq_lt_iff_of_wildcards (bare : pattern.wildcards = 0)
    (membership : pattern ∈ patterns) (different : other ≠ pattern) :
    rank patterns pattern other = .lt ↔ ¬ Outweighs patterns other pattern := by
  have placed : patterns.idxOf pattern ≠ patterns.idxOf other := fun same =>
    different ((List.idxOf_inj membership).mp same).symm
  simp only [wildcards] at bare
  simp only [rank, compareCounts, compareLex, compareOn, Ordering.then_eq_lt, Nat.compare_eq_lt,
    Ordering.then_eq_eq, Nat.compare_eq_eq, Outweighs, wildcards]
  omega

theorem Outweighs.asymm (outweighs : Outweighs patterns pattern other) :
    ¬ Outweighs patterns other pattern := by
  simp only [Outweighs] at outweighs ⊢
  omega

theorem isPlain_of_wildcards (bare : pattern.wildcards = 0) : pattern.isPlain = true := by
  simp only [wildcards] at bare
  simp only [isPlain, decide_eq_true_eq]
  omega

/-- Only what outweighs a literal pattern comes before it, unless a pattern is the path itself. -/
theorem precedes_iff_of_isLiteral (listed : Listed patterns)
    (inexact : ∀ other ∈ patterns, other.isExact path = false)
    (membership : pattern ∈ patterns) (literal : pattern.isLiteral = true)
    (otherMembership : other ∈ patterns) (different : other ≠ pattern) :
    Precedes path patterns pattern other ↔ ¬ Outweighs patterns other pattern := by
  have proper := listed.proper pattern membership
  have notTree := proper.isTree_eq_false (isPlain_of_isLiteral literal)
  have ordinary := isCatchAll_eq_false notTree
  constructor
  · intro precedes outweighs
    have otherProper := listed.proper other otherMembership
    have otherNotTree := otherProper.isTree_eq_false (isPlain_of_wildcards outweighs.1)
    have ranked : rank patterns other pattern = .lt :=
      (rank_eq_lt_iff_of_wildcards outweighs.1 otherMembership (Ne.symm different)).mpr
        outweighs.asymm
    refine precedes.asymm proper (.of_rank (isCatchAll_eq_false otherNotTree) ordinary
      (inexact other otherMembership) (inexact pattern membership) ?_ ranked)
    simp [otherNotTree]
  · intro unweighed
    have ranked : rank patterns pattern other = .lt :=
      (rank_eq_lt_iff_of_wildcards (wildcards_of_isLiteral literal) membership different).mpr
        unweighed
    by_cases catchAll : other.isCatchAll = true
    · exact .of_lt (compareSpecificity_catchAll ordinary catchAll)
    · exact .of_rank ordinary (by simpa using catchAll) (inexact pattern membership)
        (inexact other otherMembership) (by simp [notTree]) ranked

theorem leads_iff_of_isLiteral (listed : Listed patterns)
    (inexact : ∀ other ∈ patterns, other.isExact path = false)
    (membership : pattern ∈ patterns) (literal : pattern.isLiteral = true) :
    Leads path patterns pattern ↔
      ∀ other ∈ patterns, other ≠ pattern → ¬ Outweighs patterns other pattern := by
  rw [leads_iff_precedes listed]
  constructor
  · rintro ⟨-, first⟩ other otherMembership different
    exact (precedes_iff_of_isLiteral listed inexact membership literal otherMembership
      different).mp (first other otherMembership different)
  · intro unweighed
    refine ⟨membership, fun other otherMembership different => ?_⟩
    exact (precedes_iff_of_isLiteral listed inexact membership literal otherMembership
      different).mpr (unweighed other otherMembership different)

/-- A literal pattern breaks every circle: those with a `**` inside come behind it. -/
theorem not_circular_of_isLiteral (membership : pattern ∈ patterns)
    (literal : pattern.isLiteral = true) : ¬ Circular path patterns := by
  intro circular
  obtain ⟨inner, innerMembership, isInner, before⟩ := circular.inner_before_plain
  have plain := isPlain_of_isLiteral literal
  have different : inner ≠ pattern := by
    rintro rfl
    simp [Pattern.isInner, plain] at isInner
  have behind : rank patterns pattern inner = .lt := by
    refine (rank_eq_lt_iff_of_wildcards (wildcards_of_isLiteral literal) membership
      different).mpr fun outweighs => ?_
    simp [Pattern.isInner, isPlain_of_wildcards outweighs.1] at isInner
  have swapped : rank patterns pattern inner = (rank patterns inner pattern).swap :=
    Std.OrientedCmp.eq_swap
  rw [before pattern membership plain, behind] at swapped
  cases swapped

end Pattern

namespace Router

variable {H : Type} {router : Router H} {path : String}

/-- A router that tolerates a slash at the end of a path and has none at the end of a pattern, and a
path without one.  The pattern of the root path is not among the entries. -/
structure Tolerates (router : Router H) (path : String) : Prop where
  tolerant : router.tolerant = true
  bare : ∀ entry ∈ router.entries, entry.pattern.text.toList.getLast? ≠ some '/'
  leading : path.toList.head? = some '/'
  ending : path.toList.getLast? ≠ some '/'

theorem Tolerates.candidates_slash (tolerates : Tolerates router path) :
    router.candidates (path ++ "/") = router.candidates path := by
  unfold candidates
  apply List.filterMap_congr
  intro entry membership
  rw [tolerates.tolerant,
    Pattern.match?_append_slash (tolerates.bare entry membership) tolerates.leading
      tolerates.ending]

theorem Tolerates.candidatePatterns_slash (tolerates : Tolerates router path) :
    router.candidatePatterns (path ++ "/") = router.candidatePatterns path :=
  congrArg (List.map _) tolerates.candidates_slash

theorem exists_entry_of_mem {pattern : Pattern}
    (membership : pattern ∈ router.candidatePatterns path) :
    ∃ entry ∈ router.entries, ∃ captures,
      entry.pattern.match? path router.tolerant = some captures ∧ entry.pattern = pattern := by
  obtain ⟨⟨entry, captures⟩, candidate, rfl⟩ := List.mem_map.mp membership
  obtain ⟨inEntries, matched⟩ := mem_candidates.mp candidate
  exact ⟨entry, inEntries, captures, matched, rfl⟩

theorem Tolerates.slot?_slash (tolerates : Tolerates router path) :
    router.slot? (path ++ "/") = router.slot? path := by
  have notRoot : path ≠ rootText := by
    intro isRoot
    exact tolerates.ending (by rw [isRoot]; rfl)
  have furtherNotRoot : path ++ "/" ≠ rootText := by
    intro isRoot
    have nothing : path.toList = [] := by
      have spelled := congrArg String.toList isRoot
      simpa [rootText] using spelled
    simpa [nothing] using tolerates.leading
  simp [slot?, notRoot, furtherNotRoot]

/-- With the slash behind it a path is not the text of a pattern. -/
theorem Tolerates.inexact (tolerates : Tolerates router path) :
    ∀ pattern ∈ router.candidatePatterns path, pattern.isExact (path ++ "/") = false := by
  intro pattern membership
  obtain ⟨entry, inEntries, captures, -, rfl⟩ := exists_entry_of_mem membership
  exact Pattern.isExact_append_slash (tolerates.bare entry inEntries)

/-- Two paths of which the same patterns are exact order the candidates alike. -/
theorem foldl_better_congr {further : String} {remaining : List (Entry H × Captures)}
    {best : Option (Entry H × Captures)}
    (alike : ∀ candidate ∈ best.toList ++ remaining,
      candidate.1.pattern.isExact path = candidate.1.pattern.isExact further) :
    remaining.foldl (fun best candidate => better path best candidate.1 candidate.2) best =
      remaining.foldl (fun best candidate => better further best candidate.1 candidate.2)
        best := by
  induction remaining generalizing best with
  | nil => rfl
  | cons candidate rest inductionHypothesis =>
      have taken : better path best candidate.1 candidate.2 =
          better further best candidate.1 candidate.2 := by
        cases best with
        | none => rfl
        | some current =>
            simp only [better]
            rw [Pattern.compareSpecificity_congr (alike candidate (by simp))
              (alike current (by simp))]
      rw [List.foldl_cons, List.foldl_cons, ← taken]
      apply inductionHypothesis
      intro other membership
      rcases List.mem_append.mp membership with isBest | inRest
      · have known : best = some other ∨ other ∈ [candidate] :=
          mem_of_foldl_better (Option.mem_toList.mp isBest)
        apply alike
        rcases known with rfl | first <;> simp_all
      · exact alike other (by simp [inRest])

/-- A path that is not itself a pattern is routed alike with a slash and without. -/
theorem Tolerates.at?_slash_of_inexact (tolerates : Tolerates router path)
    (wellFormed : WellFormed router)
    (inexact : ∀ entry ∈ router.entries, entry.pattern.isExact path = false) :
    router.at? (path ++ "/") = router.at? path := by
  have scanned : router.scan (path ++ "/") = router.scan path := by
    rw [scan_eq_foldl, scan_eq_foldl, tolerates.candidates_slash]
    apply foldl_better_congr
    intro candidate membership
    have inEntries := (mem_candidates.mp membership).1
    rw [inexact candidate.1 inEntries,
      Pattern.isExact_append_slash (tolerates.bare candidate.1 inEntries)]
  rw [wellFormed.at?_eq, wellFormed.at?_eq, scanned, tolerates.slot?_slash]

theorem WellFormed.at?_of_leads (wellFormed : WellFormed router)
    {candidate : Entry H × Captures} (membership : candidate ∈ router.candidates path)
    (leads : Pattern.Leads path (router.candidatePatterns path) candidate.1.pattern) :
    router.at? path = some (routeOf candidate) := by
  rw [wellFormed.at?_eq, scan_eq_of_leads (wellFormed.listed path) membership leads]

/-- An entry whose pattern is the path matches it. -/
theorem WellFormed.exists_candidate_of_isExact (wellFormed : WellFormed router)
    {entry : Entry H} (membership : entry ∈ router.entries)
    (exact : entry.pattern.isExact path = true) :
    ∃ captures, (entry, captures) ∈ router.candidates path := by
  obtain ⟨captures, matched⟩ :=
    Pattern.exists_match?_text (wellFormed.parsed entry membership) router.tolerant
  rw [Pattern.text_of_isExact exact] at matched
  exact ⟨captures, mem_candidates.mpr ⟨membership, matched⟩⟩

/-- An entry whose pattern is the path has its route. -/
theorem WellFormed.at?_of_isExact (wellFormed : WellFormed router)
    {candidate : Entry H × Captures} (membership : candidate ∈ router.candidates path)
    (exact : candidate.1.pattern.isExact path = true) :
    router.at? path = some (routeOf candidate) :=
  wellFormed.at?_of_leads membership
    (Pattern.leads_of_isExact (wellFormed.listed path) (List.mem_map_of_mem membership) exact)

theorem Tolerates.at?_slash_of_leads (tolerates : Tolerates router path)
    (wellFormed : WellFormed router) {candidate : Entry H × Captures}
    (membership : candidate ∈ router.candidates path)
    (leads : Pattern.Leads (path ++ "/") (router.candidatePatterns path) candidate.1.pattern) :
    router.at? (path ++ "/") = some (routeOf candidate) := by
  rw [← tolerates.candidatePatterns_slash] at leads
  rw [← tolerates.candidates_slash] at membership
  exact wellFormed.at?_of_leads membership leads

theorem Tolerates.at?_slash_of_exact_leads (tolerates : Tolerates router path)
    (wellFormed : WellFormed router)
    (leading : ∀ exact ∈ router.entries, exact.pattern.isExact path = true →
      Pattern.Leads (path ++ "/") (router.candidatePatterns path) exact.pattern) :
    router.at? (path ++ "/") = router.at? path := by
  by_cases anyExact : ∃ exact ∈ router.entries, exact.pattern.isExact path = true
  · obtain ⟨entry, membership, exact⟩ := anyExact
    obtain ⟨captures, candidate⟩ := wellFormed.exists_candidate_of_isExact membership exact
    rw [wellFormed.at?_of_isExact candidate exact,
      tolerates.at?_slash_of_leads wellFormed candidate (leading entry membership exact)]
  · exact tolerates.at?_slash_of_inexact wellFormed (by simpa using anyExact)

/-- What outweighs a pattern that is the path has a `?`, or one of the two has a slash too many. -/
theorem WellFormed.marked_of_outweighs (wellFormed : WellFormed router) {exact : Entry H}
    (membership : exact ∈ router.entries) (spelled : exact.pattern.text = path)
    {other : Pattern} (inPatterns : other ∈ router.candidatePatterns path)
    (different : other ≠ exact.pattern)
    (outweighs : Pattern.Outweighs (router.candidatePatterns path) other exact.pattern) :
    '?' ∈ other.text.toList ∨ ¬ (Tidy other.text.toList ∧ Tidy path.toList) := by
  obtain ⟨entry, inEntries, captures, matched, rfl⟩ := exists_entry_of_mem inPatterns
  have parsed := wellFormed.parsed entry inEntries
  by_contra plain
  simp only [not_or, not_not] at plain
  obtain ⟨unmarked, tidy, pathTidy⟩ := plain
  have literal := Pattern.isLiteral_of_wildcards parsed outweighs.1 unmarked
  have segments := Pattern.pathSegments_of_match?_isLiteral parsed literal matched
  have same : entry.pattern.text = exact.pattern.text := by
    rw [spelled, ← String.toList_inj, ← tidy, ← pathTidy, segments]
  have identical : entry = exact :=
    List.inj_on_of_nodup_map wellFormed.distinct inEntries membership same
  exact different (congrArg Entry.pattern identical)

/-- Without a circle the path with the slash goes to the entry that leads, which need not be the one
of the path. -/
theorem Tolerates.exists_winner (tolerates : Tolerates router path)
    (wellFormed : WellFormed router) {entry : Entry H} (membership : entry ∈ router.entries)
    (exact : entry.pattern.isExact path = true)
    (straight : ¬ Pattern.Circular (path ++ "/") (router.candidatePatterns path)) :
    ∃ winner ∈ router.entries,
      Pattern.Leads (path ++ "/") (router.candidatePatterns path) winner.pattern ∧
      ((router.at? (path ++ "/")).map Routed.handler = (router.at? path).map Routed.handler ↔
        winner.handler = entry.handler) := by
  have listed := wellFormed.listed path
  obtain ⟨captures, candidate⟩ := wellFormed.exists_candidate_of_isExact membership exact
  obtain ⟨leader, leads⟩ := (Pattern.exists_leads_iff listed
    (List.ne_nil_of_mem (List.mem_map_of_mem candidate))).mpr straight
  obtain ⟨winner, inCandidates, rfl⟩ :=
    List.mem_map.mp ((Pattern.leads_iff_precedes listed).mp leads).1
  refine ⟨winner.1, (mem_candidates.mp inCandidates).1, leads, ?_⟩
  rw [wellFormed.at?_of_isExact candidate exact,
    tolerates.at?_slash_of_leads wellFormed inCandidates leads]
  simp [routeOf]

/-- A tolerated slash leaves the route of a path as it is, unless the path is itself the text of a
pattern that other matching ones precede by the counts.  The handler then stays the same only if it
is also the one of the pattern that leads.  A literal pattern is preceded by those that outweigh it,
and what outweighs it has a `?` or other slashes. -/
theorem at?_slash [Registrable H] (reachable : Reachable router)
    (tolerates : Tolerates router path) :
    ((∀ exact ∈ router.entries, exact.pattern.isExact path = true →
        Pattern.Leads (path ++ "/") (router.candidatePatterns path) exact.pattern) →
      router.at? (path ++ "/") = router.at? path) ∧
    ∀ exact ∈ router.entries, exact.pattern.isExact path = true →
      (exact.pattern.isLiteral = true ∨
          ¬ Pattern.Circular (path ++ "/") (router.candidatePatterns path) →
        ∃ winner ∈ router.entries,
          Pattern.Leads (path ++ "/") (router.candidatePatterns path) winner.pattern ∧
          ((router.at? (path ++ "/")).map Routed.handler =
              (router.at? path).map Routed.handler ↔
            winner.handler = exact.handler)) ∧
      (exact.pattern.isLiteral = true →
        (Pattern.Leads (path ++ "/") (router.candidatePatterns path) exact.pattern ↔
          ∀ other ∈ router.candidatePatterns path, other ≠ exact.pattern →
            ¬ Pattern.Outweighs (router.candidatePatterns path) other exact.pattern)) ∧
      ∀ other ∈ router.candidatePatterns path, other ≠ exact.pattern →
        Pattern.Outweighs (router.candidatePatterns path) other exact.pattern →
          '?' ∈ other.text.toList ∨ ¬ (Tidy other.text.toList ∧ Tidy path.toList) := by
  have wellFormed := reachable.wellFormed
  refine ⟨tolerates.at?_slash_of_exact_leads wellFormed, ?_⟩
  intro entry membership exact
  obtain ⟨captures, candidate⟩ := wellFormed.exists_candidate_of_isExact membership exact
  have inPatterns : entry.pattern ∈ router.candidatePatterns path :=
    List.mem_map_of_mem candidate
  refine ⟨?_, ?_, ?_⟩
  · intro literalOrStraight
    apply tolerates.exists_winner wellFormed membership exact
    rcases literalOrStraight with literal | straight
    · exact Pattern.not_circular_of_isLiteral inPatterns literal
    · exact straight
  · exact Pattern.leads_iff_of_isLiteral (wellFormed.listed path) tolerates.inexact inPatterns
  · intro other otherMembership different outweighs
    exact wellFormed.marked_of_outweighs membership (Pattern.text_of_isExact exact)
      otherMembership different outweighs

/-- Two routes of one length, of which the first has a `?` and the other one is a literal text. -/
def twins : Router (Dispatch.Handler Unit) where
  literals := ({} : Std.HashMap String _).insert "/users" ⟨1, "u", .custom⟩
  entries :=
    [⟨⟨"/us?rs", [.pieces [.literal "us".toList, .anyChar, .literal "rs".toList]]⟩,
      ⟨0, "q", .custom⟩⟩,
     ⟨⟨"/users", [.pieces [.literal "users".toList]]⟩, ⟨1, "u", .custom⟩⟩]
  tolerant := true

theorem twins_reachable : Reachable twins :=
  .built (show build (twins.entries.map fun entry => (entry.pattern.text, entry.handler)) true =
    .ok twins from rfl)

theorem twins_tolerates : Tolerates twins "/users" where
  tolerant := rfl
  bare := by decide
  leading := by decide
  ending := by decide

/-- The literal one of two routes is outweighed, as it has the length of the other one and stands
behind it. -/
theorem at?_slash_of_twins :
    Reachable twins ∧ Tolerates twins "/users" ∧
      ∃ exact ∈ twins.entries, exact.pattern.isExact "/users" = true ∧
        (∃ winner ∈ twins.entries,
          Pattern.Leads ("/users" ++ "/") (twins.candidatePatterns "/users") winner.pattern ∧
          ((twins.at? ("/users" ++ "/")).map Routed.handler =
              (twins.at? "/users").map Routed.handler ↔
            winner.handler = exact.handler)) ∧
        ¬ Pattern.Leads ("/users" ++ "/") (twins.candidatePatterns "/users") exact.pattern := by
  refine ⟨twins_reachable, twins_tolerates, _, .tail _ (.head _), by decide, ?_⟩
  obtain ⟨decided, literal, -⟩ :=
    (at?_slash twins_reachable twins_tolerates).2 _ (.tail _ (.head _)) (by decide)
  refine ⟨decided (.inl (by decide)), ?_⟩
  rw [literal (by decide)]
  decide +kernel

/-- A path and the same path with a slash behind it go to different handlers. -/
theorem twins_slash_divides :
    Reachable twins ∧ Tolerates twins "/users" ∧
      (twins.at? "/users").map (fun routed => (routed.pattern, routed.handler.name)) =
        some ("/users", "u") ∧
      (twins.at? ("/users" ++ "/")).map (fun routed => (routed.pattern, routed.handler.name)) =
        some ("/us?rs", "q") := by
  refine ⟨twins_reachable, twins_tolerates, ?_, ?_⟩
  · rw [twins_reachable.wellFormed.at?_eq]
    decide +kernel
  · rw [twins_reachable.wellFormed.at?_eq]
    decide +kernel

end Router

end Switchyard.Route
