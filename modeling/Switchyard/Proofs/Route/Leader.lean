import Mathlib.Data.List.Nodup
import Switchyard.Proofs.Route.Specificity

/-!
# The most specific one of several patterns

A pattern leads a list of patterns for a path if none is more specific and all before it are less
specific.  There may be none: a pattern that ends with `/**` can come before those with a `**`
elsewhere, one of these before those without `**`, and those without `**` before the first.  Such a
circle is the only obstacle.
-/

set_option autoImplicit false

namespace Switchyard.Route.Pattern

/-- A pattern of a list is at least as specific as all others, and more specific than those before
it. -/
def Leads (path : String) (patterns : List Pattern) (pattern : Pattern) : Prop :=
  ∃ earlier later, patterns = earlier ++ pattern :: later ∧
    (∀ other ∈ earlier, other.compareSpecificity pattern path = .gt) ∧
    ∀ other ∈ later, other.compareSpecificity pattern path ≠ .lt

/-- The order by counts, and among equals the order of a list. -/
def rank (patterns : List Pattern) : Pattern → Pattern → Ordering :=
  compareLex compareCounts (compareOn fun pattern => patterns.idxOf pattern)

instance (patterns : List Pattern) : Std.TransCmp (rank patterns) :=
  inferInstanceAs (Std.TransCmp (compareLex _ _))

/-- Three kinds of patterns that follow one another in a circle. -/
structure Circular (path : String) (patterns : List Pattern) : Prop where
  inexact : ∀ pattern ∈ patterns, pattern.isExact path = false
  plain : ∃ plain ∈ patterns, plain.isPlain = true
  inner_before_plain : ∃ inner ∈ patterns, inner.isInner = true ∧
    ∀ plain ∈ patterns, plain.isPlain = true → rank patterns inner plain = .lt
  tree_before_inner : ∃ tree ∈ patterns, tree.isTree = true ∧ tree.isCatchAll = false ∧
    ∀ inner ∈ patterns, inner.isInner = true → rank patterns tree inner = .lt

/-- A list of patterns as routers have them. -/
structure Listed (patterns : List Pattern) : Prop where
  proper : ∀ pattern ∈ patterns, pattern.Proper
  distinct : (patterns.map Pattern.text).Nodup

variable {path : String} {patterns : List Pattern} {pattern other : Pattern}

theorem Listed.nodup (listed : Listed patterns) : patterns.Nodup :=
  listed.distinct.of_map _

theorem Listed.text_ne (listed : Listed patterns) (membership : pattern ∈ patterns)
    (otherMembership : other ∈ patterns) (different : other ≠ pattern) :
    other.text ≠ pattern.text := by
  intro equality
  exact different (List.inj_on_of_nodup_map listed.distinct otherMembership membership equality)

theorem rank_lt_of_ne (membership : pattern ∈ patterns) (different : other ≠ pattern)
    (lower : (rank patterns pattern other).isLE = true) : rank patterns pattern other = .lt := by
  have unequal : rank patterns pattern other ≠ .eq := by
    intro equal
    simp only [rank, compareLex, compareOn, Ordering.then_eq_eq, Nat.compare_eq_eq] at equal
    exact different ((List.idxOf_inj membership).mp equal.2).symm
  cases order : rank patterns pattern other <;> simp_all

/-- The pattern comes before another one in the order of specificity, with ties broken by the
list. -/
def Precedes (path : String) (patterns : List Pattern) (pattern other : Pattern) : Prop :=
  pattern.compareSpecificity other path = .lt ∨
    pattern.compareSpecificity other path = .eq ∧
      patterns.idxOf pattern < patterns.idxOf other

theorem leads_iff_precedes (listed : Listed patterns) :
    Leads path patterns pattern ↔
      pattern ∈ patterns ∧ ∀ other ∈ patterns, other ≠ pattern →
        Precedes path patterns pattern other := by
  constructor
  · rintro ⟨earlier, later, rfl, before, behind⟩
    have proper := listed.proper pattern (by simp)
    have separate := List.nodup_append.mp listed.nodup
    refine ⟨by simp, ?_⟩
    intro other membership different
    rcases List.mem_append.mp membership with inEarlier | inRest
    · left
      rw [← Ordering.swap_inj, compareSpecificity_swap proper]
      exact before other inEarlier
    · have inLater : other ∈ later := by simpa [different] using inRest
      have fresh : pattern ∉ earlier := fun inEarlier =>
        separate.2.2 pattern inEarlier pattern (by simp) rfl
      have otherFresh : other ∉ earlier := fun inEarlier =>
        separate.2.2 other inEarlier other (by simp [inLater]) rfl
      have placed : (earlier ++ pattern :: later).idxOf pattern <
          (earlier ++ pattern :: later).idxOf other := by
        rw [List.idxOf_append_of_notMem fresh, List.idxOf_append_of_notMem otherFresh,
          List.idxOf_cons_self, List.idxOf_cons_ne _ (Ne.symm different)]
        omega
      have notAfter := behind other inLater
      rw [← compareSpecificity_swap proper] at notAfter
      cases order : pattern.compareSpecificity other path <;>
        simp_all [Precedes]
  · rintro ⟨membership, first⟩
    obtain ⟨earlier, later, rfl⟩ := List.append_of_mem membership
    have proper := listed.proper pattern (by simp)
    have separate := List.nodup_append.mp listed.nodup
    refine ⟨earlier, later, rfl, ?_, ?_⟩
    · intro other inEarlier
      have different : other ≠ pattern := separate.2.2 other inEarlier pattern (by simp)
      have fresh : pattern ∉ earlier := fun inEarlier =>
        separate.2.2 pattern inEarlier pattern (by simp) rfl
      have placed : (earlier ++ pattern :: later).idxOf other <
          (earlier ++ pattern :: later).idxOf pattern := by
        rw [List.idxOf_append_of_notMem fresh, List.idxOf_append_of_mem inEarlier,
          List.idxOf_cons_self]
        exact Nat.lt_of_lt_of_le (List.idxOf_lt_length_of_mem inEarlier) (Nat.le_add_right _ _)
      rw [← compareSpecificity_swap proper]
      rcases first other (by simp [inEarlier]) different with less | ⟨-, behind⟩
      · rw [less]
        rfl
      · omega
    · intro other inLater less
      have different : other ≠ pattern := by
        rintro rfl
        exact (List.nodup_cons.mp separate.2.1).1 inLater
      rw [← compareSpecificity_swap proper, Ordering.swap_eq_lt] at less
      rcases first other (by simp [inLater]) different with found | ⟨found, -⟩ <;>
        simp [found] at less

theorem Precedes.of_lt (less : pattern.compareSpecificity other path = .lt) :
    Precedes path patterns pattern other :=
  .inl less

/-- Where no rule about kinds applies, the order is the one by counts. -/
theorem Precedes.of_rank (ordinary : pattern.isCatchAll = false)
    (otherOrdinary : other.isCatchAll = false) (inexact : pattern.isExact path = false)
    (otherInexact : other.isExact path = false)
    (notAfter : (pattern.isTree && other.isPlain) = false)
    (ranked : rank patterns pattern other = .lt) : Precedes path patterns pattern other := by
  simp only [rank, compareLex, compareOn, Ordering.then_eq_lt, Nat.compare_eq_lt] at ranked
  rw [Precedes, compareSpecificity_ordinary ordinary otherOrdinary inexact otherInexact, notAfter]
  split
  case isTrue impossible => cases impossible
  case isFalse =>
      split
      · exact .inl rfl
      · exact ranked

theorem Precedes.asymm (proper : pattern.Proper)
    (first : Precedes path patterns pattern other) : ¬ Precedes path patterns other pattern := by
  intro second
  rw [Precedes, ← compareSpecificity_swap proper] at second
  rcases first with less | ⟨equal, before⟩
  · simp [less] at second
  · simp only [equal, Ordering.swap_eq, reduceCtorEq, true_and, false_or] at second
    omega

/-- The first one in the order by counts among the patterns with a property. -/
theorem exists_first (property : Pattern → Bool) (found : ∃ pattern ∈ patterns, property pattern) :
    ∃ first ∈ patterns, property first ∧ ∀ other ∈ patterns, property other → other ≠ first →
      rank patterns first other = .lt := by
  obtain ⟨pattern, membership, satisfied⟩ := found
  obtain ⟨first, inFiltered, lower⟩ := exists_least (rank patterns)
    (List.ne_nil_of_mem (List.mem_filter.mpr ⟨membership, satisfied⟩))
  obtain ⟨firstMembership, firstSatisfied⟩ := List.mem_filter.mp inFiltered
  refine ⟨first, firstMembership, firstSatisfied, ?_⟩
  intro other otherMembership otherSatisfied different
  exact rank_lt_of_ne firstMembership different
    (lower other (List.mem_filter.mpr ⟨otherMembership, otherSatisfied⟩))

theorem leads_of_isExact (listed : Listed patterns) (membership : pattern ∈ patterns)
    (exact : pattern.isExact path = true) : Leads path patterns pattern := by
  refine (leads_iff_precedes listed).mpr ⟨membership, ?_⟩
  intro other otherMembership different
  exact .of_lt (compareSpecificity_exact exact
    (listed.text_ne membership otherMembership different))

/-- A pattern other than `/**` leads as soon as it precedes all such patterns. -/
theorem leads_of_ordinary (listed : Listed patterns) (membership : pattern ∈ patterns)
    (ordinary : pattern.isCatchAll = false)
    (first : ∀ other ∈ patterns, other ≠ pattern → other.isCatchAll = false →
      Precedes path patterns pattern other) : Leads path patterns pattern := by
  refine (leads_iff_precedes listed).mpr ⟨membership, ?_⟩
  intro other otherMembership different
  by_cases catchAll : other.isCatchAll = true
  · exact .of_lt (compareSpecificity_catchAll ordinary catchAll)
  · exact first other otherMembership different (by simpa using catchAll)

/-- Without a pattern that is the path, one that is first by counts leads unless it ends with `/**`
while others have no `**`. -/
theorem leads_of_first (listed : Listed patterns)
    (inexact : ∀ pattern ∈ patterns, pattern.isExact path = false)
    (membership : pattern ∈ patterns) (ordinary : pattern.isCatchAll = false)
    (first : ∀ other ∈ patterns, other ≠ pattern → other.isCatchAll = false →
      rank patterns pattern other = .lt)
    (free : pattern.isTree = false ∨ ∀ other ∈ patterns, other.isPlain = false) :
    Leads path patterns pattern := by
  apply leads_of_ordinary listed membership ordinary
  intro other otherMembership different otherOrdinary
  refine .of_rank ordinary otherOrdinary (inexact pattern membership)
    (inexact other otherMembership) ?_ (first other otherMembership different otherOrdinary)
  rcases free with notTree | noPlain
  · simp [notTree]
  · simp [noPlain other otherMembership]

/-- Without a pattern that is the path, the first one without `**` leads if it comes before the
patterns with a `**` inside. -/
theorem leads_of_plain (listed : Listed patterns)
    (inexact : ∀ pattern ∈ patterns, pattern.isExact path = false)
    (membership : pattern ∈ patterns) (plain : pattern.isPlain = true)
    (first : ∀ other ∈ patterns, other.isPlain = true → other ≠ pattern →
      rank patterns pattern other = .lt)
    (beforeInner : ∀ other ∈ patterns, other.isInner = true →
      rank patterns pattern other = .lt) : Leads path patterns pattern := by
  have proper := listed.proper pattern membership
  have notTree := proper.isTree_eq_false plain
  have ordinary := isCatchAll_eq_false notTree
  apply leads_of_ordinary listed membership ordinary
  intro other otherMembership different otherOrdinary
  by_cases tree : other.isTree = true
  · exact .of_lt (compareSpecificity_plain_tree proper plain tree (inexact pattern membership)
      (inexact other otherMembership))
  · have ranked : rank patterns pattern other = .lt := by
      by_cases otherPlain : other.isPlain = true
      · exact first other otherMembership otherPlain different
      · exact beforeInner other otherMembership (by simp [isInner, otherPlain, tree])
    exact .of_rank ordinary otherOrdinary (inexact pattern membership)
      (inexact other otherMembership) (by simp [notTree]) ranked

theorem leads_of_all_catchAll (listed : Listed patterns) (membership : pattern ∈ patterns)
    (catchAll : ∀ other ∈ patterns, other.isCatchAll = true) : Leads path patterns pattern := by
  refine (leads_iff_precedes listed).mpr ⟨membership, ?_⟩
  intro other otherMembership different
  have spelled := catchAll pattern membership
  have otherSpelled := catchAll other otherMembership
  simp only [isCatchAll, decide_eq_true_eq] at spelled otherSpelled
  exact absurd (otherSpelled.trans spelled.symm)
    (listed.text_ne membership otherMembership different)

theorem not_tree_of_isInner (inner : pattern.isInner = true) : pattern.isTree = false := by
  simp only [isInner, Bool.and_eq_true, Bool.not_eq_true'] at inner
  exact inner.2

/-- Patterns that do not form a circle have a leader. -/
theorem exists_leads_of_not_circular (listed : Listed patterns) (inhabited : patterns ≠ [])
    (straight : ¬ Circular path patterns) : ∃ pattern, Leads path patterns pattern := by
  by_cases anyExact : ∃ pattern ∈ patterns, pattern.isExact path = true
  · obtain ⟨pattern, membership, exact⟩ := anyExact
    exact ⟨pattern, leads_of_isExact listed membership exact⟩
  have inexact : ∀ pattern ∈ patterns, pattern.isExact path = false := by simpa using anyExact
  by_cases anyOrdinary : ∃ pattern ∈ patterns, (!pattern.isCatchAll) = true
  case neg =>
      obtain ⟨pattern, membership⟩ := List.exists_mem_of_ne_nil _ inhabited
      exact ⟨pattern, leads_of_all_catchAll listed membership (by simpa using anyOrdinary)⟩
  obtain ⟨least, leastMembership, leastOrdinary, leastFirst⟩ := exists_first _ anyOrdinary
  simp only [Bool.not_eq_true'] at leastOrdinary leastFirst
  by_cases leastFree : least.isTree = false ∨ ∀ other ∈ patterns, other.isPlain = false
  · exact ⟨least, leads_of_first listed inexact leastMembership leastOrdinary
      (fun other membership different ordinary => leastFirst other membership ordinary different)
      leastFree⟩
  -- The first pattern by counts ends with `/**` and yields to those without `**`.
  simp only [not_or, Bool.not_eq_false, not_forall, exists_prop] at leastFree
  obtain ⟨leastTree, anyPlain⟩ := leastFree
  obtain ⟨plain, plainMembership, isPlain, plainFirst⟩ := exists_first Pattern.isPlain anyPlain
  by_cases anyInner : ∃ pattern ∈ patterns, pattern.isInner = true
  case neg =>
      refine ⟨plain, leads_of_plain listed inexact plainMembership isPlain plainFirst ?_⟩
      intro other membership inner
      exact absurd ⟨other, membership, inner⟩ anyInner
  obtain ⟨inner, innerMembership, isInner, innerFirst⟩ := exists_first Pattern.isInner anyInner
  have different : inner ≠ plain := by
    rintro rfl
    simp [Pattern.isInner, isPlain] at isInner
  have innerLower : ∀ other ∈ patterns, other.isInner = true →
      (rank patterns inner other).isLE = true := by
    intro other membership otherInner
    by_cases same : other = inner
    · simp [same, Std.ReflCmp.compare_self]
    · simp [innerFirst other membership otherInner same]
  by_cases plainBefore : rank patterns plain inner = .lt
  · refine ⟨plain, leads_of_plain listed inexact plainMembership isPlain plainFirst ?_⟩
    intro other membership otherInner
    exact Std.TransCmp.lt_of_lt_of_isLE plainBefore (innerLower other membership otherInner)
  · have innerBefore : rank patterns inner plain = .lt := by
      apply rank_lt_of_ne innerMembership (Ne.symm different)
      have swapped : rank patterns inner plain = (rank patterns plain inner).swap :=
        Std.OrientedCmp.eq_swap
      cases order : rank patterns plain inner <;> simp_all
    refine absurd ⟨inexact, anyPlain, ⟨inner, innerMembership, isInner, ?_⟩,
      ⟨least, leastMembership, leastTree, leastOrdinary, ?_⟩⟩ straight
    · intro other membership otherPlain
      by_cases same : other = plain
      · rw [same]
        exact innerBefore
      · exact Std.TransCmp.lt_trans innerBefore (plainFirst other membership otherPlain same)
    · intro other membership otherInner
      have otherNotTree := not_tree_of_isInner otherInner
      apply leastFirst other membership (isCatchAll_eq_false otherNotTree)
      rintro rfl
      simp [leastTree] at otherNotTree

/-- In a circle no pattern leads. -/
theorem Circular.not_leads (circular : Circular path patterns) (listed : Listed patterns) :
    ¬ Leads path patterns pattern := by
  intro leads
  obtain ⟨membership, first⟩ := (leads_iff_precedes listed).mp leads
  obtain ⟨plain, plainMembership, isPlain⟩ := circular.plain
  obtain ⟨inner, innerMembership, isInner, innerBefore⟩ := circular.inner_before_plain
  obtain ⟨tree, treeMembership, isTree, treeOrdinary, treeBefore⟩ := circular.tree_before_inner
  have innerNotTree := not_tree_of_isInner isInner
  have innerOrdinary := isCatchAll_eq_false innerNotTree
  by_cases leaderTree : pattern.isTree = true
  · -- A pattern that ends with `/**` yields to the one without `**`.
    have precedes : Precedes path patterns plain pattern :=
      .of_lt (compareSpecificity_plain_tree (listed.proper plain plainMembership) isPlain
        leaderTree (circular.inexact plain plainMembership) (circular.inexact pattern membership))
    refine precedes.asymm (listed.proper plain plainMembership) (first plain plainMembership ?_)
    rintro rfl
    simp [(listed.proper plain plainMembership).isTree_eq_false isPlain] at leaderTree
  have leaderOrdinary := isCatchAll_eq_false (by simpa using leaderTree)
  by_cases leaderPlain : pattern.isPlain = true
  · have precedes : Precedes path patterns inner pattern :=
      .of_rank innerOrdinary leaderOrdinary (circular.inexact inner innerMembership)
        (circular.inexact pattern membership) (by simp [innerNotTree])
        (innerBefore pattern membership leaderPlain)
    refine precedes.asymm (listed.proper inner innerMembership) (first inner innerMembership ?_)
    rintro rfl
    simp [Pattern.isInner, leaderPlain] at isInner
  · have leaderInner : pattern.isInner = true := by simp [Pattern.isInner, leaderPlain, leaderTree]
    have precedes : Precedes path patterns tree pattern :=
      .of_rank treeOrdinary leaderOrdinary (circular.inexact tree treeMembership)
        (circular.inexact pattern membership) (by simp [leaderPlain])
        (treeBefore pattern membership leaderInner)
    refine precedes.asymm (listed.proper tree treeMembership) (first tree treeMembership ?_)
    rintro rfl
    exact leaderTree isTree

/-- Patterns have a leader exactly if they do not form a circle. -/
theorem exists_leads_iff (listed : Listed patterns) (inhabited : patterns ≠ []) :
    (∃ pattern, Leads path patterns pattern) ↔ ¬ Circular path patterns := by
  constructor
  · rintro ⟨pattern, leads⟩ circular
    exact circular.not_leads listed leads
  · exact exists_leads_of_not_circular listed inhabited

end Switchyard.Route.Pattern
