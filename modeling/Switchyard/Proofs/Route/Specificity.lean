import Switchyard.Proofs.Route.Parsing

/-!
# The order of patterns by specificity

The order by counts is a total preorder, but the rule that patterns without `**` come before those
that end with `/**` is laid over it, and the whole is not transitive.  It is decided by the kinds of
two patterns: those without `**`, those that end with `/**`, and those with a `**` elsewhere.
-/

set_option autoImplicit false

namespace Switchyard.Route

theorem exists_least {α : Type} (cmp : α → α → Ordering) [Std.TransCmp cmp] {items : List α}
    (inhabited : items ≠ []) : ∃ least ∈ items, ∀ item ∈ items, (cmp least item).isLE = true := by
  induction items with
  | nil => exact absurd rfl inhabited
  | cons head rest inductionHypothesis =>
      cases rest with
      | nil => exact ⟨head, by simp, by simp [Std.ReflCmp.compare_self]⟩
      | cons next others =>
          obtain ⟨least, membership, lower⟩ := inductionHypothesis (by simp)
          by_cases first : (cmp head least).isLE = true
          · refine ⟨head, by simp, ?_⟩
            intro item inItems
            rcases List.mem_cons.mp inItems with rfl | inRest
            · simp [Std.ReflCmp.compare_self]
            · exact Std.TransCmp.isLE_trans first (lower item inRest)
          · refine ⟨least, List.mem_cons_of_mem _ membership, ?_⟩
            intro item inItems
            rcases List.mem_cons.mp inItems with rfl | inRest
            · have swapped : cmp least item = (cmp item least).swap := Std.OrientedCmp.eq_swap
              cases order : cmp item least <;> simp_all
            · exact lower item inRest

namespace Pattern

instance : Std.TransCmp compareCounts :=
  inferInstanceAs <| Std.TransCmp <|
    compareLex (compareOn wildcards) <|
      compareLex (fun pattern other => compareOn weight other pattern) <|
        compareLex (compareOn singleStars) (compareOn fun pattern => pattern.variableNames.length)

/-- Whether the pattern is the path itself; `/**` only counts as the pattern of everything. -/
def isExact (pattern : Pattern) (path : String) : Bool :=
  pattern.text = path && !pattern.isCatchAll

/-- Whether the pattern has no `**`. -/
def isPlain (pattern : Pattern) : Bool :=
  pattern.doubleStars = 0

/-- Whether the pattern has a `**` but does not end with `/**`. -/
def isInner (pattern : Pattern) : Bool :=
  !pattern.isPlain && !pattern.isTree

/-- Whether the pattern is of one of three kinds only, as all patterns that are read are. -/
def Proper (pattern : Pattern) : Prop :=
  pattern.isTree = true → pattern.isPlain = false

theorem proper_of_parse {text : String} {pattern : Pattern} (parsed : parse text = .ok pattern) :
    pattern.Proper := by
  intro tree
  simpa [isPlain] using doubleStars_ne_zero_of_isTree parsed tree

theorem isTree_of_isCatchAll {pattern : Pattern} (catchAll : pattern.isCatchAll = true) :
    pattern.isTree = true := by
  have spelled : pattern.text = "/**" := by simpa [isCatchAll] using catchAll
  rw [isTree, spelled]
  decide

theorem compareSpecificity_exact {pattern other : Pattern} {path : String}
    (exact : pattern.isExact path = true) (different : other.text ≠ pattern.text) :
    pattern.compareSpecificity other path = .lt := by
  simp only [isExact, Bool.and_eq_true, decide_eq_true_eq, Bool.not_eq_true'] at exact
  obtain ⟨rfl, ordinary⟩ := exact
  by_cases catchAll : other.isCatchAll = true <;>
    simp [compareSpecificity, ordinary, catchAll, different]

theorem compareSpecificity_catchAll {pattern other : Pattern} {path : String}
    (ordinary : pattern.isCatchAll = false) (catchAll : other.isCatchAll = true) :
    pattern.compareSpecificity other path = .lt := by
  simp [compareSpecificity, ordinary, catchAll]

/-- What is left of the order for patterns that are neither the path itself nor `/**`. -/
theorem compareSpecificity_ordinary {pattern other : Pattern} {path : String}
    (ordinary : pattern.isCatchAll = false) (otherOrdinary : other.isCatchAll = false)
    (inexact : pattern.isExact path = false) (otherInexact : other.isExact path = false) :
    pattern.compareSpecificity other path =
      if pattern.isTree && other.isPlain then .gt
      else if other.isTree && pattern.isPlain then .lt
      else pattern.compareCounts other := by
  have different : pattern.text ≠ path := by simpa [isExact, ordinary] using inexact
  have otherDifferent : other.text ≠ path := by simpa [isExact, otherOrdinary] using otherInexact
  simp [compareSpecificity, isPlain, ordinary, otherOrdinary, different, otherDifferent]

theorem Proper.isTree_eq_false {pattern : Pattern} (proper : pattern.Proper)
    (plain : pattern.isPlain = true) : pattern.isTree = false := by
  by_contra tree
  simp [proper (by simpa using tree)] at plain

theorem isCatchAll_eq_false {pattern : Pattern} (notTree : pattern.isTree = false) :
    pattern.isCatchAll = false := by
  by_contra catchAll
  simp [isTree_of_isCatchAll (by simpa using catchAll)] at notTree

theorem isPlain_of_isLiteral {pattern : Pattern} (literal : pattern.isLiteral = true) :
    pattern.isPlain = true := by
  simp only [isPlain, doubleStars, decide_eq_true_eq, List.count_eq_zero]
  intro starred
  have spelled := List.all_eq_true.mp literal _ starred
  cases spelled

theorem isExact_text_of_isLiteral {pattern : Pattern} (proper : pattern.Proper)
    (literal : pattern.isLiteral = true) : pattern.isExact pattern.text = true := by
  have notTree := proper.isTree_eq_false (isPlain_of_isLiteral literal)
  simp [isExact, isCatchAll_eq_false notTree]

theorem compareSpecificity_plain_tree {pattern other : Pattern} {path : String}
    (proper : pattern.Proper) (plain : pattern.isPlain = true) (tree : other.isTree = true)
    (inexact : pattern.isExact path = false) (otherInexact : other.isExact path = false) :
    pattern.compareSpecificity other path = .lt := by
  have notTree := proper.isTree_eq_false plain
  have ordinary := isCatchAll_eq_false notTree
  by_cases catchAll : other.isCatchAll = true
  · exact compareSpecificity_catchAll ordinary catchAll
  · rw [compareSpecificity_ordinary ordinary (by simpa using catchAll) inexact otherInexact]
    simp [notTree, tree, plain]

theorem compareSpecificity_swap {pattern other : Pattern} (proper : pattern.Proper)
    (path : String) :
    (pattern.compareSpecificity other path).swap = other.compareSpecificity pattern path := by
  have counts : compareCounts other pattern = (compareCounts pattern other).swap :=
    Std.OrientedCmp.eq_swap
  simp only [Proper, isPlain, decide_eq_false_iff_not] at proper
  simp only [compareSpecificity]
  split_ifs <;> simp_all

end Pattern

end Switchyard.Route
