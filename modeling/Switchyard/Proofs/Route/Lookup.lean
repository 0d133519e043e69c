import Switchyard.Dispatch.Handler
import Switchyard.Proofs.Route.Leader
import Switchyard.Proofs.Route.Registration

/-!
# What a path is routed to

The table of literal texts is only a shortcut: a route is what scanning all entries finds, and
otherwise what the slots hold.  The scan finds the entry whose pattern leads those that match, which
is there exactly if these do not form a circle.
-/

set_option autoImplicit false

namespace Switchyard.Route.Router

variable {H : Type}

/-- The entries that match a path, with what their variables stand for, in the order of their
registration. -/
def candidates (router : Router H) (path : String) : List (Entry H × Captures) :=
  router.entries.filterMap fun entry =>
    (entry.pattern.match? path router.tolerant).map fun captures => (entry, captures)

/-- The patterns of the entries that match a path. -/
def candidatePatterns (router : Router H) (path : String) : List Pattern :=
  (router.candidates path).map fun candidate => candidate.1.pattern

/-- The route through an entry. -/
def routeOf (candidate : Entry H × Captures) : Routed H :=
  ⟨candidate.1.handler, candidate.1.pattern.text, candidate.2⟩

variable {router : Router H} {path : String}

theorem mem_candidates {entry : Entry H} {captures : Captures} :
    (entry, captures) ∈ router.candidates path ↔
      entry ∈ router.entries ∧ entry.pattern.match? path router.tolerant = some captures := by
  simp only [candidates, List.mem_filterMap, Option.map_eq_some_iff, Prod.mk.injEq]
  constructor
  · rintro ⟨found, membership, _, matched, rfl, rfl⟩
    exact ⟨membership, matched⟩
  · rintro ⟨membership, matched⟩
    exact ⟨entry, membership, captures, matched, rfl, rfl⟩

theorem candidates_entries_sublist (router : Router H) (path : String) :
    ((router.candidates path).map Prod.fst).Sublist router.entries := by
  unfold candidates
  induction router.entries with
  | nil => simp
  | cons entry rest inductionHypothesis =>
      cases matched : entry.pattern.match? path router.tolerant with
      | none => simpa [matched] using inductionHypothesis.cons entry
      | some captures => simpa [matched] using inductionHypothesis.cons_cons entry

theorem scan_eq_foldl (router : Router H) (path : String) :
    router.scan path = (router.candidates path).foldl
      (fun best candidate => better path best candidate.1 candidate.2) none := by
  rw [candidates, List.foldl_filterMap, scan]
  congr 1
  funext best entry
  simp only [consider]
  cases entry.pattern.match? path router.tolerant <;> rfl

theorem mem_of_foldl_better {remaining : List (Entry H × Captures)}
    {best : Option (Entry H × Captures)} {found : Entry H × Captures}
    (folded : remaining.foldl
      (fun best candidate => better path best candidate.1 candidate.2) best = some found) :
    best = some found ∨ found ∈ remaining := by
  induction remaining generalizing best with
  | nil => exact .inl folded
  | cons candidate rest inductionHypothesis =>
      rcases inductionHypothesis folded with taken | inRest
      · cases best with
        | none =>
            simp only [better, Option.some.injEq] at taken
            simp [← taken]
        | some current =>
            simp only [better] at taken
            split at taken
            · simp only [Option.some.injEq] at taken
              simp [← taken]
            · exact .inl taken
      · exact .inr (List.mem_cons_of_mem _ inRest)

theorem foldl_better_of_not_lt {remaining : List (Entry H × Captures)}
    {best : Entry H × Captures}
    (behind : ∀ candidate ∈ remaining,
      candidate.1.pattern.compareSpecificity best.1.pattern path ≠ .lt) :
    remaining.foldl (fun best candidate => better path best candidate.1 candidate.2) (some best) =
      some best := by
  induction remaining with
  | nil => rfl
  | cons candidate rest inductionHypothesis =>
      simp only [List.forall_mem_cons] at behind
      simp only [List.foldl_cons, better, behind.1, if_false]
      exact inductionHypothesis behind.2

/-- A scan finds the candidate that leads, wherever it stands. -/
theorem scan_eq_of_leads {candidate : Entry H × Captures}
    (listed : Pattern.Listed (router.candidatePatterns path))
    (membership : candidate ∈ router.candidates path)
    (leads : Pattern.Leads path (router.candidatePatterns path) candidate.1.pattern) :
    router.scan path = some candidate := by
  have proper := listed.proper candidate.1.pattern (List.mem_map_of_mem membership)
  obtain ⟨_, _, parts, before, behind⟩ := leads
  obtain ⟨earlier, rest, split, rfl, restParts⟩ := List.map_eq_append_iff.mp parts
  obtain ⟨found, later, rfl, spelled, rfl⟩ := List.map_eq_cons_iff.mp restParts
  have same : found = candidate :=
    List.inj_on_of_nodup_map listed.nodup (by simp [split]) membership spelled
  subst same
  have taken : better path (earlier.foldl
      (fun best candidate => better path best candidate.1 candidate.2) none) found.1 found.2 =
      some found := by
    cases folded : earlier.foldl
        (fun best candidate => better path best candidate.1 candidate.2) none with
    | none => rfl
    | some current =>
        have inEarlier : current ∈ earlier := by
          simpa using mem_of_foldl_better folded
        have after := before current.1.pattern (List.mem_map_of_mem inEarlier)
        rw [← Pattern.compareSpecificity_swap proper, Ordering.swap_eq_gt] at after
        simp [better, after]
  rw [scan_eq_foldl, split, List.foldl_append, List.foldl_cons, taken]
  apply foldl_better_of_not_lt
  intro other membership
  exact behind other.1.pattern (List.mem_map_of_mem membership)

theorem mem_candidates_of_scan {found : Entry H × Captures}
    (scanned : router.scan path = some found) : found ∈ router.candidates path := by
  rw [scan_eq_foldl] at scanned
  simpa using mem_of_foldl_better scanned

theorem exists_foldl_better (remaining : List (Entry H × Captures)) (best : Entry H × Captures) :
    ∃ found, remaining.foldl
      (fun best candidate => better path best candidate.1 candidate.2) (some best) =
        some found := by
  induction remaining generalizing best with
  | nil => exact ⟨best, rfl⟩
  | cons candidate rest inductionHypothesis =>
      simp only [List.foldl_cons, better]
      split
      · exact inductionHypothesis _
      · exact inductionHypothesis best

theorem exists_scan (inhabited : router.candidates path ≠ []) :
    ∃ found, router.scan path = some found := by
  obtain ⟨first, rest, split⟩ := List.exists_cons_of_ne_nil inhabited
  rw [scan_eq_foldl, split]
  exact exists_foldl_better rest first

theorem WellFormed.listed (wellFormed : WellFormed router) (path : String) :
    Pattern.Listed (router.candidatePatterns path) := by
  have sublist := candidates_entries_sublist router path
  refine ⟨?_, ?_⟩
  · intro pattern membership
    obtain ⟨candidate, inCandidates, rfl⟩ := List.mem_map.mp membership
    have inEntries := sublist.subset (List.mem_map_of_mem (f := Prod.fst) inCandidates)
    exact Pattern.proper_of_parse (wellFormed.parsed candidate.1 inEntries)
  · have texts := wellFormed.distinct.sublist (sublist.map fun entry => entry.pattern.text)
    simpa [candidatePatterns, List.map_map, Function.comp_def] using texts

/-- The table of literal texts finds nothing else than the scan. -/
theorem WellFormed.at?_eq (wellFormed : WellFormed router) (path : String) :
    router.at? path =
      match router.scan path with
      | some found => some (routeOf found)
      | none => router.slot? path := by
  simp only [at?]
  split
  case h_1 handler stored =>
      obtain ⟨entry, membership, rfl, literal, rfl⟩ := (wellFormed.literals path handler).mp stored
      have parsed := wellFormed.parsed entry membership
      have candidate : (entry, []) ∈ router.candidates entry.pattern.text :=
        mem_candidates.mpr
          ⟨membership, Pattern.match?_text_of_isLiteral parsed literal router.tolerant⟩
      have listed := wellFormed.listed entry.pattern.text
      have leads := Pattern.leads_of_isExact listed (List.mem_map_of_mem candidate)
        (Pattern.isExact_text_of_isLiteral (Pattern.proper_of_parse parsed) literal)
      rw [scan_eq_of_leads listed candidate leads]
      rfl
  case h_2 =>
      cases router.scan path <;> rfl

/-- The router without its table of literal texts. -/
def withoutLiterals (router : Router H) : Router H :=
  { router with literals := {} }

/-- Every path is routed as it would be by the scan of all entries and the slots alone. -/
theorem at?_withoutLiterals [Registrable H] (reachable : Reachable router) (path : String) :
    router.at? path = router.withoutLiterals.at? path := by
  rw [reachable.wellFormed.at?_eq]
  have absent : (withoutLiterals router).literals[path]? = none := Std.HashMap.getElem?_empty
  have scanned : (withoutLiterals router).scan path = router.scan path := rfl
  simp only [at?, absent, scanned]
  cases router.scan path <;> rfl

/-- Three routes that match the path `/shelf/new`, of which the last one is a literal text. -/
def shelf : Router (Dispatch.Handler Unit) where
  literals := ({} : Std.HashMap String _).insert "/shelf/new" ⟨2, "new", .custom⟩
  entries :=
    [⟨⟨"/shelf/*", [.pieces [.literal "shelf".toList], .pieces [.anyChars]]⟩,
      ⟨0, "any", .custom⟩⟩,
     ⟨⟨"/shelf/{id}", [.pieces [.literal "shelf".toList], .pieces [.variable "id".toList]]⟩,
      ⟨1, "one", .custom⟩⟩,
     ⟨⟨"/shelf/new", [.pieces [.literal "shelf".toList], .pieces [.literal "new".toList]]⟩,
      ⟨2, "new", .custom⟩⟩]

theorem shelf_reachable : Reachable shelf :=
  .built (show build (shelf.entries.map fun entry => (entry.pattern.text, entry.handler)) false =
    .ok shelf from rfl)

theorem at?_withoutLiterals_of_shelf :
    Reachable shelf ∧ shelf.at? "/shelf/new" = shelf.withoutLiterals.at? "/shelf/new" ∧
      (shelf.at? "/shelf/new").map Routed.pattern = some "/shelf/new" := by
  refine ⟨shelf_reachable, at?_withoutLiterals shelf_reachable "/shelf/new", ?_⟩
  rw [shelf_reachable.wellFormed.at?_eq]
  decide +kernel

/-- A path that entries match is routed to one of them; it is the one that leads them exactly if
their patterns do not form a circle. -/
theorem at?_leads_iff [Registrable H] (reachable : Reachable router)
    (served : ∃ entry ∈ router.entries, entry.pattern.matchesPath path router.tolerant = true) :
    ∃ entry captures, (entry, captures) ∈ router.candidates path ∧
      router.at? path = some ⟨entry.handler, entry.pattern.text, captures⟩ ∧
      (Pattern.Leads path (router.candidatePatterns path) entry.pattern ↔
        ¬ Pattern.Circular path (router.candidatePatterns path)) := by
  have wellFormed := reachable.wellFormed
  have listed := wellFormed.listed path
  obtain ⟨entry, membership, matched⟩ := served
  obtain ⟨captures, matched⟩ := Option.isSome_iff_exists.mp matched
  have candidate := mem_candidates.mpr ⟨membership, matched⟩
  obtain ⟨found, scanned⟩ := exists_scan (List.ne_nil_of_mem candidate)
  refine ⟨found.1, found.2, mem_candidates_of_scan scanned, ?_, ?_⟩
  · rw [wellFormed.at?_eq, scanned]
    rfl
  · rw [← Pattern.exists_leads_iff listed (List.ne_nil_of_mem (List.mem_map_of_mem candidate))]
    constructor
    · exact fun leads => ⟨_, leads⟩
    · rintro ⟨leader, leads⟩
      have inPatterns := ((Pattern.leads_iff_precedes listed).mp leads).1
      obtain ⟨other, inCandidates, rfl⟩ := List.mem_map.mp inPatterns
      rw [scan_eq_of_leads listed inCandidates leads, Option.some.injEq] at scanned
      exact scanned ▸ leads

/-- Three routes whose patterns form a circle for the path `/aaaa/b/c`. -/
def circle : Router (Dispatch.Handler Unit) where
  entries :=
    [⟨⟨"/*/*/*", List.replicate 3 (.pieces [.anyChars])⟩, ⟨0, "plain", .custom⟩⟩,
     ⟨⟨"/aaaa/**", [.pieces [.literal "aaaa".toList], .anySegments]⟩, ⟨1, "tree", .custom⟩⟩,
     ⟨⟨"/**/c", [.anySegments, .pieces [.literal ['c']]]⟩, ⟨2, "inner", .custom⟩⟩]

theorem circle_built :
    build (circle.entries.map fun entry => (entry.pattern.text, entry.handler)) false =
      .ok circle := rfl

theorem circle_reachable : Reachable circle :=
  .built circle_built

theorem circle_served :
    ∃ entry ∈ circle.entries, entry.pattern.matchesPath "/aaaa/b/c" circle.tolerant = true :=
  ⟨_, List.mem_cons_self, by decide +kernel⟩

/-- The hypotheses of the characterization hold of a circle. -/
theorem at?_leads_iff_of_circle :
    Reachable circle ∧
      (∃ entry ∈ circle.entries,
        entry.pattern.matchesPath "/aaaa/b/c" circle.tolerant = true) ∧
      ∃ entry captures, (entry, captures) ∈ circle.candidates "/aaaa/b/c" ∧
        circle.at? "/aaaa/b/c" = some ⟨entry.handler, entry.pattern.text, captures⟩ ∧
        (Pattern.Leads "/aaaa/b/c" (circle.candidatePatterns "/aaaa/b/c") entry.pattern ↔
          ¬ Pattern.Circular "/aaaa/b/c" (circle.candidatePatterns "/aaaa/b/c")) :=
  ⟨circle_reachable, circle_served, at?_leads_iff circle_reachable circle_served⟩

/-- A path is routed to the third entry although the second one matches it and is more specific. -/
theorem circle_at?_is_preceded :
    (circle.at? "/aaaa/b/c").map Routed.pattern = some "/**/c" ∧
      ∃ inner ∈ circle.entries, inner.pattern.text = "/**/c" ∧
      ∃ tree ∈ circle.entries, tree.pattern.matchesPath "/aaaa/b/c" circle.tolerant = true ∧
        tree.pattern.compareSpecificity inner.pattern "/aaaa/b/c" = .lt := by
  refine ⟨?_, ⟨_, _⟩, .tail _ (.tail _ (.head _)), rfl, ⟨_, _⟩, .tail _ (.head _), ?_, ?_⟩
  · rw [circle_reachable.wellFormed.at?_eq]
    decide +kernel
  · decide +kernel
  · decide +kernel

end Switchyard.Route.Router
