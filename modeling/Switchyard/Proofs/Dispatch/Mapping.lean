import Switchyard.Dispatch.Interceptor
import Switchyard.Proofs.Route.Lookup

/-!
# Interceptors mapped to the patterns of routes

Interceptors are selected by the patterns that routes are found by, but no trailing slash is ever
tolerated for them.  An interceptor mapped to the pattern of a route is therefore selected for all
paths that the route serves but those which it `Overruns`.
-/

set_option autoImplicit false

namespace Switchyard

namespace Route

/-- Whether a path has a trailing slash that a pattern does not provide for, so that it is matched
only where such slashes are tolerated. -/
def Overruns (path : String) (pattern : Pattern) : Prop :=
  hasTrailingSlash path.toList = true ∧ hasTrailingSlash pattern.text.toList = false ∧
    pattern.endsWithAnySegments = false

instance (path : String) (pattern : Pattern) : Decidable (Overruns path pattern) :=
  inferInstanceAs (Decidable (_ ∧ _ ∧ _))

namespace Pattern

variable {pattern : Pattern} {path : String} {tolerant : Bool} {captures : Captures}

theorem agreesOnSlash_false_iff (agrees : pattern.agreesOnSlash tolerant path.toList = true) :
    pattern.agreesOnSlash false path.toList = true ↔ ¬ Overruns path pattern := by
  unfold agreesOnSlash at agrees ⊢
  unfold Overruns
  revert agrees
  cases hasTrailingSlash path.toList <;> cases hasTrailingSlash pattern.text.toList <;> simp

/-- A match needs tolerance exactly where the path overruns the pattern. -/
theorem matchesPath_false_iff (matched : pattern.match? path tolerant = some captures) :
    pattern.matchesPath path false = true ↔ ¬ Overruns path pattern := by
  simp only [match?] at matched
  split at matched
  case isFalse => cases matched
  case isTrue taken =>
      obtain ⟨leading, agrees⟩ := Bool.and_eq_true_iff.mp taken
      have strict : pattern.matchesPath path false = pattern.agreesOnSlash false path.toList := by
        by_cases agreed : pattern.agreesOnSlash false path.toList = true
        · simp [matchesPath, match?, leading, agreed, matched]
        · simp [matchesPath, match?, agreed]
      rw [strict]
      exact agreesOnSlash_false_iff agrees

/-- Tolerance is what lets a path overrun the pattern that matches it. -/
theorem tolerant_of_overruns (matched : pattern.match? path tolerant = some captures)
    (overruns : Overruns path pattern) : tolerant = true := by
  cases tolerant with
  | true => rfl
  | false =>
      have strict : pattern.matchesPath path false = true := by simp [matchesPath, matched]
      exact absurd overruns ((matchesPath_false_iff matched).mp strict)

end Pattern

namespace Router

variable {H : Type} {router : Router H} {path : String} {route : Routed H}

/-- A route that is not one of the slots leads through an entry that matches the path. -/
theorem WellFormed.exists_entry (wellFormed : WellFormed router)
    (routed : router.at? path = some route) (notRoot : route.pattern ≠ rootText)
    (notFallback : route.pattern ≠ fallbackText) :
    ∃ entry ∈ router.entries, entry.pattern.text = route.pattern ∧
      entry.pattern.match? path router.tolerant = some route.captures := by
  rw [wellFormed.at?_eq] at routed
  cases scanned : router.scan path with
  | some found =>
      rw [scanned] at routed
      cases routed
      obtain ⟨membership, matched⟩ := mem_candidates.mp (mem_candidates_of_scan scanned)
      exact ⟨found.1, membership, rfl, matched⟩
  | none =>
      have slotted : router.slot? path = some route := by simpa [scanned] using routed
      have fallback (found : router.fallback.map
          (fun fallback => (⟨fallback, fallbackText, []⟩ : Routed H)) = some route) : False := by
        obtain ⟨handler, -, rfl⟩ := Option.map_eq_some_iff.mp found
        exact notFallback rfl
      unfold slot? at slotted
      split at slotted
      · split at slotted
        · cases slotted
          exact absurd rfl notRoot
        · exact (fallback slotted).elim
      · exact (fallback slotted).elim

end Router

end Route

namespace Dispatch

open Route (Overruns Pattern Routed Router fallbackText rootText)

variable {σ : Type} {path : String}

theorem Mapping.read_singleton {text : String} {pattern : Pattern}
    (parsed : Pattern.parse text = .ok pattern) : read [text] [] = .ok ⟨[pattern], []⟩ := by
  simp [read, readPatterns, parsed, Except.mapError]

theorem Mapping.takes_singleton (pattern : Pattern) :
    (⟨[pattern], []⟩ : Mapping).takes path = pattern.matchesPath path false := by
  simp [takes]

theorem Interceptors.forPath_append (before : List (MappedInterceptor σ))
    (mapped : MappedInterceptor σ) (after : List (MappedInterceptor σ)) :
    (⟨before ++ mapped :: after⟩ : Interceptors σ).forPath path =
      (⟨before⟩ : Interceptors σ).forPath path ++
        (if mapped.mapping.takes path then [mapped.interceptor] else []) ++
        (⟨after⟩ : Interceptors σ).forPath path := by
  by_cases taken : mapped.mapping.takes path = true
  · simp [forPath, taken]
  · simp [forPath, taken]

/-- An interceptor mapped to the pattern of a route, wherever it is registered, is selected for a
path that the route serves unless the path overruns the pattern, which takes a router that tolerates
slashes. -/
theorem guards_unless_overrun {router : Router (Handler σ)}
    {route : Routed (Handler σ)} (reachable : Router.Reachable router)
    (routed : router.at? path = some route) (notRoot : route.pattern ≠ rootText)
    (notFallback : route.pattern ≠ fallbackText) :
    ∃ pattern mapping, Pattern.parse route.pattern = .ok pattern ∧
      Mapping.read [route.pattern] [] = .ok mapping ∧
      (Overruns path pattern → router.tolerant = true) ∧
      ∀ before interceptor after,
        (⟨before ++ ⟨interceptor, mapping⟩ :: after⟩ : Interceptors σ).forPath path =
          (⟨before⟩ : Interceptors σ).forPath path ++
            (if Overruns path pattern then [] else [interceptor]) ++
            (⟨after⟩ : Interceptors σ).forPath path := by
  have wellFormed := reachable.wellFormed
  obtain ⟨entry, membership, spelled, matched⟩ :=
    wellFormed.exists_entry routed notRoot notFallback
  have parsed := wellFormed.parsed entry membership
  rw [spelled] at parsed
  refine ⟨entry.pattern, _, parsed, Mapping.read_singleton parsed,
    Pattern.tolerant_of_overruns matched, ?_⟩
  intro before interceptor after
  have selected := Pattern.matchesPath_false_iff matched
  rw [Interceptors.forPath_append, Mapping.takes_singleton]
  by_cases overruns : Overruns path entry.pattern
  · simp [overruns, selected]
  · simp [overruns, selected]

/-- A handler that no adapter calls. -/
def profile : Handler Unit := ⟨0, "profile", .custom⟩

/-- A router with one route, which tolerates slashes. -/
def lenient : Router (Handler Unit) where
  entries :=
    [⟨⟨"/users/{id}", [.pieces [.literal "users".toList], .pieces [.variable ['i', 'd']]]⟩,
      profile⟩]
  tolerant := true

theorem lenient_built : Router.build [("/users/{id}", profile)] true = .ok lenient := rfl

theorem lenient_reachable : Router.Reachable lenient :=
  .built lenient_built

theorem lenient_at? :
    lenient.at? "/users/7/" = some ⟨profile, "/users/{id}", [("id", "7")]⟩ := by
  rw [lenient_reachable.wellFormed.at?_eq]
  rfl

theorem guards_unless_overrun_of_lenient :
    Router.Reachable lenient ∧
      lenient.at? "/users/7/" = some ⟨profile, "/users/{id}", [("id", "7")]⟩ ∧
      "/users/{id}" ≠ rootText ∧ "/users/{id}" ≠ fallbackText ∧
      ∃ pattern mapping, Pattern.parse "/users/{id}" = .ok pattern ∧
        Mapping.read ["/users/{id}"] [] = .ok mapping ∧
        (Overruns "/users/7/" pattern → lenient.tolerant = true) ∧
        ∀ (before : List (MappedInterceptor Unit)) interceptor after,
          (⟨before ++ ⟨interceptor, mapping⟩ :: after⟩ : Interceptors Unit).forPath "/users/7/" =
            (⟨before⟩ : Interceptors Unit).forPath "/users/7/" ++
              (if Overruns "/users/7/" pattern then [] else [interceptor]) ++
              (⟨after⟩ : Interceptors Unit).forPath "/users/7/" := by
  have notRoot : "/users/{id}" ≠ rootText := by decide
  have notFallback : "/users/{id}" ≠ fallbackText := by decide
  exact ⟨lenient_reachable, lenient_at?, notRoot, notFallback,
    guards_unless_overrun lenient_reachable lenient_at? notRoot notFallback⟩

/-- A path is routed through a pattern, and an interceptor mapped to that very pattern is not
selected for it. -/
theorem lenient_route_unguarded :
    (lenient.at? "/users/7/").map Routed.pattern = some "/users/{id}" ∧
      ∃ mapping, Mapping.read ["/users/{id}"] [] = .ok mapping ∧
        ∀ interceptor : Interceptor Unit,
          (Interceptors.none.append ⟨interceptor, mapping⟩).forPath "/users/7/" = [] := by
  refine ⟨by rw [lenient_at?]; rfl, _, rfl, ?_⟩
  intro interceptor
  rfl

end Dispatch

end Switchyard
