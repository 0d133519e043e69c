import Switchyard.Proofs.Dispatch.Mapping
import Switchyard.Proofs.Text.Split
import Switchyard.Serving.Pipeline

/-!
# Interceptors for all paths

An interceptor without includes is selected for every path.  One that is mapped to `/**` is selected
for the paths that begin with a slash.  Only the fallback of a router serves others, which are those
of the target `*` and of a target that is an authority alone; a request for them passes by it.
-/

set_option autoImplicit false

namespace Switchyard

namespace Http

/-- Whether a path begins with a slash. -/
def Rooted (path : String) : Prop :=
  path.toList.head? = some '/'

instance (path : String) : Decidable (Rooted path) :=
  inferInstanceAs (Decidable (_ = _))

namespace Target

/-- What follows an authority has a path that begins with a slash, which is added if it has none. -/
theorem rooted_pathAndQuery {chars : List Char}
    (bounded : ∀ c, chars.head? = some c → endsAuthority c = true) :
    Rooted (pathAndQuery chars).1 := by
  simp only [pathAndQuery, Text.cutAtFirst_fst]
  split
  case isTrue => rfl
  case isFalse inhabited =>
      cases chars with
      | nil => exact absurd rfl inhabited
      | cons first rest =>
          have ends : (first = '/' ∨ first = '?') ∨ first = '#' := by
            simpa [endsAuthority] using bounded first rfl
          rcases ends with (rfl | rfl) | rfl
          · simp [Rooted]
          · exact absurd rfl inhabited
          · exact absurd rfl inhabited

theorem rooted_of_ofText (text : String) :
    Rooted (ofText text).path ∨ text = "*" ∨ ofText text = .authority text := by
  unfold ofText
  simp only
  split
  case isTrue leading =>
      rcases leading with slash | star
      · left
        refine rooted_pathAndQuery fun c first => ?_
        cases slash.symm.trans first
        rfl
      · exact .inr (.inl (String.toList_inj.mp star))
  case isFalse =>
      split
      case h_1 scheme rest _ =>
          left
          refine rooted_pathAndQuery fun c first => ?_
          -- Behind an authority there is only what ends it.
          rw [Text.drop_length_takeWhile] at first
          have ended := List.head?_dropWhile_not (fun c => !endsAuthority c) rest
          simpa [first] using ended
      case h_2 => exact .inr (.inr rfl)

end Target

end Http

namespace Route

open Http (Rooted)

theorem Segment.captures?_anySegments (path : List (List Char)) :
    captures? [.anySegments] path = some [] := by
  simp only [captures?]
  induction path with
  | nil => rfl
  | cons first rest inductionHypothesis =>
      simpa [suffixes, captures?] using inductionHypothesis

namespace Pattern

variable {pattern : Pattern} {path : String} {tolerant : Bool} {captures : Captures}

theorem rooted_of_match? (matched : pattern.match? path tolerant = some captures) : Rooted path := by
  simp only [match?] at matched
  split at matched
  case isTrue taken => exact of_decide_eq_true (Bool.and_eq_true_iff.mp taken).1
  case isFalse => cases matched

def catchAll : Pattern := ⟨"/**", [.anySegments]⟩

theorem parse_catchAll : parse catchAll.text = .ok catchAll := rfl

/-- The pattern matches any path that a pattern can match. -/
theorem matchesPath_catchAll : catchAll.matchesPath path tolerant = true ↔ Rooted path := by
  have agrees : catchAll.agreesOnSlash tolerant path.toList = true := rfl
  have matched : Segment.captures? catchAll.segments (pathSegments path.toList) = some [] :=
    Segment.captures?_anySegments _
  simp [matchesPath, match?, agrees, matched, Rooted]

end Pattern

namespace Router

variable {H : Type} {router : Router H} {path : String} {route : Routed H}

/-- A path that no pattern can match is served by the fallback. -/
theorem WellFormed.fallback_of_unrooted (wellFormed : WellFormed router)
    (routed : router.at? path = some route) (unrooted : ¬ Rooted path) :
    router.fallback = some route.handler ∧ route.pattern = fallbackText ∧ route.captures = [] := by
  -- Neither an entry nor the slot of the root is for it.
  have unscanned : router.scan path = none := by
    cases scanned : router.scan path with
    | none => rfl
    | some found =>
        have matched := (mem_candidates.mp (mem_candidates_of_scan scanned)).2
        exact absurd (Pattern.rooted_of_match? matched) unrooted
  have slotted : router.slot? path =
      router.fallback.map fun fallback => ⟨fallback, fallbackText, []⟩ := by
    have notRoot : path ≠ rootText := by
      rintro rfl
      exact unrooted rfl
    unfold slot?
    cases router.root <;> simp [notRoot]
  rw [wellFormed.at?_eq, unscanned, slotted] at routed
  obtain ⟨handler, bound, rfl⟩ := Option.map_eq_some_iff.mp routed
  exact ⟨bound, rfl, rfl⟩

end Router

end Route

namespace Dispatch

open Http (Rooted)
open Route (Pattern)

variable {σ : Type} {path : String}

namespace Mapping

theorem takes_everywhere (path : String) : everywhere.takes path = true := rfl

def catchAll : Mapping := ⟨[.catchAll], []⟩

theorem read_catchAll : read ["/**"] [] = .ok catchAll :=
  read_singleton Pattern.parse_catchAll

theorem takes_catchAll : catchAll.takes path = true ↔ Rooted path := by
  rw [catchAll, takes_singleton, Pattern.matchesPath_catchAll]

end Mapping

namespace Interceptors

/-- An interceptor and its mapping among others. -/
def amid (before after : List (MappedInterceptor σ)) (interceptor : Interceptor σ)
    (mapping : Mapping) : Interceptors σ :=
  ⟨before ++ ⟨interceptor, mapping⟩ :: after⟩

theorem forPath_amid_of_takes {mapping : Mapping} (before after : List (MappedInterceptor σ))
    (interceptor : Interceptor σ) (taken : mapping.takes path = true) :
    (amid before after interceptor mapping).forPath path =
      (⟨before⟩ : Interceptors σ).forPath path ++
        interceptor :: (⟨after⟩ : Interceptors σ).forPath path := by
  simp [amid, forPath_append, taken]

theorem forPath_amid_of_not_takes {mapping : Mapping} (before after : List (MappedInterceptor σ))
    (interceptor : Interceptor σ) (passed : ¬ mapping.takes path = true) :
    (amid before after interceptor mapping).forPath path =
      (⟨before ++ after⟩ : Interceptors σ).forPath path := by
  rw [amid, forPath_append, if_neg passed]
  simp [forPath]

end Interceptors

end Dispatch

namespace Serving

open Dispatch (Handler Interceptor Interceptors MappedInterceptor Mapping)
open Http (Connection RequestHead Rooted Target)
open Route (Routed Router fallbackText)

variable {σ : Type}

/-- Two lists of interceptors between which a request makes no difference: those selected for its
path are the same, and so is everything that is done to serve it. -/
structure TreatedAlike (router : Router (Handler σ)) (head : RequestHead)
    (interceptors others : Interceptors σ) : Prop where
  selected : interceptors.forPath head.path = others.forPath head.path
  served : ∀ (services : Services σ) session content connection,
    serve { services with interceptors } router session head content connection =
      serve { services with interceptors := others } router session head content connection
  resumed : ∀ (services : Services σ) request,
    resume { services with interceptors } request =
      resume { services with interceptors := others } request

variable {router : Router (Handler σ)} {head : RequestHead}

/-- The interceptors only count for a request as far as they are selected for its path. -/
theorem TreatedAlike.of_forPath {interceptors others : Interceptors σ}
    (same : interceptors.forPath head.path = others.forPath head.path) :
    TreatedAlike router head interceptors others where
  selected := same
  served services session content connection := by
    unfold serve
    simp only [same]
    rfl
  resumed _ _ := rfl

/-- An interceptor for all paths is met by every request, wherever it is registered.  Mapped to
`/**` it is met just so by a request whose path begins with a slash, and by no other.  Such another
one is for the target `*` or for an authority alone, and the fallback of the router serves it. -/
theorem treatedAlike_catchAll {route : Routed (Handler σ)} {text : String}
    (reachable : Router.Reachable router) (routed : router.at? head.path = some route)
    (sent : head.target = .ofText text) (before after : List (MappedInterceptor σ))
    (interceptor : Interceptor σ) :
    Mapping.read ["/**"] [] = .ok .catchAll ∧
      (Interceptors.amid before after interceptor .everywhere).forPath head.path =
        (⟨before⟩ : Interceptors σ).forPath head.path ++
          interceptor :: (⟨after⟩ : Interceptors σ).forPath head.path ∧
      (Rooted head.path → TreatedAlike router head
        (.amid before after interceptor .catchAll) (.amid before after interceptor .everywhere)) ∧
      (¬ Rooted head.path →
        TreatedAlike router head (.amid before after interceptor .catchAll) ⟨before ++ after⟩ ∧
        (text = "*" ∨ head.target = .authority text) ∧
        router.fallback = some route.handler ∧ route.pattern = fallbackText) := by
  have everywhere := Interceptors.forPath_amid_of_takes before after interceptor
    (Mapping.takes_everywhere head.path)
  refine ⟨Mapping.read_catchAll, everywhere, fun rooted => ?_, fun unrooted => ?_⟩
  · refine .of_forPath (Eq.trans ?_ everywhere.symm)
    exact Interceptors.forPath_amid_of_takes before after interceptor
      (Mapping.takes_catchAll.mpr rooted)
  · obtain ⟨fallback, pattern, -⟩ := reachable.wellFormed.fallback_of_unrooted routed unrooted
    have target : text = "*" ∨ head.target = .authority text := by
      rw [RequestHead.path, sent] at unrooted
      rw [sent]
      exact (Target.rooted_of_ofText text).resolve_left unrooted
    refine ⟨.of_forPath ?_, target, fallback, pattern⟩
    exact Interceptors.forPath_amid_of_not_takes before after interceptor
      (Mapping.takes_catchAll.not.mpr unrooted)

open Dispatch (profile)

/-- A router that serves every path by its fallback. -/
def lastResort : Router (Handler Unit) :=
  { fallback := some profile }

theorem lastResort_reachable : Router.Reachable lastResort :=
  .built (show Router.build [("/*", profile)] false = .ok lastResort from rfl)

theorem lastResort_at? (path : String) : lastResort.at? path = some ⟨profile, fallbackText, []⟩ := by
  rw [lastResort_reachable.wellFormed.at?_eq]
  rfl

/-- A request with a target. -/
def asking (text : String) : RequestHead :=
  ⟨.get, .ofText text, .http11, .empty⟩

def watcher : Interceptor Unit := {}

theorem treatedAlike_catchAll_of_lastResort :
    TreatedAlike lastResort (asking "/a") (.amid [] [] watcher .catchAll)
        (.amid [] [] watcher .everywhere) ∧
      TreatedAlike lastResort (asking "*") (.amid [] [] watcher .catchAll) .none := by
  have sent (text : String) : (asking text).target = .ofText text := rfl
  obtain ⟨-, -, rooted, -⟩ :=
    treatedAlike_catchAll lastResort_reachable (lastResort_at? _) (sent "/a") [] [] watcher
  obtain ⟨-, -, -, unrooted⟩ :=
    treatedAlike_catchAll lastResort_reachable (lastResort_at? _) (sent "*") [] [] watcher
  exact ⟨rooted rfl, (unrooted (by decide)).1⟩

/-- Both a request for `*` and one for an authority are routed, and what is mapped to `/**` is
selected for neither of them. -/
theorem asterisk_not_treatedAlike :
    (lastResort.at? (asking "*").path).map Routed.pattern = some fallbackText ∧
      Mapping.read ["/**"] [] = .ok .catchAll ∧
      (Interceptors.none.append ⟨watcher, .catchAll⟩).forPath (asking "*").path = [] ∧
      (Interceptors.none.append ⟨watcher, .catchAll⟩).forPath (asking "h:80").path = [] ∧
      (Interceptors.none.addLast watcher).forPath (asking "*").path = [watcher] ∧
      ¬ TreatedAlike lastResort (asking "*") (Interceptors.none.append ⟨watcher, .catchAll⟩)
        (Interceptors.none.addLast watcher) := by
  refine ⟨by rw [lastResort_at?]; rfl, rfl, rfl, rfl, rfl, fun alike => ?_⟩
  cases alike.selected

end Serving
end Switchyard
