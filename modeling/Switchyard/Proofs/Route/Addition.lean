import Switchyard.Proofs.Route.Lookup

/-!
# What a registration changes

A new entry stands behind all others, so the scan considers it last and keeps what it had found, or
takes the new entry.  A slot is looked at only when the scan finds nothing, and it is bound only
once.  So a registration leaves the route of a path alone or makes it the new one.
-/

set_option autoImplicit false

namespace Switchyard.Route.Router

variable {H : Type}

/-- The paths that a new registration may take over, with what it captures.  The root pattern takes
the root path where no entry matches it, and the fallback pattern any path that has no route.  Every
other pattern takes a path that it matches, and more specifically than the entry that had won. -/
inductive Gains (router : Router H) (pattern : Pattern) (path : String) : Captures → Prop where
  | root :
      pattern.text = rootText → path = rootText →
      pattern.match? path router.tolerant = some [] →
      (∀ entry ∈ router.entries, entry.pattern.match? path router.tolerant = none) →
      Gains router pattern path []
  | fallback :
      pattern.text = fallbackText → router.at? path = none → Gains router pattern path []
  | entry {captures : Captures} :
      pattern.text ≠ rootText → pattern.text ≠ fallbackText →
      pattern.match? path router.tolerant = some captures →
      (∀ former, router.scan path = some former →
        pattern.compareSpecificity former.1.pattern path = .lt) →
      Gains router pattern path captures

variable {router next : Router H} {pattern : Pattern} {path text : String} {handler bound : H}

theorem scan_append (added : Entry H) (literals : Std.HashMap String H) :
    ({ router with literals, entries := router.entries ++ [added] } : Router H).scan path =
      consider router.tolerant path (router.scan path) added := by
  simp [scan, List.foldl_append]

theorem scan_eq_none_iff :
    router.scan path = none ↔
      ∀ entry ∈ router.entries, entry.pattern.match? path router.tolerant = none := by
  constructor
  · intro unfound entry membership
    by_contra matched
    obtain ⟨captures, matched⟩ := Option.ne_none_iff_exists'.mp matched
    have candidate := mem_candidates.mpr ⟨membership, matched⟩
    obtain ⟨found, scanned⟩ := exists_scan (List.ne_nil_of_mem candidate)
    rw [unfound] at scanned
    cases scanned
  · intro unmatched
    cases scanned : router.scan path with
    | none => rfl
    | some found =>
        obtain ⟨membership, matched⟩ := mem_candidates.mp (mem_candidates_of_scan scanned)
        rw [unmatched found.1 membership] at matched
        cases matched

/-- The root pattern matches the root path. -/
theorem match?_root (parsed : Pattern.parse text = .ok pattern) (isRoot : pattern.text = rootText)
    (tolerant : Bool) : pattern.match? rootText tolerant = some [] := by
  obtain ⟨-, rfl, -⟩ := Pattern.parse_eq_ok parsed
  rw [isRoot] at parsed
  have spelled : Pattern.parse rootText = .ok ⟨rootText, []⟩ := rfl
  obtain rfl : (⟨rootText, []⟩ : Pattern) = pattern := by simpa [spelled] using parsed
  cases tolerant <;> decide

theorem scan_with_root (root : Option H) :
    ({ router with root } : Router H).scan path = router.scan path := rfl

theorem scan_with_fallback (fallback : Option H) :
    ({ router with fallback } : Router H).scan path = router.scan path := rfl

theorem slot?_with_entries (literals : Std.HashMap String H) (entries : List (Entry H)) :
    ({ router with literals, entries } : Router H).slot? path = router.slot? path := rfl

theorem slot?_with_root (unbound : router.root = none) :
    ({ router with root := some handler } : Router H).slot? path =
      if path = rootText then some ⟨handler, rootText, []⟩ else router.slot? path := by
  simp [slot?, unbound]

theorem slot?_with_fallback (unbound : router.fallback = none) :
    ({ router with fallback := some handler } : Router H).slot? path =
      (router.slot? path).or (some ⟨handler, fallbackText, []⟩) := by
  cases bound : router.root with
  | none => simp [slot?, bound, unbound]
  | some root =>
      simp only [slot?, bound, unbound]
      split <;> simp

variable [Registrable H]

/-- A slot that is bound stays as it is, and one that is not takes the handler. -/
theorem bind_slot_eq_ok {slot : Option H} (binds : bind slot text handler = .ok bound) :
    slot = some bound ∨ slot = none ∧ bound = handler := by
  cases slot with
  | none =>
      cases binds
      exact .inr ⟨rfl, rfl⟩
  | some existing =>
      simp only [bind] at binds
      split at binds
      · cases binds
        exact .inl rfl
      · cases binds

/-- A registration leaves the route of a path alone or leads the path to its handler. -/
theorem Registered.at?_eq_or_gains (registered : Registered router pattern handler next)
    (parsed : Pattern.parse text = .ok pattern) (wellFormed : WellFormed router) (path : String) :
    next.at? path = router.at? path ∨
      ∃ captures, Gains router pattern path captures ∧
        next.at? path = some ⟨handler, pattern.text, captures⟩ := by
  have routed := wellFormed.at?_eq path
  have routedNext := (registered.wellFormed parsed wellFormed).at?_eq path
  cases registered with
  | root isRoot binds =>
      rcases bind_slot_eq_ok binds with kept | ⟨unbound, rfl⟩
      · exact .inl (kept ▸ rfl)
      rw [scan_with_root, slot?_with_root unbound] at routedNext
      rw [routed, routedNext]
      cases scanned : router.scan path with
      | some found => exact .inl rfl
      | none =>
          dsimp only
          split
          case isTrue asked =>
              subst asked
              refine .inr ⟨[], .root isRoot rfl ?_ (scan_eq_none_iff.mp scanned), by rw [isRoot]⟩
              exact match?_root parsed isRoot router.tolerant
          case isFalse => exact .inl rfl
  | fallback isFallback binds =>
      rcases bind_slot_eq_ok binds with kept | ⟨unbound, rfl⟩
      · exact .inl (kept ▸ rfl)
      rw [scan_with_fallback, slot?_with_fallback unbound] at routedNext
      cases scanned : router.scan path with
      | some found => exact .inl (by rw [routed, routedNext, scanned])
      | none =>
          rw [scanned] at routed routedNext
          cases served : router.slot? path with
          | some found => exact .inl (by simp [routed, routedNext, served])
          | none =>
              refine .inr ⟨[], .fallback isFallback (routed.trans served), ?_⟩
              simp [routedNext, served, isFallback]
  | again _ _ _ _ _ => exact .inl rfl
  | fresh notRoot notFallback absent =>
      rw [scan_append, slot?_with_entries] at routedNext
      cases matched : pattern.match? path router.tolerant with
      | none =>
          simp only [consider, matched] at routedNext
          exact .inl (routedNext.trans routed.symm)
      | some captures =>
          simp only [consider, matched] at routedNext
          cases scanned : router.scan path with
          | none =>
              refine .inr ⟨captures, .entry notRoot notFallback matched (by simp [scanned]), ?_⟩
              simp [routedNext, scanned, better, routeOf]
          | some former =>
              by_cases ahead : pattern.compareSpecificity former.1.pattern path = .lt
              · refine .inr ⟨captures, .entry notRoot notFallback matched ?_, ?_⟩
                · simpa [scanned] using ahead
                · simp [routedNext, scanned, better, ahead, routeOf]
              · exact .inl (by simp [routed, routedNext, scanned, better, ahead])

/-- Registering a pattern in a router in use: a path is routed as before or to the new handler, and
the latter only if the pattern may take it.  So no path goes from one handler that was there to
another one, and none loses its route. -/
theorem at?_register (reachable : Reachable router)
    (registered : router.register text handler = .ok next) (path : String) :
    (next.at? path = router.at? path ∨
      ∃ pattern captures, Pattern.parse text = .ok pattern ∧
        Gains router pattern path captures ∧
        next.at? path = some ⟨handler, text, captures⟩) ∧
    (∀ former, router.at? path = some former →
      ∃ found, next.at? path = some found ∧
        (found = former ∨ found.handler = handler ∧ found.pattern = text)) := by
  obtain ⟨pattern, parsed, added⟩ := register_eq_ok registered
  obtain ⟨-, rfl, -⟩ := Pattern.parse_eq_ok parsed
  rcases added.at?_eq_or_gains parsed reachable.wellFormed path with
    same | ⟨captures, gains, taken⟩
  · refine ⟨.inl same, ?_⟩
    intro former routed
    exact ⟨former, same.trans routed, .inl rfl⟩
  · refine ⟨.inr ⟨pattern, captures, parsed, gains, taken⟩, ?_⟩
    intro former routed
    exact ⟨_, taken, .inr ⟨rfl, rfl⟩⟩

/-- The shelf with one more text. -/
def fullShelf : Router (Dispatch.Handler Unit) :=
  { shelf with
    literals := shelf.literals.insert "/shelf/old" ⟨3, "old", .custom⟩
    entries := shelf.entries ++
      [⟨⟨"/shelf/old", [.pieces [.literal "shelf".toList], .pieces [.literal "old".toList]]⟩,
        ⟨3, "old", .custom⟩⟩] }

theorem shelf_register : shelf.register "/shelf/old" ⟨3, "old", .custom⟩ = .ok fullShelf := rfl

theorem at?_register_of_shelf :
    Reachable shelf ∧ shelf.register "/shelf/old" ⟨3, "old", .custom⟩ = .ok fullShelf ∧
      (fullShelf.at? "/shelf/old" = shelf.at? "/shelf/old" ∨
        ∃ pattern captures, Pattern.parse "/shelf/old" = .ok pattern ∧
          Gains shelf pattern "/shelf/old" captures ∧
          fullShelf.at? "/shelf/old" = some ⟨⟨3, "old", .custom⟩, "/shelf/old", captures⟩) ∧
      (shelf.at? "/shelf/old").map Routed.pattern = some "/shelf/{id}" ∧
      (fullShelf.at? "/shelf/old").map Routed.pattern = some "/shelf/old" := by
  refine ⟨shelf_reachable, shelf_register,
    (at?_register shelf_reachable shelf_register "/shelf/old").1, ?_, ?_⟩
  · rw [shelf_reachable.wellFormed.at?_eq]
    decide
  · rw [(shelf_reachable.registered shelf_register).wellFormed.at?_eq]
    decide

end Switchyard.Route.Router
