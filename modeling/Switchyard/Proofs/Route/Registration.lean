import Switchyard.Proofs.Route.Parsing
import Switchyard.Route.Router

/-!
# Routers reached by registrations

A router is reached by building it from a list and by registering patterns in it while it is in use.
What such routers have in common is `WellFormed`: their entries are parsed from texts that differ
from one another and from the texts of the slots, and the literal texts lead to the handlers of
their entries.
-/

set_option autoImplicit false

namespace Switchyard.Route.Router

variable {H : Type} [Registrable H]

/-- The routers that registrations lead to. -/
inductive Reachable : Router H → Prop where
  | built {registrations : List (String × H)} {tolerant : Bool} {router : Router H} :
      build registrations tolerant = .ok router → Reachable router
  | registered {router next : Router H} {pattern : String} {handler : H} :
      Reachable router → router.register pattern handler = .ok next → Reachable next

/-- All that a successful registration may do. -/
inductive Registered (router : Router H) (pattern : Pattern) (handler : H) :
    Router H → Prop where
  | root {bound : H} :
      pattern.text = rootText → bind router.root rootText handler = .ok bound →
      Registered router pattern handler { router with root := some bound }
  | fallback {bound : H} :
      pattern.text = fallbackText → bind router.fallback fallbackText handler = .ok bound →
      Registered router pattern handler { router with fallback := some bound }
  | again {entry : Entry H} :
      pattern.text ≠ rootText → pattern.text ≠ fallbackText →
      entry ∈ router.entries → entry.pattern.text = pattern.text →
      same entry.handler handler = true → Registered router pattern handler router
  | fresh :
      pattern.text ≠ rootText → pattern.text ≠ fallbackText →
      (∀ entry ∈ router.entries, entry.pattern.text ≠ pattern.text) →
      Registered router pattern handler
        { router with
          literals :=
            if pattern.isLiteral then router.literals.insert pattern.text handler
            else router.literals
          entries := router.entries ++ [⟨pattern, handler⟩] }

theorem Registered.of_insert {router next : Router H} {pattern : Pattern} {handler : H}
    (inserted : router.insert pattern handler = .ok next) :
    Registered router pattern handler next := by
  simp only [insert] at inserted
  split at inserted
  case isTrue isRoot =>
      obtain ⟨found, bound, inserted⟩ := map_eq_ok.mp inserted
      exact inserted ▸ .root isRoot bound
  case isFalse notRoot =>
      split at inserted
      case isTrue isFallback =>
          obtain ⟨found, bound, inserted⟩ := map_eq_ok.mp inserted
          exact inserted ▸ .fallback isFallback bound
      case isFalse notFallback =>
          simp only [insertEntry] at inserted
          split at inserted
          case h_1 entry found =>
              have spelled : entry.pattern.text = pattern.text := by
                simpa using List.find?_some found
              simp only [bind] at inserted
              split at inserted
              · simp only [Except.map, Except.ok.injEq] at inserted
                subst inserted
                exact .again notRoot notFallback (List.mem_of_find?_eq_some found) spelled
                  (by assumption)
              · simp [Except.map] at inserted
          case h_2 absent =>
              simp only [Except.ok.injEq] at inserted
              subst inserted
              refine .fresh notRoot notFallback ?_
              intro entry membership
              simpa using List.find?_eq_none.mp absent entry membership

/-- A successful registration parses its pattern and then inserts it. -/
theorem register_eq_ok {router next : Router H} {text : String} {handler : H}
    (registered : router.register text handler = .ok next) :
    ∃ pattern, Pattern.parse text = .ok pattern ∧ Registered router pattern handler next := by
  simp only [register] at registered
  split at registered
  · cases registered
  · exact ⟨_, by assumption, .of_insert registered⟩

/-- What holds of every router that registrations lead to. -/
structure WellFormed (router : Router H) : Prop where
  parsed : ∀ entry ∈ router.entries, Pattern.parse entry.pattern.text = .ok entry.pattern
  distinct : (router.entries.map fun entry => entry.pattern.text).Nodup
  unslotted : ∀ entry ∈ router.entries,
    entry.pattern.text ≠ rootText ∧ entry.pattern.text ≠ fallbackText
  literals : ∀ path handler, router.literals[path]? = some handler ↔
    ∃ entry ∈ router.entries,
      entry.pattern.text = path ∧ entry.pattern.isLiteral = true ∧ entry.handler = handler

omit [Registrable H] in
theorem wellFormed_empty (tolerant : Bool) : WellFormed ({ tolerant } : Router H) where
  parsed := by simp
  distinct := by simp
  unslotted := by simp
  literals := by simp

/-- A registration keeps a router well-formed. -/
theorem Registered.wellFormed {router next : Router H} {text : String} {pattern : Pattern}
    {handler : H} (registered : Registered router pattern handler next)
    (parsed : Pattern.parse text = .ok pattern) (wellFormed : WellFormed router) :
    WellFormed next := by
  cases registered with
  | root _ _ => exact ⟨wellFormed.parsed, wellFormed.distinct, wellFormed.unslotted,
      wellFormed.literals⟩
  | fallback _ _ => exact ⟨wellFormed.parsed, wellFormed.distinct, wellFormed.unslotted,
      wellFormed.literals⟩
  | again _ _ _ _ _ => exact wellFormed
  | fresh notRoot notFallback absent =>
      obtain ⟨-, rfl, -⟩ := Pattern.parse_eq_ok parsed
      refine ⟨?_, ?_, ?_, ?_⟩
      · intro entry membership
        rcases List.mem_append.mp membership with before | added
        · exact wellFormed.parsed entry before
        · rw [List.mem_singleton.mp added]
          exact parsed
      · rw [List.map_append, List.nodup_append]
        refine ⟨wellFormed.distinct, by simp, ?_⟩
        intro first inBefore second inAdded equality
        obtain ⟨entry, membership, rfl⟩ := List.mem_map.mp inBefore
        refine absent entry membership (equality.trans ?_)
        simpa using inAdded
      · intro entry membership
        rcases List.mem_append.mp membership with before | added
        · exact wellFormed.unslotted entry before
        · rw [List.mem_singleton.mp added]
          exact ⟨notRoot, notFallback⟩
      · intro path found
        have kept := wellFormed.literals path found
        simp only [List.mem_append, List.mem_singleton, or_and_right, exists_or,
          exists_eq_left]
        by_cases literal : pattern.isLiteral = true
        · simp only [literal, if_true, Std.HashMap.getElem?_insert, true_and]
          by_cases spelled : pattern.text = path
          · have unknown : ¬ ∃ entry ∈ router.entries, entry.pattern.text = path ∧
                entry.pattern.isLiteral = true ∧ entry.handler = found := by
              rintro ⟨entry, membership, same, -⟩
              exact absent entry membership (same.trans spelled.symm)
            simp [spelled, unknown]
          · simp [spelled, kept]
        · simp [literal, kept]

theorem wellFormed_of_register {router next : Router H} {text : String} {handler : H}
    (wellFormed : WellFormed router) (registered : router.register text handler = .ok next) :
    WellFormed next := by
  obtain ⟨pattern, parsed, added⟩ := register_eq_ok registered
  exact added.wellFormed parsed wellFormed

theorem wellFormed_of_foldlM {registrations : List (String × H)} {router next : Router H}
    (wellFormed : WellFormed router)
    (folded : registrations.foldlM (fun router registration =>
      router.register registration.1 registration.2) router = .ok next) : WellFormed next := by
  induction registrations generalizing router with
  | nil =>
      cases folded
      exact wellFormed
  | cons registration rest inductionHypothesis =>
      rw [List.foldlM_cons] at folded
      obtain ⟨middle, first, others⟩ := bind_eq_ok.mp folded
      exact inductionHypothesis (wellFormed_of_register wellFormed first) others

theorem Reachable.wellFormed {router : Router H} (reachable : Reachable router) :
    WellFormed router := by
  induction reachable with
  | built built => exact wellFormed_of_foldlM (wellFormed_empty _) built
  | registered _ registered inductionHypothesis =>
      exact wellFormed_of_register inductionHypothesis registered

end Switchyard.Route.Router
