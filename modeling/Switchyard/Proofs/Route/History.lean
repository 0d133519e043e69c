import Mathlib.Data.Finset.Card
import Switchyard.Proofs.Route.Registration

/-!
# Registrations one after another

A router in use takes registrations one by one into a copy that takes its place whatever has come
of them, and is as it was when one fails.  What it has come to is told by the registrations that
succeeded: every pattern text is bound to the handler of its first one, there are as many routes as
different texts, and the same router is built from these registrations alone.  Building a router
from a list stops at the first failure instead.
-/

set_option autoImplicit false

namespace Switchyard.Route.Router

variable {H : Type} [Registrable H]

/-- A slot as a registration into it leaves it, and whether that succeeded. -/
def bindInPlace (slot : Option H) (pattern : String) (handler : H) :
    Except RouteError Unit × Option H :=
  match slot with
  | none => (.ok (), some handler)
  | some existing =>
      if same existing handler then (.ok (), slot)
      else
        (.error (.conflict pattern (Registrable.name existing) (Registrable.name handler)), slot)

/-- A router as a registration into it leaves it, and whether that succeeded. -/
def insertInPlace (router : Router H) (pattern : Pattern) (handler : H) :
    Except RouteError Unit × Router H :=
  if pattern.text = rootText then
    let (outcome, root) := bindInPlace router.root rootText handler
    (outcome, { router with root })
  else if pattern.text = fallbackText then
    let (outcome, fallback) := bindInPlace router.fallback fallbackText handler
    (outcome, { router with fallback })
  else
    match router.entries.find? fun entry => entry.pattern.text = pattern.text with
    | some entry => ((bindInPlace (some entry.handler) pattern.text handler).1, router)
    | none =>
        let literals :=
          if pattern.isLiteral then router.literals.insert pattern.text handler
          else router.literals
        (.ok (), { router with literals, entries := router.entries ++ [⟨pattern, handler⟩] })

/-- The router that is in use after a registration: the one that was registered into, whatever has
come of that. -/
def attempt (router : Router H) (registration : String × H) : Router H :=
  match Pattern.parse registration.1 with
  | .error _ => router
  | .ok pattern => (router.insertInPlace pattern registration.2).2

/-- The router after registrations that may fail. -/
def run (router : Router H) (registrations : List (String × H)) : Router H :=
  registrations.foldl attempt router

/-- The registrations of a run that succeed. -/
def successes : Router H → List (String × H) → List (String × H)
  | _, [] => []
  | router, registration :: rest =>
      match router.register registration.1 registration.2 with
      | .ok next => registration :: successes next rest
      | .error _ => successes router rest

/-- The errors of the registrations of a run that fail. -/
def refusals : Router H → List (String × H) → List RouteError
  | _, [] => []
  | router, registration :: rest =>
      match router.register registration.1 registration.2 with
      | .ok next => refusals next rest
      | .error refusal => refusal :: refusals router rest

omit [Registrable H] in
/-- The handler that a pattern text is bound to. -/
def bound? (router : Router H) (text : String) : Option H :=
  if text = rootText then router.root
  else if text = fallbackText then router.fallback
  else (router.entries.find? fun entry => entry.pattern.text = text).map Entry.handler

omit [Registrable H] in
/-- The router with one more pattern. -/
def extend (router : Router H) (pattern : Pattern) (handler : H) : Router H :=
  if pattern.text = rootText then { router with root := some handler }
  else if pattern.text = fallbackText then { router with fallback := some handler }
  else
    { router with
      literals :=
        if pattern.isLiteral then router.literals.insert pattern.text handler else router.literals
      entries := router.entries ++ [⟨pattern, handler⟩] }

variable {router next : Router H} {text other : String} {pattern : Pattern} {handler : H}
  {registration : String × H} {registrations log : List (String × H)}

theorem bindInPlace_eq (slot : Option H) (text : String) (handler : H) :
    bindInPlace slot text handler =
      match bind slot text handler with
      | .ok bound => (.ok (), some bound)
      | .error refusal => (.error refusal, slot) := by
  cases slot with
  | none => rfl
  | some existing =>
      simp only [bindInPlace, bind]
      split <;> rfl

/-- A registration that fails has not touched the router before. -/
theorem insertInPlace_eq (router : Router H) (pattern : Pattern) (handler : H) :
    router.insertInPlace pattern handler =
      match router.insert pattern handler with
      | .ok next => (.ok (), next)
      | .error refusal => (.error refusal, router) := by
  unfold insertInPlace insert
  split
  case isTrue =>
      rw [bindInPlace_eq]
      cases bind router.root rootText handler <;> rfl
  case isFalse =>
      split
      case isTrue =>
          rw [bindInPlace_eq]
          cases bind router.fallback fallbackText handler <;> rfl
      case isFalse =>
          simp only [insertEntry]
          cases router.entries.find? fun entry => entry.pattern.text = pattern.text with
          | none => rfl
          | some entry =>
              simp only [bindInPlace_eq]
              cases bind (some entry.handler) pattern.text handler <;> rfl

theorem attempt_eq (router : Router H) (registration : String × H) :
    router.attempt registration =
      match router.register registration.1 registration.2 with
      | .ok next => next
      | .error _ => router := by
  unfold attempt register
  cases Pattern.parse registration.1 with
  | error => rfl
  | ok pattern =>
      dsimp only
      rw [insertInPlace_eq]
      cases router.insert pattern registration.2 <;> rfl

theorem run_cons (router : Router H) (registration : String × H)
    (registrations : List (String × H)) :
    router.run (registration :: registrations) = (router.attempt registration).run registrations :=
  rfl

theorem run_append (router : Router H) (registrations later : List (String × H)) :
    router.run (registrations ++ later) = (router.run registrations).run later :=
  List.foldl_append

/-- Registering binds a new text, keeps a text that is bound to the same handler, and refuses
another one. -/
theorem register_eq (parsed : Pattern.parse text = .ok pattern) :
    router.register text handler =
      match router.bound? text with
      | none => .ok (router.extend pattern handler)
      | some bound =>
          if same bound handler then .ok router
          else .error (.conflict text (Registrable.name bound) (Registrable.name handler)) := by
  obtain ⟨-, rfl, -⟩ := Pattern.parse_eq_ok parsed
  simp only [register, parsed, insert, bound?, extend]
  split
  case isTrue isRoot =>
      cases router with
      | mk literals entries root fallback tolerant =>
          cases root with
          | none => rfl
          | some bound => simp only [bind, isRoot]; split <;> rfl
  case isFalse =>
      split
      case isTrue isFallback =>
          cases router with
          | mk literals entries root fallback tolerant =>
              cases fallback with
              | none => rfl
              | some bound => simp only [bind, isFallback]; split <;> rfl
      case isFalse =>
          simp only [insertEntry]
          cases router.entries.find? fun entry => entry.pattern.text = pattern.text with
          | none => rfl
          | some entry => simp only [bind, Option.map_some]; split <;> rfl

omit [Registrable H] in
theorem bound?_extend (fresh : router.bound? pattern.text = none) :
    (router.extend pattern handler).bound? other =
      if other = pattern.text then some handler else router.bound? other := by
  unfold bound? extend at *
  by_cases isRoot : pattern.text = rootText
  · by_cases asked : other = rootText <;> simp [isRoot, asked]
  · by_cases isFallback : pattern.text = fallbackText
    · by_cases asked : other = fallbackText
      · have notRoot : fallbackText ≠ rootText := by decide
        simp [isFallback, asked, notRoot]
      · have notRoot : fallbackText ≠ rootText := by decide
        simp [isFallback, asked, notRoot]
    · simp only [isRoot, isFallback, if_false, Option.map_eq_none_iff] at fresh
      simp only [isRoot, isFallback, if_false, List.find?_append]
      by_cases asked : other = pattern.text
      · simp [asked, isRoot, isFallback, fresh]
      · simp [asked, Ne.symm asked]

omit [Registrable H] in
theorem size_extend (fresh : router.bound? pattern.text = none) :
    (router.extend pattern handler).size = router.size + 1 := by
  unfold bound? at fresh
  unfold extend size
  split
  case isTrue isRoot =>
      simp only [isRoot, if_true] at fresh
      simp [fresh]
      omega
  case isFalse notRoot =>
      split
      case isTrue isFallback =>
          rw [if_neg notRoot, if_pos isFallback] at fresh
          simp [fresh]
      case isFalse =>
          simp
          omega

/-- What a router has in common with the registrations that led to it. -/
structure Records (router : Router H) (log : List (String × H)) : Prop where
  wellFormed : WellFormed router
  bound : ∀ text, router.bound? text = log.lookup text
  agrees : ∀ text handler, (text, handler) ∈ log →
    ∃ first, log.lookup text = some first ∧ same first handler = true
  parses : ∀ text handler, (text, handler) ∈ log → ∃ pattern, Pattern.parse text = .ok pattern
  size : router.size = (log.map Prod.fst).toFinset.card

theorem records_empty (tolerant : Bool) : Records ({ tolerant } : Router H) [] where
  wellFormed := wellFormed_empty tolerant
  bound := by simp [bound?]
  agrees := by simp
  parses := by simp
  size := rfl

omit [Registrable H] in
theorem lookup_append_singleton :
    (log ++ [(text, handler)]).lookup other =
      (log.lookup other).or (if other = text then some handler else none) := by
  rw [List.lookup_append]
  by_cases asked : other = text
  · simp [asked]
  · simp [List.lookup_cons, beq_eq_false_iff_ne.mpr asked, asked]

omit [Registrable H] in
theorem texts_append_singleton :
    ((log ++ [(text, handler)]).map Prod.fst).toFinset =
      Insert.insert text (log.map Prod.fst).toFinset := by
  ext asked
  simp

omit [Registrable H] in
theorem mem_texts_iff : text ∈ (log.map Prod.fst).toFinset ↔ (log.lookup text).isSome = true := by
  simp

/-- A successful registration is recorded. -/
theorem Records.register (records : Records router log)
    (registered : router.register text handler = .ok next) :
    Records next (log ++ [(text, handler)]) := by
  obtain ⟨pattern, parsed, -⟩ := register_eq_ok registered
  have wellFormed := wellFormed_of_register records.wellFormed registered
  have parses : ∀ another found, (another, found) ∈ log ++ [(text, handler)] →
      ∃ pattern, Pattern.parse another = .ok pattern := by
    intro another found membership
    rcases List.mem_append.mp membership with before | added
    · exact records.parses another found before
    · cases List.mem_singleton.mp added
      exact ⟨pattern, parsed⟩
  have recorded := records.bound text
  rw [register_eq parsed, recorded] at registered
  cases known : log.lookup text with
  | none =>
      rw [known] at registered recorded
      cases registered
      obtain ⟨-, rfl, -⟩ := Pattern.parse_eq_ok parsed
      refine ⟨wellFormed, ?_, ?_, parses, ?_⟩
      · intro asked
        rw [bound?_extend recorded, lookup_append_singleton, records.bound]
        by_cases new : asked = pattern.text
        · simp [new, known]
        · simp [new]
      · intro another found membership
        rw [lookup_append_singleton]
        rcases List.mem_append.mp membership with before | added
        · obtain ⟨first, stored, agreed⟩ := records.agrees another found before
          exact ⟨first, by simp [stored], agreed⟩
        · cases List.mem_singleton.mp added
          exact ⟨handler, by simp [known], by simp [same]⟩
      · have unlisted : pattern.text ∉ (log.map Prod.fst).toFinset := by
          rw [mem_texts_iff, known]
          exact Bool.false_ne_true
        rw [size_extend recorded, records.size, texts_append_singleton,
          Finset.card_insert_of_notMem unlisted]
  | some first =>
      rw [known] at registered
      have kept (asked : String) : (log ++ [(text, handler)]).lookup asked = log.lookup asked := by
        rw [lookup_append_singleton]
        by_cases old : asked = text
        · simp [old, known]
        · simp [old]
      by_cases agreed : same first handler = true
      · simp only [agreed, if_true, Except.ok.injEq] at registered
        subst registered
        refine ⟨wellFormed, ?_, ?_, parses, ?_⟩
        · intro asked
          rw [kept, records.bound]
        · intro another found membership
          rw [kept]
          rcases List.mem_append.mp membership with before | added
          · exact records.agrees another found before
          · cases List.mem_singleton.mp added
            exact ⟨first, known, agreed⟩
        · have listed : text ∈ (log.map Prod.fst).toFinset := by
            rw [mem_texts_iff, known]
            rfl
          rw [records.size, texts_append_singleton, Finset.insert_eq_of_mem listed]
      · simp [agreed] at registered

/-- A registration that fails changes nothing, and one that succeeds is recorded. -/
theorem Records.run (records : Records router log) (registrations : List (String × H)) :
    Records (router.run registrations) (log ++ router.successes registrations) := by
  induction registrations generalizing router log with
  | nil => simpa [Router.run, successes] using records
  | cons registration rest inductionHypothesis =>
      cases registered : router.register registration.1 registration.2 with
      | ok next =>
          have further := inductionHypothesis (records.register registered)
          simpa [Router.run, attempt_eq, successes, registered] using further
      | error refusal =>
          have further := inductionHypothesis records
          simpa [Router.run, attempt_eq, successes, registered] using further

/-- Registrations that fail may be left out of a run, and the others succeed without them. -/
theorem run_successes (router : Router H) (registrations : List (String × H)) :
    router.run (router.successes registrations) = router.run registrations ∧
      router.refusals (router.successes registrations) = [] := by
  induction registrations generalizing router with
  | nil => exact ⟨rfl, rfl⟩
  | cons registration rest inductionHypothesis =>
      cases registered : router.register registration.1 registration.2 with
      | ok next =>
          simpa [run, attempt_eq, successes, refusals, registered] using inductionHypothesis next
      | error refusal =>
          simpa [run, attempt_eq, successes, refusals, registered] using inductionHypothesis router

/-- Registering a list strictly stops at the first registration that fails. -/
theorem foldlM_register (router : Router H) (registrations : List (String × H)) :
    registrations.foldlM (fun router registration =>
        router.register registration.1 registration.2) router =
      match router.refusals registrations with
      | [] => .ok (router.run registrations)
      | refusal :: _ => .error refusal := by
  induction registrations generalizing router with
  | nil => rfl
  | cons registration rest inductionHypothesis =>
      rw [List.foldlM_cons]
      cases registered : router.register registration.1 registration.2 with
      | ok next => simpa [run, attempt_eq, refusals, registered, Bind.bind, Except.bind]
          using inductionHypothesis next
      | error refusal => simp [refusals, registered, Bind.bind, Except.bind]

/-- A router as the registrations that have succeeded leave it. -/
structure Keeps (router : Router H) (log : List (String × H)) : Prop where
  distinct : (router.entries.map fun entry => entry.pattern.text).Nodup
  unslotted : ∀ entry ∈ router.entries,
    entry.pattern.text ≠ rootText ∧ entry.pattern.text ≠ fallbackText
  literals : ∀ path handler, router.literals[path]? = some handler ↔
    ∃ entry ∈ router.entries,
      entry.pattern.text = path ∧ entry.pattern.isLiteral = true ∧ entry.handler = handler
  bound : ∀ text, router.bound? text = log.lookup text
  size : router.size = (log.map Prod.fst).toFinset.card
  again : ∀ text handler, (text, handler) ∈ log → ∀ other, same handler other = true →
    router.register text other = .ok router
  conflict : ∀ text handler, (text, handler) ∈ log → ∀ other, same handler other = false →
    ∃ first, log.lookup text = some first ∧ same first handler = true ∧
      router.register text other =
        .error (.conflict text (Registrable.name first) (Registrable.name other))
  fresh : ∀ text pattern handler, Pattern.parse text = .ok pattern → log.lookup text = none →
    router.register text handler = .ok (router.extend pattern handler)
  invalid : ∀ text fault handler, Pattern.parse text = .error fault →
    router.register text handler = .error (.invalidPattern text fault)

theorem Records.keeps (records : Records router log) : Keeps router log where
  distinct := records.wellFormed.distinct
  unslotted := records.wellFormed.unslotted
  literals := records.wellFormed.literals
  bound := records.bound
  size := records.size
  again := by
    intro text handler membership other identical
    obtain ⟨pattern, parsed⟩ := records.parses text handler membership
    obtain ⟨first, stored, agreed⟩ := records.agrees text handler membership
    have kept : same first other = true := by simp_all [same]
    simp [register_eq parsed, records.bound, stored, kept]
  conflict := by
    intro text handler membership other different
    obtain ⟨pattern, parsed⟩ := records.parses text handler membership
    obtain ⟨first, stored, agreed⟩ := records.agrees text handler membership
    have refused : same first other = false := by simp_all [same]
    exact ⟨first, stored, agreed, by simp [register_eq parsed, records.bound, stored, refused]⟩
  fresh := by
    intro text pattern handler parsed unknown
    simp [register_eq parsed, records.bound, unknown]
  invalid := by
    intro text fault handler refused
    simp [Router.register, refused]

/-- Whatever is registered, one by one, in a router that is empty at first: the router is told by
the registrations that succeed and is built from these alone, one that fails changes nothing that
comes after it, and building from all of them stops at the first error of the run. -/
theorem run_keeps (tolerant : Bool) (registrations : List (String × H)) :
    Keeps (({ tolerant } : Router H).run registrations)
        (({ tolerant } : Router H).successes registrations) ∧
      build (({ tolerant } : Router H).successes registrations) tolerant =
        .ok (({ tolerant } : Router H).run registrations) ∧
      (∀ registration refusal,
        (({ tolerant } : Router H).run registrations).register registration.1 registration.2 =
            .error refusal →
          ∀ later, ({ tolerant } : Router H).run (registrations ++ registration :: later) =
            ({ tolerant } : Router H).run (registrations ++ later)) ∧
      build registrations tolerant =
        match ({ tolerant } : Router H).refusals registrations with
        | [] => .ok (({ tolerant } : Router H).run registrations)
        | refusal :: _ => .error refusal := by
  obtain ⟨same, complete⟩ := run_successes ({ tolerant } : Router H) registrations
  refine ⟨((records_empty tolerant).run registrations).keeps, ?_, ?_, ?_⟩
  · rw [build, foldlM_register, complete, same]
  · intro registration refusal refused later
    have kept : (({ tolerant } : Router H).run registrations).attempt registration =
        ({ tolerant } : Router H).run registrations := by
      simp [attempt_eq, refused]
    rw [run_append, run_append, run_cons, kept]
  · exact foldlM_register { tolerant } registrations

end Switchyard.Route.Router
