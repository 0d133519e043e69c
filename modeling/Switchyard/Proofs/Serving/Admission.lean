import Switchyard.Serving.Pool

/-!
# Admission

A pool that is opened for a number of requests takes in as many at once and not one more, whatever
was given back in between.  A configuration that passes its check has such a pool for all requests
that may run or wait, unless these are more than there can be permits: then it has none, and
starting it breaks off.
-/

set_option autoImplicit false

namespace Switchyard.Serving

namespace Pool

variable {fresh pool left : Pool} {held bound : Nat}

theorem take_eq_ok : pool.take = .ok left ↔
    pool.available ≠ 0 ∧ left = { pool with available := pool.available - 1 } := by
  unfold take
  split <;> simp_all [eq_comm]

theorem take_eq_error {rejection : Rejection} : pool.take = .error rejection ↔
    pool.available = 0 ∧ rejection = ⟨pool.capacity⟩ := by
  unfold take
  split <;> simp_all [eq_comm]

/-- What a pool can become while permits are taken from it and taken ones are given back, with the
number of those that are held. -/
inductive Lending (fresh : Pool) : Nat → Pool → Prop where
  | opened : Lending fresh 0 fresh
  | taken {held : Nat} {pool left : Pool} (lending : Lending fresh held pool)
      (takes : pool.take = .ok left) : Lending fresh (held + 1) left
  | givenBack {held : Nat} {pool : Pool} (lending : Lending fresh (held + 1) pool) :
      Lending fresh held pool.giveBack

namespace Lending

theorem balanced (lending : Lending fresh held pool) :
    pool.capacity = fresh.capacity ∧ pool.available + held = fresh.available := by
  induction lending with
  | opened => exact ⟨rfl, rfl⟩
  | taken _ takes inductionHypothesis =>
      obtain ⟨free, rfl⟩ := take_eq_ok.mp takes
      refine ⟨inductionHypothesis.1, ?_⟩
      have available := inductionHypothesis.2
      dsimp only
      omega
  | givenBack _ inductionHypothesis =>
      refine ⟨inductionHypothesis.1, ?_⟩
      have available := inductionHypothesis.2
      dsimp only [giveBack]
      omega

theorem exists_of_le (within : held ≤ fresh.available) : ∃ pool, Lending fresh held pool := by
  induction held with
  | zero => exact ⟨fresh, .opened⟩
  | succ held inductionHypothesis =>
      obtain ⟨pool, lending⟩ := inductionHypothesis (by omega)
      have free : pool.available ≠ 0 := by
        have := lending.balanced.2
        omega
      exact ⟨_, lending.taken (take_eq_ok.mpr ⟨free, rfl⟩)⟩

end Lending

/-- The pool lends up to `bound` permits at once: one more as long as fewer are held, and otherwise
it refuses, naming that bound. -/
structure Admits (fresh : Pool) (bound : Nat) : Prop where
  reaches : ∀ held ≤ bound, ∃ pool, Lending fresh held pool
  within {held : Nat} {pool : Pool} : Lending fresh held pool → held ≤ bound
  takes_iff {held : Nat} {pool : Pool} : Lending fresh held pool →
    ((∃ left, pool.take = .ok left) ↔ held < bound)
  refuses_iff {held : Nat} {pool : Pool} : Lending fresh held pool →
    (pool.take = .error ⟨bound⟩ ↔ held = bound)

theorem admits_of_full (bound : Nat) : (⟨bound, bound⟩ : Pool).Admits bound where
  reaches _ within := Lending.exists_of_le within
  within {held pool} lending := by
    have available : pool.available + held = bound := lending.balanced.2
    omega
  takes_iff {held pool} lending := by
    have available : pool.available + held = bound := lending.balanced.2
    simp only [take_eq_ok, exists_and_left, exists_eq, and_true]
    omega
  refuses_iff {held pool} lending := by
    have available : pool.available + held = bound := lending.balanced.2
    have capacity : pool.capacity = bound := lending.balanced.1
    simp only [take_eq_error, capacity, and_true]
    omega

theorem Admits.unique {other : Nat} (admits : fresh.Admits bound)
    (admitsOther : fresh.Admits other) : bound = other := by
  obtain ⟨_, most⟩ := admits.reaches bound (Nat.le_refl _)
  obtain ⟨_, mostOther⟩ := admitsOther.reaches other (Nat.le_refl _)
  exact Nat.le_antisymm (admitsOther.within most) (admits.within mostOther)

theorem ofCapacity?_eq_some {capacity : Nat} :
    ofCapacity? capacity = some pool ↔ capacity ≤ permitLimit ∧ pool = ⟨capacity, capacity⟩ := by
  unfold ofCapacity?
  split <;> simp [*, eq_comm]

theorem ofCapacity?_eq_none {capacity : Nat} :
    ofCapacity? capacity = none ↔ permitLimit < capacity := by
  unfold ofCapacity?
  split <;> simp_all

/-- A pool of a given capacity takes in as many requests, if there is one. -/
theorem ofCapacity?_admits_iff {capacity : Nat} :
    (∃ pool, ofCapacity? capacity = some pool ∧ pool.Admits bound) ↔
      bound = capacity ∧ capacity ≤ permitLimit := by
  constructor
  · rintro ⟨pool, opened, admits⟩
    obtain ⟨within, rfl⟩ := ofCapacity?_eq_some.mp opened
    exact ⟨admits.unique (admits_of_full capacity), within⟩
  · rintro ⟨rfl, within⟩
    exact ⟨_, ofCapacity?_eq_some.mpr ⟨within, rfl⟩, admits_of_full bound⟩

variable {runtime : Runtime} {config : ExecutionConfig}

theorem launch_eq_started : launch runtime config = .started pool ↔
    runtime config = .ok () ∧ ofConfig? config = some pool := by
  unfold launch
  split
  case h_1 reason failed => simp [failed]
  case h_2 ran =>
      split
      case h_1 opened => simp [ran, opened]
      case h_2 lacking => simp [ran, lacking]

theorem launch_eq_broken : launch runtime config = .broken ↔
    runtime config = .ok () ∧ ofConfig? config = none := by
  unfold launch
  split
  case h_1 reason failed => simp [failed]
  case h_2 ran =>
      split
      case h_1 opened => simp [ran, opened]
      case h_2 lacking => simp [ran, lacking]

theorem permitLimit_lt_wordMax : permitLimit < wordMax := by decide

end Pool

namespace ExecutionConfig

open Pool (permitLimit)

variable {config : ExecutionConfig}

theorem validate_eq_ok : config.validate = .ok () ↔
    0 < config.coreThreads ∧ config.coreThreads ≤ config.maxThreads := by
  unfold validate
  split
  case isTrue zero => simp [zero]
  case isFalse nonzero =>
      split <;> simp <;> omega

/-- The greatest word is beyond the limit, so that a capacity within it is the whole sum. -/
theorem capacity_within_iff (bound : Nat) :
    bound = config.capacity ∧ config.capacity ≤ permitLimit ↔
      bound = config.maxThreads + config.queueCapacity ∧ bound ≤ permitLimit := by
  have below := Pool.permitLimit_lt_wordMax
  unfold capacity
  omega

theorem permitLimit_lt_capacity_iff : permitLimit < config.capacity ↔
    permitLimit < config.maxThreads + config.queueCapacity := by
  have below := Pool.permitLimit_lt_wordMax
  unfold capacity
  omega

end ExecutionConfig

namespace Pool

/-- A configuration that passes its check has threads of both kinds.  Its pool takes in as many
requests at once as may run or wait, and there is one unless these are more than there can be
permits.  So, of whatever runtime its workers run on it is asked no more than that it starts, a pool
that takes in as many is started exactly if the runtime is and there are as many permits; and if
the runtime is started and there are not, starting the pool breaks off. -/
theorem ofConfig?_admits_iff {config : ExecutionConfig} (accepted : config.validate = .ok ())
    (bound : Nat) :
    0 < config.coreThreads ∧ 0 < config.maxThreads ∧
      ((∃ pool, ofConfig? config = some pool ∧ pool.Admits bound) ↔
        bound = config.maxThreads + config.queueCapacity ∧ bound ≤ permitLimit) ∧
      (ofConfig? config = none ↔ permitLimit < config.maxThreads + config.queueCapacity) ∧
      ∀ runtime : Runtime,
        ((∃ pool, launch runtime config = .started pool ∧ pool.Admits bound) ↔
          runtime config = .ok () ∧
            bound = config.maxThreads + config.queueCapacity ∧ bound ≤ permitLimit) ∧
        (launch runtime config = .broken ↔
          runtime config = .ok () ∧
            permitLimit < config.maxThreads + config.queueCapacity) := by
  obtain ⟨positive, within⟩ := ExecutionConfig.validate_eq_ok.mp accepted
  have opened : (∃ pool, ofConfig? config = some pool ∧ pool.Admits bound) ↔
      bound = config.maxThreads + config.queueCapacity ∧ bound ≤ permitLimit :=
    ofCapacity?_admits_iff.trans (ExecutionConfig.capacity_within_iff bound)
  have lacking : ofConfig? config = none ↔
      permitLimit < config.maxThreads + config.queueCapacity :=
    ofCapacity?_eq_none.trans ExecutionConfig.permitLimit_lt_capacity_iff
  refine ⟨positive, Nat.lt_of_lt_of_le positive within, opened, lacking, ?_⟩
  intro runtime
  simp only [launch_eq_started, launch_eq_broken, and_assoc, exists_and_left, opened, lacking,
    and_self]

/-- As many requests as there can be permits. -/
def brimful : ExecutionConfig :=
  { coreThreads := 8, maxThreads := 8, queueCapacity := permitLimit - 8 }

/-- A runtime that always starts. -/
def ready : Runtime :=
  fun _ => .ok ()

theorem ofConfig?_of_brimful :
    brimful.validate = .ok () ∧
      (∃ pool, ofConfig? brimful = some pool ∧ pool.Admits 2305843009213693951) ∧
      ∃ pool, launch ready brimful = .started pool ∧ pool.Admits 2305843009213693951 := by
  have accepted : brimful.validate = .ok () := rfl
  obtain ⟨-, -, opened, -, launched⟩ := ofConfig?_admits_iff accepted 2305843009213693951
  exact ⟨accepted, opened.mpr ⟨by decide, by decide⟩,
    (launched ready).1.mpr ⟨rfl, by decide, by decide⟩⟩

/-- One request more, and requests without a bound. -/
def overfull : ExecutionConfig :=
  { coreThreads := 1, maxThreads := 1, queueCapacity := permitLimit }

def boundless : ExecutionConfig :=
  { maxThreads := wordMax, queueCapacity := 1 }

theorem ofConfig?_of_overfull :
    overfull.validate = .ok () ∧
      overfull.capacity = overfull.maxThreads + overfull.queueCapacity ∧
      ofConfig? overfull = none ∧ launch ready overfull = .broken ∧
      boundless.validate = .ok () ∧
      boundless.capacity ≠ boundless.maxThreads + boundless.queueCapacity ∧
      ofConfig? boundless = none ∧ launch ready boundless = .broken :=
  ⟨rfl, rfl, rfl, rfl, rfl, by decide, rfl, rfl⟩

end Pool

end Switchyard.Serving
