import Switchyard.Proofs.Http.Leases
import Switchyard.Proofs.Serving.Order
import Switchyard.Proofs.Serving.Run

/-!
# The accounts of a server balance

In every run of a server its permits, its counts and the leases that are out agree with the accounts
of the requests: a permit is missing for every request that is not over, each count is the number of
requests that have met the `Lot` that it counts, and a lease is out for every request that is not
over and has one, besides those that no request has.
-/

set_option autoImplicit false

namespace Switchyard.Serving

open Dispatch (Event Handler Transcript)
open Http (Connection Lease RequestHead Trackers)
open Route (Router)

variable {σ : Type}

/-- What has become of a submitted request. -/
inductive Lot where
  | queued
  | suspended
  | completed
  | failed
  | died
  | refused
  deriving DecidableEq

def Ending.lot : Ending → Lot
  | .answered (.ok ()) => .completed
  | .answered (.error _) => .failed
  | .died _ => .died

def Standing.lot : Standing σ → Lot
  | .queued => .queued
  | .suspended _ => .suspended
  | .ended ending _ => ending.lot
  | .refused _ => .refused

namespace Account

def meets (lot : Lot) (account : Account σ) : Bool :=
  account.standing.lot = lot

/-- Whether a request has been admitted and is not over. -/
def isUnfinished (account : Account σ) : Bool :=
  !account.standing.isOver

/-- Whether a request is not over and has a lease of a tracker. -/
def holds (tracker : Nat) (account : Account σ) : Bool :=
  account.isUnfinished && decide (account.arrival.request.body.lease = some ⟨tracker⟩)

end Account

namespace Scene

/-- The number of requests that have met a lot. -/
def count (scene : Scene σ) (lot : Lot) : Nat :=
  scene.accounts.countP (Account.meets lot)

def unfinished (scene : Scene σ) : Nat :=
  scene.accounts.countP Account.isUnfinished

def holding (scene : Scene σ) (tracker : Nat) : Nat :=
  scene.accounts.countP (Account.holds tracker)

end Scene

/-- The permits, the counts and the leases agree with the accounts. -/
structure Scene.Balanced (bound : Nat) (scene : Scene σ) : Prop where
  permits : scene.server.pool.available + scene.unfinished = bound
  rejected : scene.server.stats.rejected = scene.count .refused
  completed : scene.server.stats.completed = scene.count .completed
  failed : scene.server.stats.failed = scene.count .failed
  inFlight : scene.server.stats.inFlight = scene.count .suspended
  leases : ∀ tracker, scene.world.trackers.outstanding tracker =
    scene.spare.outstanding tracker + scene.holding tracker

section Counting

variable {accounts : List (Account σ)} {account : Account σ} {ticket : Nat} {said : Transcript}
  {standing : Standing σ}

theorem count_append (accounts : List (Account σ)) (account : Account σ) (lot : Lot) :
    (accounts ++ [account]).countP (Account.meets lot) =
      accounts.countP (Account.meets lot) + (if account.standing.lot = lot then 1 else 0) := by
  simp [Account.meets]

theorem unfinished_append (accounts : List (Account σ)) (account : Account σ) :
    (accounts ++ [account]).countP Account.isUnfinished =
      accounts.countP Account.isUnfinished + (if account.standing.isOver then 0 else 1) := by
  cases ended : account.standing.isOver <;> simp [Account.isUnfinished, ended]

theorem holding_append (accounts : List (Account σ)) (account : Account σ) (tracker : Nat) :
    (accounts ++ [account]).countP (Account.holds tracker) =
      accounts.countP (Account.holds tracker) +
        (if account.standing.isOver then 0
          else if account.arrival.request.body.lease = some ⟨tracker⟩ then 1 else 0) := by
  cases ended : account.standing.isOver <;>
    simp [Account.holds, Account.isUnfinished, ended, List.countP_cons]

theorem countP_modify (counts : Account σ → Bool) (change : Account σ → Account σ)
    (placed : accounts[ticket]? = some account) :
    (accounts.modify ticket change).countP counts + (if counts account then 1 else 0) =
      accounts.countP counts + (if counts (change account) then 1 else 0) := by
  induction accounts generalizing ticket with
  | nil => cases placed
  | cons first others inductionHypothesis =>
      cases ticket with
      | zero =>
          cases placed
          rw [List.modify_zero_cons, List.countP_cons, List.countP_cons, Nat.add_right_comm]
      | succ later =>
          have counted := inductionHypothesis placed
          rw [List.modify_succ_cons, List.countP_cons, List.countP_cons]
          omega

/-- A request that is led on leaves its lot and meets another. -/
theorem count_further (lot : Lot) (said : Transcript) (standing : Standing σ)
    (placed : accounts[ticket]? = some account) :
    (accounts.modify ticket (.further said standing)).countP (Account.meets lot) +
        (if account.standing.lot = lot then 1 else 0) =
      accounts.countP (Account.meets lot) + (if standing.lot = lot then 1 else 0) := by
  have counted := countP_modify (Account.meets lot) (.further said standing) placed
  simp only [Account.meets, decide_eq_true_eq] at counted
  exact counted

theorem unfinished_further (said : Transcript) (standing : Standing σ)
    (placed : accounts[ticket]? = some account) (unfinished : account.standing.isOver = false) :
    (accounts.modify ticket (.further said standing)).countP Account.isUnfinished + 1 =
      accounts.countP Account.isUnfinished + (if standing.isOver then 0 else 1) := by
  have counted := countP_modify Account.isUnfinished (.further said standing) placed
  cases ended : standing.isOver <;>
    simpa [Account.isUnfinished, Account.further, unfinished, ended] using counted

theorem holding_further (tracker : Nat) (said : Transcript) (standing : Standing σ)
    (placed : accounts[ticket]? = some account) (unfinished : account.standing.isOver = false) :
    (accounts.modify ticket (.further said standing)).countP (Account.holds tracker) +
        (if account.arrival.request.body.lease = some ⟨tracker⟩ ∧ standing.isOver = true
          then 1 else 0) =
      accounts.countP (Account.holds tracker) := by
  have counted := countP_modify (Account.holds tracker) (.further said standing) placed
  by_cases held : account.arrival.request.body.lease = some ⟨tracker⟩
  · cases ended : standing.isOver <;>
      simpa [Account.holds, Account.isUnfinished, Account.further, unfinished, ended, held]
        using counted
  · simpa [Account.holds, Account.further, held] using counted

end Counting

section Changes

variable {stats : Stats} {ending : Ending}

theorem rejected_ended : (stats.ended ending).rejected = stats.rejected := by
  unfold Stats.ended
  split <;> rfl

theorem completed_ended : (stats.ended ending).completed =
    stats.completed + (if ending.lot = .completed then 1 else 0) := by
  unfold Stats.ended
  split <;> rfl

theorem failed_ended : (stats.ended ending).failed =
    stats.failed + (if ending.lot = .failed then 1 else 0) := by
  unfold Stats.ended
  split <;> rfl

theorem inFlight_ended : (stats.ended ending).inFlight = stats.inFlight - 1 := by
  unfold Stats.ended
  split <;> rfl

theorem Standing.lot_ne_of_not_isOver {standing : Standing σ}
    (unfinished : standing.isOver = false) :
    standing.lot ≠ .refused ∧ standing.lot ≠ .completed ∧ standing.lot ≠ .failed := by
  cases standing with
  | queued => simp [Standing.lot]
  | suspended => simp [Standing.lot]
  | ended => cases unfinished
  | refused => cases unfinished

theorem Ending.lot_ne_refused : ending.lot ≠ .refused := by
  rcases ending with ⟨_ | _⟩ | _ <;> nofun

theorem Ending.lot_ne_suspended : ending.lot ≠ .suspended := by
  rcases ending with ⟨_ | _⟩ | _ <;> nofun

end Changes

namespace Scene.Balanced

variable {bound ticket : Nat} {services : Services σ} {scene later : Scene σ} {arrival : Arrival}

theorem submits (balanced : scene.Balanced bound)
    (lent : ∀ lease, arrival.request.body.lease = some lease →
      0 < scene.spare.outstanding lease.tracker)
    (submits : Submits scene arrival later) : later.Balanced bound := by
  have spared (tracker : Nat) : (if arrival.request.body.lease = some ⟨tracker⟩ then 1 else 0) ≤
      scene.spare.outstanding tracker := by
    split
    case isTrue held => exact lent _ held
    case isFalse => exact Nat.zero_le _
  cases submits with
  | admitted free =>
      have appended (lot : Lot) := count_append scene.accounts ⟨arrival, [], .queued⟩ lot
      refine ⟨?_, ?_, ?_, ?_, ?_, ?_⟩
      · have permits := balanced.permits
        simp only [unfinished, Server.admitting, unfinished_append, Standing.isOver,
          Bool.false_eq_true, if_false] at permits ⊢
        omega
      · exact balanced.rejected.trans (appended .refused).symm
      · exact balanced.completed.trans (appended .completed).symm
      · exact balanced.failed.trans (appended .failed).symm
      · exact balanced.inFlight.trans (appended .suspended).symm
      · intro tracker
        have balance := balanced.leases tracker
        have spare := spared tracker
        simp only [holding, holding_append, Trackers.outstanding_giveBackAny, Standing.isOver,
          Bool.false_eq_true, if_false] at balance ⊢
        omega
  | @refused said left full refuses =>
      have appended (lot : Lot) := count_append scene.accounts ⟨arrival, said, .refused left⟩ lot
      refine ⟨?_, ?_, ?_, ?_, ?_, ?_⟩
      · have permits := balanced.permits
        simp only [unfinished, Server.refusing, unfinished_append, Standing.isOver, if_true]
          at permits ⊢
        exact permits
      · exact (congrArg (· + 1) balanced.rejected).trans (appended .refused).symm
      · exact balanced.completed.trans (appended .completed).symm
      · exact balanced.failed.trans (appended .failed).symm
      · exact balanced.inFlight.trans (appended .suspended).symm
      · intro tracker
        have balance := balanced.leases tracker
        have spare := spared tracker
        simp only [holding, holding_append, Trackers.outstanding_giveBackAny, Standing.isOver,
          if_true] at balance ⊢
        omega

/-- Where a started request comes to its end, the accounts balance again. -/
theorem ends {world : Dispatch.World σ} {account : Account σ} {running : Nat}
    (balanced : scene.Balanced bound) (server : Server σ)
    (placed : scene.accounts[ticket]? = some account)
    (unfinished : account.standing.isOver = false) (pool : server.pool = scene.server.pool)
    (stats : server.stats = { scene.server.stats with inFlight := running })
    (inFlight : running =
      scene.count .suspended + (if account.standing.lot = .suspended then 0 else 1))
    (trackers : world.trackers = scene.world.trackers) (said : Transcript) (ending : Ending)
    (left : Connection) :
    Balanced bound
      { scene with
        server := server.retired ending
        world := world.releasing account.arrival.request.body.lease
        accounts := scene.accounts.modify ticket (.further said (.ended ending left)) } := by
  have moved (lot : Lot) :
      (scene.accounts.modify ticket (.further said (.ended ending left))).countP
          (Account.meets lot) + (if account.standing.lot = lot then 1 else 0) =
        scene.count lot + (if ending.lot = lot then 1 else 0) :=
    count_further lot said (.ended ending left) placed
  obtain ⟨notRefused, notCompleted, notFailed⟩ := Standing.lot_ne_of_not_isOver unfinished
  refine ⟨?_, ?_, ?_, ?_, ?_, ?_⟩
  · have permits := balanced.permits
    have fewer := unfinished_further said (.ended ending left) placed unfinished
    simp only [Scene.unfinished, Server.retired, Pool.giveBack, Standing.isOver, pool, if_true]
      at permits fewer ⊢
    omega
  · have refused := moved .refused
    rw [if_neg notRefused, if_neg Ending.lot_ne_refused] at refused
    have kept : (server.stats.ended ending).rejected = scene.server.stats.rejected := by
      rw [rejected_ended, stats]
    exact (kept.trans balanced.rejected).trans refused.symm
  · have completed := moved .completed
    rw [if_neg notCompleted] at completed
    have counted : (server.stats.ended ending).completed =
        scene.count .completed + (if ending.lot = .completed then 1 else 0) := by
      rw [completed_ended, stats, balanced.completed]
    exact counted.trans completed.symm
  · have failed := moved .failed
    rw [if_neg notFailed] at failed
    have counted : (server.stats.ended ending).failed =
        scene.count .failed + (if ending.lot = .failed then 1 else 0) := by
      rw [failed_ended, stats, balanced.failed]
    exact counted.trans failed.symm
  · have suspended := moved .suspended
    rw [if_neg Ending.lot_ne_suspended] at suspended
    have counted : (server.stats.ended ending).inFlight = running - 1 := by
      rw [inFlight_ended, stats]
    have one : running - 1 + (if account.standing.lot = .suspended then 1 else 0) =
        scene.count .suspended := by
      by_cases resumed : account.standing.lot = .suspended
      · rw [if_pos resumed] at inFlight suspended ⊢
        omega
      · rw [if_neg resumed] at inFlight ⊢
        omega
    exact counted.trans (Nat.add_right_cancel (one.trans suspended.symm))
  · intro tracker
    have balance := balanced.leases tracker
    have fewer := holding_further tracker said (.ended ending left) placed unfinished
    simp only [Scene.holding, Dispatch.World.releasing, Trackers.outstanding_giveBackAny,
      Standing.isOver, trackers, and_true] at balance fewer ⊢
    omega

theorem starts (traced : scene.Traced services) (balanced : scene.Balanced bound)
    (starts : Starts scene ticket later) : later.Balanced bound := by
  cases starts with
  | absent => exact balanced
  | @ended arrival queued said ending left after taken begins speaks =>
      have placed := traced.queued.kept_of_take taken
      -- It is in flight for a moment, and is never counted among the suspended ones.
      have running : scene.server.stats.inFlight + 1 = scene.count .suspended + 1 :=
        congrArg (· + 1) balanced.inFlight
      exact balanced.ends { scene.server with queued }.begun placed rfl rfl rfl running
        speaks.trackers _ ending left
  | @suspended arrival _ said request after taken begins speaks =>
      have placed := traced.queued.kept_of_take taken
      have moved (lot : Lot) :
          (scene.accounts.modify ticket (.further said (.suspended request))).countP
              (Account.meets lot) + (if Lot.queued = lot then 1 else 0) =
            scene.count lot + (if Lot.suspended = lot then 1 else 0) :=
        count_further lot said (.suspended request) placed
      refine ⟨?_, ?_, ?_, ?_, ?_, ?_⟩
      · have same := unfinished_further said (.suspended request) placed rfl
        exact (congrArg _ (Nat.add_right_cancel same)).trans balanced.permits
      · exact balanced.rejected.trans (moved .refused).symm
      · exact balanced.completed.trans (moved .completed).symm
      · exact balanced.failed.trans (moved .failed).symm
      · exact (congrArg (· + 1) balanced.inFlight).trans (moved .suspended).symm
      · intro tracker
        have same := holding_further tracker said (.suspended request) placed rfl
        have balance := balanced.leases tracker
        simp only [Scene.holding, Standing.isOver, speaks.trackers, Bool.false_eq_true, and_false,
          if_false] at balance same ⊢
        omega

theorem finishes (traced : scene.Traced services) (balanced : scene.Balanced bound)
    (finishes : Finishes scene ticket later) : later.Balanced bound := by
  cases finishes with
  | absent => exact balanced
  | @ended request body suspended said ending left after taken resumes speaks =>
      obtain ⟨arrival, before, placed, rfl, -⟩ := traced.begun_of_take taken
      exact balanced.ends { scene.server with suspended } placed rfl rfl rfl balanced.inFlight
        speaks.trackers _ ending left

theorem step (traced : scene.Traced services) (balanced : scene.Balanced bound)
    (step : Step scene later) : later.Balanced bound := by
  cases step with
  | submitted arrival lent => exact balanced.submits lent (scene.submits arrival)
  | started ticket => exact balanced.starts traced (scene.starts ticket)
  | finished ticket => exact balanced.finishes traced (traced.finish ticket)
  | lent tracker =>
      refine ⟨balanced.1, balanced.2, balanced.3, balanced.4, balanced.5, ?_⟩
      intro other
      have balance := balanced.leases other
      simp only [Scene.lend, Trackers.outstanding_acquire, Scene.holding] at balance ⊢
      omega
  | recalled lease lent =>
      refine ⟨balanced.1, balanced.2, balanced.3, balanced.4, balanced.5, ?_⟩
      intro other
      have balance := balanced.leases other
      simp only [Scene.takeBack, Trackers.outstanding_giveBack, Scene.holding] at balance ⊢
      by_cases same : other = lease.tracker
      · subst same
        simp only [if_true]
        omega
      · simpa [same] using balance
  | registered pattern handler registered =>
      obtain ⟨router, -, rfl⟩ := map_eq_ok.mp registered
      exact ⟨balanced.1, balanced.2, balanced.3, balanced.4, balanced.5, balanced.6⟩
  | elapsed user now =>
      exact ⟨balanced.1, balanced.2, balanced.3, balanced.4, balanced.5, balanced.6⟩

end Scene.Balanced

/-- The number of requests that a server of a setup takes at once. -/
def Setup.bound (setup : Setup σ) : Nat :=
  setup.capacity.getD setup.config.execution.capacity

theorem Reached.balanced {setup : Setup σ} {scene : Scene σ} (reached : Reached setup scene) :
    scene.Balanced setup.bound := by
  induction reached with
  | opened world built =>
      obtain ⟨router, pool, sized, rfl⟩ := Setup.build_eq_ok built
      have full : pool.available = setup.bound := by
        obtain ⟨-, rfl⟩ := Pool.ofCapacity?_eq_some.mp sized
        rfl
      refine ⟨?_, rfl, rfl, rfl, rfl, ?_⟩
      · simpa [Scene.unfinished] using full
      · simp [Scene.holding]
  | further reached step inductionHypothesis =>
      exact inductionHypothesis.step reached.traced step

section Leases

variable {services : Services σ} {arrival : Arrival} {said : Transcript} {account : Account σ}
  {progress : Progress σ} {ending : Ending} {left : Connection}

/-- Whether no lease is given back in a transcript. -/
def Keeps (said : Transcript) : Prop :=
  ∀ lease, .released lease ∉ said

/-- Whether the lease of a request has been given back once if the request is over, before anything
was written if it was refused, and not at all if it is not over. -/
def Account.Returned (account : Account σ) : Prop :=
  match account.standing with
  | .queued | .suspended _ => Keeps account.said
  | .ended .. => ∃ before, Keeps before ∧
      account.said = before ++ [.released account.arrival.request.body.lease]
  | .refused _ => ∃ before after, Keeps before ∧ Keeps after ∧
      account.said = before ++ .released account.arrival.request.body.lease :: after ∧
      ∀ response outcome, .wrote response outcome ∉ before

theorem Begins.keeps (begins : Begins services arrival said progress) : Keeps said := by
  cases begins with
  | mk served speaks => exact speaks.unreleased

theorem Served.keeps (served : Served services arrival said ending left) : Keeps said := by
  cases served with
  | atOnce begins => exact begins.keeps
  | resumed begins resumes =>
      cases resumes with
      | mk resumed speaks =>
          intro lease membership
          rcases List.mem_append.mp membership with early | late
          · exact begins.keeps lease early
          · exact speaks.unreleased lease late

theorem Account.Genuine.returned (genuine : account.Genuine services) : account.Returned := by
  cases genuine with
  | queued => exact fun _ => List.not_mem_nil
  | suspended begins => exact begins.keeps
  | ended served => exact ⟨_, served.keeps, rfl⟩
  | refused refuses =>
      cases refuses with
      | @mk date logs silent =>
          refine ⟨[.logged .poolSaturated], _, ?_, ?_, rfl, ?_⟩
          · simp [Keeps]
          · intro lease membership
            simp only [List.mem_cons, reduceCtorEq, List.mem_append, false_or, List.not_mem_nil,
              or_false] at membership
            obtain ⟨notice, same⟩ := silent _ membership
            cases same
          · simp

/-- A request that is served to its end is answered, as long as the adapters of the user are
steady. -/
theorem Served.answered (steady : services.adapters.Steady)
    (served : Served services arrival said ending left) :
    ∃ outcome, ending = .answered outcome := by
  obtain ⟨router, session, dispatched⟩ := served.dispatched
  rcases dispatched.course_or_dismissed with ⟨route, course⟩ | dismissed
  · cases course with
    | answered silent handled concludes => exact concludes.answered
    | died silent asks verdict prepared called quiet =>
        exact absurd called (steady.unbroken prepared _ _)
  · cases dismissed <;> exact ⟨_, rfl⟩

end Leases

/-- The accounts of a server that takes so many requests at once, as they are known from outside. -/
structure Scene.Accounted (bound : Nat) (scene : Scene σ) : Prop where
  refuses : ∀ arrival,
    (∃ rejection left, ((scene.server.submit arrival).run scene.world).1.1 =
      .rejected rejection left) ↔ scene.unfinished = bound
  available : scene.server.pool.available + scene.unfinished = bound
  submitted : scene.server.stats.submitted = scene.accounts.length
  total : scene.server.stats.submitted = scene.server.stats.rejected +
    scene.server.stats.completed + scene.server.stats.failed + scene.unfinished
  rejected : scene.server.stats.rejected = scene.count .refused
  completed : scene.server.stats.completed = scene.count .completed
  failed : scene.server.stats.failed = scene.count .failed
  inFlight : scene.server.stats.inFlight = scene.count .suspended
  returned : ∀ account ∈ scene.accounts, account.Returned
  leases : ∀ tracker, scene.world.trackers.outstanding tracker =
    scene.spare.outstanding tracker + scene.holding tracker
  idle : scene.unfinished = 0 → scene.server.pool.available = bound ∧
    scene.world.trackers.outstanding = scene.spare.outstanding

end Switchyard.Serving
