import Switchyard.Proofs.Serving.Admission
import Switchyard.Proofs.Outcome
import Switchyard.Proofs.Serving.Steps

/-!
# Runs of a server

A `Scene` is a server in its world together with an account of every request submitted to it.  The
scenes that are `Reached` are those that submitting requests and starting and finishing admitted
ones lead to, in any order, while leases are lent, routes registered and other things happen
outside.  In all of them the server holds just those requests whose accounts say so, and every
account is `Genuine`: it tells of a request refused, or served from its beginning.
-/

set_option autoImplicit false

namespace Switchyard

section Lists

variable {α : Type} {items : List α} {item found : α} {change : α → α} {index position : Nat}

theorem getElem?_append_singleton_eq_some :
    (items ++ [item])[index]? = some found ↔
      items[index]? = some found ∨ index = items.length ∧ item = found := by
  rcases Nat.lt_trichotomy index items.length with within | rfl | beyond
  · simp [List.getElem?_append_left within, Nat.ne_of_lt within]
  · simp
  · have after : items.length ≤ index := Nat.le_of_lt beyond
    have further : index - items.length ≠ 0 := Nat.sub_ne_zero_of_lt beyond
    simp [List.getElem?_append_right after, List.getElem?_eq_none after, Nat.ne_of_gt beyond,
      further]

theorem getElem?_modify_eq_some :
    (items.modify position change)[index]? = some found ↔
      index ≠ position ∧ items[index]? = some found ∨
        index = position ∧ ∃ before, items[position]? = some before ∧ change before = found := by
  by_cases same : index = position
  · subst same
    simp
  · simp [same, List.getElem?_modify_ne change items (Ne.symm same)]

end Lists

namespace Serving

open Dispatch (Clock Event Handler Speaks Transcript World)
open Http (Body Connection Lease Trackers)
open Route (Router)

variable {σ : Type}

/-- How far a submitted request has come. -/
inductive Standing (σ : Type) where
  | queued
  | suspended (request : Suspended σ)
  | ended (ending : Ending) (left : Connection)
  | refused (left : Connection)

def Standing.isOver : Standing σ → Bool
  | .queued | .suspended _ => false
  | .ended .. | .refused _ => true

/-- A submitted request, with what has been said of it so far. -/
structure Account (σ : Type) where
  arrival : Arrival
  said : Transcript
  standing : Standing σ

def Account.further (said : Transcript) (standing : Standing σ) (account : Account σ) :
    Account σ :=
  { account with said := account.said ++ said, standing }

/-- A server in its world.  The accounts of all requests submitted stand in their order, so that
the ticket of a request is the position of its account. -/
structure Scene (σ : Type) where
  server : Server σ
  world : World σ
  /-- The leases that are out and that no submitted request holds. -/
  spare : Trackers
  accounts : List (Account σ)

namespace Scene

/-- What has been said in a later world. -/
def news (scene : Scene σ) (later : World σ) : Transcript :=
  later.events.drop scene.world.events.length

def submit (scene : Scene σ) (arrival : Arrival) : Scene σ :=
  let ((submission, server), world) := (scene.server.submit arrival).run scene.world
  let standing :=
    match submission with
    | .admitted _ => .queued
    | .rejected _ left => .refused left
  { server, world
    spare := scene.spare.giveBackAny arrival.request.body.lease
    accounts := scene.accounts ++ [⟨arrival, scene.news world, standing⟩] }

def start (scene : Scene σ) (ticket : Nat) : Scene σ :=
  match (scene.server.start ticket).run scene.world with
  | ((none, server), world) => { scene with server, world }
  | ((some started, server), world) =>
      let standing :=
        match started with
        | .ended result => .ended result.ending result.connection
        | .suspended request => .suspended request
      { scene with server, world
                   accounts := scene.accounts.modify ticket (.further (scene.news world) standing) }

def finish (scene : Scene σ) (ticket : Nat) : Scene σ :=
  match (scene.server.finish ticket).run scene.world with
  | ((none, server), world) => { scene with server, world }
  | ((some result, server), world) =>
      let standing := .ended result.ending result.connection
      { scene with server, world
                   accounts := scene.accounts.modify ticket (.further (scene.news world) standing) }

def lend (scene : Scene σ) (tracker : Nat) : Scene σ :=
  { scene with
    world := { scene.world with trackers := (scene.world.trackers.acquire tracker).2 }
    spare := (scene.spare.acquire tracker).2 }

def takeBack (scene : Scene σ) (lease : Lease) : Scene σ :=
  { scene with
    world := { scene.world with trackers := scene.world.trackers.giveBack lease }
    spare := scene.spare.giveBack lease }

end Scene

/-- What may happen next. -/
inductive Step (scene : Scene σ) : Scene σ → Prop where
  | submitted (arrival : Arrival)
      (lent : ∀ lease, arrival.request.body.lease = some lease →
        0 < scene.spare.outstanding lease.tracker) :
      Step scene (scene.submit arrival)
  | started (ticket : Nat) : Step scene (scene.start ticket)
  | finished (ticket : Nat) : Step scene (scene.finish ticket)
  | lent (tracker : Nat) : Step scene (scene.lend tracker)
  | recalled (lease : Lease) (lent : 0 < scene.spare.outstanding lease.tracker) :
      Step scene (scene.takeBack lease)
  | registered {server : Server σ} (pattern : String) (handler : Handler σ)
      (registered : scene.server.register pattern handler = .ok server) :
      Step scene { scene with server }
  /-- Time passes, and the state of the user's code changes. -/
  | elapsed (user : σ) (now : Clock) :
      Step scene { scene with world := { scene.world with user, now } }

/-- The scenes that the runs of a server lead to, from whatever world it was built in. -/
inductive Reached (setup : Setup σ) : Scene σ → Prop where
  | opened {server : Server σ} (world : World σ) (built : setup.build = .ok server) :
      Reached setup ⟨server, world, world.trackers, []⟩
  | further {scene later : Scene σ} (reached : Reached setup scene) (step : Step scene later) :
      Reached setup later

/-- Serving a request from its beginning, at any time. -/
inductive Begins (services : Services σ) (arrival : Arrival) : Transcript → Progress σ → Prop where
  | mk {router : Router (Handler σ)} {sampled : Bool} {sequence : Nat} {world after : World σ}
      {said : Transcript} {progress : Progress σ}
      (served : (serve services router (.ofHead arrival.request.head sampled sequence)
        arrival.request.head arrival.request.body.content arrival.connection).run world =
          (progress, after))
      (speaks : Speaks world said after) : Begins services arrival said progress

/-- Resuming a suspended request, at any time. -/
inductive Resumes (services : Services σ) (request : Suspended σ) :
    Transcript → Ending → Connection → Prop where
  | mk {world after : World σ} {said : Transcript} {ending : Ending} {left : Connection}
      (resumed : (resume services request).run world = ((ending, left), after))
      (speaks : Speaks world said after) : Resumes services request said ending left

/-- Serving a request from its beginning to its end. -/
inductive Served (services : Services σ) (arrival : Arrival) :
    Transcript → Ending → Connection → Prop where
  | atOnce {said : Transcript} {ending : Ending} {left : Connection}
      (begins : Begins services arrival said (.ended ending left)) :
      Served services arrival said ending left
  | resumed {first second : Transcript} {request : Suspended σ} {ending : Ending}
      {left : Connection} (begins : Begins services arrival first (.suspended request))
      (resumes : Resumes services request second ending left) :
      Served services arrival (first ++ second) ending left

/-- What is served to its end is dispatched. -/
theorem Served.dispatched {services : Services σ} {arrival : Arrival} {said : Transcript}
    {ending : Ending} {left : Connection} (served : Served services arrival said ending left) :
    ∃ router session, Dispatched services router session arrival.request.head
      arrival.request.body.content arrival.connection said ending := by
  cases served with
  | atOnce begins =>
      cases begins with
      | mk served speaks => exact ⟨_, _, .atOnce served speaks.appended⟩
  | resumed begins resumes =>
      cases begins with
      | mk served speaks =>
          cases resumes with
          | mk resumed further =>
              exact ⟨_, _, .suspended served speaks.appended resumed further.appended⟩

/-- An account that tells what became of a request. -/
inductive Account.Genuine (services : Services σ) : Account σ → Prop where
  | queued {arrival : Arrival} : Genuine services ⟨arrival, [], .queued⟩
  | suspended {arrival : Arrival} {said : Transcript} {request : Suspended σ}
      (begins : Begins services arrival said (.suspended request)) :
      Genuine services ⟨arrival, said, .suspended request⟩
  | ended {arrival : Arrival} {said : Transcript} {ending : Ending} {left : Connection}
      (served : Served services arrival said ending left) :
      Genuine services
        ⟨arrival, said ++ [.released arrival.request.body.lease], .ended ending left⟩
  | refused {arrival : Arrival} {said : Transcript} {left : Connection}
      (refuses : Refuses arrival said left) : Genuine services ⟨arrival, said, .refused left⟩

section Runs

variable {services : Services σ} {arrival : Arrival} {said : Transcript} {scene later : Scene σ}
  {ticket : Nat} {request : Suspended σ}

theorem serve_speaks (services : Services σ) (router : Router (Handler σ)) (session : Session)
    (head : Http.RequestHead) (content : Octets) (connection : Connection) :
    (serve services router session head content connection).Emits fun _ _ => True := by
  by_cases within : content.length ≤ services.config.maxBodySize
  · cases routed : router.at? head.path with
    | some route => exact (serve_emits within routed).mono fun _ _ _ => True.intro
    | none => exact (serve_emits_dismissed (.inr routed)).mono fun _ _ _ => True.intro
  · have exceeds := Nat.lt_of_not_le within
    exact (serve_emits_dismissed (.inl exceeds)).mono fun _ _ _ => True.intro

/-- A request that has been suspended can be resumed. -/
theorem Begins.resume_speaks (begins : Begins services arrival said (.suspended request)) :
    (resume services request).Emits fun _ _ => True := by
  cases begins with
  | @mk router _ _ _ _ _ _ served speaks =>
      have undismissed (lost : services.config.maxBodySize < arrival.request.body.content.length ∨
          router.at? arrival.request.head.path = none) : False := by
        obtain ⟨_, _, same, -⟩ := (serve_emits_dismissed lost).related served speaks.appended
        cases same
      by_cases within : arrival.request.body.content.length ≤ services.config.maxBodySize
      · cases routed : router.at? arrival.request.head.path with
        | some route =>
            obtain ⟨opening, rest, silent, -, advances⟩ :=
              (serve_emits within routed).related served speaks.appended
            exact (resume_emits silent advances).mono fun _ _ _ => True.intro
        | none => exact (undismissed (.inr routed)).elim
      · exact (undismissed (.inl (Nat.lt_of_not_le within))).elim

theorem Scene.news_of_speaks {after : World σ} (speaks : Speaks scene.world said after) :
    scene.news after = said := by
  rw [news, speaks.appended, List.drop_left]

theorem Scene.news_releasing {after : World σ} (speaks : Speaks scene.world said after)
    (lease : Option Lease) :
    scene.news (after.releasing lease) = said ++ [.released lease] := by
  simp [news, World.releasing, speaks.appended]

/-- What submitting a request comes to. -/
inductive Submits (scene : Scene σ) (arrival : Arrival) : Scene σ → Prop where
  | admitted (free : scene.server.pool.available ≠ 0) :
      Submits scene arrival
        { server := scene.server.admitting arrival
          world := scene.world
          spare := scene.spare.giveBackAny arrival.request.body.lease
          accounts := scene.accounts ++ [⟨arrival, [], .queued⟩] }
  | refused {said : Transcript} {left : Connection} (full : scene.server.pool.available = 0)
      (refuses : Refuses arrival said left) :
      Submits scene arrival
        { server := scene.server.refusing
          world := { scene.world with
            trackers := scene.world.trackers.giveBackAny arrival.request.body.lease
            events := scene.world.events ++ said }
          spare := scene.spare.giveBackAny arrival.request.body.lease
          accounts := scene.accounts ++ [⟨arrival, said, .refused left⟩] }

theorem Scene.submits (scene : Scene σ) (arrival : Arrival) :
    Submits scene arrival (scene.submit arrival) := by
  by_cases full : scene.server.pool.available = 0
  · obtain ⟨said, left, refuses, ran⟩ := Server.refuse_run arrival scene.world
    have refused := Submits.refused full refuses
    simpa [submit, Server.submit_full arrival scene.world full, ran, news] using refused
  · have admitted : Submits scene arrival _ := .admitted full
    simpa [submit, Server.submit_free arrival scene.world full, news] using admitted

/-- What starting a request comes to. -/
inductive Starts (scene : Scene σ) (ticket : Nat) : Scene σ → Prop where
  | absent (absent : takeTicket ticket scene.server.queued = none) : Starts scene ticket scene
  | ended {arrival : Arrival} {queued : List (Held Arrival)} {said : Transcript} {ending : Ending}
      {left : Connection} {after : World σ}
      (taken : takeTicket ticket scene.server.queued = some (arrival, queued))
      (begins : Begins scene.server.services arrival said (.ended ending left))
      (speaks : Speaks scene.world said after) :
      Starts scene ticket
        { scene with
          server := { scene.server with queued }.begun.retired ending
          world := after.releasing arrival.request.body.lease
          accounts := scene.accounts.modify ticket
            (.further (said ++ [.released arrival.request.body.lease]) (.ended ending left)) }
  | suspended {arrival : Arrival} {queued : List (Held Arrival)} {said : Transcript}
      {request : Suspended σ} {after : World σ}
      (taken : takeTicket ticket scene.server.queued = some (arrival, queued))
      (begins : Begins scene.server.services arrival said (.suspended request))
      (speaks : Speaks scene.world said after) :
      Starts scene ticket
        { scene with
          server := { scene.server.begun with
            queued
            suspended := scene.server.suspended ++ [⟨ticket, (request, arrival.request.body)⟩] }
          world := after
          accounts := scene.accounts.modify ticket (.further said (.suspended request)) }

theorem Scene.starts (scene : Scene σ) (ticket : Nat) :
    Starts scene ticket (scene.start ticket) := by
  cases taken : takeTicket ticket scene.server.queued with
  | none => simpa [start, Server.start_absent scene.world taken] using Starts.absent taken
  | some found =>
      obtain ⟨arrival, queued⟩ := found
      have speaking := serve_speaks scene.server.services scene.server.router
        (scene.server.session arrival) arrival.request.head arrival.request.body.content
        arrival.connection
      cases served : (serve scene.server.services scene.server.router
          (scene.server.session arrival) arrival.request.head arrival.request.body.content
          arrival.connection).run scene.world with
      | mk progress after =>
          obtain ⟨said, speaks, -⟩ := speaking.run served
          cases progress with
          | ended ending left =>
              have ended := Starts.ended taken (.mk served speaks) speaks
              simpa [start, Server.start_ended taken served, news_releasing speaks] using ended
          | suspended request =>
              have suspended := Starts.suspended taken (.mk served speaks) speaks
              simpa [start, Server.start_suspended taken served, news_of_speaks speaks]
                using suspended

/-- What finishing a request comes to. -/
inductive Finishes (scene : Scene σ) (ticket : Nat) : Scene σ → Prop where
  | absent (absent : takeTicket ticket scene.server.suspended = none) :
      Finishes scene ticket scene
  | ended {request : Suspended σ} {body : Body} {suspended : List (Held (Suspended σ × Body))}
      {said : Transcript} {ending : Ending} {left : Connection} {after : World σ}
      (taken : takeTicket ticket scene.server.suspended = some ((request, body), suspended))
      (resumes : Resumes scene.server.services request said ending left)
      (speaks : Speaks scene.world said after) :
      Finishes scene ticket
        { scene with
          server := { scene.server with suspended }.retired ending
          world := after.releasing body.lease
          accounts := scene.accounts.modify ticket
            (.further (said ++ [.released body.lease]) (.ended ending left)) }

end Runs

section Accounts

variable {services : Services σ} {accounts : List (Account σ)} {arrival given : Arrival}
  {said news : Transcript} {standing : Standing σ} {ticket found : Nat} {request : Suspended σ}
  {left : Connection} {ending : Ending} {held : Suspended σ × Body}

/-- Whether a request is queued according to the accounts. -/
def Queues (accounts : List (Account σ)) (ticket : Nat) (arrival : Arrival) : Prop :=
  accounts[ticket]? = some ⟨arrival, [], .queued⟩

/-- Whether a request with a body is suspended according to the accounts. -/
def Suspends (accounts : List (Account σ)) (ticket : Nat) (held : Suspended σ × Body) : Prop :=
  ∃ arrival said, accounts[ticket]? = some ⟨arrival, said, .suspended held.1⟩ ∧
    arrival.request.body = held.2

theorem Suspends.not_queues (suspends : Suspends accounts ticket held) :
    ¬ Queues accounts ticket arrival := by
  intro queues
  obtain ⟨_, _, placed, -⟩ := suspends
  rw [queues] at placed
  cases placed

theorem not_queues_length : ¬ Queues accounts accounts.length arrival := by
  simp [Queues]

theorem queues_append_queued :
    Queues (accounts ++ [⟨arrival, [], .queued⟩]) found given ↔
      Queues accounts found given ∨ found = accounts.length ∧ arrival = given := by
  simp [Queues, getElem?_append_singleton_eq_some]

theorem queues_append_refused :
    Queues (accounts ++ [⟨arrival, said, .refused left⟩]) found given ↔
      Queues accounts found given := by
  simp [Queues, getElem?_append_singleton_eq_some]

theorem suspends_append_queued :
    Suspends (accounts ++ [⟨arrival, [], .queued⟩]) found held ↔ Suspends accounts found held := by
  simp [Suspends, getElem?_append_singleton_eq_some]

theorem suspends_append_refused :
    Suspends (accounts ++ [⟨arrival, said, .refused left⟩]) found held ↔
      Suspends accounts found held := by
  simp [Suspends, getElem?_append_singleton_eq_some]

theorem queues_modify (started : standing ≠ .queued) :
    Queues (accounts.modify ticket (.further news standing)) found given ↔
      found ≠ ticket ∧ Queues accounts found given := by
  simp [Queues, getElem?_modify_eq_some, Account.further, started]

theorem suspends_modify_ended :
    Suspends (accounts.modify ticket (.further news (.ended ending left))) found held ↔
      found ≠ ticket ∧ Suspends accounts found held := by
  by_cases same : found = ticket
  · simp [Suspends, Account.further, same]
  · simp [Suspends, getElem?_modify_eq_some, same]

theorem suspends_modify_suspended (queued : Queues accounts ticket arrival) :
    Suspends (accounts.modify ticket (.further news (.suspended request))) found held ↔
      Suspends accounts found held ∨ found = ticket ∧ (request, arrival.request.body) = held := by
  unfold Queues at queued
  by_cases same : found = ticket
  · simp [Suspends, Account.further, same, queued, Prod.ext_iff]
  · simp [Suspends, getElem?_modify_eq_some, same]

end Accounts

/-- The server holds the requests whose accounts say so, and all accounts are genuine. -/
structure Scene.Traced (services : Services σ) (scene : Scene σ) : Prop where
  equipped : scene.server.services = services
  numbered : scene.server.stats.submitted = scene.accounts.length
  queued : Lists scene.server.queued (Queues scene.accounts)
  suspended : Lists scene.server.suspended (Suspends scene.accounts)
  genuine : ∀ (ticket : Nat) (account : Account σ), scene.accounts[ticket]? = some account →
    account.Genuine services

namespace Scene.Traced

variable {services : Services σ} {scene later : Scene σ} {arrival : Arrival} {ticket : Nat}
  {account : Account σ}

theorem genuine_append (traced : scene.Traced services) (genuine : account.Genuine services) :
    ∀ (found : Nat) (other : Account σ),
      (scene.accounts ++ [account])[found]? = some other → other.Genuine services := by
  intro found other placed
  rcases getElem?_append_singleton_eq_some.mp placed with earlier | ⟨-, rfl⟩
  · exact traced.genuine found other earlier
  · exact genuine

theorem genuine_modify (traced : scene.Traced services) {said : Transcript}
    {standing : Standing σ} (placed : scene.accounts[ticket]? = some account)
    (genuine : (account.further said standing).Genuine services) :
    ∀ (found : Nat) (other : Account σ),
      (scene.accounts.modify ticket (.further said standing))[found]? = some other →
        other.Genuine services := by
  intro found other modified
  rcases getElem?_modify_eq_some.mp modified with ⟨-, elsewhere⟩ | ⟨-, before, here, rfl⟩
  · exact traced.genuine found other elsewhere
  · rw [placed] at here
    cases here
    exact genuine

theorem submits (traced : scene.Traced services) (submits : Submits scene arrival later) :
    later.Traced services := by
  cases submits with
  | admitted free =>
      refine ⟨traced.equipped, ?_, ?_, ?_, traced.genuine_append .queued⟩
      · simp [Server.admitting, traced.numbered]
      · have fresh (given : Arrival) :
            ¬ Queues scene.accounts scene.server.stats.submitted given := by
          rw [traced.numbered]
          exact not_queues_length
        refine (traced.queued.append fresh arrival).congr ?_
        intro found given
        rw [queues_append_queued, traced.numbered]
      · exact traced.suspended.congr fun _ _ => suspends_append_queued
  | refused full refuses =>
      refine ⟨traced.equipped, ?_, ?_, ?_, traced.genuine_append (.refused refuses)⟩
      · simp [Server.refusing, traced.numbered]
      · exact traced.queued.congr fun _ _ => queues_append_refused
      · exact traced.suspended.congr fun _ _ => suspends_append_refused

theorem starts (traced : scene.Traced services) (starts : Starts scene ticket later) :
    later.Traced services := by
  cases starts with
  | absent => exact traced
  | @ended arrival _ _ _ _ _ taken begins speaks =>
      have queued := traced.queued.kept_of_take taken
      rw [traced.equipped] at begins
      refine ⟨traced.equipped, ?_, ?_, ?_, traced.genuine_modify queued (.ended (.atOnce begins))⟩
      · simp [Server.retired, Server.begun, traced.numbered]
      · refine (traced.queued.take taken).congr ?_
        intro found given
        exact queues_modify nofun
      -- The request was queued until now, so it is not among the suspended ones.
      · refine traced.suspended.congr ?_
        intro found given
        refine suspends_modify_ended.trans (and_iff_right_of_imp ?_)
        rintro suspends rfl
        exact suspends.not_queues queued
  | @suspended arrival _ _ request _ taken begins speaks =>
      have queued := traced.queued.kept_of_take taken
      rw [traced.equipped] at begins
      refine ⟨traced.equipped, ?_, ?_, ?_, traced.genuine_modify queued (.suspended begins)⟩
      · simp [Server.begun, traced.numbered]
      · refine (traced.queued.take taken).congr ?_
        intro found given
        exact queues_modify nofun
      · have fresh (held : Suspended σ × Body) : ¬ Suspends scene.accounts ticket held :=
          fun suspends => suspends.not_queues queued
        refine (traced.suspended.append fresh (request, arrival.request.body)).congr ?_
        intro found given
        exact suspends_modify_suspended queued

/-- A request that is taken from the suspended ones has begun as its account says. -/
theorem begun_of_take (traced : scene.Traced services) {request : Suspended σ} {body : Body}
    {suspended : List (Held (Suspended σ × Body))}
    (taken : takeTicket ticket scene.server.suspended = some ((request, body), suspended)) :
    ∃ arrival said, scene.accounts[ticket]? = some ⟨arrival, said, .suspended request⟩ ∧
      arrival.request.body = body ∧ Begins services arrival said (.suspended request) := by
  obtain ⟨arrival, said, placed, same⟩ := traced.suspended.kept_of_take taken
  refine ⟨arrival, said, placed, same, ?_⟩
  cases traced.genuine ticket _ placed with
  | suspended begins => exact begins

/-- A suspended request can be finished. -/
theorem finish (traced : scene.Traced services) (ticket : Nat) :
    Finishes scene ticket (scene.finish ticket) := by
  cases taken : takeTicket ticket scene.server.suspended with
  | none => simpa [Scene.finish, Server.finish_absent scene.world taken] using Finishes.absent taken
  | some found =>
      obtain ⟨⟨request, body⟩, suspended⟩ := found
      obtain ⟨arrival, said, -, -, begins⟩ := traced.begun_of_take taken
      rw [← traced.equipped] at begins
      cases resumed : (resume scene.server.services request).run scene.world with
      | mk result after =>
          obtain ⟨ending, left⟩ := result
          obtain ⟨second, speaks, -⟩ := begins.resume_speaks.run resumed
          have ended := Finishes.ended taken (.mk resumed speaks) speaks
          simpa [Scene.finish, Server.finish_ended taken resumed, news_releasing speaks] using ended

theorem finishes (traced : scene.Traced services) (finishes : Finishes scene ticket later) :
    later.Traced services := by
  cases finishes with
  | absent => exact traced
  | @ended request body _ said ending left _ taken resumes speaks =>
      obtain ⟨arrival, first, placed, rfl, begins⟩ := traced.begun_of_take taken
      rw [traced.equipped] at resumes
      refine ⟨traced.equipped, ?_, ?_, ?_, traced.genuine_modify placed ?_⟩
      · simp [Server.retired, traced.numbered]
      · refine traced.queued.congr ?_
        intro found given
        refine (queues_modify ?_).trans (and_iff_right_of_imp ?_)
        · nofun
        · rintro queues rfl
          have suspends : Suspends scene.accounts found (request, arrival.request.body) :=
            ⟨arrival, first, placed, rfl⟩
          exact suspends.not_queues queues
      · refine (traced.suspended.take taken).congr ?_
        intro found given
        exact suspends_modify_ended
      · have ended := Account.Genuine.ended (.resumed begins resumes)
        rw [List.append_assoc] at ended
        exact ended

/-- Starting a request leaves none queued. -/
theorem placed_of_starts (traced : scene.Traced services) (starts : Starts scene ticket later)
    (placed : scene.accounts[ticket]? = some account) :
    ∃ next, later.accounts[ticket]? = some next ∧ next.arrival = account.arrival ∧
      next.standing ≠ .queued := by
  cases starts with
  | absent absent =>
      refine ⟨account, placed, rfl, ?_⟩
      intro queued
      cases traced.genuine ticket account placed with
      | queued => exact (traced.queued.absent_iff.mp absent _) placed
      | suspended => cases queued
      | ended => cases queued
      | refused => cases queued
  | ended => exact ⟨_, getElem?_modify_eq_some.mpr (.inr ⟨rfl, _, placed, rfl⟩), rfl, nofun⟩
  | suspended => exact ⟨_, getElem?_modify_eq_some.mpr (.inr ⟨rfl, _, placed, rfl⟩), rfl, nofun⟩

theorem placed_of_finishes (traced : scene.Traced services)
    (finishes : Finishes scene ticket later) (placed : scene.accounts[ticket]? = some account)
    (started : account.standing ≠ .queued) :
    ∃ final, later.accounts[ticket]? = some final ∧ final.arrival = account.arrival ∧
      final.standing.isOver = true := by
  cases finishes with
  | absent absent =>
      refine ⟨account, placed, rfl, ?_⟩
      obtain ⟨arrival, said, standing⟩ := account
      cases standing with
      | queued => exact absurd rfl started
      | suspended request =>
          have suspends := traced.suspended.absent_iff.mp absent (request, arrival.request.body)
          exact absurd ⟨arrival, said, placed, rfl⟩ suspends
      | ended => rfl
      | refused => rfl
  | ended => exact ⟨_, getElem?_modify_eq_some.mpr (.inr ⟨rfl, _, placed, rfl⟩), rfl, rfl⟩

/-- Every submitted request can be led to its end. -/
theorem exists_over (traced : scene.Traced services)
    (placed : scene.accounts[ticket]? = some account) :
    ∃ final, ((scene.start ticket).finish ticket).accounts[ticket]? = some final ∧
      final.arrival = account.arrival ∧ final.standing.isOver = true := by
  have started := scene.starts ticket
  obtain ⟨next, placed, same, unqueued⟩ := traced.placed_of_starts started placed
  have traced := traced.starts started
  obtain ⟨final, placed, arrival, ended⟩ :=
    traced.placed_of_finishes (traced.finish ticket) placed unqueued
  exact ⟨final, placed, arrival.trans same, ended⟩

theorem step (traced : scene.Traced services) (step : Step scene later) :
    later.Traced services := by
  cases step with
  | submitted arrival lent => exact traced.submits (scene.submits arrival)
  | started ticket => exact traced.starts (scene.starts ticket)
  | finished ticket => exact traced.finishes (traced.finish ticket)
  | lent tracker => exact ⟨traced.1, traced.2, traced.3, traced.4, traced.5⟩
  | recalled lease lent => exact ⟨traced.1, traced.2, traced.3, traced.4, traced.5⟩
  | registered pattern handler registered =>
      obtain ⟨router, -, rfl⟩ := map_eq_ok.mp registered
      exact ⟨traced.1, traced.2, traced.3, traced.4, traced.5⟩
  | elapsed user now => exact ⟨traced.1, traced.2, traced.3, traced.4, traced.5⟩

end Scene.Traced

namespace Setup

variable {setup : Setup σ}

theorem startedPool_eq_ok {given : Option Pool} {pool : Pool}
    (opened : setup.givenPool? = .ok given) (chosen : setup.startedPool given = .ok pool) :
    Pool.ofCapacity? (setup.capacity.getD setup.config.execution.capacity) = some pool := by
  unfold givenPool? at opened
  split at opened
  case h_1 unset =>
      cases opened
      simp only [startedPool] at chosen
      split at chosen
      case h_1 launched =>
          cases chosen
          rw [unset]
          exact (Pool.launch_eq_started.mp launched).2
      case h_2 => cases chosen
      case h_3 => cases chosen
  case h_2 capacity fixed =>
      rw [fixed]
      split at opened
      case h_1 sized =>
          cases opened
          cases chosen
          exact sized
      case h_2 => cases opened

theorem build_eq_ok {server : Server σ} (built : setup.build = .ok server) :
    ∃ router pool,
      Pool.ofCapacity? (setup.capacity.getD setup.config.execution.capacity) = some pool ∧
      server =
        { services := setup.services
          router := router
          gate := setup.config.sampling.gate
          pool := pool } := by
  obtain ⟨given, opened, built⟩ := bind_eq_ok.mp built
  obtain ⟨_, -, built⟩ := bind_eq_ok.mp built
  obtain ⟨router, -, built⟩ := bind_eq_ok.mp built
  obtain ⟨pool, chosen, built⟩ := bind_eq_ok.mp built
  cases built
  exact ⟨router, pool, startedPool_eq_ok opened chosen, rfl⟩

end Setup

theorem Reached.traced {setup : Setup σ} {scene : Scene σ} (reached : Reached setup scene) :
    scene.Traced setup.services := by
  induction reached with
  | opened world built =>
      obtain ⟨router, pool, -, rfl⟩ := Setup.build_eq_ok built
      refine ⟨rfl, rfl, .nil ?_, .nil ?_, ?_⟩
      · simp [Queues]
      · simp [Suspends]
      · simp
  | further _ step inductionHypothesis => exact inductionHypothesis.step step

/-- A server of empty responses that serves one request at once. -/
def solitary : Setup Unit where
  routes := [("/*", ⟨0, "blank", .raw fun _ => .give (.ofStatus .ok)⟩)]
  capacity := some 1

/-- A request for the root, with a lent body. -/
def visit : Arrival := ⟨⟨rootHead, .leased [] ⟨0⟩⟩, {}⟩

/-- A server that has just been built, with two leases out. -/
def opening : Scene Unit where
  server :=
    { services := solitary.services
      router := anywhere ⟨0, "blank", .raw fun _ => .give (.ofStatus .ok)⟩
      gate := solitary.config.sampling.gate
      pool := ⟨1, 1⟩ }
  world := ⟨(), ⟨fun _ => 2⟩, ⟨[], 0⟩, []⟩
  spare := ⟨fun _ => 2⟩
  accounts := []

/-- Two requests have been submitted to a server that takes one. -/
def crowded : Scene Unit :=
  (opening.submit visit).submit visit

theorem crowded_reached : Reached solitary crowded := by
  have opened : Reached solitary opening := .opened _ rfl
  have once : Reached solitary (opening.submit visit) := by
    refine opened.further (.submitted visit ?_)
    rintro lease ⟨⟩
    decide
  refine once.further (.submitted visit ?_)
  rintro lease ⟨⟩
  decide

end Serving

end Switchyard
