import Mathlib.Data.List.Nodup
import Switchyard.Proofs.Serving.Course
import Switchyard.Serving.Server

/-!
# The steps of a server

What submitting, starting and finishing a request change, in terms of refusing it, of serving it up
to the call of its handler and of resuming it.
-/

set_option autoImplicit false

namespace Switchyard

namespace Dispatch

variable {σ : Type}

/-- The world after a lease has been given back. -/
def World.releasing (world : World σ) (lease : Option Http.Lease) : World σ :=
  { world with
    trackers := world.trackers.giveBackAny lease
    events := world.events ++ [.released lease] }

end Dispatch

namespace Serving

open Dispatch (Act Event Silent Transcript World)
open Http (Body Connection Response)

section Tickets

variable {α : Type} {ticket : Nat} {held rest : List (Held α)} {request : α}

theorem takeTicket_eq_some (taken : takeTicket ticket held = some (request, rest)) :
    ∃ before after, held = before ++ ⟨ticket, request⟩ :: after ∧ rest = before ++ after := by
  induction held generalizing rest with
  | nil => cases taken
  | cons first others inductionHypothesis =>
      unfold takeTicket at taken
      split at taken
      case isTrue same =>
        cases taken
        subst same
        exact ⟨[], others, rfl, rfl⟩
      case isFalse differs =>
        obtain ⟨⟨found, left⟩, later, same⟩ := Option.map_eq_some_iff.mp taken
        cases same
        obtain ⟨before, after, rfl, rfl⟩ := inductionHypothesis later
        exact ⟨first :: before, after, rfl, rfl⟩

theorem takeTicket_eq_none :
    takeTicket ticket held = none ↔ ∀ entry ∈ held, entry.ticket ≠ ticket := by
  induction held with
  | nil => simp [takeTicket]
  | cons first others inductionHypothesis =>
      by_cases same : first.ticket = ticket
      · simp [takeTicket, same]
      · simp [takeTicket, same, inductionHypothesis]

/-- Whether a list holds the requests that are to be kept, each once. -/
structure Lists (held : List (Held α)) (kept : Nat → α → Prop) : Prop where
  mem : ∀ ticket request, ⟨ticket, request⟩ ∈ held ↔ kept ticket request
  once : (held.map Held.ticket).Nodup

namespace Lists

variable {kept other : Nat → α → Prop}

theorem nil (nothing : ∀ ticket request, ¬ kept ticket request) : Lists [] kept where
  mem ticket request := by simp [nothing]
  once := by simp

theorem congr (lists : Lists held kept)
    (same : ∀ ticket request, other ticket request ↔ kept ticket request) :
    Lists held other where
  mem ticket request := (lists.mem ticket request).trans (same ticket request).symm
  once := lists.once

theorem append (lists : Lists held kept) (fresh : ∀ request, ¬ kept ticket request)
    (request : α) :
    Lists (held ++ [⟨ticket, request⟩])
      (fun found given => kept found given ∨ found = ticket ∧ request = given) where
  mem found given := by simp [lists.mem, eq_comm]
  once := by
    rw [List.map_append, List.map_singleton, ← List.concat_eq_append]
    refine List.Nodup.concat ?_ lists.once
    intro membership
    obtain ⟨⟨_, given⟩, present, rfl⟩ := List.mem_map.mp membership
    exact fresh given ((lists.mem _ given).mp present)

theorem kept_of_take (lists : Lists held kept)
    (taken : takeTicket ticket held = some (request, rest)) : kept ticket request := by
  obtain ⟨before, after, rfl, -⟩ := takeTicket_eq_some taken
  exact (lists.mem ticket request).mp (by simp)

/-- What is left are the requests with other tickets. -/
theorem take (lists : Lists held kept)
    (taken : takeTicket ticket held = some (request, rest)) :
    Lists rest fun found given => found ≠ ticket ∧ kept found given := by
  obtain ⟨before, after, rfl, rfl⟩ := takeTicket_eq_some taken
  -- No other request has the ticket, as tickets are in the list only once.
  have once := lists.once
  rw [List.map_append, List.map_cons, List.nodup_middle, List.nodup_cons, ← List.map_append] at once
  refine ⟨?_, once.2⟩
  intro found given
  rw [← lists.mem]
  constructor
  · intro membership
    have differs : found ≠ ticket := by
      rintro rfl
      exact once.1 (List.mem_map.mpr ⟨_, membership, rfl⟩)
    refine ⟨differs, ?_⟩
    rcases List.mem_append.mp membership with earlier | later
    · exact List.mem_append_left _ earlier
    · exact List.mem_append_right _ (List.mem_cons_of_mem _ later)
  · rintro ⟨differs, membership⟩
    rcases List.mem_append.mp membership with earlier | here
    · exact List.mem_append_left _ earlier
    · rcases List.mem_cons.mp here with same | later
      · cases same
        exact absurd rfl differs
      · exact List.mem_append_right _ later

theorem absent_iff (lists : Lists held kept) :
    takeTicket ticket held = none ↔ ∀ request, ¬ kept ticket request := by
  rw [takeTicket_eq_none]
  constructor
  · intro absent request present
    exact absent _ ((lists.mem ticket request).mpr present) rfl
  · rintro absent ⟨found, request⟩ membership rfl
    exact absent request ((lists.mem found request).mp membership)

end Lists

end Tickets

@[simp]
theorem Stats.submitted_ended (stats : Stats) (ending : Ending) :
    (stats.ended ending).submitted = stats.submitted := by
  unfold ended
  split <;> rfl

/-- The response to a request that is refused. -/
def busy (arrival : Arrival) (date : Octets) : Response :=
  finalized (plainResponse .serviceUnavailable "server busy") false arrival.request.head.version
    date

/-- Refusing a request: its lease is given back, a response is written, and the connection is
closed. -/
inductive Refuses (arrival : Arrival) : Transcript → Connection → Prop where
  | mk {date : Octets} {logs : Transcript} (silent : Silent logs) :
      Refuses arrival
        (.logged .poolSaturated :: .released arrival.request.body.lease ::
          .wrote (busy arrival date) (arrival.connection.write (busy arrival date)).1 ::
          (logs ++ [.closed]))
        (arrival.connection.write (busy arrival date)).2.close

namespace Server

variable {σ : Type} {server : Server σ} {arrival : Arrival} {ticket : Nat} {world : World σ}

theorem refuse_run (arrival : Arrival) (world : World σ) :
    ∃ said left, Refuses arrival said left ∧
      (refuse arrival).run world =
        (left, { world with
          trackers := world.trackers.giveBackAny arrival.request.body.lease
          events := world.events ++ said }) := by
  cases sent : (arrival.connection.write (busy arrival world.now.date)).1 with
  | ok =>
      refine ⟨_, _, @Refuses.mk arrival world.now.date _ .nil, ?_⟩
      unfold busy at sent ⊢
      simp [refuse, StateT.run_bind, send, hangUp, Act.note, Act.log, Act.release, Act.now, sent]
      rfl
  | error error =>
      refine ⟨_, _, @Refuses.mk arrival world.now.date _ (.single (.rejectionNotWritten error)), ?_⟩
      unfold busy at sent ⊢
      simp [refuse, StateT.run_bind, send, hangUp, Act.note, Act.log, Act.release, Act.now, sent]
      rfl

/-- The session of a request that is started now. -/
def session (server : Server σ) (arrival : Arrival) : Session :=
  .ofHead arrival.request.head server.gate.next.1 server.sequence

/-- The server after it has admitted a request. -/
def admitting (server : Server σ) (arrival : Arrival) : Server σ :=
  { server with
    stats := { server.stats with submitted := server.stats.submitted + 1 }
    pool := { server.pool with available := server.pool.available - 1 }
    queued := server.queued ++ [⟨server.stats.submitted, arrival⟩] }

/-- The server after it has refused a request. -/
def refusing (server : Server σ) : Server σ :=
  { server with
    stats := { server.stats with
      submitted := server.stats.submitted + 1
      rejected := server.stats.rejected + 1 } }

/-- The server after it has started a request. -/
def begun (server : Server σ) : Server σ :=
  { server with
    gate := server.gate.next.2
    sequence := server.sequence + 1
    stats := { server.stats with inFlight := server.stats.inFlight + 1 } }

/-- The server after a request has ended. -/
def retired (server : Server σ) (ending : Ending) : Server σ :=
  { server with
    stats := server.stats.ended ending
    pool := server.pool.giveBack }

theorem submit_free (arrival : Arrival) (world : World σ) (free : server.pool.available ≠ 0) :
    (server.submit arrival).run world =
      ((.admitted server.stats.submitted, server.admitting arrival), world) := by
  simp [submit, Pool.take, free]
  rfl

theorem submit_full (arrival : Arrival) (world : World σ) (full : server.pool.available = 0) :
    (server.submit arrival).run world =
      ((.rejected ⟨server.pool.capacity⟩ ((refuse arrival).run world).1, server.refusing),
        ((refuse arrival).run world).2) := by
  simp [submit, Pool.take, full]
  rfl

theorem start_absent (world : World σ) (absent : takeTicket ticket server.queued = none) :
    (server.start ticket).run world = ((none, server), world) := by
  unfold start
  rw [absent]
  rfl

section Started

variable {queued : List (Held Arrival)} {suspended : List (Held (Suspended σ × Body))}
  {request : Suspended σ} {body : Body} {after : World σ} {ending : Ending} {left : Connection}

theorem start_ended (taken : takeTicket ticket server.queued = some (arrival, queued))
    (served : (serve server.services server.router (server.session arrival) arrival.request.head
      arrival.request.body.content arrival.connection).run world = (.ended ending left, after)) :
    (server.start ticket).run world =
      ((some (.ended ⟨ending, left⟩), { server with queued }.begun.retired ending),
        after.releasing arrival.request.body.lease) := by
  unfold session at served
  simp [start, taken, begin, served]
  rfl

theorem start_suspended (taken : takeTicket ticket server.queued = some (arrival, queued))
    (served : (serve server.services server.router (server.session arrival) arrival.request.head
      arrival.request.body.content arrival.connection).run world = (.suspended request, after)) :
    (server.start ticket).run world =
      ((some (.suspended request),
        { server.begun with
          queued
          suspended := server.suspended ++ [⟨ticket, (request, arrival.request.body)⟩] }),
        after) := by
  unfold session at served
  simp [start, taken, begin, served]
  rfl

theorem finish_absent (world : World σ) (absent : takeTicket ticket server.suspended = none) :
    (server.finish ticket).run world = ((none, server), world) := by
  unfold finish
  rw [absent]
  rfl

theorem finish_ended
    (taken : takeTicket ticket server.suspended = some ((request, body), suspended))
    (resumed : (resume server.services request).run world = ((ending, left), after)) :
    (server.finish ticket).run world =
      ((some ⟨ending, left⟩, { server with suspended }.retired ending),
        after.releasing body.lease) := by
  simp [finish, taken, resumed]
  rfl

end Started

end Server

end Serving

end Switchyard
