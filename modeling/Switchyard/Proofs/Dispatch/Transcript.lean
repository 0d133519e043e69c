import Mathlib.Data.List.TakeWhile
import Switchyard.Dispatch.World

/-!
# What computations add to the events

`Act.Emits` describes a computation by the events that it appends and the value that it gives,
whatever the world; such a computation holds on to all leases.  The events of one dispatch fall into
stages, and a view reads what one stage says.
-/

set_option autoImplicit false

namespace Switchyard

theorem Attempt.caught_eq_ok {α : Type} {attempt : Attempt Cause α} {value : α} :
    attempt.caught = .ok value ↔ attempt = .returned value := by
  cases attempt <;> simp [Attempt.caught]

namespace Dispatch

/-- Events in their order. -/
abbrev Transcript := List Event

/-- From one world to the other events were appended, and no lease was given back. -/
structure Speaks {σ : Type} (world : World σ) (said : Transcript) (after : World σ) : Prop where
  appended : after.events = world.events ++ said
  trackers : after.trackers = world.trackers
  unreleased : ∀ lease, .released lease ∉ said

namespace Speaks

variable {σ : Type} {world between after : World σ} {said rest : Transcript}

theorem of_same (events : after.events = world.events)
    (trackers : after.trackers = world.trackers) : Speaks world [] after where
  appended := by rw [events, List.append_nil]
  trackers := trackers
  unreleased _ := List.not_mem_nil

theorem nil : Speaks world [] world :=
  .of_same rfl rfl

theorem append (first : Speaks world said between) (others : Speaks between rest after) :
    Speaks world (said ++ rest) after where
  appended := by rw [others.appended, first.appended, List.append_assoc]
  trackers := others.trackers.trans first.trackers
  unreleased lease membership := by
    rcases List.mem_append.mp membership with inSaid | inRest
    · exact first.unreleased lease inSaid
    · exact others.unreleased lease inRest

end Speaks

namespace Act

variable {σ α β : Type}

/-- From every world the computation appends events that are related to its value. -/
def Emits (act : Act σ α) (relation : Transcript → α → Prop) : Prop :=
  ∀ world, ∃ said, Speaks world said (act.run world).2 ∧ relation said (act.run world).1

variable {act : Act σ α} {next : α → Act σ β} {between : Transcript → α → Prop}
  {relation : Transcript → β → Prop} {weaker : Transcript → α → Prop}

theorem Emits.run {world after : World σ} {value : α} (emits : act.Emits between)
    (ran : act.run world = (value, after)) :
    ∃ said, Speaks world said after ∧ between said value := by
  have found := emits world
  rwa [ran] at found

/-- What a run has said and given is related. -/
theorem Emits.related {world after : World σ} {said : Transcript} {value : α}
    (emits : act.Emits between) (ran : act.run world = (value, after))
    (appended : after.events = world.events ++ said) : between said value := by
  obtain ⟨found, speaks, related⟩ := emits.run ran
  have same := speaks.appended.symm.trans appended
  exact List.append_cancel_left same ▸ related

theorem Emits.mono (emits : act.Emits between)
    (implied : ∀ said value, between said value → weaker said value) : act.Emits weaker := by
  intro world
  obtain ⟨said, speaks, related⟩ := emits world
  exact ⟨said, speaks, implied said _ related⟩

theorem emits_pure {value : β} (related : relation [] value) :
    (pure value : Act σ β).Emits relation := by
  intro world
  exact ⟨[], .nil, related⟩

/-- What a sequence emits is what its parts emit. -/
theorem Emits.bind (first : act.Emits between)
    (later : ∀ said value, between said value →
      (next value).Emits fun rest result => relation (said ++ rest) result) :
    (act >>= next).Emits relation := by
  intro world
  obtain ⟨said, speaks, related⟩ := first world
  obtain ⟨rest, further, together⟩ := later said _ related (act.run world).2
  exact ⟨said ++ rest, speaks.append further, together⟩

theorem emits_note {event : Event} (held : ∀ lease, event ≠ .released lease) :
    (note event : Act σ Unit).Emits fun said _ => said = [event] := by
  intro world
  refine ⟨[event], ⟨rfl, rfl, ?_⟩, rfl⟩
  intro lease membership
  exact held lease (List.mem_singleton.mp membership).symm

theorem emits_log (notice : Notice) :
    (log notice : Act σ Unit).Emits fun said _ => said = [.logged notice] :=
  emits_note nofun

theorem emits_perform (call : σ → α × σ) :
    (perform call).Emits fun said value => said = [] ∧ ∃ state, (call state).1 = value := by
  intro world
  exact ⟨[], .of_same rfl rfl, rfl, world.user, rfl⟩

theorem emits_now : (now : Act σ Clock).Emits fun said _ => said = [] := by
  intro world
  exact ⟨[], .nil, rfl⟩

end Act

/-- The stages of a dispatch. -/
inductive Stage where
  | asking
  | calling
  | showing
  | resolving
  | telling
  | answering
  deriving DecidableEq

/-- The stage that an event belongs to, if it belongs to one. -/
def Event.stage? : Event → Option Stage
  | .preHandled .. => some .asking
  | .called _ => some .calling
  | .postHandled .. => some .showing
  | .resolving _ | .resolverCalled .. => some .resolving
  | .afterCompleted .. => some .telling
  | .wrote .. | .closed => some .answering
  | .logged _ | .released _ => none

/-- Events that all belong to one stage, or to none. -/
def Within (stage : Stage) (said : Transcript) : Prop :=
  ∀ event ∈ said, event.stage? = none ∨ event.stage? = some stage

namespace Within

variable {stage : Stage} {event : Event} {said rest : Transcript}

theorem nil : Within stage [] := by
  intro event membership
  cases membership

theorem cons (first : event.stage? = none ∨ event.stage? = some stage)
    (others : Within stage rest) : Within stage (event :: rest) := by
  intro found membership
  rcases List.mem_cons.mp membership with rfl | inRest
  · exact first
  · exact others found inRest

theorem append (first : Within stage said) (others : Within stage rest) :
    Within stage (said ++ rest) := by
  intro event membership
  rcases List.mem_append.mp membership with inSaid | inRest
  · exact first event inSaid
  · exact others event inRest

end Within

/-- Log lines alone. -/
def Silent (said : Transcript) : Prop :=
  ∀ event ∈ said, ∃ notice, event = .logged notice

theorem Silent.nil : Silent [] := by
  intro event membership
  cases membership

theorem Silent.single (notice : Notice) : Silent [.logged notice] := by
  intro event membership
  exact ⟨notice, List.mem_singleton.mp membership⟩

theorem Silent.append {said rest : Transcript} (first : Silent said) (others : Silent rest) :
    Silent (said ++ rest) := by
  intro event membership
  rcases List.mem_append.mp membership with inSaid | inRest
  · exact first event inSaid
  · exact others event inRest

theorem Silent.within {said : Transcript} (silent : Silent said) (stage : Stage) :
    Within stage said := by
  intro event membership
  obtain ⟨notice, rfl⟩ := silent event membership
  exact .inl rfl

/-- A way to read events of one stage. -/
structure View (α : Type) where
  read : Event → Option α
  stage : Stage
  staged : ∀ event, (read event).isSome = true → event.stage? = some stage

namespace View

variable {α : Type} {view : View α} {stage : Stage} {said rest : Transcript} {event : Event}
  {value : α}

/-- What is read of events. -/
def of (view : View α) (said : Transcript) : List α :=
  said.filterMap view.read

@[simp]
theorem of_nil : view.of [] = [] := rfl

@[simp]
theorem of_append : view.of (said ++ rest) = view.of said ++ view.of rest :=
  List.filterMap_append

theorem of_cons_some (read : view.read event = some value) :
    view.of (event :: said) = value :: view.of said :=
  List.filterMap_cons_some read

theorem of_cons_none (unread : view.read event = none) : view.of (event :: said) = view.of said :=
  List.filterMap_cons_none unread

/-- An event of another stage is not read. -/
theorem of_cons_of_ne (other : event.stage? ≠ some view.stage) :
    view.of (event :: said) = view.of said := by
  apply of_cons_none
  by_contra present
  exact other (view.staged event (Option.isSome_iff_ne_none.mpr present))

/-- Nothing is read of events of other stages. -/
theorem of_eq_nil (within : Within stage said) (apart : view.stage ≠ stage) :
    view.of said = [] := by
  apply List.filterMap_eq_nil_iff.mpr
  intro event membership
  by_contra present
  have own := view.staged event (Option.isSome_iff_ne_none.mpr present)
  rcases within event membership with unstaged | other
  · rw [own] at unstaged
    cases unstaged
  · rw [own] at other
    exact apart (Option.some.inj other)

theorem of_silent (silent : Silent said) : view.of said = [] := by
  apply List.filterMap_eq_nil_iff.mpr
  intro event membership
  obtain ⟨notice, rfl⟩ := silent event membership
  by_contra present
  cases view.staged _ (Option.isSome_iff_ne_none.mpr present)

theorem of_silent_append (silent : Silent said) : view.of (said ++ rest) = view.of rest := by
  rw [of_append, of_silent silent, List.nil_append]

theorem of_append_silent (silent : Silent rest) : view.of (said ++ rest) = view.of said := by
  rw [of_append, of_silent silent, List.append_nil]

/-- The events of a stage themselves. -/
def events (stage : Stage) : View Event where
  read event := if event.stage? = some stage then some event else none
  stage := stage
  staged event present := by
    by_contra other
    simp [other] at present

theorem mem_events :
    event ∈ (events stage).of said ↔ event ∈ said ∧ event.stage? = some stage := by
  simp [of, events, List.mem_filterMap]

/-- What is said of resolvers. -/
def consultations : View Event :=
  events .resolving

/-- What becomes of the connection. -/
def handovers : View Event :=
  events .answering

/-- The interceptors asked, with what they said. -/
def asks : View (Nat × Attempt Cause Bool) where
  read
    | .preHandled position attempt _ => some (position, attempt)
    | _ => none
  stage := .asking
  staged := by rintro ⟨⟩ <;> simp [Event.stage?]

/-- The calls of handlers. -/
def calls : View Called where
  read
    | .called result => some result
    | _ => none
  stage := .calling
  staged := by rintro ⟨⟩ <;> simp [Event.stage?]

/-- The interceptors that were shown a response, with what came of it. -/
def shows : View (Nat × Attempt Cause Unit) where
  read
    | .postHandled position attempt _ _ => some (position, attempt)
    | _ => none
  stage := .showing
  staged := by rintro ⟨⟩ <;> simp [Event.stage?]

/-- The responses as interceptors left them. -/
def alterations : View Http.Response where
  read
    | .postHandled _ _ _ altered => some altered
    | _ => none
  stage := .showing
  staged := by rintro ⟨⟩ <;> simp [Event.stage?]

/-- The failures to which resolvers are asked to respond. -/
def questions : View Failure where
  read
    | .resolving failure => some failure
    | _ => none
  stage := .resolving
  staged := by rintro ⟨⟩ <;> simp [Event.stage?]

/-- The interceptors that were told of the end, with the failure they were told of. -/
def tellings : View (Nat × Option Failure) where
  read
    | .afterCompleted position failure _ => some (position, failure)
    | _ => none
  stage := .telling
  staged := by rintro ⟨⟩ <;> simp [Event.stage?]

/-- The responses written. -/
def writes : View Http.Response where
  read
    | .wrote response _ => some response
    | _ => none
  stage := .answering
  staged := by rintro ⟨⟩ <;> simp [Event.stage?]

end View

end Dispatch

end Switchyard
