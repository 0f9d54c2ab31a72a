import UcxPlayground.Async.Invariants

/-!
# One event on its own

What a step of the whole program does to a single event. `Slot` is the event
with the part of the history that concerns it, `SlotMove` lists what can happen
to it, and `step_slotMove` says that nothing else does, whatever the coroutines
and the other events are doing.
-/

set_option autoImplicit false

namespace UcxPlayground.Async

open Transition

variable {Event T Tag : Type}

structure Slot (Event T Tag : Type) where
  event : AutoResetEvent T
  serial : Nat
  delivering : Bool
  history : List (Observation Event T Tag)

/-- The steps as one event sees them. -/
inductive SlotMove (event : Event) :
    Action Event T Tag → Slot Event T Tag → Slot Event T Tag → Prop where
  | unchanged {action slot} :
      (∀ value fullCallback, action ≠ .setOr event value fullCallback) →
      action ≠ .coAwait event → SlotMove event action slot slot
  | refused {slot value fullCallback} :
      slot.event.signaled = true →
      SlotMove event (.setOr event value fullCallback) slot
        { slot with history := .refused event value fullCallback :: slot.history }
  | stored {slot value fullCallback} :
      slot.event.signaled = false → slot.event.waiterHandle = none → slot.delivering = false →
      SlotMove event (.setOr event value fullCallback) slot
        { event := ⟨true, some value, none⟩
          serial := slot.serial + 1
          delivering := false
          history := .accepted event (slot.serial + 1) value :: slot.history }
  | delivered {slot value fullCallback waiter} :
      slot.event.signaled = false → slot.event.waiterHandle = some waiter →
      slot.delivering = false →
      SlotMove event (.setOr event value fullCallback) slot
        { event := ⟨true, some value, some waiter⟩
          serial := slot.serial + 1
          delivering := true
          history := .passed event waiter (slot.serial + 1) (some value) false ::
            .resumed event waiter (.suspended event) ::
            .accepted event (slot.serial + 1) value :: slot.history }
  | passed {slot coroutine} :
      slot.event.signaled = true →
      SlotMove event (.coAwait event) slot
        { slot with
          history := .passed event coroutine slot.serial slot.event.data true :: slot.history }
  | suspended {slot coroutine} :
      slot.event.signaled = false → slot.delivering = false →
      SlotMove event (.coAwait event) slot
        { slot with
          event := { slot.event with waiterHandle := some coroutine }
          history := .suspended event coroutine :: slot.history }
  | left {action slot} :
      (∀ value fullCallback, action ≠ .setOr event value fullCallback) →
      action ≠ .coAwait event → slot.delivering = true →
      SlotMove event action slot
        { slot with event := slot.event.afterResume, delivering := false }

theorem WellFormed.not_resuming {state : State Event T Tag} (wellFormed : WellFormed state)
    {event : Event} (clear : (state.events event).signaled = false) :
    ¬ state.Resuming event := by
  intro resuming
  simp [wellFormed.signaled_of_resuming resuming] at clear

variable [DecidableEq Event]

def historyOf (event : Event) (trace : List (Observation Event T Tag)) :
    List (Observation Event T Tag) :=
  trace.filter (fun observation => observation.event? = some event)

theorem historyOf_cons_self {event : Event} {observation : Observation Event T Tag}
    {trace : List (Observation Event T Tag)} (about : observation.event? = some event) :
    historyOf event (observation :: trace) = observation :: historyOf event trace := by
  simp [historyOf, about]

theorem historyOf_cons_other {event : Event} {observation : Observation Event T Tag}
    {trace : List (Observation Event T Tag)} (about : observation.event? ≠ some event) :
    historyOf event (observation :: trace) = historyOf event trace := by
  simp [historyOf, about]

theorem mem_historyOf {event : Event} {observation : Observation Event T Tag}
    {trace : List (Observation Event T Tag)} :
    observation ∈ historyOf event trace ↔
      observation ∈ trace ∧ observation.event? = some event := by
  simp [historyOf]

def State.slot (state : State Event T Tag) (event : Event) : Slot Event T Tag where
  event := state.events event
  serial := state.serial event
  delivering := decide (state.Resuming event)
  history := historyOf event state.trace

namespace State

variable {state : State Event T Tag} {event other : Event}

theorem slot_eq {next : State Event T Tag} {slot : Slot Event T Tag}
    (same : next.events event = slot.event) (count : next.serial event = slot.serial)
    (resuming : next.Resuming event ↔ slot.delivering = true)
    (trace : historyOf event next.trace = slot.history) : next.slot event = slot := by
  obtain ⟨_, _, delivering, _⟩ := slot
  cases delivering <;> simp_all [State.slot]

@[simp] theorem slot_event : (state.slot event).event = state.events event := rfl

@[simp] theorem slot_serial : (state.slot event).serial = state.serial event := rfl

@[simp] theorem slot_delivering : (state.slot event).delivering = true ↔ state.Resuming event := by
  simp [State.slot]

@[simp] theorem slot_history : (state.slot event).history = historyOf event state.trace := rfl

theorem refuse_slot (value : T) (fullCallback : Option Tag) :
    (state.refuse event value fullCallback).slot event =
      { state.slot event with
        history := .refused event value fullCallback :: (state.slot event).history } :=
  slot_eq rfl rfl (by cases fullCallback <;> exact slot_delivering.symm)
    (historyOf_cons_self rfl)

theorem refuse_slot_other (different : event ≠ other) (value : T) (fullCallback : Option Tag) :
    (state.refuse other value fullCallback).slot event = state.slot event :=
  slot_eq rfl rfl (by cases fullCallback <;> exact slot_delivering.symm)
    (historyOf_cons_other (by simp [Observation.event?, different.symm]))

theorem accept_slot (stored : AutoResetEvent T) (value : T) :
    (state.accept event stored value).slot event =
      { event := stored
        serial := state.serial event + 1
        delivering := (state.slot event).delivering
        history := .accepted event (state.serial event + 1) value ::
          (state.slot event).history } :=
  slot_eq (by simp [State.accept]) (by simp [State.accept]) slot_delivering.symm
    (historyOf_cons_self rfl)

theorem accept_slot_other (different : event ≠ other) (stored : AutoResetEvent T) (value : T) :
    (state.accept other stored value).slot event = state.slot event :=
  slot_eq (by simp [State.accept, different]) (by simp [State.accept, different])
    slot_delivering.symm (historyOf_cons_other (by simp [Observation.event?, different.symm]))

theorem resume_slot (waiter : CoroutineHandle) :
    (state.resume event waiter).slot event =
      { state.slot event with
        delivering := true
        history := .passed event waiter (state.serial event) (state.events event).data false ::
          .resumed event waiter (state.status waiter) :: (state.slot event).history } :=
  slot_eq rfl rfl (by simp [State.resume, State.pass, State.Resuming])
    (by simp [State.resume, State.pass, historyOf, Observation.event?,
      AutoResetEvent.awaitResume])

theorem resume_slot_other (different : event ≠ other) (waiter : CoroutineHandle) :
    (state.resume other waiter).slot event = state.slot event :=
  slot_eq rfl rfl (by simp [State.resume, State.pass, State.Resuming, different])
    (by simp [State.resume, State.pass, historyOf, Observation.event?, different.symm])

theorem pass_slot (coroutine : CoroutineHandle) :
    (state.pass event coroutine true).slot event =
      { state.slot event with
        history := .passed event coroutine (state.serial event) (state.events event).data true ::
          (state.slot event).history } :=
  slot_eq rfl rfl slot_delivering.symm (historyOf_cons_self rfl)

theorem pass_slot_other (different : event ≠ other) (coroutine : CoroutineHandle) :
    (state.pass other coroutine true).slot event = state.slot event :=
  slot_eq rfl rfl slot_delivering.symm
    (historyOf_cons_other (by simp [Observation.event?, different.symm]))

theorem record_slot (recorded : AutoResetEvent T) (coroutine : CoroutineHandle) :
    (state.record event recorded coroutine).slot event =
      { state.slot event with
        event := recorded
        history := .suspended event coroutine :: (state.slot event).history } :=
  slot_eq (by simp [State.record]) rfl slot_delivering.symm (historyOf_cons_self rfl)

theorem record_slot_other (different : event ≠ other) (recorded : AutoResetEvent T)
    (coroutine : CoroutineHandle) :
    (state.record other recorded coroutine).slot event = state.slot event :=
  slot_eq (by simp [State.record, different]) rfl slot_delivering.symm
    (historyOf_cons_other (by simp [Observation.event?, different.symm]))

/-- Returning from a frame ends the delivery on top, if there is one, and
leaves every other event alone. -/
theorem leave_slot (state : State Event T Tag) (event : Event)
    (once : ∀ coroutine rest, state.stack = .resumed event coroutine :: rest →
      event ∉ deliveries rest) :
    state.leave.slot event = state.slot event ∨
      (state.Resuming event ∧
        state.leave.slot event =
          { state.slot event with
            event := (state.events event).afterResume
            delivering := false }) := by
  rcases state.leave_events event with ⟨same, notTop⟩ | ⟨cleared, coroutine, rest, top⟩
  · refine .inl (slot_eq same (by simp) ?_ (by simp))
    rw [slot_delivering]
    unfold State.Resuming
    rw [leave_stack]
    cases shape : state.stack with
    | nil => rfl
    | cons frame rest =>
        cases frame with
        | called | native => rfl
        | resumed other coroutine =>
            have different : event ≠ other := by
              intro equal
              subst equal
              exact notTop coroutine rest shape
            simp [different]
  · have before : state.Resuming event := by simp [State.Resuming, top]
    have after : ¬ state.leave.Resuming event := by
      simpa [State.Resuming, top] using once coroutine rest top
    exact .inr ⟨before, slot_eq cleared (by simp) (by simpa using after) (by simp)⟩

end State

namespace WellFormed

variable {state : State Event T Tag} {event other : Event}

omit [DecidableEq Event] in
theorem once_below (wellFormed : WellFormed state) (coroutine : CoroutineHandle)
    (rest : List (Frame Event Tag)) (top : state.stack = .resumed event coroutine :: rest) :
    event ∉ deliveries rest := by
  intro member
  obtain ⟨second, below⟩ := mem_deliveries_iff.mp member
  exact wellFormed.not_resumed_below top below

/-- A coroutine that suspends on `event` is recorded there; no delivery of the
event itself can end at the same time. -/
theorem suspend_slot (wellFormed : WellFormed state)
    (clear : (state.events event).signaled = false) (recorded : AutoResetEvent T)
    (coroutine : CoroutineHandle) :
    (state.suspend event recorded coroutine).slot event =
      { state.slot event with
        event := recorded
        history := .suspended event coroutine :: (state.slot event).history } := by
  have idle := wellFormed.not_resuming clear
  rcases State.leave_slot (state.record event recorded coroutine) event
      wellFormed.once_below with same | ⟨resuming, _⟩
  · exact same.trans (State.record_slot recorded coroutine)
  · exact False.elim (idle resuming)

theorem suspend_slot_other (wellFormed : WellFormed state) (different : event ≠ other)
    (recorded : AutoResetEvent T) (coroutine : CoroutineHandle) :
    (state.suspend other recorded coroutine).slot event = state.slot event ∨
      (state.Resuming event ∧
        (state.suspend other recorded coroutine).slot event =
          { state.slot event with
            event := (state.events event).afterResume
            delivering := false }) := by
  have before : (state.record other recorded coroutine).slot event = state.slot event :=
    State.record_slot_other different recorded coroutine
  rcases State.leave_slot (state.record other recorded coroutine) event
      wellFormed.once_below with same | ⟨resuming, ended⟩
  · exact .inl (same.trans before)
  · have untouched : (state.record other recorded coroutine).events event = state.events event :=
      congrArg Slot.event before
    rw [before, untouched] at ended
    exact .inr ⟨resuming, ended⟩

theorem finish_slot (wellFormed : WellFormed state) (event : Event) (coroutine : CoroutineHandle) :
    (state.finish coroutine).slot event = state.slot event ∨
      (state.Resuming event ∧
        (state.finish coroutine).slot event =
          { state.slot event with
            event := (state.events event).afterResume
            delivering := false }) :=
  State.leave_slot { state with status := _ } event wellFormed.once_below

end WellFormed

/-- Every step of the program is, for each single event, one of the slot moves. -/
theorem step_slotMove {state next : State Event T Tag} {action : Action Event T Tag}
    (wellFormed : WellFormed state) (stepped : step state action = some next) (event : Event) :
    SlotMove event action (state.slot event) (next.slot event) := by
  cases step_move stepped with
  | @refused other value fullCallback signaled =>
      by_cases same : event = other
      · subst other
        rw [State.refuse_slot]
        exact .refused signaled
      · rw [State.refuse_slot_other same]
        exact .unchanged (by simp [Ne.symm same]) (by simp)
  | @stored other value fullCallback clear alone =>
      by_cases same : event = other
      · subst other
        have idle := wellFormed.not_resuming clear
        have still : (state.slot event).delivering = false := by simp [State.slot, idle]
        rw [State.accept_slot, still]
        exact .stored clear alone still
      · rw [State.accept_slot_other same]
        exact .unchanged (by simp [Ne.symm same]) (by simp)
  | @resumed other value fullCallback waiter clear recorded =>
      by_cases same : event = other
      · subst other
        have idle := wellFormed.not_resuming clear
        have still : (state.slot event).delivering = false := by simp [State.slot, idle]
        have suspended := wellFormed.waiter_suspended clear recorded
        rw [State.resume_slot, State.accept_slot]
        simp only [State.accept, suspended, Function.update_self]
        exact .delivered clear recorded still
      · rw [State.resume_slot_other same, State.accept_slot_other same]
        exact .unchanged (by simp [Ne.symm same]) (by simp)
  | @passed other coroutine current signaled =>
      by_cases same : event = other
      · subst other
        rw [State.pass_slot]
        exact .passed signaled
      · rw [State.pass_slot_other same]
        exact .unchanged (by simp) (by simp [Ne.symm same])
  | @suspended other coroutine current clear =>
      by_cases same : event = other
      · subst other
        have idle := wellFormed.not_resuming clear
        rw [wellFormed.suspend_slot clear]
        exact .suspended clear (by simp [State.slot, idle])
      · rcases wellFormed.suspend_slot_other same
            { state.events other with waiterHandle := some coroutine } coroutine with
          unchanged | ⟨resuming, ended⟩
        · rw [unchanged]
          exact .unchanged (by simp) (by simp [Ne.symm same])
        · rw [ended]
          exact .left (by simp) (by simp [Ne.symm same]) (State.slot_delivering.mpr resuming)
  | started | called | noted => exact .unchanged (by simp) (by simp)
  | @finished coroutine current =>
      rcases wellFormed.finish_slot event coroutine with unchanged | ⟨resuming, ended⟩
      · rw [unchanged]
        exact .unchanged (by simp) (by simp)
      · rw [ended]
        exact .left (by simp) (by simp) (State.slot_delivering.mpr resuming)
  | @returned tag rest top =>
      have unchanged : ({ state with stack := rest } : State Event T Tag).slot event =
          state.slot event :=
        State.slot_eq rfl rfl (by simp [State.Resuming, top]) rfl
      rw [unchanged]
      exact .unchanged (by simp) (by simp)

end UcxPlayground.Async
