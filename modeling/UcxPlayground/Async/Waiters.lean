import UcxPlayground.Async.Slot

/-!
# The single waiter slot

`await_suspend` overwrites `waiter_handle`, so of several coroutines suspended
on one event only the latest is recorded. Nothing else loses a waiter: `set_or`
clears the slot only after it has resumed the coroutine in it.
-/

set_option autoImplicit false

namespace UcxPlayground.Async

open Transition

variable {Event T Tag : Type} [DecidableEq Event]

def Observation.suspends? (event : Event) : Observation Event T Tag → Option CoroutineHandle
  | .suspended other coroutine => if other = event then some coroutine else none
  | _ => none

def State.lastToSuspend? (state : State Event T Tag) (event : Event) : Option CoroutineHandle :=
  state.trace.findSome? (Observation.suspends? event)

/-- A later `await_suspend` of another coroutine took the slot. -/
def State.Displaced (state : State Event T Tag) (event : Event)
    (coroutine : CoroutineHandle) : Prop :=
  ∃ newer older other, state.trace = newer ++ .suspended event other :: older ∧
    other ≠ coroutine ∧ .suspended event coroutine ∈ older ∧
    .suspended event coroutine ∉ newer

/-- The latest coroutine to suspend on an event, while it is suspended, is the
recorded one, and the event is not signalled. -/
structure LatestRecorded (event : Event) (state : State Event T Tag) : Prop where
  observed : ∀ {coroutine}, state.status coroutine = .suspended event →
    .suspended event coroutine ∈ state.trace
  recorded : ∀ {coroutine}, state.status coroutine = .suspended event →
    state.lastToSuspend? event = some coroutine →
    (state.events event).waiterHandle = some coroutine ∧ (state.events event).signaled = false

theorem LatestRecorded.initial (event : Event) :
    LatestRecorded event (State.initial : State Event T Tag) where
  observed suspended := by simp [State.initial] at suspended
  recorded suspended := by simp [State.initial] at suspended

namespace LatestRecorded

variable {event : Event} {state next : State Event T Tag}

theorem of_unchanged (latest : LatestRecorded event state)
    (status : ∀ {coroutine}, next.status coroutine = .suspended event →
      state.status coroutine = .suspended event)
    (grows : ∀ observation ∈ state.trace, observation ∈ next.trace)
    (last : next.lastToSuspend? event = state.lastToSuspend? event)
    (kept : ∀ {coroutine}, next.status coroutine = .suspended event →
      (state.events event).waiterHandle = some coroutine →
      (state.events event).signaled = false → next.events event = state.events event) :
    LatestRecorded event next where
  observed suspended := grows _ (latest.observed (status suspended))
  recorded suspended latestToSuspend := by
    obtain ⟨handle, clear⟩ := latest.recorded (status suspended) (last ▸ latestToSuspend)
    rw [kept suspended handle clear]
    exact ⟨handle, clear⟩

omit [DecidableEq Event] in
/-- A change of one coroutine's status makes no coroutine wait for the event,
unless that is the change. -/
theorem suspended_before {status : CoroutineHandle → Status Event}
    {coroutine waiting : CoroutineHandle} {changed : Status Event}
    (suspended : Function.update status coroutine changed waiting = .suspended event)
    (elsewhere : changed ≠ .suspended event) :
    waiting ≠ coroutine ∧ status waiting = .suspended event := by
  by_cases same : waiting = coroutine
  · subst same
    rw [Function.update_self] at suspended
    exact absurd suspended elsewhere
  · rw [Function.update_of_ne same] at suspended
    exact ⟨same, suspended⟩

/-- A coroutine that suspends on the event takes the slot. -/
theorem suspend (latest : LatestRecorded event state) (wellFormed : WellFormed state)
    {coroutine : CoroutineHandle} (clear : (state.events event).signaled = false) :
    LatestRecorded event
      (state.suspend event { state.events event with waiterHandle := some coroutine }
        coroutine) := by
  have slot := wellFormed.suspend_slot clear
    { state.events event with waiterHandle := some coroutine } coroutine
  have recorded := congrArg Slot.event slot
  simp only [State.slot_event] at recorded
  refine ⟨fun {waiting} suspended => ?_, fun {waiting} suspended last => ?_⟩
  · by_cases same : waiting = coroutine
    · subst waiting
      simp
    · have before : state.status waiting = .suspended event := by
        simpa [same] using suspended
      simpa using Or.inr (latest.observed before)
  · have same : coroutine = waiting := by
      simpa [State.lastToSuspend?, Observation.suspends?] using last
    subst waiting
    rw [recorded]
    exact ⟨rfl, clear⟩

theorem step (latest : LatestRecorded event state) (wellFormed : WellFormed state)
    {action : Action Event T Tag} (stepped : Async.step state action = some next) :
    LatestRecorded event next := by
  cases step_move stepped with
  | refused | passed | called | returned | noted =>
      exact latest.of_unchanged id (by simp +contextual [State.refuse, State.pass])
        (by simp [State.lastToSuspend?, State.refuse, State.pass, Observation.suspends?,
          List.findSome?_cons])
        (fun _ _ _ => rfl)
  | @stored other value fullCallback clear alone =>
      refine latest.of_unchanged id (by simp +contextual [State.accept])
        (by simp [State.lastToSuspend?, State.accept, Observation.suspends?, List.findSome?_cons])
        (fun _ handle _ => ?_)
      have different : event ≠ other := by
        intro equal
        subst equal
        simp [alone] at handle
      simp [State.accept, different]
  | @resumed other value fullCallback waiter clear recorded =>
      refine latest.of_unchanged
        (fun {coroutine} suspended => (suspended_before suspended (by simp)).2)
        (by simp +contextual [State.resume, State.pass, State.accept])
        (by simp [State.lastToSuspend?, State.resume, State.pass, State.accept,
          Observation.suspends?, List.findSome?_cons])
        (fun {coroutine} suspended handle _ => ?_)
      have elsewhere : event ≠ other := by
        intro equal
        subst equal
        exact (suspended_before suspended (by simp)).1
          (Option.some.inj (handle.symm.trans recorded))
      simp [State.resume, State.pass, State.accept, elsewhere]
  | @suspended other coroutine current clear =>
      by_cases same : event = other
      · subst other
        exact latest.suspend wellFormed clear
      · refine latest.of_unchanged (fun {waiting} suspended => ?_)
          (by simp +contextual)
          (by simp [State.lastToSuspend?, Observation.suspends?, Ne.symm same])
          (fun _ _ clear => ?_)
        · rw [State.suspend_status] at suspended
          exact (suspended_before suspended (by simp [Ne.symm same])).2
        · rcases wellFormed.suspend_slot_other same
              { state.events other with waiterHandle := some coroutine } coroutine with
            unchanged | ⟨resuming, _⟩
          · exact congrArg Slot.event unchanged
          · exact False.elim (wellFormed.not_resuming clear resuming)
  | started coroutine =>
      exact latest.of_unchanged
        (fun suspended => (suspended_before suspended (by simp)).2)
        (fun _ => id) rfl (fun _ _ _ => rfl)
  | @finished coroutine current =>
      refine latest.of_unchanged (fun {waiting} suspended => ?_) (by simp)
        (by simp [State.lastToSuspend?]) (fun _ _ clear => ?_)
      · rw [State.finish_status] at suspended
        exact (suspended_before suspended (by simp)).2
      · rcases wellFormed.finish_slot event coroutine with
          unchanged | ⟨resuming, _⟩
        · exact congrArg Slot.event unchanged
        · exact False.elim (wellFormed.not_resuming clear resuming)

end LatestRecorded

theorem run_latestRecorded (event : Event) {actions : List (Action Event T Tag)}
    {state : State Event T Tag} (reached : run step .initial actions = some state) :
    LatestRecorded event state := by
  have both := run_preserves (fun state => WellFormed state ∧ LatestRecorded event state)
    (fun _ _ _ held stepped => ⟨held.1.step stepped, held.2.step held.1 stepped⟩)
    ⟨.initial, .initial event⟩ reached
  exact both.2

theorem State.displaced_of_last {state : State Event T Tag} {event : Event}
    {coroutine other : CoroutineHandle} (observed : .suspended event coroutine ∈ state.trace)
    (last : state.lastToSuspend? event = some other) (different : other ≠ coroutine) :
    state.Displaced event coroutine := by
  obtain ⟨newer, observation, older, split, suspends, none⟩ := List.findSome?_eq_some_iff.mp last
  have shape : observation = .suspended event other := by
    cases observation with
    | suspended awaited handle =>
        by_cases same : awaited = event
        · simpa [Observation.suspends?, same] using suspends
        · simp [Observation.suspends?, same] at suspends
    | _ => simp [Observation.suspends?] at suspends
  subst observation
  have unseen : .suspended event coroutine ∉ newer := fun member => by
    simpa [Observation.suspends?] using none _ member
  refine ⟨newer, older, other, split, different, ?_, unseen⟩
  rw [split] at observed
  simpa [unseen, different.symm] using observed

/-- A waiter is lost only by being overwritten. In every reachable state a
coroutine suspended on an event is recorded in it, and the next `set_or` resumes
it, unless another coroutine suspended on the event later. -/
theorem waiter_recorded_or_displaced {event : Event} {coroutine : CoroutineHandle}
    {actions : List (Action Event T Tag)} {state : State Event T Tag}
    (reached : run step .initial actions = some state)
    (suspended : state.status coroutine = .suspended event) :
    ((state.events event).waiterHandle = some coroutine ∧
        ∀ value fullCallback,
          (setOr state event value fullCallback).status coroutine = .running) ∨
      state.Displaced event coroutine := by
  have latest := run_latestRecorded event reached
  have observed := latest.observed suspended
  cases last : state.lastToSuspend? event with
  | none =>
      have none := List.findSome?_eq_none_iff.mp last _ observed
      simp [Observation.suspends?] at none
  | some other =>
      by_cases same : other = coroutine
      · subst other
        obtain ⟨recorded, clear⟩ := latest.recorded suspended last
        refine .inl ⟨recorded, fun value fullCallback => ?_⟩
        simp [setOr, AutoResetEvent.setOr_of_waiter clear recorded, State.resume, State.pass]
      · exact .inr (State.displaced_of_last observed last same)

def twoEarlyAwaits : List (Action Unit Nat Unit) :=
  [.start 0, .coAwait (), .start 1, .coAwait ()]

theorem twoEarlyAwaits_lose_waiter :
    ∃ state, run step State.initial twoEarlyAwaits = some state ∧
      state.status 0 = .suspended () ∧ (state.events ()).waiterHandle ≠ some 0 :=
  ⟨_, rfl, rfl, by decide⟩

/-- The first of them is the one displaced. -/
theorem twoEarlyAwaits_displaced :
    ∃ state, run step State.initial twoEarlyAwaits = some state ∧ state.Displaced () 0 := by
  refine ⟨_, rfl, ?_⟩
  rcases waiter_recorded_or_displaced (show run step .initial twoEarlyAwaits = _ from rfl)
    (show State.status _ 0 = .suspended () from rfl) with ⟨recorded, _⟩ | displaced
  · exact absurd recorded (by decide)
  · exact displaced

end UcxPlayground.Async
