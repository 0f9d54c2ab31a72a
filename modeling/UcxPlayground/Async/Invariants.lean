import UcxPlayground.Async.Runtime

/-!
# What a step does, and what every run keeps

`Move` lists the steps with their guards; later proofs go by cases on it and
never unfold `step`. `WellFormed` ties the waiter slots to the call stack.
-/

set_option autoImplicit false

namespace UcxPlayground.Async

open Transition

variable {Event T Tag : Type}

section Moves

variable [DecidableEq Event]

/-- The steps, one constructor for each branch of the program. -/
inductive Move (state : State Event T Tag) : Action Event T Tag → State Event T Tag → Prop where
  | refused {event value fullCallback} :
      (state.events event).signaled = true →
      Move state (.setOr event value fullCallback) (state.refuse event value fullCallback)
  | stored {event value fullCallback} :
      (state.events event).signaled = false →
      (state.events event).waiterHandle = none →
      Move state (.setOr event value fullCallback)
        (state.accept event ⟨true, some value, none⟩ value)
  | resumed {event value fullCallback waiter} :
      (state.events event).signaled = false →
      (state.events event).waiterHandle = some waiter →
      Move state (.setOr event value fullCallback)
        ((state.accept event ⟨true, some value, some waiter⟩ value).resume event waiter)
  | passed {event coroutine} :
      state.current? = some coroutine →
      (state.events event).signaled = true →
      Move state (.coAwait event) (state.pass event coroutine true)
  | suspended {event coroutine} :
      state.current? = some coroutine →
      (state.events event).signaled = false →
      Move state (.coAwait event)
        (state.suspend event { state.events event with waiterHandle := some coroutine } coroutine)
  | started {coroutine} :
      state.status coroutine = .unstarted →
      Move state (.start coroutine)
        { state with
          status := Function.update state.status coroutine .running
          stack := .called coroutine :: state.stack }
  | finished {coroutine} :
      state.current? = some coroutine → Move state .finish (state.finish coroutine)
  | called {tag} : Move state (.call tag) { state with stack := .native tag :: state.stack }
  | returned {tag rest} :
      state.stack = .native tag :: rest → Move state .ret { state with stack := rest }
  | noted {tag} : Move state (.note tag) { state with trace := .note tag :: state.trace }

theorem setOr_move (state : State Event T Tag) (event : Event) (value : T)
    (fullCallback : Option Tag) :
    Move state (.setOr event value fullCallback) (setOr state event value fullCallback) := by
  cases signaled : (state.events event).signaled with
  | true =>
      simp only [setOr, AutoResetEvent.setOr_of_signaled signaled]
      exact .refused signaled
  | false =>
      cases waiting : (state.events event).waiterHandle with
      | none =>
          simp only [setOr, AutoResetEvent.setOr_of_no_waiter signaled waiting]
          exact .stored signaled waiting
      | some waiter =>
          simp only [setOr, AutoResetEvent.setOr_of_waiter signaled waiting]
          exact .resumed signaled waiting

theorem coAwait_move {state : State Event T Tag} {coroutine : CoroutineHandle}
    (current : state.current? = some coroutine) (event : Event) :
    Move state (.coAwait event) (coAwait state event coroutine) := by
  cases signaled : (state.events event).signaled with
  | true =>
      simp only [coAwait, AutoResetEvent.awaitReady, signaled, if_true]
      exact .passed current signaled
  | false =>
      have unready : (state.events event).awaitReady = false := signaled
      simp only [coAwait, unready, Bool.false_eq_true, if_false,
        AutoResetEvent.awaitSuspend_of_not_ready unready]
      exact .suspended current signaled

theorem step_move {state next : State Event T Tag} {action : Action Event T Tag}
    (stepped : step state action = some next) : Move state action next := by
  cases action with
  | setOr event value fullCallback =>
      cases stepped
      exact setOr_move state event value fullCallback
  | coAwait event =>
      obtain ⟨coroutine, current, rfl⟩ := Option.map_eq_some_iff.mp stepped
      exact coAwait_move current event
  | start coroutine =>
      by_cases unstarted : state.status coroutine = .unstarted
      · simp only [step, unstarted, if_true, Option.some.injEq] at stepped
        subst next
        exact .started unstarted
      · simp only [step, unstarted, if_false, reduceCtorEq] at stepped
  | finish =>
      obtain ⟨coroutine, current, rfl⟩ := Option.map_eq_some_iff.mp stepped
      exact .finished current
  | call tag =>
      cases stepped
      exact .called
  | ret =>
      cases top : state.stack with
      | nil => simp only [step, top, reduceCtorEq] at stepped
      | cons frame rest =>
          cases frame with
          | resumed | called => simp only [step, top, reduceCtorEq] at stepped
          | native tag =>
              simp only [step, top, Option.some.injEq] at stepped
              subst next
              exact .returned top
  | note tag =>
      cases stepped
      exact .noted

end Moves

section Stacks

variable {stack : List (Frame Event Tag)} {event : Event} {coroutine : CoroutineHandle}

@[simp] theorem coroutines_nil : coroutines ([] : List (Frame Event Tag)) = [] := rfl

@[simp] theorem coroutines_resumed :
    coroutines (.resumed event coroutine :: stack) = coroutine :: coroutines stack := rfl

@[simp] theorem coroutines_called :
    coroutines (.called coroutine :: stack) = coroutine :: coroutines stack := rfl

@[simp] theorem coroutines_native {tag : Tag} :
    coroutines (.native tag :: stack) = coroutines stack := rfl

theorem coroutines_cons {frame : Frame Event Tag} (executes : frame.coroutine? = some coroutine) :
    coroutines (frame :: stack) = coroutine :: coroutines stack :=
  List.filterMap_cons_some executes

theorem mem_coroutines_of_resumed (member : Frame.resumed event coroutine ∈ stack) :
    coroutine ∈ coroutines stack :=
  List.mem_filterMap.mpr ⟨_, member, rfl⟩

@[simp] theorem deliveries_nil : deliveries ([] : List (Frame Event Tag)) = [] := rfl

@[simp] theorem deliveries_resumed :
    deliveries (.resumed event coroutine :: stack) = event :: deliveries stack := rfl

@[simp] theorem deliveries_called :
    deliveries (.called coroutine :: stack) = deliveries stack := rfl

@[simp] theorem deliveries_native {tag : Tag} :
    deliveries (.native tag :: stack) = deliveries stack := rfl

theorem mem_deliveries_iff :
    event ∈ deliveries stack ↔ ∃ coroutine, Frame.resumed event coroutine ∈ stack := by
  unfold deliveries
  rw [List.mem_filterMap]
  constructor
  · intro held
    obtain ⟨frame, member, same⟩ := held
    cases frame with
    | resumed other coroutine =>
        cases same
        exact ⟨coroutine, member⟩
    | called | native => simp [Frame.event?] at same
  · intro held
    obtain ⟨coroutine, member⟩ := held
    exact ⟨_, member, rfl⟩

end Stacks

namespace State

theorem current?_eq_some {state : State Event T Tag} {coroutine : CoroutineHandle}
    (current : state.current? = some coroutine) :
    ∃ frame rest, state.stack = frame :: rest ∧ frame.coroutine? = some coroutine := by
  unfold current? at current
  cases top : state.stack with
  | nil => simp [top] at current
  | cons frame rest => exact ⟨frame, rest, rfl, by simpa [top] using current⟩

variable [DecidableEq Event]

@[simp] theorem leave_status (state : State Event T Tag) :
    state.leave.status = state.status := by
  unfold leave
  split <;> rfl

@[simp] theorem leave_serial (state : State Event T Tag) :
    state.leave.serial = state.serial := by
  unfold leave
  split <;> rfl

@[simp] theorem leave_trace (state : State Event T Tag) :
    state.leave.trace = state.trace := by
  unfold leave
  split <;> rfl

@[simp] theorem leave_stack (state : State Event T Tag) :
    state.leave.stack = state.stack.tail := by
  unfold leave
  split <;> simp_all

@[simp] theorem suspend_status (state : State Event T Tag) (event : Event)
    (recorded : AutoResetEvent T) (coroutine : CoroutineHandle) :
    (state.suspend event recorded coroutine).status =
      Function.update state.status coroutine (.suspended event) := by
  simp [suspend, record]

@[simp] theorem suspend_trace (state : State Event T Tag) (event : Event)
    (recorded : AutoResetEvent T) (coroutine : CoroutineHandle) :
    (state.suspend event recorded coroutine).trace =
      .suspended event coroutine :: state.trace := by
  simp [suspend, record]

@[simp] theorem finish_status (state : State Event T Tag) (coroutine : CoroutineHandle) :
    (state.finish coroutine).status = Function.update state.status coroutine .finished := by
  simp [finish]

@[simp] theorem finish_trace (state : State Event T Tag) (coroutine : CoroutineHandle) :
    (state.finish coroutine).trace = state.trace := by
  simp [finish]

/-- Leaving a `set_or` runs its tail on its own event and touches no other. -/
theorem leave_events (state : State Event T Tag) (event : Event) :
    (state.leave.events event = state.events event ∧
        ∀ coroutine rest, state.stack ≠ .resumed event coroutine :: rest) ∨
      (state.leave.events event = (state.events event).afterResume ∧
        ∃ coroutine rest, state.stack = .resumed event coroutine :: rest) := by
  unfold leave
  split
  · rename_i resumed coroutine rest top
    by_cases same : event = resumed
    · subst resumed
      exact .inr ⟨by simp, coroutine, rest, top⟩
    · refine .inl ⟨by simp [same], fun other tail shape => same ?_⟩
      rw [top] at shape
      cases shape
      rfl
  · rename_i frame rest notResumed top
    exact .inl ⟨rfl, fun other tail shape => notResumed event other (by simp_all)⟩
  · rename_i top
    exact .inl ⟨rfl, fun other tail shape => by simp_all⟩

end State

/-- Waiter slots and call stack agree. An event whose `set_or` is on the stack
is signalled and still records the coroutine it resumed; every other recorded
waiter is suspended on the event, which is not signalled. -/
structure WellFormed (state : State Event T Tag) : Prop where
  resuming : ∀ {event coroutine}, Frame.resumed event coroutine ∈ state.stack →
    (state.events event).signaled = true ∧ (state.events event).waiterHandle = some coroutine
  waiting : ∀ {event coroutine}, (state.events event).waiterHandle = some coroutine →
    Frame.resumed event coroutine ∈ state.stack ∨
      ((state.events event).signaled = false ∧ state.status coroutine = .suspended event)
  running : ∀ {coroutine}, coroutine ∈ coroutines state.stack →
    state.status coroutine = .running
  once : (coroutines state.stack).Nodup

theorem WellFormed.initial : WellFormed (State.initial : State Event T Tag) where
  resuming member := by simp [State.initial] at member
  waiting recorded := by simp [State.initial] at recorded
  running member := by simp [State.initial] at member
  once := by simp [State.initial]

namespace WellFormed

variable {state : State Event T Tag}

theorem signaled_of_resuming (wellFormed : WellFormed state) {event : Event}
    (resuming : state.Resuming event) : (state.events event).signaled = true := by
  obtain ⟨coroutine, member⟩ := mem_deliveries_iff.mp resuming
  exact (wellFormed.resuming member).1

theorem waiter_suspended (wellFormed : WellFormed state) {event : Event}
    {waiter : CoroutineHandle} (clear : (state.events event).signaled = false)
    (recorded : (state.events event).waiterHandle = some waiter) :
    state.status waiter = .suspended event := by
  rcases wellFormed.waiting recorded with onStack | ⟨_, suspended⟩
  · simp [(wellFormed.resuming onStack).1] at clear
  · exact suspended

theorem not_mem_of_status (wellFormed : WellFormed state) {coroutine : CoroutineHandle}
    (stopped : state.status coroutine ≠ .running) :
    coroutine ∉ coroutines state.stack :=
  fun member => stopped (wellFormed.running member)

theorem not_resumed_below (wellFormed : WellFormed state) {event : Event}
    {coroutine other : CoroutineHandle} {rest : List (Frame Event Tag)}
    (top : state.stack = .resumed event coroutine :: rest) :
    Frame.resumed event other ∉ rest := by
  intro member
  have upper : Frame.resumed event coroutine ∈ state.stack := by simp [top]
  have lower : Frame.resumed event other ∈ state.stack := by simp [top, member]
  have first := (wellFormed.resuming upper).2
  have second := (wellFormed.resuming lower).2
  have same : other = coroutine := Option.some.inj (second.symm.trans first)
  subst other
  have distinct := wellFormed.once
  simp only [top, coroutines_resumed, List.nodup_cons] at distinct
  exact distinct.1 (mem_coroutines_of_resumed member)

variable [DecidableEq Event]

theorem leave (wellFormed : WellFormed state) {coroutine : CoroutineHandle}
    (current : state.current? = some coroutine) (stopped : Status Event) :
    WellFormed
      (State.leave { state with status := Function.update state.status coroutine stopped }) := by
  obtain ⟨frame, rest, top, executes⟩ := State.current?_eq_some current
  have runs : state.status coroutine = .running :=
    wellFormed.running (by simp [top, coroutines_cons executes])
  have distinct := wellFormed.once
  simp only [top, coroutines_cons executes, List.nodup_cons] at distinct
  let stoppedState := { state with status := Function.update state.status coroutine stopped }
  have tail : stoppedState.leave.stack = rest := by simp [stoppedState, top]
  have events := State.leave_events stoppedState
  refine ⟨fun {event other} member => ?_, fun {event other} recorded => ?_,
    fun {other} member => ?_, ?_⟩
  · rw [tail] at member
    rcases events event with ⟨same, _⟩ | ⟨_, resumed, below, shape⟩
    · rw [same]
      exact wellFormed.resuming (by simp [top, member])
    · cases top.symm.trans shape
      exact False.elim (wellFormed.not_resumed_below top member)
  · rw [tail]
    rcases events event with ⟨same, notTop⟩ | ⟨cleared, _⟩
    · rw [same] at recorded ⊢
      rcases wellFormed.waiting recorded with onStack | ⟨clear, suspended⟩
      · rw [top, List.mem_cons] at onStack
        rcases onStack with rfl | deeper
        · exact False.elim (notTop other rest top)
        · exact .inl deeper
      · have different : other ≠ coroutine := by
          intro equal
          subst equal
          rw [suspended] at runs
          cases runs
        exact .inr ⟨clear, by simpa [different] using suspended⟩
    · rw [cleared] at recorded
      simp at recorded
  · rw [tail] at member
    have different : other ≠ coroutine := by
      intro equal
      subst equal
      exact distinct.1 member
    have inside : other ∈ coroutines state.stack := by simp [top, coroutines_cons executes, member]
    simpa [different] using wellFormed.running inside
  · rw [tail]
    exact distinct.2

theorem record (wellFormed : WellFormed state) {event : Event} {coroutine : CoroutineHandle}
    (clear : (state.events event).signaled = false)
    (suspended : state.status coroutine = .suspended event) :
    WellFormed { state with
      events := Function.update state.events event
        { state.events event with waiterHandle := some coroutine } } := by
  refine ⟨fun {other resumed} member => ?_, fun {other recorded} waits => ?_,
    wellFormed.running, wellFormed.once⟩
  · have different : other ≠ event := by
      intro equal
      subst equal
      simp [(wellFormed.resuming member).1] at clear
    simpa [different] using wellFormed.resuming member
  · by_cases same : other = event
    · subst other
      simp only [Function.update_self, Option.some.injEq] at waits
      subst recorded
      exact .inr ⟨by simpa using clear, suspended⟩
    · simpa [same] using wellFormed.waiting (by simpa [same] using waits)

theorem accept (wellFormed : WellFormed state) {event : Event} {value : T}
    (clear : (state.events event).signaled = false)
    (alone : (state.events event).waiterHandle = none) :
    WellFormed (state.accept event ⟨true, some value, none⟩ value) := by
  refine ⟨fun {other resumed} member => ?_, fun {other recorded} waits => ?_,
    wellFormed.running, wellFormed.once⟩
  · have different : other ≠ event := by
      intro equal
      subst equal
      simp [(wellFormed.resuming member).1] at clear
    simpa [State.accept, different] using wellFormed.resuming member
  · have different : other ≠ event := by
      intro equal
      subst equal
      simp [State.accept] at waits
    have before : (state.events other).waiterHandle = some recorded := by
      simpa [State.accept, different] using waits
    simpa [State.accept, different] using wellFormed.waiting before

theorem resume (wellFormed : WellFormed state) {event : Event} {value : T}
    {waiter : CoroutineHandle} (clear : (state.events event).signaled = false)
    (recorded : (state.events event).waiterHandle = some waiter) :
    WellFormed
      ((state.accept event ⟨true, some value, some waiter⟩ value).resume event waiter) := by
  have suspended := wellFormed.waiter_suspended clear recorded
  have absent : waiter ∉ coroutines state.stack :=
    wellFormed.not_mem_of_status (by simp [suspended])
  refine ⟨fun {other resumed} member => ?_, fun {other handle} waits => ?_,
    fun {coroutine} member => ?_, ?_⟩
  · rcases List.mem_cons.mp member with shape | below
    · cases shape
      simp [State.resume, State.pass, State.accept]
    · have different : other ≠ event := by
        intro equal
        subst equal
        simp [(wellFormed.resuming below).1] at clear
      simpa [State.resume, State.pass, State.accept, different] using wellFormed.resuming below
  · by_cases same : other = event
    · subst other
      have handleIsWaiter : waiter = handle := by
        simpa [State.resume, State.pass, State.accept] using waits
      subst handle
      exact .inl List.mem_cons_self
    · have before : (state.events other).waiterHandle = some handle := by
        simpa [State.resume, State.pass, State.accept, same] using waits
      rcases wellFormed.waiting before with onStack | ⟨unsignaled, waiting⟩
      · exact .inl (List.mem_cons_of_mem _ onStack)
      · have different : handle ≠ waiter := by
          intro equal
          subst equal
          rw [suspended] at waiting
          cases waiting
          exact same rfl
        exact .inr (by
          simpa [State.resume, State.pass, State.accept, same, different] using
            ⟨unsignaled, waiting⟩)
  · rcases List.mem_cons.mp member with rfl | below
    · simp [State.resume, State.pass]
    · have different : coroutine ≠ waiter := by
        intro equal
        subst equal
        exact absent below
      simpa [State.resume, State.pass, State.accept, different] using wellFormed.running below
  · simpa [State.resume, State.pass, State.accept] using
      ⟨absent, wellFormed.once⟩

/-- The event a coroutine suspends on is not the one that is resuming it, so
recording the waiter commutes with the tail of the `set_or` below. -/
theorem suspend_eq (wellFormed : WellFormed state) {event : Event}
    {coroutine : CoroutineHandle} (clear : (state.events event).signaled = false) :
    state.suspend event { state.events event with waiterHandle := some coroutine } coroutine =
      let left := State.leave
        { state with status := Function.update state.status coroutine (.suspended event) }
      { left with
        events := Function.update left.events event
          { left.events event with waiterHandle := some coroutine }
        trace := .suspended event coroutine :: left.trace } := by
  unfold State.suspend State.record State.leave
  cases top : state.stack with
  | nil => rfl
  | cons frame rest =>
      cases frame with
      | called | native => rfl
      | resumed delivered resumed =>
          have different : delivered ≠ event := by
            intro equal
            subst equal
            have upper : Frame.resumed delivered resumed ∈ state.stack := by simp [top]
            have signaled := (wellFormed.resuming upper).1
            simp [signaled] at clear
          simp [Function.update_of_ne different, Function.update_of_ne different.symm,
            Function.update_comm different]

theorem suspend (wellFormed : WellFormed state) {event : Event} {coroutine : CoroutineHandle}
    (current : state.current? = some coroutine)
    (clear : (state.events event).signaled = false) :
    WellFormed
      (state.suspend event { state.events event with waiterHandle := some coroutine }
        coroutine) := by
  have left := wellFormed.leave current (.suspended event)
  have unsignaled : ((State.leave { state with
      status := Function.update state.status coroutine (.suspended event) }).events
        event).signaled = false := by
    rcases State.leave_events { state with
        status := Function.update state.status coroutine (.suspended event) } event with
      ⟨same, _⟩ | ⟨cleared, _⟩
    · rw [same]
      exact clear
    · rw [cleared]
      rfl
  rw [wellFormed.suspend_eq clear]
  have suspended : (State.leave { state with
      status := Function.update state.status coroutine (.suspended event) }).status coroutine =
        .suspended event := by simp
  have recorded := left.record unsignaled suspended
  exact ⟨recorded.resuming, recorded.waiting, recorded.running, recorded.once⟩

theorem step (wellFormed : WellFormed state) {action : Action Event T Tag}
    {next : State Event T Tag} (stepped : Async.step state action = some next) :
    WellFormed next := by
  cases step_move stepped with
  | @refused event value fullCallback signaled =>
      cases fullCallback with
      | none => exact ⟨wellFormed.resuming, wellFormed.waiting, wellFormed.running, wellFormed.once⟩
      | some tag =>
          exact ⟨fun member => wellFormed.resuming (by simpa [State.refuse] using member),
            fun waits => by simpa [State.refuse] using wellFormed.waiting waits,
            fun member => wellFormed.running
              (by simpa [State.refuse] using member),
            by simpa [State.refuse] using wellFormed.once⟩
  | stored clear alone => exact wellFormed.accept clear alone
  | resumed clear recorded => exact wellFormed.resume clear recorded
  | passed current signaled =>
      exact ⟨wellFormed.resuming, wellFormed.waiting, wellFormed.running, wellFormed.once⟩
  | suspended current clear => exact wellFormed.suspend current clear
  | @started coroutine unstarted =>
      have absent : coroutine ∉ coroutines state.stack :=
        wellFormed.not_mem_of_status (by simp [unstarted])
      refine ⟨fun member => wellFormed.resuming (by simpa using member),
        fun {event handle} waits => ?_, fun {other} member => ?_, ?_⟩
      · rcases wellFormed.waiting waits with onStack | ⟨clear, suspended⟩
        · exact .inl (List.mem_cons_of_mem _ onStack)
        · have different : handle ≠ coroutine := by
            intro equal
            subst equal
            rw [unstarted] at suspended
            cases suspended
          exact .inr ⟨clear, by simpa [different] using suspended⟩
      · rcases List.mem_cons.mp member with rfl | below
        · simp
        · have different : other ≠ coroutine := by
            intro equal
            subst equal
            exact absent below
          simpa [different] using wellFormed.running below
      · simpa using ⟨absent, wellFormed.once⟩
  | finished current => exact wellFormed.leave current .finished
  | called =>
      exact ⟨fun member => wellFormed.resuming (by simpa using member),
        fun waits => by simpa using wellFormed.waiting waits,
        fun member => wellFormed.running (by simpa using member),
        by simpa using wellFormed.once⟩
  | returned top =>
      exact ⟨fun member => wellFormed.resuming (by simp [top, member]),
        fun waits => by simpa [top] using wellFormed.waiting waits,
        fun member => wellFormed.running (by simpa [top] using member),
        by simpa [top] using wellFormed.once⟩
  | noted => exact ⟨wellFormed.resuming, wellFormed.waiting, wellFormed.running, wellFormed.once⟩

end WellFormed

end UcxPlayground.Async
