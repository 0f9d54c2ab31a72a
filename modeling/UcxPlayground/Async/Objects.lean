import UcxPlayground.Async.SingleUse

/-!
# Event objects of both classes

Coroutines over any number of `auto_reset_event` and `single_use_event` objects,
each made by one of its constructors. A handle that a single-use event kept may
name a coroutine that waits for another object by now; resuming it then lets it
go on through the `await_resume` of that other object. To resume a coroutine
that is not suspended is undefined, and so there is no such step.

Ordinary functions, callbacks among them, do not appear: what they do counts as
done by the coroutine that called them.
-/

set_option autoImplicit false

namespace UcxPlayground.Async.Objects

open Transition

/-- The constructor an object was made by. `auto_reset_event_handle()` makes its
event with the default argument, false. -/
inductive Construction where
  | autoReset (initialSignaled : Bool)
  | singleUse (initialSignaled : Bool)
  deriving DecidableEq, Repr

namespace Construction

def initialSignaled : Construction → Bool
  | .autoReset initialSignaled => initialSignaled
  | .singleUse initialSignaled => initialSignaled

def isSingleUse : Construction → Bool
  | .autoReset _ => false
  | .singleUse _ => true

end Construction

inductive Object (T : Type) where
  | autoReset (event : AutoResetEvent T)
  | singleUse (event : SingleUseEvent T)
  deriving DecidableEq, Repr

namespace Object

variable {T : Type}

def make : Construction → Object T
  | .autoReset initialSignaled => .autoReset (.make initialSignaled)
  | .singleUse initialSignaled => .singleUse (.make initialSignaled)

def isSingleUse : Object T → Bool
  | .autoReset _ => false
  | .singleUse _ => true

def signaled : Object T → Bool
  | .autoReset event => event.signaled
  | .singleUse event => event.signaled

def data : Object T → Option T
  | .autoReset event => event.data
  | .singleUse event => event.data

def waiterHandle : Object T → Option CoroutineHandle
  | .autoReset event => event.waiterHandle
  | .singleUse event => event.waiterHandle

/-- `set_or` or `set`, up to the resume of the waiter it also returns; `none`
when `set_or` found the event signalled. -/
def set (object : Object T) (value : T) : Option (Object T × Option CoroutineHandle) :=
  match object with
  | .autoReset event =>
      match event.setOr value with
      | .full => none
      | .stored stored => some (.autoReset stored, none)
      | .resume stored waiter => some (.autoReset stored, some waiter)
  | .singleUse event => some (.singleUse (event.set value).1, (event.set value).2)

/-- What `set_or` does behind its resume; `set` does nothing more. -/
def afterResume : Object T → Object T
  | .autoReset event => .autoReset event.afterResume
  | .singleUse event => .singleUse event

def reset : Object T → Object T
  | .autoReset event => .autoReset event.reset
  | .singleUse event => .singleUse event.reset

def awaitReady : Object T → Bool
  | .autoReset event => event.awaitReady
  | .singleUse event => event.awaitReady

def awaitSuspend (object : Object T) (awaiter : CoroutineHandle) : Bool × Object T :=
  match object with
  | .autoReset event =>
      ((event.awaitSuspend awaiter).1, .autoReset (event.awaitSuspend awaiter).2)
  | .singleUse event =>
      ((event.awaitSuspend awaiter).1, .singleUse (event.awaitSuspend awaiter).2)

def awaitResume : Object T → Option T
  | .autoReset event => event.awaitResume
  | .singleUse event => event.awaitResume

/-- A `set_or` drops its value or hands it to a callback. -/
def Full (object : Object T) : Prop :=
  object.isSingleUse = false ∧ object.signaled = true

instance (object : Object T) : Decidable object.Full :=
  inferInstanceAs (Decidable (_ ∧ _))

@[simp] theorem make_isSingleUse (made : Construction) :
    (make made : Object T).isSingleUse = made.isSingleUse := by
  cases made <;> rfl

@[simp] theorem make_data (made : Construction) : (make made : Object T).data = none := by
  cases made <;> rfl

@[simp] theorem make_signaled (made : Construction) :
    (make made : Object T).signaled = made.initialSignaled := by
  cases made <;> rfl

theorem set_of_full {object : Object T} (full : object.Full) (value : T) :
    object.set value = none := by
  obtain ⟨kind, signaled⟩ := full
  cases object with
  | autoReset event => simp only [set, event.setOr_of_signaled signaled]
  | singleUse => simp [isSingleUse] at kind

theorem set_of_not_full {object : Object T} (takes : ¬ object.Full) (value : T) :
    ∃ stored, object.set value = some (stored, object.waiterHandle) ∧
      stored.isSingleUse = object.isSingleUse ∧ stored.data = some value := by
  cases object with
  | singleUse event => exact ⟨_, rfl, rfl, rfl⟩
  | autoReset event =>
      have clear : event.signaled = false := by
        simpa [Full, isSingleUse, signaled] using takes
      cases waiting : event.waiterHandle with
      | none =>
          refine ⟨.autoReset ⟨true, some value, none⟩, ?_, rfl, rfl⟩
          simp only [set, AutoResetEvent.setOr_of_no_waiter clear waiting, waiterHandle, waiting]
      | some waiter =>
          refine ⟨.autoReset ⟨true, some value, some waiter⟩, ?_, rfl, rfl⟩
          simp only [set, AutoResetEvent.setOr_of_waiter clear waiting, waiterHandle, waiting]

theorem awaitReady_eq (object : Object T) : object.awaitReady = object.signaled := by
  cases object <;> rfl

theorem awaitResume_eq (object : Object T) : object.awaitResume = object.data := by
  cases object <;> rfl

theorem awaitSuspend_of_clear {object : Object T} (clear : object.signaled = false)
    (awaiter : CoroutineHandle) :
    ∃ recorded, object.awaitSuspend awaiter = (true, recorded) ∧
      recorded.isSingleUse = object.isSingleUse ∧ recorded.data = object.data ∧
      recorded.signaled = object.signaled := by
  cases object with
  | autoReset event =>
      have unready : event.signaled = false := clear
      exact ⟨.autoReset { event with waiterHandle := some awaiter },
        by simp [awaitSuspend, AutoResetEvent.awaitSuspend, unready], rfl, rfl, rfl⟩
  | singleUse event =>
      have unready : event.signaled = false := clear
      exact ⟨.singleUse { event with waiterHandle := some awaiter },
        by simp [awaitSuspend, SingleUseEvent.awaitSuspend, unready], rfl, rfl, rfl⟩

end Object

/-- An `await_resume`, with the data it found. -/
structure Passed (Event T : Type) where
  event : Event
  coroutine : CoroutineHandle
  found : Option T
  deriving DecidableEq, Repr

/-- One action of the code on top of the stack; `set` is the `set_or` of an
auto-reset event. -/
inductive Action (Event T : Type) where
  | set (event : Event) (value : T)
  | reset (event : Event)
  | coAwait (event : Event)
  | start (coroutine : CoroutineHandle)
  | finish
  deriving DecidableEq, Repr

/-- `past` holds the actions taken, latest first, and `passed` the
`await_resume`s. The program has neither. -/
structure State (Event T : Type) where
  objects : Event → Object T
  status : CoroutineHandle → Status Event
  stack : List (Frame Event Empty)
  past : List (Action Event T)
  passed : List (Passed Event T)

variable {Event T : Type}

namespace State

def initial (made : Event → Construction) : State Event T where
  objects event := .make (made event)
  status _ := .unstarted
  stack := []
  past := []
  passed := []

def current? (state : State Event T) : Option CoroutineHandle :=
  state.stack.head?.bind Frame.coroutine?

/-- `await_resume` is `noexcept`: without data it ends the process. -/
def Terminated (state : State Event T) : Prop :=
  ∃ passed ∈ state.passed, passed.found = none

instance (state : State Event T) : Decidable state.Terminated :=
  decidable_of_iff (state.passed.any (fun passed => passed.found.isNone) = true)
    (by simp [Terminated])

def pass (state : State Event T) (event : Event) (coroutine : CoroutineHandle) : State Event T :=
  { state with
    passed := ⟨event, coroutine, (state.objects event).awaitResume⟩ :: state.passed }

variable [DecidableEq Event]

/-- Return from the top frame, and from the `set_or` or `set` it may be in. -/
def leave (state : State Event T) : State Event T :=
  match state.stack with
  | .resumed event _ :: rest =>
      { state with
        stack := rest
        objects := Function.update state.objects event (state.objects event).afterResume }
  | _ :: rest => { state with stack := rest }
  | [] => state

/-- `waiter_handle.resume()` in the `set` of `event`. -/
def resume (state : State Event T) (event : Event) (waiter : CoroutineHandle) :
    Option (State Event T) :=
  match state.status waiter with
  | .suspended awaited =>
      some (pass { state with
        status := Function.update state.status waiter .running
        stack := .resumed event waiter :: state.stack } awaited waiter)
  | _ => none

def store (state : State Event T) (event : Event) (stored : Object T) : State Event T :=
  { state with objects := Function.update state.objects event stored }

def suspend (state : State Event T) (event : Event) (recorded : Object T)
    (coroutine : CoroutineHandle) : State Event T :=
  leave { state.store event recorded with
    status := Function.update state.status coroutine (.suspended event) }

end State

variable [DecidableEq Event]

def set (state : State Event T) (event : Event) (value : T) : Option (State Event T) :=
  match (state.objects event).set value with
  | none => some state
  | some (stored, none) => some (state.store event stored)
  | some (stored, some waiter) => (state.store event stored).resume event waiter

def coAwait (state : State Event T) (event : Event) (coroutine : CoroutineHandle) :
    State Event T :=
  if (state.objects event).awaitReady then
    state.pass event coroutine
  else
    match (state.objects event).awaitSuspend coroutine with
    | (true, recorded) => state.suspend event recorded coroutine
    | (false, _) => state.pass event coroutine

def act (state : State Event T) : Action Event T → Option (State Event T)
  | .set event value => set state event value
  | .reset event => some (state.store event (state.objects event).reset)
  | .coAwait event => state.current?.map (coAwait state event)
  | .start coroutine =>
      if state.status coroutine = .unstarted then
        some { state with
          status := Function.update state.status coroutine .running
          stack := .called coroutine :: state.stack }
      else none
  | .finish =>
      state.current?.map fun coroutine =>
        State.leave { state with status := Function.update state.status coroutine .finished }

def step (state : State Event T) (action : Action Event T) : Option (State Event T) :=
  if state.Terminated then none
  else (act state action).map fun next => { next with past := action :: state.past }

/-- The steps, one constructor for each branch of the program. -/
inductive Move (state : State Event T) : Action Event T → State Event T → Prop where
  | refused {event value} : (state.objects event).Full → Move state (.set event value) state
  | stored {event value stored} :
      ¬ (state.objects event).Full → (state.objects event).waiterHandle = none →
      stored.isSingleUse = (state.objects event).isSingleUse → stored.data = some value →
      Move state (.set event value) (state.store event stored)
  | resumed {event value stored waiter awaited} :
      ¬ (state.objects event).Full → (state.objects event).waiterHandle = some waiter →
      stored.isSingleUse = (state.objects event).isSingleUse → stored.data = some value →
      state.status waiter = .suspended awaited →
      Move state (.set event value)
        (State.pass { state.store event stored with
          status := Function.update state.status waiter .running
          stack := .resumed event waiter :: state.stack } awaited waiter)
  | reset {event} :
      Move state (.reset event) (state.store event (state.objects event).reset)
  | passed {event coroutine} :
      state.current? = some coroutine → (state.objects event).signaled = true →
      Move state (.coAwait event) (state.pass event coroutine)
  | suspended {event coroutine recorded} :
      state.current? = some coroutine → (state.objects event).signaled = false →
      recorded.isSingleUse = (state.objects event).isSingleUse →
      recorded.data = (state.objects event).data →
      recorded.signaled = (state.objects event).signaled →
      Move state (.coAwait event) (state.suspend event recorded coroutine)
  | started {coroutine} :
      state.status coroutine = .unstarted →
      Move state (.start coroutine)
        { state with
          status := Function.update state.status coroutine .running
          stack := .called coroutine :: state.stack }
  | finished {coroutine} :
      state.current? = some coroutine →
      Move state .finish
        (State.leave { state with status := Function.update state.status coroutine .finished })

theorem set_move {state next : State Event T} {event : Event} {value : T}
    (acted : set state event value = some next) : Move state (.set event value) next := by
  by_cases full : (state.objects event).Full
  · simp only [set, Object.set_of_full full, Option.some.injEq] at acted
    exact acted ▸ .refused full
  · obtain ⟨stored, taken, kind, data⟩ := Object.set_of_not_full full value
    cases waiting : (state.objects event).waiterHandle with
    | none =>
        simp only [set, taken, waiting, Option.some.injEq] at acted
        exact acted ▸ .stored full waiting kind data
    | some waiter =>
        simp only [set, taken, waiting, State.resume] at acted
        cases where_ : state.status waiter with
        | suspended awaited =>
            simp only [State.store, where_, Option.some.injEq] at acted
            exact acted ▸ .resumed full waiting kind data where_
        | unstarted | running | finished => simp [State.store, where_] at acted

theorem coAwait_move {state : State Event T} {coroutine : CoroutineHandle}
    (current : state.current? = some coroutine) (event : Event) :
    Move state (.coAwait event) (coAwait state event coroutine) := by
  cases ready : (state.objects event).signaled with
  | true =>
      simp only [coAwait, Object.awaitReady_eq, ready, if_true]
      exact .passed current ready
  | false =>
      obtain ⟨recorded, suspends, kind, data, signaled⟩ :=
        Object.awaitSuspend_of_clear ready coroutine
      simp only [coAwait, Object.awaitReady_eq, ready, Bool.false_eq_true, if_false, suspends]
      exact .suspended current ready kind data signaled

theorem act_move {state next : State Event T} {action : Action Event T}
    (acted : act state action = some next) : Move state action next := by
  cases action with
  | set event value => exact set_move acted
  | reset event =>
      cases acted
      exact .reset
  | coAwait event =>
      obtain ⟨coroutine, current, rfl⟩ := Option.map_eq_some_iff.mp acted
      exact coAwait_move current event
  | start coroutine =>
      by_cases unstarted : state.status coroutine = .unstarted
      · simp only [act, unstarted, if_true, Option.some.injEq] at acted
        exact acted ▸ .started unstarted
      · simp only [act, unstarted, if_false, reduceCtorEq] at acted
  | finish =>
      obtain ⟨coroutine, current, rfl⟩ := Option.map_eq_some_iff.mp acted
      exact .finished current

/-- A step is a move of a process that goes on, and is remembered. -/
theorem step_inv {state next : State Event T} {action : Action Event T}
    (stepped : step state action = some next) :
    ¬ state.Terminated ∧ ∃ moved, Move state action moved ∧
      next = { moved with past := action :: state.past } := by
  unfold step at stepped
  split at stepped
  · cases stepped
  · rename_i alive
    obtain ⟨moved, acted, rfl⟩ := Option.map_eq_some_iff.mp stepped
    exact ⟨alive, moved, act_move acted, rfl⟩

end UcxPlayground.Async.Objects
