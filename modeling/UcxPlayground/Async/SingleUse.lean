import Mathlib.Data.List.Nodup
import Mathlib.Logic.Function.Basic
import UcxPlayground.Async.Runtime

/-!
# Single-use events and tasks

`single_use_event<T>` of `src/async/single_use_event.hpp` and `ucp_task<T>` of
`src/async/ucp_task.hpp`. Both keep the handle of their waiter when they resume
it. `Awaitable` is what they have in common: the members that a `co_await` and a
completion call, and where the handle lies.
-/

set_option autoImplicit false

namespace UcxPlayground.Async

open Transition

structure SingleUseEvent (T : Type) where
  signaled : Bool
  data : Option T
  waiterHandle : Option CoroutineHandle
  deriving DecidableEq, Repr

namespace SingleUseEvent

variable {T : Type}

def make (initialSignaled : Bool) : SingleUseEvent T :=
  { signaled := initialSignaled, data := none, waiterHandle := none }

/-- The event, and the waiter that is resumed. -/
def set (event : SingleUseEvent T) (data : T) : SingleUseEvent T × Option CoroutineHandle :=
  ({ event with data := some data, signaled := true }, event.waiterHandle)

def reset (event : SingleUseEvent T) : SingleUseEvent T :=
  { event with signaled := false }

def awaitReady (event : SingleUseEvent T) : Bool :=
  event.signaled

def awaitSuspend (event : SingleUseEvent T) (awaiter : CoroutineHandle) :
    Bool × SingleUseEvent T :=
  if !event.signaled then
    (true, { event with waiterHandle := some awaiter })
  else
    (!event.signaled, event)

/-- `data.value()`; `none` is the call on an empty `optional`. -/
def awaitResume (event : SingleUseEvent T) : Option T :=
  event.data

end SingleUseEvent

structure UcpTask (T : Type) where
  handle : Option CoroutineHandle
  result : Option T
  deriving DecidableEq, Repr

namespace UcpTask

variable {T : Type}

def make : UcpTask T :=
  { handle := none, result := none }

def registerCallback (task : UcpTask T) (userData : T) : UcpTask T × Option CoroutineHandle :=
  ({ task with result := some userData }, task.handle)

def awaitReady (task : UcpTask T) : Bool :=
  task.result.isSome

/-- `await_suspend` returns `void`: the awaiter stays suspended. -/
def awaitSuspend (task : UcpTask T) (awaiter : CoroutineHandle) : Bool × UcpTask T :=
  (true, { task with handle := some awaiter })

end UcpTask

/-- An object with one waiter, and that it never forgets the waiter by itself.
`reset` is absent where the type has no such member. -/
structure Awaitable (Object T : Type) where
  waiter : Object → Option CoroutineHandle
  awaitReady : Object → Bool
  awaitSuspend : Object → CoroutineHandle → Bool × Object
  set : Object → T → Object × Option CoroutineHandle
  reset : Option (Object → Object)
  set_resumes : ∀ object value, (set object value).2 = waiter object
  set_waiter : ∀ object value, waiter (set object value).1 = waiter object
  suspend_waiter : ∀ object awaiter, awaitReady object = false →
    (awaitSuspend object awaiter).1 = true ∧
      waiter (awaitSuspend object awaiter).2 = some awaiter
  reset_waiter : ∀ resets ∈ reset, ∀ object, waiter (resets object) = waiter object

def singleUseEvent (T : Type) : Awaitable (SingleUseEvent T) T where
  waiter := SingleUseEvent.waiterHandle
  awaitReady := SingleUseEvent.awaitReady
  awaitSuspend := SingleUseEvent.awaitSuspend
  set := SingleUseEvent.set
  reset := some SingleUseEvent.reset
  set_resumes _ _ := rfl
  set_waiter _ _ := rfl
  suspend_waiter event awaiter unready := by
    have clear : event.signaled = false := unready
    simp [SingleUseEvent.awaitSuspend, clear]
  reset_waiter := by simp [SingleUseEvent.reset]

def ucpTask (T : Type) : Awaitable (UcpTask T) T where
  waiter := UcpTask.handle
  awaitReady := UcpTask.awaitReady
  awaitSuspend := UcpTask.awaitSuspend
  set := UcpTask.registerCallback
  reset := none
  set_resumes _ _ := rfl
  set_waiter _ _ := rfl
  suspend_waiter _ _ _ := ⟨rfl, rfl⟩
  reset_waiter := by simp

namespace Awaitable

/-- Where a coroutine is suspended: on the object, or on something else. -/
inductive Place where
  | here
  | elsewhere
  deriving DecidableEq, Repr

/-- What the object did: an `await_suspend` that kept its coroutine suspended,
or a `resume()` with the status its coroutine had at that moment. -/
inductive Observation where
  | suspended (coroutine : CoroutineHandle)
  | resumed (coroutine : CoroutineHandle) (status : Status Place)
  deriving DecidableEq, Repr

/-- `stack` holds the coroutines that run, each called or resumed by the one
below or by ordinary code. The program does not have `trace`. -/
structure State (Object : Type) where
  object : Object
  status : CoroutineHandle → Status Place
  stack : List CoroutineHandle
  trace : List Observation

/-- `coAwait` and `finish` are actions of the running coroutine, as is a
suspension on some other object, which `wake` ends. -/
inductive Action (T : Type) where
  | start (coroutine : CoroutineHandle)
  | coAwait
  | set (value : T)
  | reset
  | suspendElsewhere
  | wake (coroutine : CoroutineHandle)
  | finish
  deriving DecidableEq, Repr

variable {Object T : Type}

namespace State

def initial (object : Object) : State Object where
  object := object
  status _ := .unstarted
  stack := []
  trace := []

def enter (state : State Object) (coroutine : CoroutineHandle) : State Object :=
  { state with
    status := Function.update state.status coroutine .running
    stack := coroutine :: state.stack }

/-- The running coroutine suspends or ends, and control goes back below. -/
def leave (state : State Object) (coroutine : CoroutineHandle) (status : Status Place) :
    State Object :=
  { state with
    status := Function.update state.status coroutine status
    stack := state.stack.tail }

def resume (state : State Object) (waiter : CoroutineHandle) : State Object :=
  { state with trace := .resumed waiter (state.status waiter) :: state.trace }.enter waiter

end State

def coAwait (awaitable : Awaitable Object T) (state : State Object)
    (coroutine : CoroutineHandle) : State Object :=
  if awaitable.awaitReady state.object then state
  else
    match awaitable.awaitSuspend state.object coroutine with
    | (true, recorded) =>
        { state with
          object := recorded
          trace := .suspended coroutine :: state.trace }.leave coroutine (.suspended .here)
    | (false, _) => state

def complete (awaitable : Awaitable Object T) (state : State Object) (value : T) :
    State Object :=
  match awaitable.set state.object value with
  | (stored, some waiter) => { state with object := stored }.resume waiter
  | (stored, none) => { state with object := stored }

def step (awaitable : Awaitable Object T) (state : State Object) :
    Action T → Option (State Object)
  | .start coroutine =>
      if state.status coroutine = .unstarted then some (state.enter coroutine) else none
  | .coAwait => state.stack.head?.map (coAwait awaitable state)
  | .set value => some (complete awaitable state value)
  | .reset => awaitable.reset.map fun resets => { state with object := resets state.object }
  | .suspendElsewhere =>
      state.stack.head?.map fun coroutine => state.leave coroutine (.suspended .elsewhere)
  | .wake coroutine =>
      if state.status coroutine = .suspended .elsewhere then some (state.enter coroutine)
      else none
  | .finish => state.stack.head?.map fun coroutine => state.leave coroutine .finished

def suspensions (trace : List Observation) (coroutine : CoroutineHandle) : Nat :=
  trace.countP fun
    | .suspended other => other = coroutine
    | .resumed _ _ => false

def resumes (trace : List Observation) (coroutine : CoroutineHandle) : Nat :=
  trace.countP fun
    | .suspended _ => false
    | .resumed other _ => other = coroutine

/-- Every `resume()` was on a coroutine suspended on the object at that moment,
and no suspension was resumed twice. -/
def Safe (trace : List Observation) : Prop :=
  (∀ coroutine status, .resumed coroutine status ∈ trace → status = .suspended .here) ∧
    ∀ coroutine, resumes trace coroutine ≤ suspensions trace coroutine

/-- A `resume()` was made, and no coroutine has suspended on the object since. -/
def Spent : List Observation → Prop
  | .resumed _ _ :: _ => True
  | _ => False

instance : ∀ trace, Decidable (Spent trace)
  | [] => inferInstanceAs (Decidable False)
  | .suspended _ :: _ => inferInstanceAs (Decidable False)
  | .resumed _ _ :: _ => inferInstanceAs (Decidable True)

/-- A completion is the first one since a coroutine last suspended on the
object, or no coroutine has suspended on it yet. -/
def FirstCompletion (state : State Object) : Action T → Prop
  | .set _ => ¬ Spent state.trace
  | _ => True

instance (state : State Object) : ∀ action : Action T, Decidable (FirstCompletion state action)
  | .set _ => inferInstanceAs (Decidable (¬ _))
  | .start _ => inferInstanceAs (Decidable True)
  | .coAwait => inferInstanceAs (Decidable True)
  | .reset => inferInstanceAs (Decidable True)
  | .suspendElsewhere => inferInstanceAs (Decidable True)
  | .wake _ => inferInstanceAs (Decidable True)
  | .finish => inferInstanceAs (Decidable True)

end Awaitable

end UcxPlayground.Async
