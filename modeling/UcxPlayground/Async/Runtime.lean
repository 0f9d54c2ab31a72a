import Mathlib.Logic.Function.Basic
import UcxPlayground.Async.AutoResetEvent
import UcxPlayground.Transition.Run

/-!
# Coroutines, events and nested resumes

One thread runs coroutines over any number of events. Control is a stack: a
`set_or` that resumes its waiter stays on it, with the rest of its body still
to run, until the resumed coroutine suspends or finishes. Coroutine bodies are
arbitrary: whatever is on top of the stack may take any of the actions next.

`serial` and `trace` record the history. The program does not have them.
-/

set_option autoImplicit false

namespace UcxPlayground.Async

/-- Where a coroutine is. `running` includes the coroutines below the top of
the stack, which wait for a call of theirs to return. -/
inductive Status (Event : Type) where
  | unstarted
  | running
  | suspended (event : Event)
  | finished
  deriving DecidableEq, Repr

def Status.event? {Event : Type} : Status Event → Option Event
  | .suspended event => some event
  | _ => none

/-- What is on the call stack: a `set_or` inside `waiter_handle.resume()`, a
coroutine function that has not suspended since it was called, or an ordinary
function, such as a `full_callback`. -/
inductive Frame (Event Tag : Type) where
  | resumed (event : Event) (coroutine : CoroutineHandle)
  | called (coroutine : CoroutineHandle)
  | native (tag : Tag)
  deriving DecidableEq, Repr

/-- What happened, as a history records it. A `set_or` is accepted when it found
`signaled_` false, and `serial` counts these on its event; otherwise it is
refused, and hands the value to a callback or drops it. `suspended` is an
`await_suspend` that returned true, `resumed` a `resume()` with the status its
coroutine had at that moment, and `passed` an `await_resume`, which is
`immediate` when `await_ready` had answered true. -/
inductive Observation (Event T Tag : Type) where
  | accepted (event : Event) (serial : Nat) (value : T)
  | refused (event : Event) (value : T) (fullCallback : Option Tag)
  | suspended (event : Event) (coroutine : CoroutineHandle)
  | resumed (event : Event) (coroutine : CoroutineHandle) (status : Status Event)
  | passed (event : Event) (coroutine : CoroutineHandle) (serial : Nat) (value : Option T)
      (immediate : Bool)
  | note (tag : Tag)
  deriving DecidableEq, Repr

def Observation.event? {Event T Tag : Type} : Observation Event T Tag → Option Event
  | .accepted event _ _ => some event
  | .refused event _ _ => some event
  | .suspended event _ => some event
  | .resumed event _ _ => some event
  | .passed event _ _ _ _ => some event
  | .note _ => none

structure State (Event T Tag : Type) where
  events : Event → AutoResetEvent T
  status : CoroutineHandle → Status Event
  stack : List (Frame Event Tag)
  serial : Event → Nat
  trace : List (Observation Event T Tag)

/-- One action of the code on top of the stack. A `task` never suspends when it
is called or when it ends. -/
inductive Action (Event T Tag : Type) where
  | setOr (event : Event) (value : T) (fullCallback : Option Tag)
  | coAwait (event : Event)
  | start (coroutine : CoroutineHandle)
  | finish
  | call (tag : Tag)
  | ret
  | note (tag : Tag)
  deriving DecidableEq, Repr

variable {Event T Tag : Type}

@[simp] theorem Status.event?_suspended (event : Event) :
    (Status.suspended event).event? = some event := rfl

@[simp] theorem Status.event?_running : (Status.running : Status Event).event? = none := rfl

@[simp] theorem Status.event?_unstarted : (Status.unstarted : Status Event).event? = none := rfl

@[simp] theorem Status.event?_finished : (Status.finished : Status Event).event? = none := rfl

variable [DecidableEq Event]

def Frame.coroutine? : Frame Event Tag → Option CoroutineHandle
  | .resumed _ coroutine => some coroutine
  | .called coroutine => some coroutine
  | .native _ => none

def Frame.event? : Frame Event Tag → Option Event
  | .resumed event _ => some event
  | .called _ => none
  | .native _ => none

def coroutines (stack : List (Frame Event Tag)) : List CoroutineHandle :=
  stack.filterMap Frame.coroutine?

def deliveries (stack : List (Frame Event Tag)) : List Event :=
  stack.filterMap Frame.event?

namespace State

def initial : State Event T Tag where
  events _ := .fresh
  status _ := .unstarted
  stack := []
  serial _ := 0
  trace := []

def current? (state : State Event T Tag) : Option CoroutineHandle :=
  state.stack.head?.bind Frame.coroutine?

def Resuming (state : State Event T Tag) (event : Event) : Prop :=
  event ∈ deliveries state.stack

instance (state : State Event T Tag) (event : Event) : Decidable (state.Resuming event) :=
  inferInstanceAs (Decidable (event ∈ deliveries state.stack))

/-- Return from the top frame. When that frame is a `set_or`, its tail runs. -/
def leave (state : State Event T Tag) : State Event T Tag :=
  match state.stack with
  | .resumed event _ :: rest =>
      { state with
        stack := rest
        events := Function.update state.events event (state.events event).afterResume }
  | _ :: rest => { state with stack := rest }
  | [] => state

def refuse (state : State Event T Tag) (event : Event) (value : T)
    (fullCallback : Option Tag) : State Event T Tag :=
  { state with
    stack := (fullCallback.map Frame.native).toList ++ state.stack
    trace := .refused event value fullCallback :: state.trace }

def accept (state : State Event T Tag) (event : Event) (stored : AutoResetEvent T)
    (value : T) : State Event T Tag :=
  { state with
    events := Function.update state.events event stored
    serial := Function.update state.serial event (state.serial event + 1)
    trace := .accepted event (state.serial event + 1) value :: state.trace }

def pass (state : State Event T Tag) (event : Event) (coroutine : CoroutineHandle)
    (immediate : Bool) : State Event T Tag :=
  { state with
    trace := .passed event coroutine (state.serial event) (state.events event).awaitResume
      immediate :: state.trace }

/-- `resume()`: the waiter goes on, first through its `await_resume`. The
handle a `set_or` resumes was recorded by an `await_suspend` on its own event,
so that is the event the awaiter reads. -/
def resume (state : State Event T Tag) (event : Event) (waiter : CoroutineHandle) :
    State Event T Tag :=
  pass { state with
    status := Function.update state.status waiter .running
    stack := .resumed event waiter :: state.stack
    trace := .resumed event waiter (state.status waiter) :: state.trace } event waiter false

def record (state : State Event T Tag) (event : Event) (recorded : AutoResetEvent T)
    (coroutine : CoroutineHandle) : State Event T Tag :=
  { state with
    events := Function.update state.events event recorded
    status := Function.update state.status coroutine (.suspended event)
    trace := .suspended event coroutine :: state.trace }

def suspend (state : State Event T Tag) (event : Event) (recorded : AutoResetEvent T)
    (coroutine : CoroutineHandle) : State Event T Tag :=
  (state.record event recorded coroutine).leave

def finish (state : State Event T Tag) (coroutine : CoroutineHandle) : State Event T Tag :=
  leave { state with status := Function.update state.status coroutine .finished }

end State

def setOr (state : State Event T Tag) (event : Event) (value : T)
    (fullCallback : Option Tag) : State Event T Tag :=
  match (state.events event).setOr value with
  | .full => state.refuse event value fullCallback
  | .stored stored => state.accept event stored value
  | .resume stored waiter => (state.accept event stored value).resume event waiter

def coAwait (state : State Event T Tag) (event : Event) (coroutine : CoroutineHandle) :
    State Event T Tag :=
  if (state.events event).awaitReady then
    state.pass event coroutine true
  else
    match (state.events event).awaitSuspend coroutine with
    | (true, recorded) => state.suspend event recorded coroutine
    | (false, _) => state.pass event coroutine true

def step (state : State Event T Tag) : Action Event T Tag → Option (State Event T Tag)
  | .setOr event value fullCallback => some (setOr state event value fullCallback)
  | .coAwait event => state.current?.map (coAwait state event)
  | .start coroutine =>
      if state.status coroutine = .unstarted then
        some { state with
          status := Function.update state.status coroutine .running
          stack := .called coroutine :: state.stack }
      else none
  | .finish => state.current?.map state.finish
  | .call tag => some { state with stack := .native tag :: state.stack }
  | .ret =>
      match state.stack with
      | .native _ :: rest => some { state with stack := rest }
      | _ => none
  | .note tag => some { state with trace := .note tag :: state.trace }

end UcxPlayground.Async
