import Mathlib.Logic.Basic

/-!
# The event class

`auto_reset_event<T>` of `src/async/auto_reset_event.hpp` with the members of
its awaiter. `set_or` hands control to a coroutine in the middle of its body,
so it is split there: `setOr` runs up to the `resume`, `afterResume` is what
remains once the coroutine has suspended or finished.
-/

set_option autoImplicit false

namespace UcxPlayground.Async

/-- A `std::coroutine_handle<>`, named by the coroutine it refers to. -/
abbrev CoroutineHandle := Nat

structure AutoResetEvent (T : Type) where
  signaled : Bool
  data : Option T
  waiterHandle : Option CoroutineHandle
  deriving DecidableEq, Repr

/-- Where control is when `set_or` has run as far as it can on its own: it found
`signaled_` set, and only calls `full_callback`, if any; or it stored the value,
and either nobody waits or `waiter_handle.resume()` is about to run. -/
inductive SetOr (T : Type) where
  | full
  | stored (event : AutoResetEvent T)
  | resume (event : AutoResetEvent T) (waiter : CoroutineHandle)
  deriving DecidableEq, Repr

namespace AutoResetEvent

variable {T : Type}

def make (initialSignaled : Bool) : AutoResetEvent T :=
  { signaled := initialSignaled, data := none, waiterHandle := none }

def fresh : AutoResetEvent T := make false

def setOr (event : AutoResetEvent T) (data : T) : SetOr T :=
  if event.signaled then
    .full
  else
    let event := { event with data := some data, signaled := true }
    match event.waiterHandle with
    | some waiter => .resume event waiter
    | none => .stored event

/-- The tail of `set_or` behind `waiter_handle.resume()`. -/
def afterResume (event : AutoResetEvent T) : AutoResetEvent T :=
  { event with waiterHandle := none, signaled := false }

def reset (event : AutoResetEvent T) : AutoResetEvent T :=
  { event with signaled := false }

def awaitReady (event : AutoResetEvent T) : Bool :=
  event.signaled

/-- The returned flag says whether the awaiter stays suspended. -/
def awaitSuspend (event : AutoResetEvent T) (awaiter : CoroutineHandle) :
    Bool × AutoResetEvent T :=
  if !event.signaled then
    (true, { event with waiterHandle := some awaiter })
  else
    (!event.signaled, event)

/-- `data.value()`; `none` is the call on an empty `optional`. -/
def awaitResume (event : AutoResetEvent T) : Option T :=
  event.data

@[simp] theorem fresh_signaled : (fresh : AutoResetEvent T).signaled = false := rfl

@[simp] theorem fresh_data : (fresh : AutoResetEvent T).data = none := rfl

@[simp] theorem fresh_waiterHandle : (fresh : AutoResetEvent T).waiterHandle = none := rfl

@[simp] theorem afterResume_signaled (event : AutoResetEvent T) :
    event.afterResume.signaled = false := rfl

@[simp] theorem afterResume_data (event : AutoResetEvent T) :
    event.afterResume.data = event.data := rfl

@[simp] theorem afterResume_waiterHandle (event : AutoResetEvent T) :
    event.afterResume.waiterHandle = none := rfl

theorem setOr_eq_full_iff {event : AutoResetEvent T} {data : T} :
    event.setOr data = .full ↔ event.signaled = true := by
  unfold setOr
  cases event.signaled <;> cases event.waiterHandle <;> simp

theorem setOr_of_signaled {event : AutoResetEvent T} (signaled : event.signaled = true)
    (data : T) : event.setOr data = .full :=
  setOr_eq_full_iff.mpr signaled

theorem setOr_of_no_waiter {event : AutoResetEvent T} (clear : event.signaled = false)
    (alone : event.waiterHandle = none) (data : T) :
    event.setOr data = .stored ⟨true, some data, none⟩ := by
  simp [setOr, clear, alone]

theorem setOr_of_waiter {event : AutoResetEvent T} {waiter : CoroutineHandle}
    (clear : event.signaled = false) (waiting : event.waiterHandle = some waiter) (data : T) :
    event.setOr data = .resume ⟨true, some data, some waiter⟩ waiter := by
  simp [setOr, clear, waiting]

/-- Single threaded, `await_suspend` is only reached after `await_ready`
answered false, and then it always records the awaiter. -/
theorem awaitSuspend_of_not_ready {event : AutoResetEvent T} (unready : event.awaitReady = false)
    (awaiter : CoroutineHandle) :
    event.awaitSuspend awaiter = (true, { event with waiterHandle := some awaiter }) := by
  have clear : event.signaled = false := unready
  simp [awaitSuspend, clear]

end AutoResetEvent

end UcxPlayground.Async
