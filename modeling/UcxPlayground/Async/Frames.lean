import UcxPlayground.Async.Invariants

/-!
# Native frames and notes

The runtime pushes and pops the frames of ordinary functions, and records the
program's own effects, only where an action says so.
-/

set_option autoImplicit false

namespace UcxPlayground.Async

variable {Event T Tag : Type}

def Frame.tag? : Frame Event Tag → Option Tag
  | .native tag => some tag
  | _ => none

def Observation.tag? : Observation Event T Tag → Option Tag
  | .note tag => some tag
  | _ => none

def natives (stack : List (Frame Event Tag)) : List Tag :=
  stack.filterMap Frame.tag?

def notes (trace : List (Observation Event T Tag)) : List Tag :=
  trace.filterMap Observation.tag?

section Lists

variable {stack : List (Frame Event Tag)} {trace : List (Observation Event T Tag)}

@[simp] theorem natives_native {tag : Tag} :
    natives (.native tag :: stack) = tag :: natives stack := rfl

theorem natives_cons_of_coroutine {frame : Frame Event Tag} {coroutine : CoroutineHandle}
    (executes : frame.coroutine? = some coroutine) : natives (frame :: stack) = natives stack := by
  cases frame with
  | native => simp [Frame.coroutine?] at executes
  | _ => rfl

@[simp] theorem notes_note {tag : Tag} : notes (.note tag :: trace) = tag :: notes trace := rfl

end Lists

variable {state next : State Event T Tag} {action : Action Event T Tag}

theorem natives_tail_of_current {coroutine : CoroutineHandle}
    (current : state.current? = some coroutine) :
    natives state.stack.tail = natives state.stack := by
  obtain ⟨frame, rest, top, executes⟩ := State.current?_eq_some current
  rw [top, natives_cons_of_coroutine executes, List.tail_cons]

variable [DecidableEq Event]

theorem step_natives (stepped : step state action = some next) :
    natives next.stack = natives state.stack ∨
      (∃ tag, (action = .call tag ∨ ∃ event value, action = .setOr event value (some tag)) ∧
        natives next.stack = tag :: natives state.stack) ∨
      (action = .ret ∧ ∃ tag rest, state.stack = .native tag :: rest ∧ next.stack = rest) := by
  cases step_move stepped with
  | @refused event value fullCallback signaled =>
      cases fullCallback with
      | none => exact .inl rfl
      | some tag => exact .inr (.inl ⟨tag, .inr ⟨event, value, rfl⟩, rfl⟩)
  | stored | resumed | passed | started | noted => exact .inl rfl
  | suspended current =>
      refine .inl ?_
      rw [State.suspend, State.leave_stack]
      exact natives_tail_of_current current
  | finished current =>
      refine .inl ?_
      rw [State.finish, State.leave_stack]
      exact natives_tail_of_current current
  | @called tag => exact .inr (.inl ⟨tag, .inl rfl, rfl⟩)
  | @returned tag rest top => exact .inr (.inr ⟨rfl, tag, rest, top, rfl⟩)

theorem step_notes (stepped : step state action = some next) :
    notes next.trace = notes state.trace ∨
      ∃ tag, action = .note tag ∧ notes next.trace = tag :: notes state.trace := by
  cases step_move stepped with
  | refused | stored | resumed | passed | started | called | returned => exact .inl rfl
  | suspended =>
      rw [State.suspend_trace]
      exact .inl rfl
  | finished =>
      rw [State.finish_trace]
      exact .inl rfl
  | @noted tag => exact .inr ⟨tag, rfl, rfl⟩

end UcxPlayground.Async
