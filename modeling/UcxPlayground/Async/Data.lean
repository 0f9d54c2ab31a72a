import UcxPlayground.Async.Slot

/-!
# The data of an event

A signalled event holds the value its latest accepted `set_or` stored, and
every `await_resume` returns the accepted value of the signal it consumes.
-/

set_option autoImplicit false

namespace UcxPlayground.Async

open Transition

variable {Event T Tag : Type}

def Observation.Returns (event : Event) (value : T) : Observation Event T Tag → Prop
  | .passed other _ _ returned _ => other = event ∧ returned = some value
  | _ => False

def Observation.HandsBack (event : Event) (value : T) : Observation Event T Tag → Prop
  | .refused other given fullCallback =>
      other = event ∧ given = value ∧ fullCallback.isSome = true
  | _ => False

instance [DecidableEq Event] [DecidableEq T] (event : Event) (value : T)
    (observation : Observation Event T Tag) : Decidable (observation.Returns event value) := by
  unfold Observation.Returns
  split <;> infer_instance

instance [DecidableEq Event] [DecidableEq T] (event : Event) (value : T)
    (observation : Observation Event T Tag) : Decidable (observation.HandsBack event value) := by
  unfold Observation.HandsBack
  split <;> infer_instance

theorem Observation.returns_cases {event : Event} {value : T}
    (observation : Observation Event T Tag) (returns : observation.Returns event value) :
    ∃ coroutine serial immediate,
      observation = .passed event coroutine serial (some value) immediate := by
  cases observation with
  | passed other coroutine serial returned immediate =>
      obtain ⟨rfl, rfl⟩ := returns
      exact ⟨coroutine, serial, immediate, rfl⟩
  | _ => exact False.elim returns

theorem Observation.handsBack_cases {event : Event} {value : T}
    (observation : Observation Event T Tag) (handsBack : observation.HandsBack event value) :
    ∃ fullCallback, observation = .refused event value (some fullCallback) := by
  cases observation with
  | refused other refused fullCallback =>
      obtain ⟨rfl, rfl, given⟩ := handsBack
      obtain ⟨tag, rfl⟩ := Option.isSome_iff_exists.mp given
      exact ⟨tag, rfl⟩
  | _ => exact False.elim handsBack

namespace Slot

structure Loaded (event : Event) (slot : Slot Event T Tag) : Prop where
  held : slot.event.signaled = true → ∃ value, slot.event.data = some value ∧
    .accepted event slot.serial value ∈ slot.history
  returned : ∀ {coroutine serial value immediate},
    .passed event coroutine serial value immediate ∈ slot.history →
    ∃ accepted, value = some accepted ∧ .accepted event serial accepted ∈ slot.history

variable {event : Event} {action : Action Event T Tag} {slot next : Slot Event T Tag}

theorem Loaded.step (loaded : slot.Loaded event) (move : SlotMove event action slot next) :
    next.Loaded event := by
  cases move with
  | unchanged => exact loaded
  | refused signaled =>
      refine ⟨fun _ => ?_, fun member => ?_⟩
      · obtain ⟨value, data, accepted⟩ := loaded.held signaled
        exact ⟨value, data, List.mem_cons_of_mem _ accepted⟩
      · obtain ⟨accepted, same, observed⟩ := loaded.returned (by simpa using member)
        exact ⟨accepted, same, List.mem_cons_of_mem _ observed⟩
  | @stored _ value =>
      refine ⟨fun _ => ⟨value, rfl, List.mem_cons_self⟩, fun member => ?_⟩
      obtain ⟨accepted, same, observed⟩ := loaded.returned (by simpa using member)
      exact ⟨accepted, same, List.mem_cons_of_mem _ observed⟩
  | @delivered _ value =>
      refine ⟨fun _ => ⟨value, rfl, by simp⟩, fun {coroutine serial returned immediate} member => ?_⟩
      rcases List.mem_cons.mp member with first | earlier
      · cases first
        exact ⟨value, rfl, by simp⟩
      · obtain ⟨accepted, same, observed⟩ := loaded.returned (by simpa using earlier)
        exact ⟨accepted, same, by simp [observed]⟩
  | passed signaled =>
      obtain ⟨value, data, accepted⟩ := loaded.held signaled
      refine ⟨fun _ => ⟨value, data, List.mem_cons_of_mem _ accepted⟩,
        fun {coroutine serial returned immediate} member => ?_⟩
      rcases List.mem_cons.mp member with first | earlier
      · cases first
        exact ⟨value, data, List.mem_cons_of_mem _ accepted⟩
      · obtain ⟨accepted, same, observed⟩ := loaded.returned earlier
        exact ⟨accepted, same, List.mem_cons_of_mem _ observed⟩
  | suspended clear =>
      refine ⟨fun signaled => by simp [clear] at signaled, fun member => ?_⟩
      obtain ⟨accepted, same, observed⟩ := loaded.returned (by simpa using member)
      exact ⟨accepted, same, List.mem_cons_of_mem _ observed⟩
  | left => exact ⟨fun signaled => by simp at signaled, loaded.returned⟩

theorem Loaded.initial [DecidableEq Event] (event : Event) :
    ((State.initial : State Event T Tag).slot event).Loaded event :=
  ⟨fun signaled => by simp [State.initial] at signaled,
    fun member => by simp [State.initial, historyOf] at member⟩

end Slot

end UcxPlayground.Async
