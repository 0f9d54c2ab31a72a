import Mathlib.Data.List.Nodup
import UcxPlayground.Async.Slot

/-!
# Signals are consumed once, and when they are not

`await_resume` consumes the latest accepted signal of its event. The reset that
makes the event "auto reset" is written only behind `resume()` in `set_or`: a
`co_await` that finds the event signalled leaves it signalled, and so does one
made while `set_or` is still resuming a waiter.
-/

set_option autoImplicit false

namespace UcxPlayground.Async

open Transition

variable {Event T Tag : Type}

def Observation.consumed? : Observation Event T Tag → Option Nat
  | .passed _ _ serial _ _ => some serial
  | _ => none

def Observation.isImmediate : Observation Event T Tag → Bool
  | .passed _ _ _ _ immediate => immediate
  | _ => false

namespace Slot

def consumed (slot : Slot Event T Tag) : List Nat :=
  slot.history.filterMap Observation.consumed?

def Answered (slot : Slot Event T Tag) : Prop :=
  slot.history.any Observation.isImmediate = true

instance (slot : Slot Event T Tag) : Decidable slot.Answered :=
  inferInstanceAs (Decidable (_ = true))

/-- How consumption stands while no signal has been consumed twice. -/
structure Fresh (slot : Slot Event T Tag) : Prop where
  nodup : slot.consumed.Nodup
  bound : ∀ serial ∈ slot.consumed, serial ≤ slot.serial
  pending : slot.event.signaled = true → slot.delivering = false → ¬ slot.Answered →
    slot.serial ∉ slot.consumed
  delivering : slot.delivering = true → slot.event.signaled = true ∧ slot.serial ∈ slot.consumed
  answered : slot.Answered →
    slot.event.signaled = true ∧ slot.delivering = false ∧ slot.serial ∈ slot.consumed

end Slot

/-- A `co_await` may find the event signalled only if no `set_or` of the event is
resuming a waiter and no earlier `co_await` found it signalled. -/
def AwaitsFreshSignal [DecidableEq Event] (event : Event) (state : State Event T Tag)
    (action : Action Event T Tag) : Prop :=
  match action with
  | .coAwait other =>
      other = event → (state.events event).signaled = true →
        ¬ state.Resuming event ∧ ¬ (state.slot event).Answered
  | _ => True

instance [DecidableEq Event] (event : Event) (state : State Event T Tag)
    (action : Action Event T Tag) : Decidable (AwaitsFreshSignal event state action) := by
  unfold AwaitsFreshSignal
  split <;> infer_instance

namespace Slot

variable {event : Event} {action : Action Event T Tag} {slot next : Slot Event T Tag}

theorem Fresh.unanswered (fresh : slot.Fresh) (clear : slot.event.signaled = false) :
    ¬ slot.Answered := by
  intro answered
  simp [(fresh.answered answered).1] at clear

theorem Fresh.next_unused (fresh : slot.Fresh) : slot.serial + 1 ∉ slot.consumed := by
  intro member
  exact Nat.not_succ_le_self _ (fresh.bound _ member)

theorem Fresh.step (fresh : slot.Fresh) (move : SlotMove event action slot next)
    (condition : action = .coAwait event → slot.event.signaled = true →
      slot.delivering = false ∧ ¬ slot.Answered) : next.Fresh := by
  cases move with
  | unchanged => exact fresh
  | refused signaled =>
      exact ⟨fresh.nodup, fresh.bound, fresh.pending, fresh.delivering, fresh.answered⟩
  | stored clear alone still =>
      have unanswered := fresh.unanswered clear
      have unused := fresh.next_unused
      exact ⟨fresh.nodup, fun serial member => Nat.le_succ_of_le (fresh.bound serial member),
        fun _ _ _ => unused, fun delivering => by simp at delivering,
        fun answered => False.elim (unanswered answered)⟩
  | delivered clear recorded still =>
      have unanswered := fresh.unanswered clear
      have unused := fresh.next_unused
      refine ⟨List.nodup_cons.mpr ⟨unused, fresh.nodup⟩, fun serial member => ?_,
        fun _ still => by simp at still, fun _ => ⟨rfl, List.mem_cons_self⟩,
        fun answered => False.elim (unanswered answered)⟩
      rcases List.mem_cons.mp member with rfl | earlier
      · exact Nat.le_refl _
      · exact Nat.le_succ_of_le (fresh.bound serial earlier)
  | passed signaled =>
      obtain ⟨still, unanswered⟩ := condition rfl signaled
      refine ⟨List.nodup_cons.mpr ⟨fresh.pending signaled still unanswered, fresh.nodup⟩,
        fun serial member => ?_, fun _ _ never => False.elim (never rfl),
        fun delivering => ?_, fun _ => ⟨signaled, still, List.mem_cons_self⟩⟩
      · rcases List.mem_cons.mp member with rfl | earlier
        · exact Nat.le_refl _
        · exact fresh.bound serial earlier
      · simp [still] at delivering
  | suspended clear still =>
      have unanswered := fresh.unanswered clear
      exact ⟨fresh.nodup, fresh.bound, fun signaled => by simp [clear] at signaled,
        fun delivering => by simp [still] at delivering,
        fun answered => False.elim (unanswered answered)⟩
  | left _ _ delivering =>
      exact ⟨fresh.nodup, fresh.bound, fun signaled => by simp at signaled,
        fun still => by simp at still, fun answered => by
          simp [(fresh.answered answered).2.1] at delivering⟩

theorem Fresh.repeated (fresh : slot.Fresh)
    (move : SlotMove event (.coAwait event : Action Event T Tag) slot next)
    (signaled : slot.event.signaled = true)
    (used : slot.delivering = true ∨ slot.Answered) : ¬ next.consumed.Nodup := by
  have member : slot.serial ∈ slot.consumed := by
    rcases used with delivering | answered
    · exact (fresh.delivering delivering).2
    · exact (fresh.answered answered).2.2
  cases move with
  | unchanged _ other => exact False.elim (other rfl)
  | left _ other _ => exact False.elim (other rfl)
  | suspended clear _ => simp [signaled] at clear
  | passed => exact fun nodup => (List.nodup_cons.mp nodup).1 member

theorem consumed_nodup_of_move (move : SlotMove event action slot next)
    (nodup : next.consumed.Nodup) : slot.consumed.Nodup := by
  cases move with
  | unchanged | refused | stored | suspended | left => exact nodup
  | delivered => exact (List.nodup_cons.mp nodup).2
  | passed => exact (List.nodup_cons.mp nodup).2

end Slot

variable [DecidableEq Event]

/-- No two co_awaits on the event returned the same signal. -/
def ConsumedOnce (event : Event) (state : State Event T Tag) : Prop :=
  (state.slot event).consumed.Nodup

instance (event : Event) (state : State Event T Tag) : Decidable (ConsumedOnce event state) :=
  inferInstanceAs (Decidable (List.Nodup _))

/-- Over any history, an event's signals are consumed at most once each exactly
when every `co_await` that found it signalled was the first to do so and was
made outside the event's own `set_or`. -/
theorem consumedOnce_iff_along (event : Event) {actions : List (Action Event T Tag)}
    {state : State Event T Tag} (reached : run step .initial actions = some state) :
    ConsumedOnce event state ↔
      Along step (AwaitsFreshSignal event) State.initial actions := by
  apply property_iff_along (fun state => WellFormed state ∧ (state.slot event).Fresh)
    (fun state => WellFormed state ∧ ¬ ConsumedOnce event state) _ _ _ _ _ _ reached
  · intro state action next held condition stepped
    obtain ⟨wellFormed, fresh⟩ := held
    refine ⟨wellFormed.step stepped, fresh.step (step_slotMove wellFormed stepped event) ?_⟩
    intro equal signaled
    subst equal
    obtain ⟨idle, unanswered⟩ := condition rfl signaled
    exact ⟨by simpa [State.slot] using idle, unanswered⟩
  · intro state action next held violated stepped
    obtain ⟨wellFormed, fresh⟩ := held
    refine ⟨wellFormed.step stepped, ?_⟩
    unfold AwaitsFreshSignal at violated
    split at violated
    · rename_i other
      simp only [Classical.not_imp, not_and_or, not_not] at violated
      obtain ⟨rfl, signaled, used⟩ := violated
      refine fresh.repeated (step_slotMove wellFormed stepped other) signaled ?_
      exact used.imp_left State.slot_delivering.mpr
    · exact False.elim (violated trivial)
  · intro state action next held stepped
    obtain ⟨wellFormed, violated⟩ := held
    exact ⟨wellFormed.step stepped, fun nodup => violated
      (Slot.consumed_nodup_of_move (step_slotMove wellFormed stepped event) nodup)⟩
  · intro state held
    obtain ⟨_, fresh⟩ := held
    exact fresh.nodup
  · intro state held
    obtain ⟨_, violated⟩ := held
    exact violated
  · exact ⟨.initial, ⟨.nil, by simp [Slot.consumed, State.slot, State.initial, historyOf],
      by simp [State.slot, State.initial], by simp [State.slot, State.initial, State.Resuming],
      by simp [Slot.Answered, State.slot, State.initial, historyOf]⟩⟩

def twoLateAwaits : List (Action Unit Nat Unit) :=
  [.setOr () 7 none, .start 0, .coAwait (), .finish, .start 1, .coAwait (), .finish]

theorem twoLateAwaits_consume_twice :
    ∃ state, run step State.initial twoLateAwaits = some state ∧ ¬ ConsumedOnce () state :=
  ⟨_, rfl, by decide⟩

def oneEarlyAwait : List (Action Unit Nat Unit) :=
  [.start 0, .coAwait (), .setOr () 7 none, .finish]

theorem oneEarlyAwait_consumes_once :
    ∃ state, run step State.initial oneEarlyAwait = some state ∧ ConsumedOnce () state :=
  ⟨_, rfl, (consumedOnce_iff_along ()
    (show run step .initial oneEarlyAwait = _ from rfl)).mpr (by decide)⟩

end UcxPlayground.Async
