import Mathlib.Data.List.Nodup
import UcxPlayground.Async.Slot

/-!
# Who is still suspended

The history of an event says which coroutines wait for it: those it suspended
and has not resumed. Every `resume` takes one of them away.
-/

set_option autoImplicit false

namespace UcxPlayground.Async

open Transition

variable {Event T Tag : Type}

/-- Suspended by a history, latest first, and not resumed since. -/
def stillSuspended : List (Observation Event T Tag) → List CoroutineHandle
  | [] => []
  | .suspended _ coroutine :: older => coroutine :: stillSuspended older
  | .resumed _ coroutine _ :: older => (stillSuspended older).erase coroutine
  | _ :: older => stillSuspended older

def Observation.isSuspended : Observation Event T Tag → Bool
  | .suspended _ _ => true
  | _ => false

def Observation.isResumed : Observation Event T Tag → Bool
  | .resumed _ _ _ => true
  | _ => false

def suspensions (history : List (Observation Event T Tag)) : Nat :=
  history.countP Observation.isSuspended

def resumptions (history : List (Observation Event T Tag)) : Nat :=
  history.countP Observation.isResumed

def Observation.Passive (observation : Observation Event T Tag) : Prop :=
  observation.isSuspended = false ∧ observation.isResumed = false

section Passive

variable {observation : Observation Event T Tag} {history : List (Observation Event T Tag)}

theorem stillSuspended_passive (passive : observation.Passive) :
    stillSuspended (observation :: history) = stillSuspended history := by
  cases observation with
  | suspended | resumed =>
      simp [Observation.Passive, Observation.isSuspended, Observation.isResumed] at passive
  | _ => rfl

theorem suspensions_passive (passive : observation.Passive) :
    suspensions (observation :: history) = suspensions history := by
  simp [suspensions, passive.1]

theorem resumptions_passive (passive : observation.Passive) :
    resumptions (observation :: history) = resumptions history := by
  simp [resumptions, passive.2]

theorem resumptions_suspended {event : Event} {coroutine : CoroutineHandle} :
    resumptions (.suspended event coroutine :: history) = resumptions history :=
  List.countP_cons_of_neg (by simp [Observation.isResumed])

theorem resumptions_resumed {event : Event} {coroutine : CoroutineHandle}
    {status : Status Event} :
    resumptions (.resumed event coroutine status :: history) = resumptions history + 1 :=
  List.countP_cons_of_pos rfl

end Passive

theorem status_update {status : CoroutineHandle → Status Event} {event : Event}
    {coroutine other : CoroutineHandle} {changed : Status Event}
    (before : status coroutine ≠ .suspended event) (after : changed ≠ .suspended event) :
    Function.update status coroutine changed other = .suspended event ↔
      status other = .suspended event := by
  by_cases same : other = coroutine
  · subst other
    simp [before, after]
  · simp [same]

theorem WellFormed.current_running {state : State Event T Tag} (wellFormed : WellFormed state)
    {coroutine : CoroutineHandle} (current : state.current? = some coroutine) :
    state.status coroutine = .running := by
  obtain ⟨frame, rest, top, executes⟩ := State.current?_eq_some current
  exact wellFormed.running (by simp [top, coroutines_cons executes])

structure Account (event : Event) (status : CoroutineHandle → Status Event)
    (history : List (Observation Event T Tag)) : Prop where
  suspended : ∀ coroutine, coroutine ∈ stillSuspended history ↔
    status coroutine = .suspended event
  distinct : (stillSuspended history).Nodup
  balance : (stillSuspended history).length + resumptions history = suspensions history

namespace Account

variable {event : Event} {status : CoroutineHandle → Status Event}
  {history : List (Observation Event T Tag)} {coroutine : CoroutineHandle}

theorem passive (account : Account event status history) {observation : Observation Event T Tag}
    (passive : observation.Passive) : Account event status (observation :: history) := by
  refine ⟨?_, ?_, ?_⟩ <;>
    simp only [stillSuspended_passive passive, suspensions_passive passive,
      resumptions_passive passive]
  · exact account.suspended
  · exact account.distinct
  · exact account.balance

theorem update (account : Account event status history) {changed : Status Event}
    (before : status coroutine ≠ .suspended event) (after : changed ≠ .suspended event) :
    Account event (Function.update status coroutine changed) history :=
  ⟨fun other => (account.suspended other).trans (status_update before after).symm,
    account.distinct, account.balance⟩

theorem suspend (account : Account event status history)
    (before : status coroutine ≠ .suspended event) :
    Account event (Function.update status coroutine (.suspended event))
      (.suspended event coroutine :: history) := by
  have absent : coroutine ∉ stillSuspended history := fun member =>
    before ((account.suspended coroutine).mp member)
  refine ⟨fun other => ?_, List.nodup_cons.mpr ⟨absent, account.distinct⟩, ?_⟩
  · by_cases same : other = coroutine
    · simp [stillSuspended, same]
    · simp [stillSuspended, same, account.suspended]
  · have balance := account.balance
    simp only [stillSuspended, List.length_cons, suspensions, resumptions, List.countP_cons,
      Observation.isSuspended, Observation.isResumed, if_true, Bool.false_eq_true, if_false]
    unfold suspensions resumptions at balance
    omega

theorem resume (account : Account event status history) (noted : Status Event)
    (before : status coroutine = .suspended event) :
    Account event (Function.update status coroutine .running)
      (.resumed event coroutine noted :: history) := by
  have member := (account.suspended coroutine).mpr before
  refine ⟨fun other => ?_, account.distinct.erase coroutine, ?_⟩
  · show other ∈ (stillSuspended history).erase coroutine ↔ _
    rw [account.distinct.mem_erase_iff, account.suspended]
    by_cases same : other = coroutine
    · simp [same]
    · simp [same]
  · have balance := account.balance
    have positive := List.length_pos_of_mem member
    simp only [stillSuspended, List.length_erase_of_mem member, suspensions, resumptions,
      List.countP_cons, Observation.isSuspended, Observation.isResumed, if_true,
      Bool.false_eq_true, if_false]
    unfold suspensions resumptions at balance
    omega

/-- Nobody is suspended on the event exactly when it resumed as often as it
suspended. -/
theorem none_suspended_iff (account : Account event status history) :
    (∀ coroutine, status coroutine ≠ .suspended event) ↔
      suspensions history ≤ resumptions history := by
  have balance := account.balance
  constructor
  · intro free
    have empty : stillSuspended history = [] :=
      List.eq_nil_iff_forall_not_mem.mpr fun coroutine member =>
        free coroutine ((account.suspended coroutine).mp member)
    rw [empty, List.length_nil] at balance
    omega
  · intro resumed coroutine suspended
    have := List.length_pos_of_mem ((account.suspended coroutine).mpr suspended)
    omega

end Account

variable [DecidableEq Event]

/-- The history of `event` in a state accounts for its suspended coroutines. -/
def Accounted (event : Event) (state : State Event T Tag) : Prop :=
  Account event state.status (historyOf event state.trace)

namespace Accounted

variable {event : Event} {state next : State Event T Tag}

theorem initial (event : Event) : Accounted event (State.initial : State Event T Tag) :=
  ⟨fun coroutine => by simp [State.initial, historyOf, stillSuspended], .nil, rfl⟩

theorem observe {status : CoroutineHandle → Status Event}
    {trace : List (Observation Event T Tag)} (account : Account event status (historyOf event trace))
    (observation : Observation Event T Tag)
    (passive : observation.event? = some event → observation.Passive) :
    Account event status (historyOf event (observation :: trace)) := by
  by_cases about : observation.event? = some event
  · rw [historyOf_cons_self about]
    exact account.passive (passive about)
  · rw [historyOf_cons_other about]
    exact account

theorem step (account : Accounted event state) (wellFormed : WellFormed state)
    {action : Action Event T Tag} (stepped : Async.step state action = some next) :
    Accounted event next := by
  unfold Accounted at account ⊢
  cases step_move stepped with
  | refused | stored | passed | noted => exact observe account _ fun _ => ⟨rfl, rfl⟩
  | called | returned => exact account
  | @resumed other value fullCallback waiter clear recorded =>
      have waiting := wellFormed.waiter_suspended clear recorded
      apply observe _ _ fun _ => ⟨rfl, rfl⟩
      have accepted := observe account (.accepted other (state.serial other + 1) value)
        fun _ => ⟨rfl, rfl⟩
      by_cases same : other = event
      · subst other
        rw [historyOf_cons_self rfl]
        exact accepted.resume _ waiting
      · rw [historyOf_cons_other (by simp [Observation.event?, same])]
        exact accepted.update (by simp [waiting, same]) (by simp)
  | @suspended other coroutine current clear =>
      have runs := wellFormed.current_running current
      rw [State.suspend_status, State.suspend_trace]
      by_cases same : other = event
      · subst other
        rw [historyOf_cons_self rfl]
        exact account.suspend (by simp [runs])
      · rw [historyOf_cons_other (by simp [Observation.event?, same])]
        exact account.update (by simp [runs]) (by simp [same])
  | started unstarted => exact account.update (by simp [unstarted]) (by simp)
  | finished current =>
      rw [State.finish_status, State.finish_trace]
      exact account.update (by simp [wellFormed.current_running current]) (by simp)

end Accounted

end UcxPlayground.Async
