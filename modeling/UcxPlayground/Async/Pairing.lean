import UcxPlayground.Async.Suspensions

/-!
# Every resume ends one suspension

`set_or` writes its event again after the coroutine it resumed has run, and that
coroutine may have used any event meanwhile. Seen from one coroutine, its
suspensions and resumes still come in pairs on one event.
-/

set_option autoImplicit false

namespace UcxPlayground.Async

open Transition

variable {Event T Tag : Type}

/-- The coroutine that an observation stops or sets going. -/
def Observation.turns? : Observation Event T Tag → Option CoroutineHandle
  | .suspended _ coroutine => some coroutine
  | .resumed _ coroutine _ => some coroutine
  | _ => none

def turnsOf (coroutine : CoroutineHandle) (trace : List (Observation Event T Tag)) :
    List (Observation Event T Tag) :=
  trace.filter (fun observation => observation.turns? = some coroutine)

/-- A coroutine's suspensions and resumes, latest first. Each resume is on the
event of the suspension right before it, and found the coroutine suspended
there. `unfinished` is the event of the suspension that has not been resumed. -/
inductive Paired (coroutine : CoroutineHandle) :
    (unfinished : Option Event) → List (Observation Event T Tag) → Prop where
  | none : Paired coroutine none []
  | suspended {event history} :
      Paired coroutine none history →
      Paired coroutine (some event) (.suspended event coroutine :: history)
  | resumed {event history} :
      Paired coroutine (some event) history →
      Paired coroutine none (.resumed event coroutine (.suspended event) :: history)

section Turns

variable {coroutine : CoroutineHandle} {observation : Observation Event T Tag}
  {trace : List (Observation Event T Tag)}

theorem turnsOf_cons_other (about : observation.turns? ≠ some coroutine) :
    turnsOf coroutine (observation :: trace) = turnsOf coroutine trace := by
  simp [turnsOf, about]

end Turns

/-- The pairs of a coroutine fit what it is doing now. -/
def TurnsPaired (coroutine : CoroutineHandle) (state : State Event T Tag) : Prop :=
  Paired coroutine (state.status coroutine).event? (turnsOf coroutine state.trace)

namespace TurnsPaired

variable {coroutine : CoroutineHandle} {state next : State Event T Tag}

theorem initial (coroutine : CoroutineHandle) :
    TurnsPaired coroutine (State.initial : State Event T Tag) :=
  Paired.none

theorem unchanged (paired : TurnsPaired coroutine state)
    (status : (next.status coroutine).event? = (state.status coroutine).event?)
    (turns : turnsOf coroutine next.trace = turnsOf coroutine state.trace) :
    TurnsPaired coroutine next := by
  unfold TurnsPaired
  rw [status, turns]
  exact paired

variable [DecidableEq Event]

theorem step (paired : TurnsPaired coroutine state) (wellFormed : WellFormed state)
    {action : Action Event T Tag} (stepped : Async.step state action = some next) :
    TurnsPaired coroutine next := by
  cases step_move stepped with
  | refused | stored | passed | noted =>
      exact paired.unchanged rfl (turnsOf_cons_other (by simp [Observation.turns?]))
  | called | returned => exact paired
  | @resumed event value fullCallback waiter clear recorded =>
      have waiting := wellFormed.waiter_suspended clear recorded
      by_cases same : waiter = coroutine
      · subst waiter
        have turned := Paired.resumed (by simpa [TurnsPaired, waiting] using paired)
        simpa [TurnsPaired, State.resume, State.pass, State.accept, turnsOf, Observation.turns?,
          waiting] using turned
      · exact paired.unchanged (by simp [State.resume, State.pass, State.accept, Ne.symm same])
          (by simp [State.resume, State.pass, State.accept, turnsOf, Observation.turns?, same])
  | @suspended event other current clear =>
      have runs := wellFormed.current_running current
      by_cases same : other = coroutine
      · subst other
        have turned : Paired coroutine (some event)
            (.suspended event coroutine :: turnsOf coroutine state.trace) :=
          .suspended (by simpa [TurnsPaired, runs] using paired)
        simpa [TurnsPaired, turnsOf, Observation.turns?] using turned
      · exact paired.unchanged (by simp [Ne.symm same])
          (by simp [turnsOf, Observation.turns?, same])
  | @started other unstarted =>
      refine paired.unchanged ?_ rfl
      by_cases same : other = coroutine
      · simp [← same, unstarted]
      · simp [Ne.symm same]
  | @finished other current =>
      have runs := wellFormed.current_running current
      refine paired.unchanged ?_ (by simp)
      by_cases same : other = coroutine
      · simp [← same, runs]
      · simp [Ne.symm same]

end TurnsPaired

section Exclusion

variable {event : Event} {action : Action Event T Tag}

theorem SlotMove.suspensions_delivering {slot next : Slot Event T Tag}
    (move : SlotMove event action slot next) (delivering : slot.delivering = true) :
    suspensions next.history = suspensions slot.history := by
  cases move with
  | unchanged | left => rfl
  | refused | passed => exact suspensions_passive ⟨rfl, rfl⟩
  | stored _ _ still => simp [still] at delivering
  | delivered _ _ still => simp [still] at delivering
  | suspended _ still => simp [still] at delivering

/-- Only the tail of a `set_or` clears the slot. -/
theorem SlotMove.delivering_of_cleared {slot next : Slot Event T Tag} {waiter : CoroutineHandle}
    (move : SlotMove event action slot next) (recorded : slot.event.waiterHandle = some waiter)
    (cleared : next.event.waiterHandle = none) : slot.delivering = true := by
  cases move with
  | unchanged | refused | passed => simp [recorded] at cleared
  | stored _ alone => simp [alone] at recorded
  | delivered | suspended => simp at cleared
  | left _ _ delivering => exact delivering

variable {state next : State Event T Tag} [DecidableEq Event]

theorem suspended_before_step {coroutine : CoroutineHandle}
    (stepped : step state action = some next) (signaled : (state.events event).signaled = true)
    (suspended : next.status coroutine = .suspended event) :
    state.status coroutine = .suspended event := by
  have updated : ∀ {other changed}, changed ≠ .suspended event →
      Function.update state.status other changed coroutine = .suspended event →
      state.status coroutine = .suspended event := by
    intro other changed elsewhere after
    by_cases same : coroutine = other
    · simp [same, elsewhere] at after
    · simpa [same] using after
  cases step_move stepped with
  | refused | stored | passed | called | returned | noted => exact suspended
  | resumed => exact updated (by simp) suspended
  | @suspended other _ _ clear =>
      have different : other ≠ event := by
        intro equal
        simp [equal, signaled] at clear
      exact @updated _ (.suspended other) (by simpa using different) (by simpa using suspended)
  | started => exact updated (by simp) suspended
  | finished => exact @updated _ .finished (by simp) (by simpa using suspended)

/-- What a `set_or` clears behind its `resume()` is the handle it resumed, of a
coroutine that is not suspended on the event again. -/
theorem cleared_waiter (wellFormed : WellFormed state) {waiter : CoroutineHandle}
    (stepped : step state action = some next)
    (recorded : (state.events event).waiterHandle = some waiter)
    (cleared : (next.events event).waiterHandle = none) :
    Frame.resumed event waiter ∈ state.stack ∧ next.status waiter ≠ .suspended event := by
  have delivering := (step_slotMove wellFormed stepped event).delivering_of_cleared recorded cleared
  obtain ⟨resumed, member⟩ := mem_deliveries_iff.mp (State.slot_delivering.mp delivering)
  obtain ⟨signaled, handle⟩ := wellFormed.resuming member
  have same : resumed = waiter := Option.some.inj (handle.symm.trans recorded)
  subst resumed
  refine ⟨member, fun suspended => ?_⟩
  have before := suspended_before_step stepped signaled suspended
  simp [wellFormed.running (mem_coroutines_of_resumed member)] at before

end Exclusion

variable [DecidableEq Event]

/-- The resumes of every history, and what the `set_or`s in progress exclude. -/
structure ResumesSuspended (state : State Event T Tag) : Prop where
  paired : ∀ coroutine, TurnsPaired coroutine state
  exclusive : ∀ event action next, step state action = some next → state.Resuming event →
    suspensions (historyOf event next.trace) = suspensions (historyOf event state.trace)
  cleared : ∀ event action next waiter, step state action = some next →
    (state.events event).waiterHandle = some waiter → (next.events event).waiterHandle = none →
    Frame.resumed event waiter ∈ state.stack ∧ next.status waiter ≠ .suspended event

/-- In every state of every history, each coroutine's resumes are paired with
its suspensions, an event being delivered suspends nobody, and the handle that
is cleared is the one that was resumed. -/
theorem resumes_suspended (actions : List (Action Event T Tag)) (state : State Event T Tag)
    (reached : run step .initial actions = some state) : ResumesSuspended state := by
  have held := run_preserves
    (fun state => WellFormed state ∧ ∀ coroutine, TurnsPaired coroutine state)
    (fun _ _ _ held stepped =>
      ⟨held.1.step stepped, fun coroutine => (held.2 coroutine).step held.1 stepped⟩)
    ⟨.initial, .initial⟩ reached
  obtain ⟨wellFormed, paired⟩ := held
  refine ⟨paired, fun event action next stepped resuming => ?_,
    fun event action next waiter stepped recorded cleared => ?_⟩
  · exact (step_slotMove wellFormed stepped event).suspensions_delivering
      (State.slot_delivering.mpr resuming)
  · exact cleared_waiter wellFormed stepped recorded cleared

/-- A resumed coroutine awaits another event, whose `set_or` runs inside the
one that resumed it. -/
def nestedResumes : List (Action Bool Nat Unit) :=
  [.start 0, .coAwait true, .start 1, .coAwait false, .setOr false 7 none, .setOr true 8 none,
    .finish, .coAwait true]

theorem nestedResumes_suspended :
    ∃ state, run step .initial nestedResumes = some state ∧ ResumesSuspended state :=
  ⟨_, rfl, resumes_suspended nestedResumes _ rfl⟩

end UcxPlayground.Async
