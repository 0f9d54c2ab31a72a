import UcxPlayground.Async.Slot

/-!
# The first value wins

One coroutine awaits an event once, and values are set one after the other. The
two ways to pass the await leave the event in different states: behind a
suspension it is free for one more value, which nobody takes, and an immediate
pass leaves it signalled.
-/

set_option autoImplicit false

namespace UcxPlayground.Async

open Transition

variable {Event T Tag : Type}

section Reading

variable [DecidableEq Event] (event : Event)

/-- The values passed to the event's `set_or`, each with its `full_callback`. -/
def callsOf : Action Event T Tag → List (T × Option Tag)
  | .setOr other value fullCallback => if other = event then [(value, fullCallback)] else []
  | _ => []

def givenTo (actions : List (Action Event T Tag)) : List (T × Option Tag) :=
  actions.flatMap (callsOf event)

/-- A `set_or` of the event is called when the one before it has returned. -/
def InTurn (state : State Event T Tag) : Action Event T Tag → Prop
  | .setOr other _ _ => other = event → ¬ state.Resuming event
  | _ => True

instance (state : State Event T Tag) :
    ∀ action : Action Event T Tag, Decidable (InTurn event state action)
  | .setOr other _ _ => inferInstanceAs (Decidable (other = event → ¬ state.Resuming event))
  | .coAwait _ | .start _ | .finish | .call _ | .ret | .note _ => .isTrue trivial

/-- The history of the event, oldest first. -/
def observed (state : State Event T Tag) : List (Observation Event T Tag) :=
  (historyOf event state.trace).reverse

def Pending (value : T) (state : State Event T Tag) : Prop :=
  (state.events event).signaled = true ∧ (state.events event).data = some value

end Reading

def Observation.passes? :
    Observation Event T Tag → Option (CoroutineHandle × Option T × Bool)
  | .passed _ coroutine _ value immediate => some (coroutine, value, immediate)
  | _ => none

def Observation.handsBack? : Observation Event T Tag → Option (T × Option Tag)
  | .refused _ value fullCallback => some (value, fullCallback)
  | _ => none

/-- Who passed an `await_resume`, with which value, and whether immediately. -/
def passes (history : List (Observation Event T Tag)) :
    List (CoroutineHandle × Option T × Bool) :=
  history.filterMap Observation.passes?

/-- The values handed to their `full_callback`. -/
def handedBack (history : List (Observation Event T Tag)) : List (T × Option Tag) :=
  history.filterMap Observation.handsBack?

def refusals (event : Event) (calls : List (T × Option Tag)) : List (Observation Event T Tag) :=
  calls.map fun call => .refused event call.1 call.2

/-- A coroutine suspends, and the first `set_or` resumes it. -/
def resumedHistory (event : Event) (coroutine : CoroutineHandle) (first : T) :
    List (Observation Event T Tag) :=
  [.suspended event coroutine, .accepted event 1 first,
    .resumed event coroutine (.suspended event), .passed event coroutine 1 (some first) false]

/-- What becomes of the values behind the first: one is stored. -/
def leftoverHistory (event : Event) :
    List (T × Option Tag) → List (Observation Event T Tag)
  | [] => []
  | second :: rest => .accepted event 2 second.1 :: refusals event rest

/-- The first value is stored, and a coroutine passes at once. -/
def immediateHistory (event : Event) (coroutine : CoroutineHandle) (first : T)
    (early late : List (T × Option Tag)) : List (Observation Event T Tag) :=
  .accepted event 1 first :: refusals event early ++
    .passed event coroutine 1 (some first) true :: refusals event late

section Histories

variable {event : Event} {coroutine : CoroutineHandle} {first : T}
  {calls early late : List (T × Option Tag)}

theorem refusals_concat (call : T × Option Tag) :
    refusals event (calls ++ [call]) =
      refusals event calls ++ [.refused event call.1 call.2] :=
  List.map_append

@[simp] theorem passes_refusals : passes (refusals event calls) = [] := by
  simp [passes, refusals, List.filterMap_map, Observation.passes?, Function.comp_def]

@[simp] theorem handedBack_refusals : handedBack (refusals event calls) = calls := by
  simp [handedBack, refusals, List.filterMap_map, Observation.handsBack?, Function.comp_def]

theorem passes_append {first second : List (Observation Event T Tag)} :
    passes (first ++ second) = passes first ++ passes second :=
  List.filterMap_append

theorem handedBack_append {first second : List (Observation Event T Tag)} :
    handedBack (first ++ second) = handedBack first ++ handedBack second :=
  List.filterMap_append

theorem passes_resumedHistory :
    passes (resumedHistory event coroutine first ++ leftoverHistory event calls) =
      [(coroutine, some first, false)] := by
  rw [passes_append]
  cases calls with
  | nil => rfl
  | cons second rest => exact congrArg (_ :: ·) passes_refusals

theorem handedBack_resumedHistory :
    handedBack (resumedHistory event coroutine first ++ leftoverHistory event calls) =
      calls.drop 1 := by
  rw [handedBack_append]
  cases calls with
  | nil => rfl
  | cons second rest => exact handedBack_refusals

theorem passes_immediateHistory :
    passes (immediateHistory event coroutine first early late) =
      [(coroutine, some first, true)] := by
  rw [immediateHistory, passes_append]
  have before : passes (.accepted event 1 first :: refusals event early) = [] := passes_refusals
  rw [before]
  exact congrArg (_ :: ·) passes_refusals

theorem handedBack_immediateHistory :
    handedBack (immediateHistory event coroutine first early late) = early ++ late := by
  rw [immediateHistory, handedBack_append]
  have before : handedBack (.accepted event 1 first :: refusals event early) = early :=
    handedBack_refusals
  rw [before]
  exact congrArg (early ++ ·) handedBack_refusals

end Histories

namespace Slot

/-- Nobody has awaited the event yet. -/
def Unawaited (event : Event) (slot : Slot Event T Tag) : List (T × Option Tag) → Prop
  | [] => slot.event = .fresh ∧ slot.serial = 0 ∧ slot.delivering = false ∧ slot.history = []
  | first :: early =>
      slot.event = ⟨true, some first.1, none⟩ ∧ slot.serial = 1 ∧ slot.delivering = false ∧
        slot.history.reverse = .accepted event 1 first.1 :: refusals event early

/-- A coroutine passed at once, and `late` was set behind it. -/
def AwaitedLate (event : Event) (coroutine : CoroutineHandle) (first : T)
    (early : List (T × Option Tag)) (slot : Slot Event T Tag) (late : List (T × Option Tag)) :
    Prop :=
  slot.event = ⟨true, some first, none⟩ ∧ slot.delivering = false ∧
    slot.history.reverse = immediateHistory event coroutine first early late

/-- A coroutine suspended before any value was set. -/
def AwaitedEarly (event : Event) (coroutine : CoroutineHandle) (slot : Slot Event T Tag) :
    List (T × Option Tag) → Prop
  | [] =>
      slot.event = ⟨false, none, some coroutine⟩ ∧ slot.serial = 0 ∧ slot.delivering = false ∧
        slot.history.reverse = [.suspended event coroutine]
  | first :: rest =>
      slot.history.reverse =
        resumedHistory event coroutine first.1 ++ leftoverHistory event rest ∧
      match rest with
      | [] =>
          slot.serial = 1 ∧
            (slot.delivering = true ∧ slot.event = ⟨true, some first.1, some coroutine⟩ ∨
              slot.delivering = false ∧ slot.event = ⟨false, some first.1, none⟩)
      | second :: _ => slot.delivering = false ∧ slot.event = ⟨true, some second.1, none⟩

/-- A coroutine just awaited the event, behind `early`. -/
def AwaitedBehind (event : Event) (coroutine : CoroutineHandle) (slot : Slot Event T Tag) :
    (early : List (T × Option Tag)) → Prop
  | [] => slot.AwaitedEarly event coroutine []
  | first :: early => slot.AwaitedLate event coroutine first.1 early []

variable [DecidableEq Event] {event : Event} {action : Action Event T Tag}
  {slot next : Slot Event T Tag} {calls : List (T × Option Tag)}

theorem callsOf_other (other : ∀ value fullCallback, action ≠ .setOr event value fullCallback) :
    callsOf event action = [] := by
  cases action with
  | setOr given value fullCallback =>
      have different : given ≠ event := fun same => other value fullCallback (by rw [same])
      simp [callsOf, different]
  | _ => rfl

theorem callsOf_self (value : T) (fullCallback : Option Tag) :
    callsOf event (.setOr event value fullCallback) = [(value, fullCallback)] := by
  simp [callsOf]

theorem Unawaited.initial (event : Event) :
    ((State.initial : State Event T Tag).slot event).Unawaited event [] :=
  ⟨rfl, rfl, by simp [State.slot, State.initial, State.Resuming], rfl⟩

theorem Unawaited.step (unawaited : slot.Unawaited event calls)
    (move : SlotMove event action slot next) (others : action ≠ .coAwait event) :
    next.Unawaited event (calls ++ callsOf event action) := by
  cases move with
  | unchanged other => rwa [callsOf_other other, List.append_nil]
  | passed | suspended => exact False.elim (others rfl)
  | @refused _ value fullCallback signaled =>
      rw [callsOf_self]
      cases calls with
      | nil =>
          obtain ⟨fresh, _⟩ := unawaited
          simp [fresh] at signaled
      | cons first early =>
          obtain ⟨stored, serial, still, history⟩ := unawaited
          refine ⟨stored, serial, still, ?_⟩
          show _ = _ :: refusals event (early ++ [_])
          rw [List.reverse_cons, history, refusals_concat, List.cons_append]
  | @stored _ value fullCallback clear =>
      rw [callsOf_self]
      cases calls with
      | nil =>
          obtain ⟨_, serial, _, history⟩ := unawaited
          simp [Unawaited, serial, history, refusals]
      | cons first early =>
          obtain ⟨stored, _⟩ := unawaited
          simp [stored] at clear
  | delivered clear recorded =>
      cases calls with
      | nil | cons =>
          obtain ⟨stored, _⟩ := unawaited
          simp [stored] at recorded
  | left _ _ delivering =>
      cases calls with
      | nil | cons =>
          obtain ⟨_, _, still, _⟩ := unawaited
          simp [still] at delivering

variable {coroutine : CoroutineHandle} {first : T} {early late : List (T × Option Tag)}

/-- The `co_await`, before any value or behind the first. -/
theorem Unawaited.coAwait {state next : State Event T Tag}
    (unawaited : (state.slot event).Unawaited event calls) (wellFormed : WellFormed state)
    (stepped : Async.step state (.coAwait event) = some next) :
    ∃ coroutine, state.current? = some coroutine ∧
      (next.slot event).AwaitedBehind event coroutine calls := by
  cases step_move stepped with
  | @passed _ coroutine current signaled =>
      refine ⟨coroutine, current, ?_⟩
      rw [State.pass_slot]
      cases calls with
      | nil =>
          obtain ⟨fresh, _⟩ := unawaited
          rw [State.slot_event] at fresh
          simp [fresh] at signaled
      | cons first early =>
          obtain ⟨stored, serial, still, history⟩ := unawaited
          rw [State.slot_event] at stored
          rw [State.slot_serial] at serial
          refine ⟨stored, still, ?_⟩
          rw [List.reverse_cons, history, serial, stored]
          rfl
  | @suspended _ coroutine current clear =>
      refine ⟨coroutine, current, ?_⟩
      rw [wellFormed.suspend_slot clear]
      cases calls with
      | nil =>
          obtain ⟨fresh, serial, still, history⟩ := unawaited
          rw [State.slot_event] at fresh
          exact ⟨by rw [fresh]; rfl, serial, still, by rw [history]; rfl⟩
      | cons first early =>
          obtain ⟨stored, _⟩ := unawaited
          rw [State.slot_event] at stored
          simp [stored] at clear

theorem AwaitedLate.step (awaited : slot.AwaitedLate event coroutine first early late)
    (move : SlotMove event action slot next) (others : action ≠ .coAwait event) :
    next.AwaitedLate event coroutine first early (late ++ callsOf event action) := by
  obtain ⟨stored, still, history⟩ := awaited
  cases move with
  | unchanged other =>
      rw [callsOf_other other, List.append_nil]
      exact ⟨stored, still, history⟩
  | passed | suspended => exact False.elim (others rfl)
  | refused =>
      rw [callsOf_self]
      refine ⟨stored, still, ?_⟩
      rw [List.reverse_cons, history, immediateHistory, immediateHistory, refusals_concat,
        List.append_assoc]
      rfl
  | stored clear | delivered clear => simp [stored] at clear
  | left _ _ delivering => simp [still] at delivering

theorem AwaitedEarly.step (awaited : slot.AwaitedEarly event coroutine calls)
    (move : SlotMove event action slot next) (others : action ≠ .coAwait event)
    (inTurn : ∀ value fullCallback, action = .setOr event value fullCallback →
      slot.delivering = false) :
    next.AwaitedEarly event coroutine (calls ++ callsOf event action) := by
  cases move with
  | unchanged other => rwa [callsOf_other other, List.append_nil]
  | passed | suspended => exact False.elim (others rfl)
  | @refused _ value fullCallback signaled =>
      have still := inTurn value fullCallback rfl
      rw [callsOf_self]
      rcases calls with _ | ⟨first, _ | ⟨second, rest⟩⟩
      · obtain ⟨recorded, _⟩ := awaited
        simp [recorded] at signaled
      · obtain ⟨_, _, ⟨delivering, _⟩ | ⟨_, free⟩⟩ := awaited
        · simp [still] at delivering
        · simp [free] at signaled
      · obtain ⟨history, _, stored⟩ := awaited
        refine ⟨?_, still, stored⟩
        show _ = _ ++ leftoverHistory event (second :: (rest ++ [_]))
        rw [List.reverse_cons, history, List.append_assoc, leftoverHistory, leftoverHistory,
          refusals_concat, List.cons_append]
  | @stored _ value fullCallback clear alone =>
      have still := inTurn value fullCallback rfl
      rw [callsOf_self]
      rcases calls with _ | ⟨first, _ | ⟨second, rest⟩⟩
      · obtain ⟨recorded, _⟩ := awaited
        simp [recorded] at alone
      · obtain ⟨history, serial, _⟩ := awaited
        refine ⟨?_, rfl, rfl⟩
        rw [List.reverse_cons, history, serial]
        rfl
      · obtain ⟨_, _, stored⟩ := awaited
        simp [stored] at clear
  | @delivered _ value fullCallback waiter clear recorded =>
      have still := inTurn value fullCallback rfl
      rw [callsOf_self]
      rcases calls with _ | ⟨first, _ | ⟨second, rest⟩⟩
      · obtain ⟨suspended, serial, _, history⟩ := awaited
        have same : coroutine = waiter := by simpa [suspended] using recorded
        subst waiter
        refine ⟨?_, by rw [serial], .inl ⟨rfl, rfl⟩⟩
        simp only [List.reverse_cons, history, serial]
        rfl
      · obtain ⟨_, _, ⟨delivering, _⟩ | ⟨_, free⟩⟩ := awaited
        · simp [still] at delivering
        · simp [free] at recorded
      · obtain ⟨_, _, stored⟩ := awaited
        simp [stored] at clear
  | left other _ delivering =>
      rw [callsOf_other other, List.append_nil]
      rcases calls with _ | ⟨first, _ | ⟨second, rest⟩⟩
      · obtain ⟨_, _, still, _⟩ := awaited
        simp [still] at delivering
      · obtain ⟨history, serial, ⟨_, resumed⟩ | ⟨still, _⟩⟩ := awaited
        · exact ⟨history, serial, .inr ⟨rfl, by rw [resumed]; rfl⟩⟩
        · simp [still] at delivering
      · obtain ⟨_, still, _⟩ := awaited
        simp [still] at delivering

omit [DecidableEq Event] in
theorem AwaitedEarly.pending {rest : List (T × Option Tag)} {call second : T × Option Tag}
    (awaited : slot.AwaitedEarly event coroutine (call :: rest)) (member : second ∈ rest.head?) :
    slot.event = ⟨true, some second.1, none⟩ := by
  cases rest with
  | nil => simp at member
  | cons next later =>
      obtain ⟨_, _, stored⟩ := awaited
      have same : next = second := by simpa using member
      rw [stored, same]

end Slot

section Runs

variable [DecidableEq Event] {event : Event} {actions : List (Action Event T Tag)}
  {start final : State Event T Tag}

/-- What one slot move keeps, a run keeps. -/
theorem run_slot_collects (property : List (T × Option Tag) → Slot Event T Tag → Prop)
    (preserved : ∀ {action calls} {slot next : Slot Event T Tag}, property calls slot →
      SlotMove event action slot next → action ≠ .coAwait event →
      (∀ value fullCallback, action = .setOr event value fullCallback →
        slot.delivering = false) → property (calls ++ callsOf event action) next)
    {calls : List (T × Option Tag)} (wellFormed : WellFormed start)
    (holds : property calls (start.slot event))
    (inTurn : Along step (InTurn event) start actions) (others : .coAwait event ∉ actions)
    (reached : run step start actions = some final) :
    WellFormed final ∧ property (calls ++ givenTo event actions) (final.slot event) := by
  have distinct : ∀ action ∈ actions, action ≠ .coAwait event := by
    intro action member same
    subst same
    exact others member
  refine run_collects (callsOf event)
    (fun calls state => WellFormed state ∧ property calls (state.slot event)) ?_
    ⟨wellFormed, holds⟩ (inTurn.and_forall distinct) reached
  intro calls state action next held condition stepped
  obtain ⟨wellFormed, holds⟩ := held
  obtain ⟨turn, other⟩ := condition
  refine ⟨wellFormed.step stepped,
    preserved holds (step_slotMove wellFormed stepped event) other ?_⟩
  intro value fullCallback set
  subst set
  simpa [State.slot] using turn rfl

/-- Values are set one after the other, and a coroutine awaits once, before or
behind any of them. It passes once, with the first value: inside the first
`set_or` when no value was set before, else immediately. All the others go to
their callbacks, except that behind a suspension the second one is stored. -/
theorem first_value_wins (event : Event) (before after : List (Action Event T Tag))
    (state : State Event T Tag)
    (reached : run step .initial (before ++ .coAwait event :: after) = some state)
    (inTurn : Along step (InTurn event) .initial (before ++ .coAwait event :: after))
    (onceBefore : .coAwait event ∉ before) (onceAfter : .coAwait event ∉ after) :
    ∃ awaiting coroutine, run step .initial before = some awaiting ∧
      awaiting.current? = some coroutine ∧
      (∀ first rest, givenTo event before = [] → givenTo event after = first :: rest →
        passes (observed event state) = [(coroutine, some first.1, false)] ∧
        handedBack (observed event state) = rest.drop 1 ∧
        (∀ second ∈ rest.head?, Pending event second.1 state) ∧
        observed event state =
          resumedHistory event coroutine first.1 ++ leftoverHistory event rest) ∧
      ∀ first rest, givenTo event before = first :: rest →
        passes (observed event state) = [(coroutine, some first.1, true)] ∧
        handedBack (observed event state) = rest ++ givenTo event after ∧
        observed event state =
          immediateHistory event coroutine first.1 rest (givenTo event after) := by
  obtain ⟨awaiting, first, second⟩ := run_append_inv reached
  obtain ⟨turnBefore, turnAfter⟩ := (along_append first).mp inTurn
  obtain ⟨awaited, stepped, later⟩ := run_cons_inv second
  obtain ⟨_, turnLater⟩ := (along_cons stepped).mp turnAfter
  obtain ⟨wellFormed, unawaited⟩ := run_slot_collects (fun calls slot => slot.Unawaited event calls)
    (fun held move other _ => held.step move other) .initial (.initial event) turnBefore
    onceBefore first
  obtain ⟨coroutine, current, placed⟩ := unawaited.coAwait wellFormed stepped
  have wellFormed := wellFormed.step stepped
  refine ⟨awaiting, coroutine, first, current, ?_, ?_⟩
  · intro value rest unset given
    have suspended : (awaited.slot event).AwaitedEarly event coroutine [] := by
      rwa [List.nil_append, unset] at placed
    obtain ⟨_, awaited⟩ := run_slot_collects
      (fun calls slot => slot.AwaitedEarly event coroutine calls)
      (fun held move other turn => held.step move other turn) wellFormed suspended turnLater
      onceAfter later
    rw [List.nil_append, given] at awaited
    have history : observed event state = _ := awaited.1
    refine ⟨?_, ?_, fun second member => ?_, history⟩
    · rw [history, passes_resumedHistory]
    · rw [history, handedBack_resumedHistory]
    · have stored : state.events event = _ := awaited.pending member
      simp [Pending, stored]
  · intro value rest given
    have passed : (awaited.slot event).AwaitedLate event coroutine value.1 rest [] := by
      rwa [List.nil_append, given] at placed
    obtain ⟨_, awaited⟩ := run_slot_collects
      (fun calls slot => slot.AwaitedLate event coroutine value.1 rest calls)
      (fun held move other _ => held.step move other) wellFormed passed turnLater onceAfter later
    have history : observed event state = _ := awaited.2.2
    rw [List.nil_append] at history
    refine ⟨?_, ?_, history⟩
    · rw [history, passes_immediateHistory]
    · rw [history, handedBack_immediateHistory]

end Runs

/-- The coroutine suspends, and two of the three values behind are left over. -/
def threeValues : List (Action Unit Nat Unit) :=
  [.setOr () 7 (some ()), .finish, .setOr () 8 (some ()), .setOr () 9 (some ())]

theorem threeValues_first_wins :
    ∃ state, run step .initial ([.start 0] ++ .coAwait () :: threeValues) = some state ∧
      passes (observed () state) = [(0, some 7, false)] ∧
      handedBack (observed () state) = [(9, some ())] ∧ Pending () 8 state := by
  refine ⟨_, rfl, ?_⟩
  obtain ⟨awaiting, coroutine, reached, current, early, _⟩ :=
    first_value_wins () [.start 0] threeValues _ rfl (by decide) (by decide) (by decide)
  cases reached
  cases current
  obtain ⟨passed, handed, pending, _⟩ := early (7, some ()) [(8, some ()), (9, some ())] rfl rfl
  exact ⟨passed, handed, pending _ rfl⟩

end UcxPlayground.Async
