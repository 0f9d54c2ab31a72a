import UcxPlayground.Async.Data
import UcxPlayground.Async.Frames
import UcxPlayground.Async.Suspensions
import UcxPlayground.Endpoint.Model

/-!
# What holds of every operation

`Move` lists the steps of an endpoint's program with their guards. `Sound` ties
the record of each operation to the slot of its event: nothing is signalled
before UCX completes the operation successfully, and one value afterwards.
-/

set_option autoImplicit false

namespace UcxPlayground.Endpoint

open Transition

def Operation.signal (operation : Operation) (index length : Nat) : Value :=
  match operation.param.cb with
  | .send => .request index
  | .recvStream => .length length

inductive Move (state : State) : Action → State → Prop where
  | sent {buffer result} :
      state.Ready →
      Move state (.sendStream buffer result) (state.post sendParam buffer result)
  | received {buffer result} :
      state.Ready → (∀ code, result ≠ .error code) →
      Move state (.recvStream buffer result) (state.post recvParam buffer result)
  | exited {buffer code} :
      state.Ready →
      Move state (.recvStream buffer (.error code))
        { state.post recvParam buffer (.error code) with
          ended := some (.exited state.operations.length code) }
  | signalled {index length operation runtime} :
      state.Ready → state.operations[index]? = some operation →
      operation.result = .request → operation.completion = none →
      run Async.step state.runtime
        (callbackHead operation.param.userData (operation.signal index length)) = some runtime →
      Move state (.complete index .ok length)
        (state.update index { operation with completion := some (.ok, length) } runtime)
  | dropped {index code length operation runtime} :
      state.Ready → state.operations[index]? = some operation →
      operation.result = .request → operation.completion = none →
      operation.param.cb = .send →
      Async.step state.runtime (.note (.sendFailed operation.param.userData code)) =
        some runtime →
      Move state (.complete index (.error code) length)
        (state.update index
          { operation with completion := some (.error code, length), returned := true } runtime)
  | threw {index code length operation} :
      state.Ready → state.operations[index]? = some operation →
      operation.result = .request → operation.completion = none →
      operation.param.cb = .recvStream →
      Move state (.complete index (.error code) length)
        { state.update index
            { operation with completion := some (.error code, length), returned := true }
            state.runtime with
          ended := some (.threw operation.param.userData code) }
  | returned {index operation runtime} :
      state.ended = none → state.callback? = some index →
      state.operations[index]? = some operation →
      run Async.step state.runtime (callbackTail index) = some runtime →
      Move state .callbackReturn
        (state.update index { operation with returned := true } runtime)
  | executed {action runtime} :
      state.Ready → Permitted state action →
      Async.step state.runtime action = some runtime →
      Move state (.code action) { state with runtime := runtime }

theorem complete_move {state next : State} {index length : Nat} {status : UcsStatus}
    (stepped : step state (.complete index status length) = some next) :
    Move state (.complete index status length) next := by
  simp only [step] at stepped
  split at stepped
  · rename_i operation present
    split at stepped
    · rename_i guard
      obtain ⟨ready, given, open_⟩ := guard
      cases kind : operation.param.cb with
      | send =>
          cases status with
          | ok =>
              simp only [kind, sendCallback, Option.map_eq_some_iff] at stepped
              obtain ⟨runtime, executed, rfl⟩ := stepped
              exact .signalled ready present given open_
                (by simpa [Operation.signal, kind] using executed)
          | error code =>
              simp only [kind, sendCallback, Option.map_eq_some_iff] at stepped
              obtain ⟨runtime, executed, rfl⟩ := stepped
              exact .dropped ready present given open_ kind executed
      | recvStream =>
          cases status with
          | ok =>
              simp only [kind, recvCallback, Option.map_eq_some_iff] at stepped
              obtain ⟨runtime, executed, rfl⟩ := stepped
              exact .signalled ready present given open_
                (by simpa [Operation.signal, kind] using executed)
          | error code =>
              simp only [kind, recvCallback, Option.some.injEq] at stepped
              subst next
              exact .threw ready present given open_ kind
    · cases stepped
  · cases stepped

theorem step_move {state next : State} {action : Action}
    (stepped : step state action = some next) : Move state action next := by
  cases action with
  | sendStream buffer result =>
      simp only [step, Option.ite_none_right_eq_some, Option.some.injEq] at stepped
      obtain ⟨ready, rfl⟩ := stepped
      exact .sent ready
  | recvStream buffer result =>
      simp only [step, Option.ite_none_right_eq_some, Option.some.injEq] at stepped
      obtain ⟨ready, rfl⟩ := stepped
      cases result with
      | error code => exact .exited ready
      | null | request => exact .received ready (by simp)
  | complete index status length => exact complete_move stepped
  | callbackReturn =>
      simp only [step] at stepped
      split at stepped
      · rename_i index running top
        split at stepped
        · rename_i operation present
          obtain ⟨runtime, executed, rfl⟩ := Option.map_eq_some_iff.mp stepped
          exact .returned running top present executed
        · cases stepped
      · cases stepped
  | code action =>
      simp only [step, Option.ite_none_right_eq_some, Option.map_eq_some_iff] at stepped
      obtain ⟨⟨ready, permitted⟩, runtime, executed, rfl⟩ := stepped
      exact .executed ready permitted executed

section Lookup

variable {state : State} {index other : Nat} {operation old : Operation}
  {runtime : Async.State EventId Value Tag}

theorem State.update_self (present : state.operations[index]? = some old) :
    (state.update index operation runtime).operations[index]? = some operation := by
  obtain ⟨bound, _⟩ := List.getElem?_eq_some_iff.mp present
  simp [State.update, bound]

theorem State.update_other (different : other ≠ index) :
    (state.update index operation runtime).operations[other]? = state.operations[other]? := by
  simp [State.update, List.getElem?_set_ne (Ne.symm different)]

/-- An operation after an update is the updated one, or was there before. -/
theorem State.update_cases {found : Operation} (present : state.operations[index]? = some old)
    (looked : (state.update index operation runtime).operations[other]? = some found) :
    (other = index ∧ found = operation) ∨
      (other ≠ index ∧ state.operations[other]? = some found) := by
  by_cases same : other = index
  · subst same
    rw [State.update_self present] at looked
    exact .inl ⟨rfl, (Option.some.inj looked).symm⟩
  · rw [State.update_other same] at looked
    exact .inr ⟨same, looked⟩

variable {param : Nat → RequestParam} {buffer : Buffer} {result : StatusPtr}

theorem State.post_self :
    (state.post param buffer result).operations[state.operations.length]? =
      some ⟨param state.operations.length, buffer, result, none, false⟩ := by
  simp [State.post]

theorem State.post_other (different : index ≠ state.operations.length) :
    (state.post param buffer result).operations[index]? = state.operations[index]? := by
  rcases Nat.lt_or_gt_of_ne different with below | above
  · simp [State.post, List.getElem?_append_left below]
  · rw [List.getElem?_eq_none (by simp [State.post]; omega),
      List.getElem?_eq_none (Nat.le_of_lt above)]

theorem State.post_cases
    (present : (state.post param buffer result).operations[index]? = some operation) :
    (index = state.operations.length ∧
        operation = ⟨param state.operations.length, buffer, result, none, false⟩) ∨
      (index ≠ state.operations.length ∧ state.operations[index]? = some operation) := by
  by_cases new : index = state.operations.length
  · subst new
    rw [State.post_self] at present
    exact .inl ⟨rfl, (Option.some.inj present).symm⟩
  · rw [State.post_other new] at present
    exact .inr ⟨new, present⟩

end Lookup

section Slots

variable {index : Nat} {action : Async.Action EventId Value Tag}
  {slot next : Async.Slot EventId Value Tag}

structure Quiet (index : Nat) (slot : Async.Slot EventId Value Tag) : Prop where
  serial : slot.serial = 0
  clear : slot.event.signaled = false
  still : slot.delivering = false
  alone : slot.event.waiterHandle = none → Async.suspensions slot.history = 0
  resumed : Async.resumptions slot.history = 0
  silent : ∀ serial value, .accepted (.operation index) serial value ∉ slot.history

structure Delivered (index : Nat) (value : Value) (slot : Async.Slot EventId Value Tag) :
    Prop where
  signal : .accepted (.operation index) 1 value ∈ slot.history
  only : ∀ serial other, .accepted (.operation index) serial other ∈ slot.history →
    other = value
  waiters : (slot.event.signaled = true ∧ slot.delivering = false ∧
      Async.suspensions slot.history = 0 ∧ Async.resumptions slot.history = 0) ∨
    (slot.event.signaled = slot.delivering ∧ Async.resumptions slot.history = 1)

theorem Quiet.step (quiet : Quiet index slot)
    (move : Async.SlotMove (.operation index) action slot next)
    (other : ∀ value fullCallback, action ≠ .setOr (.operation index) value fullCallback) :
    Quiet index next := by
  cases move with
  | unchanged => exact quiet
  | refused | stored | delivered => exact False.elim (other _ _ rfl)
  | passed signaled => simp [quiet.clear] at signaled
  | suspended =>
      refine ⟨quiet.serial, quiet.clear, quiet.still, fun alone => by simp at alone, ?_, ?_⟩
      · exact (Async.resumptions_suspended).trans quiet.resumed
      · exact fun serial value accepted => quiet.silent serial value (by simpa using accepted)
  | left _ _ delivering => simp [quiet.still] at delivering

theorem Quiet.signal (quiet : Quiet index slot) {value : Value} {fullCallback : Option Tag}
    (move : Async.SlotMove (.operation index) (.setOr (.operation index) value fullCallback)
      slot next) : Delivered index value next := by
  have first : slot.serial + 1 = 1 := by rw [quiet.serial]
  cases move with
  | unchanged other => exact False.elim (other _ _ rfl)
  | left other => exact False.elim (other _ _ rfl)
  | refused signaled => simp [quiet.clear] at signaled
  | stored _ alone =>
      refine ⟨by simp [first], fun serial other accepted => ?_, .inl ⟨rfl, rfl, ?_, ?_⟩⟩
      · rcases List.mem_cons.mp accepted with same | earlier
        · cases same
          rfl
        · exact False.elim (quiet.silent serial other earlier)
      · exact (Async.suspensions_passive ⟨rfl, rfl⟩).trans (quiet.alone alone)
      · exact (Async.resumptions_passive ⟨rfl, rfl⟩).trans quiet.resumed
  | delivered =>
      refine ⟨by simp [first], fun serial other accepted => ?_, .inr ⟨rfl, ?_⟩⟩
      · simp only [List.mem_cons, reduceCtorEq, false_or] at accepted
        rcases accepted with same | earlier
        · cases same
          rfl
        · exact False.elim (quiet.silent serial other earlier)
      rw [Async.resumptions_passive ⟨rfl, rfl⟩, Async.resumptions_resumed,
        Async.resumptions_passive ⟨rfl, rfl⟩, quiet.resumed]

theorem Delivered.step {value : Value} (delivered : Delivered index value slot)
    (move : Async.SlotMove (.operation index) action slot next)
    (other : ∀ value fullCallback, action ≠ .setOr (.operation index) value fullCallback) :
    Delivered index value next := by
  cases move with
  | unchanged => exact delivered
  | refused | stored | delivered => exact False.elim (other _ _ rfl)
  | passed =>
      refine ⟨List.mem_cons_of_mem _ delivered.signal,
        fun serial other accepted => delivered.only serial other (by simpa using accepted), ?_⟩
      rw [Async.suspensions_passive ⟨rfl, rfl⟩, Async.resumptions_passive ⟨rfl, rfl⟩]
      exact delivered.waiters
  | suspended clear still =>
      refine ⟨List.mem_cons_of_mem _ delivered.signal,
        fun serial other accepted => delivered.only serial other (by simpa using accepted), ?_⟩
      rcases delivered.waiters with ⟨signaled, _⟩ | ⟨same, resumed⟩
      · simp [clear] at signaled
      · exact .inr ⟨same, (Async.resumptions_suspended).trans resumed⟩
  | left _ _ delivering =>
      refine ⟨delivered.signal, delivered.only, ?_⟩
      rcases delivered.waiters with ⟨_, still, _⟩ | ⟨_, resumed⟩
      · simp [delivering] at still
      · exact .inr ⟨rfl, resumed⟩

def SlotOf (index : Nat) (operation : Option Operation)
    (slot : Async.Slot EventId Value Tag) : Prop :=
  match operation with
  | some operation =>
      match operation.completion with
      | some (.ok, length) => Delivered index (operation.signal index length) slot
      | _ => Quiet index slot
  | none => Quiet index slot

theorem SlotOf.step {operation : Option Operation} (held : SlotOf index operation slot)
    (move : Async.SlotMove (.operation index) action slot next)
    (other : ∀ value fullCallback, action ≠ .setOr (.operation index) value fullCallback) :
    SlotOf index operation next := by
  unfold SlotOf at held ⊢
  split at held
  · split at held
    · exact held.step move other
    · exact held.step move other
  · exact held.step move other

theorem SlotOf.run {operation : Option Operation} {actions : List (Async.Action EventId Value Tag)}
    {runtime final : Async.State EventId Value Tag} (wellFormed : Async.WellFormed runtime)
    (held : SlotOf index operation (runtime.slot (.operation index)))
    (others : ∀ action ∈ actions,
      ∀ value fullCallback, action ≠ .setOr (.operation index) value fullCallback)
    (reached : Transition.run Async.step runtime actions = some final) :
    SlotOf index operation (final.slot (.operation index)) := by
  induction actions generalizing runtime with
  | nil =>
      cases reached
      exact held
  | cons action rest ih =>
      obtain ⟨middle, stepped, remaining⟩ := run_cons_inv reached
      have move := Async.step_slotMove wellFormed stepped (.operation index)
      exact ih (wellFormed.step stepped) (held.step move (others action List.mem_cons_self))
        (fun other member => others other (List.mem_cons_of_mem _ member)) remaining

end Slots

section Callbacks

def Tag.callback? : Tag → Option Nat
  | .callback index => some index
  | _ => none

def callbacks (runtime : Async.State EventId Value Tag) : List Nat :=
  (Async.natives runtime.stack).filterMap Tag.callback?

variable {state : State} {index : Nat} {value : Value} {action : Async.Action EventId Value Tag}
  {runtime : Async.State EventId Value Tag}

/-- Only a callback itself puts a callback on the stack or takes it off. -/
theorem callbacks_executed (ready : state.Ready) (permitted : Permitted state action)
    (executed : Async.step state.runtime action = some runtime) :
    callbacks runtime = callbacks state.runtime := by
  unfold callbacks
  rcases Async.step_natives executed with same | ⟨tag, pushes, pushed⟩ | ⟨_, tag, rest, top, popped⟩
  · rw [same]
  · rw [pushed]
    rcases pushes with rfl | ⟨event, given, rfl⟩
    · cases tag with
      | user => rfl
      | _ => exact False.elim permitted
    · cases event <;> cases tag <;> first | rfl | exact False.elim permitted
  · rw [top, popped]
    cases tag with
    | callback index => simp [State.Ready, State.callback?, top] at ready
    | _ => rfl

theorem callbacks_noted {tag : Tag}
    (executed : Async.step state.runtime (.note tag) = some runtime) :
    callbacks runtime = callbacks state.runtime := by
  cases executed
  rfl

theorem callbacks_head
    (executed : run Async.step state.runtime (callbackHead index value) = some runtime) :
    callbacks runtime = index :: callbacks state.runtime := by
  obtain ⟨called, entered, remaining⟩ := run_cons_inv executed
  obtain ⟨set, signalled, finished⟩ := run_cons_inv remaining
  cases entered
  cases finished
  unfold callbacks
  rcases Async.step_natives signalled with same | ⟨tag, pushes, _⟩ | ⟨returns, _⟩
  · rw [same]
    rfl
  · simp at pushes
  · cases returns

theorem callbacks_tail (top : state.callback? = some index)
    (executed : run Async.step state.runtime (callbackTail index) = some runtime) :
    callbacks state.runtime = index :: callbacks runtime := by
  unfold State.callback? at top
  split at top
  · rename_i inner rest shape
    cases top
    simp only [callbackTail, run, Async.step, shape, Option.some.injEq] at executed
    subst runtime
    simp [callbacks, shape, Tag.callback?]
  · cases top

end Callbacks

def Operation.Over (operation : Operation) : Prop :=
  operation.result = .request → operation.returned = true

/-- What the record of one operation keeps: its parameters name it, and UCX
only calls back the operations that it left pending. -/
structure Operation.Lawful (index : Nat) (operation : Operation) : Prop where
  named : operation.param.userData = index
  pending : operation.result ≠ .request → operation.completion = none
  completed : operation.returned = true → operation.completion ≠ none
  failed : ∀ code length, operation.completion = some (.error code, length) →
    operation.returned = true

def Operation.InCallback (operation : Operation) : Prop :=
  (∃ length, operation.completion = some (.ok, length)) ∧ operation.returned = false

/-- What every run of an endpoint's program keeps. -/
structure Sound (state : State) : Prop where
  wellFormed : Async.WellFormed state.runtime
  accounted : ∀ index, Async.Accounted (EventId.operation index) state.runtime
  loaded : ∀ index,
    (state.runtime.slot (.operation index)).Loaded (EventId.operation index)
  slots : ∀ index,
    SlotOf index state.operations[index]? (state.runtime.slot (.operation index))
  lawful : ∀ {index : Nat} {operation : Operation},
    state.operations[index]? = some operation → operation.Lawful index
  frames : ∀ index ∈ callbacks state.runtime, ∃ operation,
    state.operations[index]? = some operation ∧ operation.InCallback
  once : (callbacks state.runtime).Nodup

namespace Sound

variable {state next : State} {action : Action}

theorem initial : Sound State.initial where
  wellFormed := .initial
  accounted index := Async.Accounted.initial (EventId.operation index)
  loaded index := .initial (EventId.operation index)
  slots index := by
    refine ⟨rfl, rfl, ?_, fun _ => rfl, rfl, fun serial value member => ?_⟩
    · simp [State.initial, Async.State.slot, Async.State.Resuming, Async.State.initial]
    · simp [State.initial, Async.State.initial, Async.historyOf] at member
  lawful present := by simp [State.initial] at present
  frames index member := by
    simp [State.initial, callbacks, Async.State.initial, Async.natives] at member
  once := .nil

theorem runtime_run (sound : Sound state) {actions : List (Async.Action EventId Value Tag)}
    {runtime : Async.State EventId Value Tag}
    (executed : run Async.step state.runtime actions = some runtime) :
    Async.WellFormed runtime ∧ ∀ index, Async.Accounted (EventId.operation index) runtime ∧
      (runtime.slot (.operation index)).Loaded (EventId.operation index) := by
  refine run_preserves
    (fun runtime => Async.WellFormed runtime ∧
      ∀ index, Async.Accounted (EventId.operation index) runtime ∧
        (runtime.slot (.operation index)).Loaded (EventId.operation index))
    ?_ ⟨sound.wellFormed, fun index => ⟨sound.accounted index, sound.loaded index⟩⟩ executed
  intro before action after held stepped
  obtain ⟨wellFormed, events⟩ := held
  refine ⟨wellFormed.step stepped, fun index => ?_⟩
  obtain ⟨accounted, loaded⟩ := events index
  exact ⟨accounted.step wellFormed stepped,
    loaded.step (Async.step_slotMove wellFormed stepped (.operation index))⟩

theorem post (sound : Sound state) {param : Nat → RequestParam} {buffer : Buffer}
    {result : StatusPtr} (named : ∀ index, (param index).userData = index) :
    Sound (state.post param buffer result) := by
  refine ⟨sound.wellFormed, sound.accounted, sound.loaded, fun index => ?_,
    fun {index operation} present => ?_, fun index member => ?_, sound.once⟩
  · have held := sound.slots index
    by_cases new : index = state.operations.length
    · subst index
      rw [State.post_self]
      rw [List.getElem?_eq_none (Nat.le_refl _)] at held
      exact held
    · rw [State.post_other new]
      exact held
  · rcases State.post_cases present with ⟨rfl, rfl⟩ | ⟨_, earlier⟩
    · exact ⟨named _, fun _ => rfl, by simp, by simp⟩
    · exact sound.lawful earlier
  · obtain ⟨operation, present, inside⟩ := sound.frames index member
    have old : index ≠ state.operations.length := by
      intro equal
      subst equal
      simp at present
    exact ⟨operation, (State.post_other old).trans present, inside⟩

/-- Enough to keep the invariant when one operation's record changes and the
runtime runs some actions. -/
theorem update (sound : Sound state) {index : Nat} {old operation : Operation}
    {actions : List (Async.Action EventId Value Tag)} {runtime : Async.State EventId Value Tag}
    (present : state.operations[index]? = some old)
    (executed : run Async.step state.runtime actions = some runtime)
    (lawful : operation.Lawful index)
    (slot : SlotOf index (some operation) (runtime.slot (.operation index)))
    (others : ∀ other, other ≠ index → ∀ action ∈ actions, ∀ value fullCallback,
      action ≠ .setOr (.operation other) value fullCallback)
    (once : (callbacks runtime).Nodup)
    (entered : index ∈ callbacks runtime → operation.InCallback)
    (below : ∀ other ∈ callbacks runtime, other ≠ index → other ∈ callbacks state.runtime) :
    Sound (state.update index operation runtime) := by
  obtain ⟨wellFormed, events⟩ := sound.runtime_run executed
  refine ⟨wellFormed, fun other => (events other).1, fun other => (events other).2,
    fun other => ?_, fun {other found} looked => ?_, fun other member => ?_, once⟩
  · by_cases same : other = index
    · subst other
      rw [State.update_self present]
      exact slot
    · rw [State.update_other same]
      exact (sound.slots other).run sound.wellFormed (others other same) executed
  · rcases State.update_cases present looked with ⟨rfl, rfl⟩ | ⟨_, earlier⟩
    · exact lawful
    · exact sound.lawful earlier
  · by_cases same : other = index
    · subst other
      exact ⟨operation, State.update_self present, entered member⟩
    · rw [State.update_other same]
      exact sound.frames other (below other member same)

theorem quiet (sound : Sound state) {index : Nat} {operation : Operation}
    (present : state.operations[index]? = some operation) (open_ : operation.completion = none) :
    Quiet index (state.runtime.slot (.operation index)) := by
  have held := sound.slots index
  simpa only [SlotOf, present, open_] using held

theorem not_on_stack (sound : Sound state) {index : Nat} {operation : Operation}
    (present : state.operations[index]? = some operation)
    (outside : ¬ operation.InCallback) : index ∉ callbacks state.runtime := by
  intro member
  obtain ⟨found, looked, inside⟩ := sound.frames index member
  cases present.symm.trans looked
  exact outside inside

theorem signalled (sound : Sound state) {index length : Nat} {operation : Operation}
    {runtime : Async.State EventId Value Tag}
    (present : state.operations[index]? = some operation) (given : operation.result = .request)
    (open_ : operation.completion = none) (unreturned : operation.returned = false)
    (executed : run Async.step state.runtime
      (callbackHead index (operation.signal index length)) = some runtime) :
    Sound (state.update index { operation with completion := some (.ok, length) } runtime) := by
  have quiet := sound.quiet present open_
  have head := callbacks_head executed
  have fresh := sound.not_on_stack present fun inside => by
    simp [Operation.InCallback, open_] at inside
  refine sound.update present executed
    ⟨(sound.lawful present).named, by simp [given], by simp, by simp⟩ ?_ ?_
    ?_ (fun _ => ⟨⟨length, rfl⟩, unreturned⟩) ?_
  · obtain ⟨called, entered, remaining⟩ := run_cons_inv executed
    obtain ⟨set, signalled, finished⟩ := run_cons_inv remaining
    cases finished
    have move := Async.step_slotMove (sound.wellFormed.step entered) signalled (.operation index)
    have still := quiet.step (Async.step_slotMove sound.wellFormed entered (.operation index))
      (by simp)
    exact still.signal move
  · intro other different action member
    simp only [callbackHead, List.mem_cons, List.not_mem_nil, or_false] at member
    rcases member with rfl | rfl
    · simp
    · simp [Ne.symm different]
  · rw [head]
    exact List.nodup_cons.mpr ⟨fresh, sound.once⟩
  · intro other member different
    rw [head] at member
    exact (List.mem_cons.mp member).resolve_left different

theorem failed (sound : Sound state) {index length code : Nat} {operation : Operation}
    (tags : List Tag) {runtime : Async.State EventId Value Tag}
    (present : state.operations[index]? = some operation) (given : operation.result = .request)
    (open_ : operation.completion = none)
    (executed : run Async.step state.runtime (tags.map .note) = some runtime)
    (stack : callbacks runtime = callbacks state.runtime) :
    Sound (state.update index
      { operation with completion := some (.error code, length), returned := true } runtime) := by
  have outside := sound.not_on_stack present fun inside => by
    simp [Operation.InCallback, open_] at inside
  have others (other : Nat) :
      ∀ action ∈ (tags.map .note : List (Async.Action EventId Value Tag)),
        ∀ value fullCallback, action ≠ .setOr (.operation other) value fullCallback := by
    intro action member value fullCallback
    obtain ⟨tag, _, rfl⟩ := List.mem_map.mp member
    simp
  have slot : SlotOf index none (state.runtime.slot (.operation index)) := sound.quiet present open_
  refine sound.update present executed
    ⟨(sound.lawful present).named, by simp [given], by simp, by simp⟩
    (slot.run sound.wellFormed (others index) executed) (fun other _ => others other) ?_ ?_ ?_
  · rw [stack]
    exact sound.once
  · rw [stack]
    exact fun member => False.elim (outside member)
  · rw [stack]
    exact fun _ member _ => member

theorem returned (sound : Sound state) {index : Nat} {operation : Operation}
    {runtime : Async.State EventId Value Tag}
    (present : state.operations[index]? = some operation) (top : state.callback? = some index)
    (executed : run Async.step state.runtime (callbackTail index) = some runtime) :
    Sound (state.update index { operation with returned := true } runtime) := by
  have tail := callbacks_tail top executed
  have distinct := sound.once
  rw [tail, List.nodup_cons] at distinct
  obtain ⟨found, looked, ⟨length, completed⟩, _⟩ :=
    sound.frames index (by rw [tail]; exact List.mem_cons_self)
  cases present.symm.trans looked
  have others (other : Nat) : ∀ action ∈ callbackTail index, ∀ value fullCallback,
      action ≠ .setOr (.operation other) value fullCallback := by
    simp [callbackTail]
  have held : SlotOf index (some { operation with returned := true })
      (state.runtime.slot (.operation index)) := by
    have slot := sound.slots index
    rw [present] at slot
    exact slot
  refine sound.update present executed
    ⟨(sound.lawful present).named, (sound.lawful present).pending, by simp [completed],
      fun _ _ _ => rfl⟩
    (held.run sound.wellFormed (others index) executed) (fun other _ => others other) distinct.2
    (fun member => False.elim (distinct.1 member)) ?_
  intro other member _
  rw [tail]
  exact List.mem_cons_of_mem _ member

theorem ended (sound : Sound state) (ended : Option Ended) :
    Sound { state with ended := ended } :=
  ⟨sound.wellFormed, sound.accounted, sound.loaded, sound.slots, sound.lawful, sound.frames,
    sound.once⟩

theorem executed (sound : Sound state) {action : Async.Action EventId Value Tag}
    {runtime : Async.State EventId Value Tag} (ready : state.Ready)
    (permitted : Permitted state action)
    (executed : Async.step state.runtime action = some runtime) :
    Sound { state with runtime := runtime } := by
  have stack := callbacks_executed ready permitted executed
  refine ⟨sound.wellFormed.step executed,
    fun index => (sound.accounted index).step sound.wellFormed executed,
    fun index => (sound.loaded index).step (Async.step_slotMove sound.wellFormed executed _),
    fun index => ?_,
    sound.lawful, fun index member => ?_, ?_⟩
  · refine (sound.slots index).step
      (Async.step_slotMove sound.wellFormed executed (.operation index)) ?_
    intro value fullCallback equal
    subst equal
    exact permitted
  · exact sound.frames index (stack ▸ member)
  · exact stack.symm ▸ sound.once

theorem step (sound : Sound state) (stepped : Endpoint.step state action = some next) :
    Sound next := by
  cases step_move stepped with
  | sent | received => exact sound.post fun _ => rfl
  | @exited buffer code =>
      have posted : Sound (state.post recvParam buffer (.error code)) := sound.post fun _ => rfl
      exact posted.ended _
  | @signalled index length operation runtime ready present given open_ executed =>
      have lawful := sound.lawful present
      rw [lawful.named] at executed
      have unreturned : operation.returned = false := by
        cases returned : operation.returned with
        | false => rfl
        | true => exact absurd open_ (lawful.completed returned)
      exact sound.signalled present given open_ unreturned executed
  | @dropped index code length operation runtime ready present given open_ kind executed =>
      have stack := callbacks_noted executed
      refine sound.failed [.sendFailed operation.param.userData code] present given open_ ?_ stack
      simpa only [List.map_cons, List.map_nil, run_cons executed] using run_nil
  | threw ready present given open_ kind =>
      exact (sound.failed [] present given open_ rfl rfl).ended _
  | returned running top present executed => exact sound.returned present top executed
  | executed ready permitted executed => exact sound.executed ready permitted executed

end Sound

theorem run_sound {actions : List Action} {state : State}
    (reached : run step .initial actions = some state) : Sound state :=
  run_preserves Sound (fun _ _ _ sound stepped => sound.step stepped) Sound.initial reached

end UcxPlayground.Endpoint
