import UcxPlayground.Async.Invariants
import UcxPlayground.Async.Objects

/-!
# When an await finds data

`signaled_` and `data` are written separately. Both constructors can set the
first without the second, and a stale handle can resume a coroutine that waits
for an object nobody has set. Apart from these an `await_resume` finds a value.
-/

set_option autoImplicit false

namespace UcxPlayground.Async.Objects

open Transition

variable {Event T : Type}

/-- A `set` of an object with this past stores its value. A `set_or` does not
while the object is signalled from its construction. -/
def Stores (made : Event → Construction) (event : Event) (past : List (Action Event T)) : Prop :=
  (made event).isSingleUse = true ∨ (made event).initialSignaled = false ∨ .reset event ∈ past

/-- Some `set` of the object stored its value. -/
def Written (made : Event → Construction) (event : Event) : List (Action Event T) → Prop
  | [] => False
  | .set other _ :: older => (other = event ∧ Stores made event older) ∨ Written made event older
  | _ :: older => Written made event older

section Decidability

variable [DecidableEq Event] [DecidableEq T] (made : Event → Construction) (event : Event)

instance (past : List (Action Event T)) : Decidable (Stores made event past) :=
  inferInstanceAs (Decidable (_ ∨ _ ∨ _))

instance Written.decidable : ∀ past : List (Action Event T), Decidable (Written made event past)
  | [] => inferInstanceAs (Decidable False)
  | .set other _ :: older =>
      have := Written.decidable older
      inferInstanceAs (Decidable ((other = event ∧ Stores made event older) ∨ _))
  | .reset _ :: older => Written.decidable older
  | .coAwait _ :: older => Written.decidable older
  | .start _ :: older => Written.decidable older
  | .finish :: older => Written.decidable older

end Decidability

/-- Where the coroutine waits that a `set` of the object resumes. -/
def State.wakes? (state : State Event T) (event : Event) : Option Event :=
  if (state.objects event).Full then none
  else (state.objects event).waiterHandle.bind fun waiter => (state.status waiter).event?

/-- A `co_await` of an object that was constructed signalled comes behind a
`reset` or a stored value, and a `set` resumes a coroutine that waits for the
same object, or for one that was given a value. -/
def Guarded (made : Event → Construction) (state : State Event T) : Action Event T → Prop
  | .coAwait event =>
      (made event).initialSignaled = true →
        .reset event ∈ state.past ∨ Written made event state.past
  | .set event _ =>
      ∀ awaited ∈ state.wakes? event, awaited = event ∨ Written made awaited state.past
  | _ => True

instance [DecidableEq Event] [DecidableEq T] (made : Event → Construction) (state : State Event T)
    (action : Action Event T) : Decidable (Guarded made state action) := by
  unfold Guarded
  split <;> infer_instance

section Past

variable {made : Event → Construction} {event : Event} {past : List (Action Event T)}
  {action : Action Event T}

theorem Written.cons (written : Written made event past) : Written made event (action :: past) := by
  cases action with
  | set => exact .inr written
  | _ => exact written

theorem written_cons_of_not_set (other : ∀ value, action ≠ .set event value) :
    Written made event (action :: past) ↔ Written made event past := by
  cases action with
  | set given value =>
      have different : given ≠ event := fun same => other value (by rw [same])
      simp [Written, different]
  | _ => exact Iff.rfl

end Past

/-- An object fits its past. Without a stored value it is signalled only from
its construction on. -/
structure Cell (made : Event → Construction) (event : Event) (past : List (Action Event T))
    (object : Object T) : Prop where
  kind : object.isSingleUse = (made event).isSingleUse
  data : object.data.isSome = true ↔ Written made event past
  unset : ¬ Written made event past →
    (object.signaled = true ↔ (made event).initialSignaled = true ∧ .reset event ∉ past)

namespace Cell

variable {made : Event → Construction} {event : Event} {past : List (Action Event T)}
  {action : Action Event T} {object : Object T}

theorem make (event : Event) :
    Cell made event ([] : List (Action Event T)) (.make (made event)) where
  kind := by simp
  data := by simp [Written]
  unset _ := by simp

theorem other (cell : Cell made event past object) (unset : ∀ value, action ≠ .set event value)
    (kept : action ≠ .reset event) : Cell made event (action :: past) object where
  kind := cell.kind
  data := by rw [written_cons_of_not_set unset]; exact cell.data
  unset := by
    rw [written_cons_of_not_set unset, List.mem_cons, not_or]
    simpa [Ne.symm kept] using cell.unset

/-- The object keeps what the invariant speaks of, as in `await_suspend`. -/
theorem congr {recorded : Object T} (cell : Cell made event past object)
    (kind : recorded.isSingleUse = object.isSingleUse) (data : recorded.data = object.data)
    (signaled : recorded.signaled = object.signaled) : Cell made event past recorded where
  kind := kind.trans cell.kind
  data := by rw [data]; exact cell.data
  unset := by rw [signaled]; exact cell.unset

theorem of_written {changed : Object T} (cell : Cell made event past object)
    (written : Written made event past) (kind : changed.isSingleUse = object.isSingleUse)
    (data : changed.data.isSome = true) : Cell made event past changed where
  kind := kind.trans cell.kind
  data := iff_of_true data written
  unset unwritten := absurd written unwritten

theorem afterResume (cell : Cell made event past object) (written : Written made event past) :
    Cell made event past object.afterResume := by
  have data := cell.data.mpr written
  cases object with
  | autoReset => exact cell.of_written written rfl data
  | singleUse => exact cell

theorem reset (cell : Cell made event past object) :
    Cell made event (.reset event :: past) object.reset := by
  refine ⟨?_, ?_, fun _ => ?_⟩
  · cases object <;> exact cell.kind
  · cases object <;> exact cell.data
  · cases object <;> simp [Object.reset, Object.signaled, AutoResetEvent.reset,
      SingleUseEvent.reset]

/-- A `set` that stores its value is the first to do so, or one that may. -/
theorem written_of_stored (cell : Cell made event past object) (takes : ¬ object.Full) (value : T) :
    Written made event (.set event value :: past) := by
  by_cases written : Written made event past
  · exact .inr written
  · refine .inl ⟨rfl, ?_⟩
    by_cases kind : object.isSingleUse = true
    · exact .inl (cell.kind ▸ kind)
    · have clear : object.signaled ≠ true := fun signaled =>
        takes ⟨by simpa using kind, signaled⟩
      rw [Ne, cell.unset written, not_and_or, not_not] at clear
      exact .inr (clear.imp_left (by simp))

theorem set {stored : Object T} (cell : Cell made event past object) (takes : ¬ object.Full)
    {value : T} (kind : stored.isSingleUse = object.isSingleUse)
    (data : stored.data = some value) : Cell made event (.set event value :: past) stored where
  kind := kind.trans cell.kind
  data := iff_of_true (by simp [data]) (cell.written_of_stored takes value)
  unset unwritten := absurd (cell.written_of_stored takes value) unwritten

theorem refused (cell : Cell made event past object) (full : object.Full) (value : T) :
    Cell made event (.set event value :: past) object := by
  obtain ⟨kind, signaled⟩ := full
  by_cases written : Written made event past
  · exact ⟨cell.kind, iff_of_true (cell.data.mpr written) written.cons,
      fun unwritten => absurd written.cons unwritten⟩
  · obtain ⟨initially, unreset⟩ := (cell.unset written).mp signaled
    have single : (made event).isSingleUse = false := cell.kind.symm.trans kind
    have still : ¬ Written made event (.set event value :: past) := by
      simp [Written, Stores, written, single, initially, unreset]
    exact ⟨cell.kind, iff_of_false (fun held => written (cell.data.mp held)) still,
      fun _ => by simp [signaled, initially, unreset]⟩

end Cell

/-- No `await_resume` was without data, and the objects fit the past. -/
structure Sound (made : Event → Construction) (state : State Event T) : Prop where
  alive : ¬ state.Terminated
  cells : ∀ event, Cell made event state.past (state.objects event)
  resuming : ∀ event ∈ deliveries state.stack, Written made event state.past

theorem Sound.initial (made : Event → Construction) :
    Sound made (State.initial made : State Event T) where
  alive := by simp [State.Terminated, State.initial]
  cells event := Cell.make event
  resuming := by simp [State.initial]

namespace State

variable {state : State Event T} {event : Event} {coroutine : CoroutineHandle}

theorem pass_terminated :
    (state.pass event coroutine).Terminated ↔
      (state.objects event).data = none ∨ state.Terminated := by
  simp [Terminated, pass, Object.awaitResume_eq]

variable [DecidableEq Event]

@[simp] theorem leave_passed : state.leave.passed = state.passed := by
  unfold leave
  split <;> rfl

@[simp] theorem leave_stack : state.leave.stack = state.stack.tail := by
  unfold leave
  split <;> simp_all

theorem leave_objects (state : State Event T) (event : Event) :
    state.leave.objects event = state.objects event ∨
      event ∈ deliveries state.stack ∧
        state.leave.objects event = (state.objects event).afterResume := by
  unfold leave
  split
  · rename_i resumed coroutine rest top
    by_cases same : event = resumed
    · subst resumed
      exact .inr ⟨by simp [top], by simp⟩
    · exact .inl (by simp [same])
  · exact .inl rfl
  · exact .inl rfl

end State

theorem deliveries_tail {stack : List (Frame Event Empty)} {event : Event}
    (member : event ∈ deliveries stack.tail) : event ∈ deliveries stack := by
  obtain ⟨coroutine, held⟩ := mem_deliveries_iff.mp member
  exact mem_deliveries_iff.mpr ⟨coroutine, List.mem_of_mem_tail held⟩

namespace Sound

variable {made : Event → Construction} {state next : State Event T} {action : Action Event T}
  {event : Event}

/-- The objects after an action that concerns one of them. -/
theorem cells_update [DecidableEq Event] (sound : Sound made state) {stored : Object T}
    (cell : Cell made event (action :: state.past) stored)
    (unset : ∀ other value, other ≠ event → action ≠ .set other value)
    (kept : ∀ other, other ≠ event → action ≠ .reset other) (other : Event) :
    Cell made other (action :: state.past) ((state.store event stored).objects other) := by
  by_cases same : other = event
  · subst same
    simpa [State.store] using cell
  · simpa [State.store, same] using
      (sound.cells other).other (fun value => unset other value same) (kept other same)

theorem resuming_cons (sound : Sound made state) (action : Action Event T) (event : Event)
    (member : event ∈ deliveries state.stack) : Written made event (action :: state.past) :=
  (sound.resuming event member).cons

/-- A return keeps the objects: the tail of a `set_or` runs on one with data. -/
theorem leave [DecidableEq Event] {past : List (Action Event T)}
    (alive : ¬ state.Terminated)
    (cells : ∀ event, Cell made event past (state.objects event))
    (resuming : ∀ event ∈ deliveries state.stack, Written made event past) :
    Sound made { state.leave with past := past } := by
  refine ⟨by simpa [State.Terminated] using alive, fun event => ?_, fun event member => ?_⟩
  · rcases state.leave_objects event with same | ⟨delivered, cleared⟩
    · rw [same]
      exact cells event
    · rw [cleared]
      exact (cells event).afterResume (resuming event delivered)
  · exact resuming event (deliveries_tail (by simpa using member))

theorem data_of_guarded (sound : Sound made state)
    (signaled : (state.objects event).signaled = true)
    (guarded : (made event).initialSignaled = true →
      .reset event ∈ state.past ∨ Written made event state.past) :
    (state.objects event).data ≠ none := by
  have cell := sound.cells event
  have written : Written made event state.past := by
    by_contra unwritten
    obtain ⟨initially, unreset⟩ := (cell.unset unwritten).mp signaled
    rcases guarded initially with reset | written
    · exact unreset reset
    · exact unwritten written
  exact Option.isSome_iff_ne_none.mp (cell.data.mpr written)

theorem step [DecidableEq Event] (sound : Sound made state) (guarded : Guarded made state action)
    (stepped : Objects.step state action = some next) : Sound made next := by
  obtain ⟨alive, moved, move, rfl⟩ := step_inv stepped
  cases move with
  | @refused event value full =>
      refine ⟨alive, fun other => ?_, sound.resuming_cons _⟩
      by_cases same : other = event
      · subst same
        exact (sound.cells other).refused full value
      · exact (sound.cells other).other (by simp [Ne.symm same]) (by simp)
  | @stored event value stored takes waiting kind data =>
      exact ⟨alive, sound.cells_update ((sound.cells event).set takes kind data)
        (by simp +contextual [eq_comm]) (by simp), sound.resuming_cons _⟩
  | @resumed event value stored waiter awaited takes waiting kind data where_ =>
      have written := (sound.cells event).written_of_stored takes value
      have cells := sound.cells_update ((sound.cells event).set takes kind data)
        (by simp +contextual [eq_comm]) (by simp)
      have reads : Written made awaited (.set event value :: state.past) := by
        rcases guarded awaited (by simp [State.wakes?, takes, waiting, where_]) with same | earlier
        · exact same ▸ written
        · exact earlier.cons
      refine ⟨?_, cells, fun other member => ?_⟩
      · have found := Option.isSome_iff_ne_none.mp ((cells awaited).data.mpr reads)
        show ¬ (State.pass _ awaited waiter).Terminated
        rw [State.pass_terminated, not_or]
        exact ⟨found, alive⟩
      · rcases List.mem_cons.mp member with same | below
        · exact same ▸ written
        · exact sound.resuming_cons _ other below
  | @reset event =>
      exact ⟨alive, sound.cells_update (sound.cells event).reset (by simp)
        (by simp +contextual [eq_comm]), sound.resuming_cons _⟩
  | @passed event coroutine current signaled =>
      refine ⟨?_, fun other => (sound.cells other).other (by simp) (by simp), sound.resuming_cons _⟩
      show ¬ (state.pass event coroutine).Terminated
      rw [State.pass_terminated, not_or]
      exact ⟨sound.data_of_guarded signaled guarded, alive⟩
  | @suspended event coroutine recorded current clear kind data signaled =>
      have cell : Cell made event (.coAwait event :: state.past) recorded :=
        ((sound.cells event).congr kind data signaled).other (by simp) (by simp)
      exact leave alive (sound.cells_update cell (by simp) (by simp)) (sound.resuming_cons _)
  | started =>
      exact ⟨alive, fun other => (sound.cells other).other (by simp) (by simp),
        sound.resuming_cons _⟩
  | finished =>
      exact leave alive (fun other => (sound.cells other).other (by simp) (by simp))
        (sound.resuming_cons _)

/-- A step that is not guarded ends the process. -/
theorem breaks [DecidableEq Event] (sound : Sound made state)
    (unguarded : ¬ Guarded made state action)
    (stepped : Objects.step state action = some next) : next.Terminated := by
  obtain ⟨_, moved, move, rfl⟩ := step_inv stepped
  cases move with
  | refused full => simp [Guarded, State.wakes?, full] at unguarded
  | stored takes waiting => simp [Guarded, State.wakes?, takes, waiting] at unguarded
  | @resumed event value stored waiter awaited takes waiting kind data where_ =>
      simp only [Guarded, State.wakes?, takes, waiting, where_, if_false, Option.bind_some,
        Status.event?_suspended, Option.mem_some_iff, forall_eq', not_or] at unguarded
      obtain ⟨elsewhere, unwritten⟩ := unguarded
      have empty : (state.objects awaited).data = none := by
        simpa using mt (sound.cells awaited).data.mp unwritten
      refine State.pass_terminated.mpr (.inl ?_)
      simpa [State.store, elsewhere] using empty
  | reset | started | finished => exact absurd trivial unguarded
  | @passed event coroutine current signaled =>
      simp only [Guarded, Classical.not_imp, not_or] at unguarded
      have empty : (state.objects event).data = none := by
        simpa using mt (sound.cells event).data.mp unguarded.2.2
      exact State.pass_terminated.mpr (.inl empty)
  | @suspended event coroutine recorded current clear =>
      simp only [Guarded, Classical.not_imp, not_or] at unguarded
      obtain ⟨initially, unreset, unwritten⟩ := unguarded
      have signaled := ((sound.cells event).unset unwritten).mpr ⟨initially, unreset⟩
      simp [signaled] at clear

end Sound

theorem State.Terminated.not_found {state : State Event T} (terminated : state.Terminated) :
    ¬ ∀ passed ∈ state.passed, ∃ value, passed.found = some value := by
  intro found
  obtain ⟨passed, member, empty⟩ := terminated
  obtain ⟨value, present⟩ := found passed member
  simp [empty] at present

/-- Every `await_resume` of a history finds data exactly when each of its steps
is guarded: nobody awaits an object that is signalled from its construction
only, or is resumed while it waits for an object without data. -/
theorem awaits_find_data_iff_along [DecidableEq Event] (made : Event → Construction)
    (actions : List (Action Event T)) (state : State Event T)
    (reached : run step (.initial made) actions = some state) :
    (∀ passed ∈ state.passed, ∃ value, passed.found = some value) ↔
      Along step (Guarded made) (.initial made) actions := by
  apply property_iff_along (Sound made) State.Terminated _ _ _ _ _ (.initial made) reached
  · exact fun _ _ _ sound guarded stepped => sound.step guarded stepped
  · exact fun _ _ _ sound unguarded stepped => sound.breaks unguarded stepped
  · exact fun _ _ _ terminated stepped => absurd terminated (step_inv stepped).1
  · intro state sound passed member
    exact Option.ne_none_iff_exists'.mp fun empty => sound.alive ⟨passed, member, empty⟩
  · exact fun _ terminated => terminated.not_found

/-- A single-use event resumes its coroutine, which goes on to an auto-reset
event constructed signalled. -/
def resetBeforeAwait : List (Action Bool Nat) :=
  [.start 0, .coAwait false, .reset true, .set false 7, .coAwait true, .set true 8, .finish]

def oneOfEach : Bool → Construction
  | true => .autoReset true
  | false => .singleUse false

theorem resetBeforeAwait_finds_data :
    ∃ state, run step (.initial oneOfEach) resetBeforeAwait = some state ∧
      ∀ passed ∈ state.passed, ∃ value, passed.found = some value :=
  ⟨_, rfl, (awaits_find_data_iff_along oneOfEach resetBeforeAwait _ rfl).mpr (by decide)⟩

/-- An object constructed signalled and awaited at once, of either class, and a
stale handle whose coroutine waits for an object that nobody has set. -/
theorem awaits_without_data :
    (∃ state, run step (.initial fun _ => .autoReset true)
        [.start 0, (.coAwait () : Action Unit Nat)] = some state ∧
      ¬ ∀ passed ∈ state.passed, ∃ value, passed.found = some value) ∧
    (∃ state, run step (.initial fun _ => .singleUse true)
        [.start 0, (.coAwait () : Action Unit Nat)] = some state ∧
      ¬ ∀ passed ∈ state.passed, ∃ value, passed.found = some value) ∧
    ∃ state, run step (.initial fun single => if single then .singleUse false else .autoReset false)
        [.start 0, .coAwait true, .set true 7, .coAwait false, (.set true 8 : Action Bool Nat)] =
          some state ∧
      ¬ ∀ passed ∈ state.passed, ∃ value, passed.found = some value :=
  ⟨⟨_, rfl, State.Terminated.not_found (by decide)⟩,
    ⟨_, rfl, State.Terminated.not_found (by decide)⟩,
    ⟨_, rfl, State.Terminated.not_found (by decide)⟩⟩

end UcxPlayground.Async.Objects
