import UcxPlayground.Endpoint.Invariants

/-!
# Which completions reach the caller

An operation of UCX ends in one of five ways. The callback is written for one
of them; `recv_stream` reports the two failures by ending the process. The
others end the operation without a word to whoever awaits its event.
-/

set_option autoImplicit false

namespace UcxPlayground.Endpoint

open Transition

def Operation.Succeeds (operation : Operation) : Prop :=
  operation.result = .request ∧ ∃ length, operation.completion = some (.ok, length)

def Operation.FailsLoudly (operation : Operation) : Prop :=
  operation.param.cb = .recvStream ∧
    ((∃ code, operation.result = .error code) ∨
      ∃ code length, operation.completion = some (.error code, length))

def Operation.Received (operation : Operation) (length : Nat) : Prop :=
  operation.result = .null length ∨ operation.completion = some (.ok, length)

def Operation.Carries (operation : Operation) (index : Nat) (value : Value) : Prop :=
  match operation.param.cb with
  | .send => value = .request index
  | .recvStream => ∃ length, operation.Received length ∧ value = .length length

/-- The event of the operation was signalled with what the operation produced. -/
def Signalled (state : State) (index : Nat) (operation : Operation) : Prop :=
  ∃ serial value, .accepted (.operation index) serial value ∈ state.runtime.trace ∧
    operation.Carries index value

def Reported (state : State) (index : Nat) : Prop :=
  ∃ code, state.ended = some (.exited index code) ∨ state.ended = some (.threw index code)

/-- The event was signalled and nobody is left waiting on it, or the failure
was reported. -/
def Settled (state : State) (index : Nat) (operation : Operation) : Prop :=
  (Signalled state index operation ∧
      ∀ coroutine, state.runtime.status coroutine ≠ .suspended (.operation index)) ∨
    Reported state index

def SuspendsAtMostOnce (state : State) (index : Nat) : Prop :=
  Async.suspensions (Async.historyOf (.operation index) state.runtime.trace) ≤ 1

instance (state : State) (index : Nat) : Decidable (SuspendsAtMostOnce state index) :=
  inferInstanceAs (Decidable (_ ≤ 1))

/-- The process ends exactly with the operation whose failure is reported. -/
def Reports (state : State) : Prop :=
  ∀ index operation, state.operations[index]? = some operation →
    (operation.FailsLoudly ↔ Reported state index)

namespace Reports

variable {state next : State} {action : Action}

theorem not_loud (reports : Reports state) (running : state.ended = none) {index : Nat}
    {operation : Operation} (present : state.operations[index]? = some operation) :
    ¬ operation.FailsLoudly := by
  intro loud
  obtain ⟨code, exited | threw⟩ := (reports index operation present).mp loud
  · simp [running] at exited
  · simp [running] at threw

theorem post (reports : Reports state) (running : state.ended = none)
    {param : Nat → RequestParam} {buffer : Buffer} {result : StatusPtr}
    (silent : ∀ index, (param index).cb = .send ∨ ∀ code, result ≠ .error code) :
    Reports (state.post param buffer result) := by
  intro index operation present
  have unreported : ¬ Reported (state.post param buffer result) index := by
    simp [Reported, State.post, running]
  refine iff_of_false ?_ unreported
  rcases State.post_cases present with ⟨rfl, rfl⟩ | ⟨_, earlier⟩
  · intro loud
    obtain ⟨kind, ⟨code, failed⟩ | ⟨code, length, completed⟩⟩ := loud
    · rcases silent state.operations.length with send | success
      · simp [send] at kind
      · exact success code failed
    · simp at completed
  · exact reports.not_loud running earlier

theorem update (reports : Reports state) (running : state.ended = none) {index : Nat}
    {old operation : Operation} {runtime : Async.State EventId Value Tag}
    (present : state.operations[index]? = some old) (silent : ¬ operation.FailsLoudly) :
    Reports (state.update index operation runtime) := by
  intro other found looked
  have unreported : ¬ Reported (state.update index operation runtime) other := by
    simp [Reported, State.update, running]
  refine iff_of_false ?_ unreported
  rcases State.update_cases present looked with ⟨rfl, rfl⟩ | ⟨_, earlier⟩
  · exact silent
  · exact reports.not_loud running earlier

theorem step (reports : Reports state) (sound : Sound state)
    (stepped : Endpoint.step state action = some next) : Reports next := by
  cases step_move stepped with
  | sent ready => exact reports.post ready.1 fun _ => .inl rfl
  | received ready success => exact reports.post ready.1 fun _ => .inr success
  | @exited buffer code ready =>
      intro index operation present
      rcases State.post_cases present with ⟨rfl, rfl⟩ | ⟨new, earlier⟩
      · exact iff_of_true ⟨rfl, .inl ⟨code, rfl⟩⟩ ⟨code, .inl rfl⟩
      · exact iff_of_false (reports.not_loud ready.1 earlier) (by simp [Reported, Ne.symm new])
  | signalled ready present given =>
      refine reports.update ready.1 present ?_
      intro loud
      obtain ⟨_, ⟨code, failed⟩ | ⟨code, length, completed⟩⟩ := loud
      · simp [given] at failed
      · simp at completed
  | dropped ready present given _ kind =>
      refine reports.update ready.1 present ?_
      intro held
      obtain ⟨receive, _⟩ := held
      simp [kind] at receive
  | @threw index code length operation ready present given _ kind =>
      have named := (sound.lawful present).named
      intro other found looked
      have updated := @State.update_cases state index other _ _ state.runtime found present looked
      rcases updated with ⟨rfl, rfl⟩ | ⟨same, earlier⟩
      · exact iff_of_true ⟨kind, .inr ⟨code, length, rfl⟩⟩ ⟨code, .inr (by simp [named])⟩
      · exact iff_of_false (reports.not_loud ready.1 earlier)
          (by simp [Reported, named, Ne.symm same])
  | returned running top present =>
      exact reports.update running present fun loud =>
        reports.not_loud running present ⟨loud.1, loud.2⟩
  | executed ready =>
      intro index operation present
      exact iff_of_false (reports.not_loud ready.1 present) (by simp [Reported, ready.1])

end Reports

theorem run_reports {actions : List Action} {state : State}
    (reached : run step .initial actions = some state) : Reports state := by
  have both := run_preserves (fun state => Sound state ∧ Reports state)
    (fun _ _ _ held stepped => ⟨held.1.step stepped, held.2.step held.1 stepped⟩)
    ⟨.initial, fun index operation present => by simp [State.initial] at present⟩ reached
  exact both.2

section Signals

variable {state : State} {index : Nat} {operation : Operation}

theorem succeeds_of_signalled (sound : Sound state)
    (present : state.operations[index]? = some operation)
    (signalled : Signalled state index operation) : operation.Succeeds := by
  obtain ⟨serial, value, accepted, _⟩ := signalled
  have observed := Async.mem_historyOf.mpr ⟨accepted, rfl⟩
  have slot := sound.slots index
  simp only [SlotOf, present] at slot
  split at slot
  · rename_i length completed
    refine ⟨?_, length, completed⟩
    by_contra other
    simp [(sound.lawful present).pending other] at completed
  · exact False.elim (slot.silent serial value observed)

theorem delivered_of_succeeds (sound : Sound state)
    (present : state.operations[index]? = some operation) (succeeds : operation.Succeeds) :
    ∃ length, operation.completion = some (.ok, length) ∧
      Delivered index (operation.signal index length) (state.runtime.slot (.operation index)) := by
  obtain ⟨_, length, completed⟩ := succeeds
  have slot := sound.slots index
  simp only [SlotOf, present, completed] at slot
  exact ⟨length, completed, slot⟩

theorem Operation.carries_signal {length : Nat}
    (completed : operation.completion = some (.ok, length)) :
    operation.Carries index (operation.signal index length) := by
  unfold Operation.Carries Operation.signal
  cases operation.param.cb with
  | send => rfl
  | recvStream => exact ⟨length, .inr completed, rfl⟩

theorem Delivered.none_waiting_iff {value : Value} (sound : Sound state)
    (delivered : Delivered index value (state.runtime.slot (.operation index))) :
    (∀ coroutine, state.runtime.status coroutine ≠ .suspended (.operation index)) ↔
      SuspendsAtMostOnce state index := by
  rw [(sound.accounted index).none_suspended_iff]
  unfold SuspendsAtMostOnce
  rcases delivered.waiters with ⟨_, _, suspensions, resumptions⟩ | ⟨_, resumptions⟩
  · simp only [Async.State.slot_history] at suspensions resumptions
    omega
  · simp only [Async.State.slot_history] at resumptions
    omega

end Signals

/-- In every state of every run, and so once it is over, an operation has settled
exactly when UCX left it pending and called back with `UCS_OK`, and at most one
`co_await` had to wait for it, or when it is a receive that failed. -/
theorem settled_iff_outcome {actions : List Action} {state : State} {index : Nat}
    {operation : Operation} (reached : run step .initial actions = some state)
    (present : state.operations[index]? = some operation) :
    Settled state index operation ↔
      (operation.Succeeds ∧ SuspendsAtMostOnce state index) ∨ operation.FailsLoudly := by
  have sound := run_sound reached
  rw [run_reports reached index operation present]
  refine or_congr_left' fun _ => ?_
  constructor
  · intro held
    obtain ⟨signalled, free⟩ := held
    have succeeds := succeeds_of_signalled sound present signalled
    obtain ⟨length, _, delivered⟩ := delivered_of_succeeds sound present succeeds
    exact ⟨succeeds, (delivered.none_waiting_iff sound).mp free⟩
  · intro held
    obtain ⟨succeeds, once⟩ := held
    obtain ⟨length, completed, delivered⟩ := delivered_of_succeeds sound present succeeds
    refine ⟨⟨1, _, ?_, operation.carries_signal completed⟩,
      (delivered.none_waiting_iff sound).mpr once⟩
    exact (Async.mem_historyOf.mp delivered.signal).1

def sendInPlace : List Action :=
  [.code (.start 0), .sendStream ⟨0, 8⟩ (.null 8), .code (.coAwait (.operation 0))]

theorem sendInPlace_leaves_waiting :
    ∃ state operation, run step State.initial sendInPlace = some state ∧
      state.operations[0]? = some operation ∧ operation.Over ∧
      state.runtime.status 0 = .suspended (.operation 0) ∧ ¬ Settled state 0 operation := by
  refine ⟨_, _, rfl, rfl, by simp [Operation.Over], rfl, ?_⟩
  intro either
  rcases either with ⟨_, free⟩ | ⟨code, exited | threw⟩
  · exact free 0 rfl
  · cases exited
  · cases threw

def sendLater : List Action :=
  [.code (.start 0), .sendStream ⟨0, 8⟩ .request, .code (.coAwait (.operation 0)),
    .complete 0 .ok 0, .code .finish, .callbackReturn]

theorem sendLater_settles :
    ∃ state operation, run step State.initial sendLater = some state ∧
      state.operations[0]? = some operation ∧ Settled state 0 operation :=
  ⟨_, _, rfl, rfl, (settled_iff_outcome (show run step .initial sendLater = _ from rfl) rfl).mpr
    (.inl ⟨⟨rfl, 0, rfl⟩, by decide⟩)⟩

end UcxPlayground.Endpoint
