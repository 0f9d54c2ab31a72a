import UcxPlayground.Client.Program
import UcxPlayground.Endpoint.Completion
import UcxPlayground.Endpoint.Lifecycle

/-!
# Progress of the client

The only thing that ends the loop of `main` is the coroutine behind its
`co_await`, and only the successful callback of the send gets it there. A send
that is done in place, is refused or fails leaves `main` in its loop.
-/

set_option autoImplicit false

namespace UcxPlayground.Client

open Endpoint Transition

variable {state next : State} {action : Action} {actions : List Action} {operation : Operation}

/-- The stack of the endpoint's runtime. -/
abbrev Stack := List (Async.Frame EventId Tag)

def State.stack (state : State) : Stack :=
  state.endpoint.runtime.stack

/-- The event of the only send. -/
def State.event (state : State) : Async.AutoResetEvent Value :=
  state.endpoint.runtime.events (.operation 0)

/-- `main` in its loop, with nothing else on the stack than `progress()`. -/
def Base (stack : Stack) : Prop :=
  stack = [] ∨ stack = [.native progress]

/-- `main` behind its loop, in `~UcpEndPoint`. -/
def Destroying (stack : Stack) : Prop :=
  stack = [.native epDestroy] ∨ stack = [.native progress, .native epDestroy]

/-- `main` is in its loop, or behind it once `completed` is set. -/
def Looping (completed : Bool) (stack : Stack) : Prop :=
  Base stack ∨ completed = true ∧ Destroying stack

structure Live (state : State) : Prop where
  running : state.ended = none
  open' : state.endpoint.ended = none

structure Uncalled (state : State) : Prop extends Live state where
  at' : state.pc = .uncalled
  stack : state.stack = []
  status : state.endpoint.runtime.status startClientWorkerHandle = .unstarted
  operations : state.endpoint.operations = []
  event : state.event = .fresh
  incomplete : state.completed = false

structure Posting (state : State) : Prop extends Live state where
  at' : state.pc = .sendStream
  stack : state.stack = [.called startClientWorkerHandle]
  operations : state.endpoint.operations = []
  event : state.event = .fresh
  incomplete : state.completed = false

/-- The send was posted, and the coroutine is in front of its `co_await`. -/
structure Awaiting (operation : Operation) (state : State) : Prop extends Live state where
  at' : state.pc = .coAwait
  stack : state.stack = [.called startClientWorkerHandle]
  operations : state.endpoint.operations = [operation]
  param : operation.param = sendParam 0
  uncalled : operation.completion = none
  event : state.event = .fresh
  incomplete : state.completed = false

/-- The coroutine is suspended, and no callback was called. -/
structure Waiting (operation : Operation) (state : State) : Prop extends Live state where
  at' : state.pc = .printSent
  stack : Looping state.completed state.stack
  operations : state.endpoint.operations = [operation]
  param : operation.param = sendParam 0
  uncalled : operation.completion = none
  event : state.event = ⟨false, none, some startClientWorkerHandle⟩
  incomplete : state.completed = false

/-- The callback was called with an error, and has left the coroutine suspended. -/
structure Failed (operation : Operation) (state : State) : Prop extends Live state where
  at' : state.pc = .printSent
  stack : Looping state.completed state.stack
  operations : state.endpoint.operations = [operation]
  failed : ∃ code length, operation.completion = some (.error code, length)
  incomplete : state.completed = false

/-- The coroutine runs inside the callback. -/
structure Resumed (operation : Operation) (state : State) : Prop extends Live state where
  at' : state.pc = .printSent ∨ state.pc = .complete
  stack : state.stack =
    [.resumed (.operation 0) startClientWorkerHandle, .native (.callback 0), .native progress]
  operations : state.endpoint.operations = [operation]
  succeeds : operation.Succeeds
  incomplete : state.completed = false

/-- The coroutine is over, and the callback has still to clean up. -/
structure Leaving (operation : Operation) (state : State) : Prop extends Live state where
  at' : state.pc = .finished
  stack : state.stack = [.native (.callback 0), .native progress]
  operations : state.endpoint.operations = [operation]
  succeeds : operation.Succeeds

/-- The coroutine has thrown before it posted. -/
structure Thrown (state : State) : Prop extends Live state where
  at' : state.pc = .finished
  stack : Looping state.completed state.stack
  operations : state.endpoint.operations = []
  incomplete : state.completed = false

structure Over (operation : Operation) (state : State) : Prop extends Live state where
  at' : state.pc = .finished
  stack : Looping state.completed state.stack
  operations : state.endpoint.operations = [operation]
  succeeds : operation.Succeeds
  returned : operation.returned = true

/-- The stack, the statement of the coroutine, its event and its send only occur
in these combinations. -/
inductive Phase (state : State) : Prop where
  | uncalled (here : Uncalled state)
  | posting (here : Posting state)
  | awaiting {operation : Operation} (here : Awaiting operation state)
  | waiting {operation : Operation} (here : Waiting operation state)
  | failed {operation : Operation} (here : Failed operation state)
  | resumed {operation : Operation} (here : Resumed operation state)
  | leaving {operation : Operation} (here : Leaving operation state)
  | thrown (here : Thrown state)
  | behind {operation : Operation} (here : Over operation state)

/-- No one will set `completed` any more: the coroutine has thrown, or waits for
a callback that does not come or did not signal. -/
def State.Stuck (state : State) : Prop :=
  state.completed = false ∧
    (state.pc = .finished ∨ ∃ operation ∈ state.endpoint.operations,
      operation.result ≠ .request ∨
        ∃ code length, operation.completion = some (.error code, length))

/-- The callback of the only send came with success, and has returned. -/
def State.SendOver (state : State) : Prop :=
  ∃ operation, state.endpoint.operations[0]? = some operation ∧ operation.Succeeds ∧
    operation.returned = true

/-- What a step makes of the program. -/
inductive Effect (state next : State) : Prop where
  | terminates (ended : next.ended = some .terminated)
  | returns (completed : state.completed = true) (sent : next.SendOver)
      (ended : next.ended = some .returned)
  | goes (phase : Phase next) (live : Live next) (stuck : state.Stuck → next.Stuck)

namespace State

/-- A change of the stack alone. -/
def withStack (state : State) (stack : Stack) : State :=
  { state with endpoint := { state.endpoint with
      runtime := { state.endpoint.runtime with stack := stack } } }

end State

section Loop

variable {name : Nat} {rest : Stack}

theorem act_call (live : Live state) (ready : state.endpoint.callback? = none) :
    state.act (.code (.call (.user name))) state.pc =
      some (state.withStack (.native (.user name) :: state.stack)) := by
  simp [State.act, Endpoint.step, State.Ready, live.open', ready, Permitted, Async.step,
    State.withStack, State.stack]

theorem act_ret (live : Live state) (stack : state.stack = .native (.user name) :: rest) :
    state.act (.code .ret) state.pc = some (state.withStack rest) := by
  unfold State.stack at stack
  simp [State.act, Endpoint.step, State.Ready, live.open', State.callback?, stack, Permitted,
    Async.step, State.withStack]

/-- A send that was completed is not completed again. -/
theorem act_complete_closed {status : UcsStatus} {pc : Pc}
    (closed : ∀ operation ∈ state.endpoint.operations, operation.completion ≠ none) :
    state.act (.complete 0 status 0) pc = none := by
  have refused : Endpoint.step state.endpoint (.complete 0 status 0) = none := by
    cases first : state.endpoint.operations[0]? with
    | none => simp [Endpoint.step, first]
    | some operation =>
        have done := closed operation (List.mem_of_getElem? first)
        simp [Endpoint.step, first, done]
  simp [State.act, refused]

theorem step_progressReturn (live : Live state) (stack : state.stack = .native progress :: rest) :
    step state .progressReturn = some (state.withStack rest) := by
  have here : state.endpoint.runtime.stack = .native progress :: rest := stack
  simp only [step, live.running, here]
  exact act_ret live stack

theorem step_poll (live : Live state) (called : state.pc ≠ .uncalled) (stack : state.stack = []) :
    step state .poll = some (state.withStack
      [.native (if state.completed then epDestroy else progress)]) := by
  have here : state.endpoint.runtime.stack = [] := stack
  have ready : state.endpoint.callback? = none := by simp [State.callback?, here]
  simp only [step, live.running, here, if_neg called]
  split
  · rw [act_call live ready, stack]
  · rw [act_call live ready, stack]

theorem step_epDestroyed (live : Live state) (stack : state.stack = [.native epDestroy]) :
    step state .epDestroyed = some { state.withStack [] with ended := some .returned } := by
  have here : state.endpoint.runtime.stack = [.native epDestroy] := stack
  simp only [step, live.running, here]
  rw [act_ret live stack]
  rfl

/-- What may happen inside `ucp_worker_progress`. -/
theorem progress_step (live : Live state) (stack : state.stack = .native progress :: rest)
    (stepped : step state action = some next) :
    next = state ∨ next = state.withStack rest ∨ next.ended = some .terminated ∨
      ∃ status, state.act (.complete 0 status 0) state.pc = some next := by
  have here : state.endpoint.runtime.stack = .native progress :: rest := stack
  cases action with
  | sendComplete status printed =>
      simp only [step, live.running, here, State.sendCallback, Option.map_eq_some_iff] at stepped
      obtain ⟨called, completed, rfl⟩ := stepped
      cases printed with
      | true => exact .inr (.inr (.inr ⟨status, completed⟩))
      | false => exact .inr (.inr (.inl rfl))
  | peerError status =>
      simp only [step, live.running, here, Option.some.injEq] at stepped
      subst stepped
      cases status with
      | ok => exact .inl rfl
      | error code => exact .inr (.inr (.inl rfl))
  | progressReturn =>
      rw [step_progressReturn live stack] at stepped
      cases stepped
      exact .inr (.inl rfl)
  | setup | run | poll | callbackReturn | epDestroyed => simp [step, live.running, here] at stepped

/-- What a step leads to while `main` is in its loop or behind it. -/
inductive Turn (state next : State) : Prop where
  | turns {other : Stack} (stack : Looping state.completed other)
      (same : next = state.withStack other)
  | terminates (ended : next.ended = some .terminated)
  | returns {other : Stack} (completed : state.completed = true)
      (same : next = { state.withStack other with ended := some .returned })
  | called {status : UcsStatus} {rest : Stack} (stack : state.stack = .native progress :: rest)
      (completes : state.act (.complete 0 status 0) state.pc = some next)

theorem loop_step (live : Live state) (called : state.pc ≠ .uncalled)
    (stack : Looping state.completed state.stack) (stepped : step state action = some next) :
    Turn state next := by
  have inProgress {rest : Stack} (here : state.stack = .native progress :: rest)
      (below : Looping state.completed rest) : Turn state next := by
    rcases progress_step live here stepped with rfl | rfl | ended | ⟨status, completes⟩
    · exact .turns stack rfl
    · exact .turns below rfl
    · exact .terminates ended
    · exact .called here completes
  rcases stack with (stack | stack) | ⟨completed, stack | stack⟩
  · have here : state.endpoint.runtime.stack = [] := stack
    cases action with
    | poll =>
        rw [step_poll live called stack] at stepped
        cases stepped
        cases completed : state.completed with
        | true => exact .turns (.inr ⟨completed, .inl rfl⟩) rfl
        | false => exact .turns (.inl (.inr rfl)) rfl
    | setup => simp [step, live.running, here, called] at stepped
    | run | sendComplete | peerError | callbackReturn | progressReturn | epDestroyed =>
        simp [step, live.running, here] at stepped
  · exact inProgress stack (.inl (.inl rfl))
  · have here : state.endpoint.runtime.stack = [.native epDestroy] := stack
    cases action with
    | poll =>
        simp only [step, live.running, here] at stepped
        rw [act_call live (by simp [State.callback?, here]), stack] at stepped
        cases stepped
        exact .turns (.inr ⟨completed, .inr rfl⟩) rfl
    | epDestroyed =>
        rw [step_epDestroyed live stack] at stepped
        cases stepped
        exact .returns completed rfl
    | setup | run | sendComplete | peerError | callbackReturn | progressReturn =>
        simp [step, live.running, here] at stepped
  · exact inProgress stack (.inr ⟨completed, .inl rfl⟩)

/-- A loop that no callback of the send can leave keeps the phase. -/
theorem loop_effect (live : Live state) (called : state.pc ≠ .uncalled)
    (stack : Looping state.completed state.stack)
    (closed : ∀ operation ∈ state.endpoint.operations, operation.completion ≠ none)
    (sent : state.completed = true → state.SendOver)
    (phase : ∀ other, Looping state.completed other → Phase (state.withStack other))
    (stepped : step state action = some next) : Effect state next := by
  cases loop_step live called stack stepped with
  | turns stack same =>
      subst same
      exact .goes (phase _ stack) ⟨live.running, live.open'⟩ id
  | terminates ended => exact .terminates ended
  | returns completed same =>
      subst same
      exact .returns completed (sent completed) rfl
  | called _ completes =>
      rw [act_complete_closed closed] at completes
      cases completes

end Loop

section Phases

theorem Uncalled.free (here : Uncalled state) : ¬ state.Stuck := by
  rintro ⟨_, finished | ⟨operation, member, _⟩⟩
  · simp [here.at'] at finished
  · simp [here.operations] at member

theorem Uncalled.setup (here : Uncalled state) :
    ∃ next, step state (.setup true) = some next ∧ Posting next := by
  have stack : state.endpoint.runtime.stack = [] := here.stack
  have started : step state (.setup true) = some { state with
      endpoint := { state.endpoint with
        runtime := { state.endpoint.runtime with
          status := Function.update state.endpoint.runtime.status startClientWorkerHandle .running
          stack := [.called startClientWorkerHandle] } }
      pc := .sendStream } := by
    simp [step, here.running, stack, here.at', State.act, Endpoint.step, State.Ready, here.open',
      State.callback?, Permitted, Async.step, here.status]
  exact ⟨_, started, ⟨here.running, here.open'⟩, rfl, rfl, here.operations, here.event,
    here.incomplete⟩

theorem Uncalled.effect (here : Uncalled state) (stepped : step state action = some next) :
    Effect state next := by
  have stack : state.endpoint.runtime.stack = [] := here.stack
  cases action with
  | setup constructed =>
      cases constructed with
      | false =>
          simp [step, here.running, stack, here.at'] at stepped
          subst stepped
          exact .terminates rfl
      | true =>
          obtain ⟨_, called, posting⟩ := here.setup
          cases called.symm.trans stepped
          exact .goes (.posting posting) posting.toLive fun stuck => absurd stuck here.free
  | poll => simp [step, here.running, stack, here.at'] at stepped
  | run | sendComplete | peerError | callbackReturn | progressReturn | epDestroyed =>
      simp [step, here.running, stack] at stepped

theorem Posting.free (here : Posting state) : ¬ state.Stuck := by
  rintro ⟨_, finished | ⟨operation, member, _⟩⟩
  · simp [here.at'] at finished
  · simp [here.operations] at member

theorem Posting.posted (here : Posting state) (parameter : Nat) (result : StatusPtr) :
    ∃ next operation, step state (.run (.posted parameter result)) = some next ∧
      operation.result = result ∧ Awaiting operation next := by
  have stack : state.endpoint.runtime.stack = [.called startClientWorkerHandle] := here.stack
  have posts : step state (.run (.posted parameter result)) = some { state with
      endpoint := Endpoint.sendStream state.endpoint ⟨parameter, 8⟩ result
      pc := .coAwait } := by
    simp [step, here.running, stack, State.runStartClientWorker, here.at', State.sendStream,
      State.act, Endpoint.step, State.Ready, here.open', State.callback?, Sending.CppType.size]
  have added : (Endpoint.sendStream state.endpoint ⟨parameter, 8⟩ result).operations =
      [⟨sendParam 0, ⟨parameter, 8⟩, result, none, false⟩] := by
    simp [Endpoint.sendStream, State.post, here.operations]
  exact ⟨_, _, posts, rfl, ⟨here.running, here.open'⟩, rfl, stack, added, rfl, rfl, here.event,
    here.incomplete⟩

theorem Posting.throws (here : Posting state) :
    ∃ next, step state (.run .throws) = some next ∧ Thrown next := by
  have stack : state.endpoint.runtime.stack = [.called startClientWorkerHandle] := here.stack
  have leaves : step state (.run .throws) = some { state with
      endpoint := { state.endpoint with
        runtime := state.endpoint.runtime.finish startClientWorkerHandle }
      pc := .finished } := by
    simp [step, here.running, stack, State.runStartClientWorker, here.at', State.finish, State.act,
      Endpoint.step, State.Ready, here.open', State.callback?, Permitted, Async.step,
      Async.State.current?, Async.Frame.coroutine?]
  have left : (state.endpoint.runtime.finish startClientWorkerHandle).stack = [] := by
    simp [Async.State.finish, Async.State.leave, stack]
  exact ⟨_, leaves, ⟨here.running, here.open'⟩, rfl, .inl (.inl left), here.operations,
    here.incomplete⟩

theorem Posting.effect (here : Posting state) (stepped : step state action = some next) :
    Effect state next := by
  have stack : state.endpoint.runtime.stack = [.called startClientWorkerHandle] := here.stack
  cases action with
  | run outcome =>
      cases outcome with
      | done => simp [step, here.running, stack, State.runStartClientWorker, here.at'] at stepped
      | throws =>
          obtain ⟨_, leaves, thrown⟩ := here.throws
          cases leaves.symm.trans stepped
          exact .goes (.thrown thrown) thrown.toLive fun stuck => absurd stuck here.free
      | terminates =>
          simp only [step, here.running, stack, State.runStartClientWorker, here.at',
            Option.some.injEq] at stepped
          exact .terminates (stepped ▸ rfl)
      | posted parameter result =>
          obtain ⟨_, operation, posts, _, awaiting⟩ := here.posted parameter result
          cases posts.symm.trans stepped
          exact .goes (.awaiting awaiting) awaiting.toLive fun stuck => absurd stuck here.free
  | setup | poll | sendComplete | peerError | callbackReturn | progressReturn | epDestroyed =>
      simp [step, here.running, stack] at stepped

/-- The event is not signalled, so the coroutine suspends whatever the post returned. -/
theorem Awaiting.suspends (here : Awaiting operation state) :
    ∃ next, step state (.run .done) = some next ∧ Waiting operation next := by
  have stack : state.endpoint.runtime.stack = [.called startClientWorkerHandle] := here.stack
  have fresh : state.endpoint.runtime.events (.operation 0) = .fresh := here.event
  have suspends : step state (.run .done) = some { state with
      endpoint := { state.endpoint with
        runtime := state.endpoint.runtime.suspend (.operation 0)
          ⟨false, none, some startClientWorkerHandle⟩ startClientWorkerHandle }
      pc := .printSent } := by
    simp [step, here.running, stack, State.runStartClientWorker, here.at', State.act, Endpoint.step,
      State.Ready, here.open', State.callback?, Permitted, here.operations, Async.step,
      Async.State.current?, Async.Frame.coroutine?, Async.coAwait, fresh,
      Async.AutoResetEvent.awaitReady, Async.AutoResetEvent.awaitSuspend]
  refine ⟨_, suspends, ⟨here.running, here.open'⟩, rfl, .inl (.inl ?_), here.operations,
    here.param, here.uncalled, ?_, here.incomplete⟩
  · simp [State.stack, Async.State.suspend, Async.State.record, Async.State.leave, stack]
  · simp [State.event, Async.State.suspend, Async.State.record, Async.State.leave, stack]

theorem Awaiting.effect (here : Awaiting operation state)
    (stepped : step state action = some next) : Effect state next := by
  have stack : state.endpoint.runtime.stack = [.called startClientWorkerHandle] := here.stack
  cases action with
  | run outcome =>
      cases outcome with
      | done =>
          obtain ⟨_, suspends, waiting⟩ := here.suspends
          cases suspends.symm.trans stepped
          refine .goes (.waiting waiting) waiting.toLive fun stuck => ?_
          obtain ⟨_, stuck⟩ := stuck
          rw [here.at', here.operations] at stuck
          rw [State.Stuck, waiting.operations]
          exact ⟨waiting.incomplete, .inr (stuck.resolve_left fun never => by cases never)⟩
      | throws | terminates | posted =>
          simp [step, here.running, stack, State.runStartClientWorker, here.at'] at stepped
  | setup | poll | sendComplete | peerError | callbackReturn | progressReturn | epDestroyed =>
      simp [step, here.running, stack] at stepped

/-- The callback of a pending send resumes the coroutine, or reports the error. -/
theorem Waiting.called (here : Waiting operation state) (pending : operation.result = .request)
    (stack : state.stack = [.native progress]) (status : UcsStatus) :
    ∃ next operation', state.act (.complete 0 status 0) state.pc = some next ∧
      operation'.result = .request ∧
      (status = .ok → Resumed operation' next) ∧ (status ≠ .ok → Failed operation' next) := by
  have top : state.endpoint.runtime.stack = [.native progress] := stack
  have waits : state.endpoint.runtime.events (.operation 0) =
    ⟨false, none, some startClientWorkerHandle⟩ := here.event
  have kind : operation.param.cb = .send := by rw [here.param]; rfl
  have name : operation.param.userData = 0 := by rw [here.param]; rfl
  cases status with
  | error code =>
      have reports : state.act (.complete 0 (.error code) 0) state.pc = some { state with
          endpoint := { state.endpoint with
            runtime := { state.endpoint.runtime with
              trace := .note (.sendFailed 0 code) :: state.endpoint.runtime.trace }
            operations := [{ operation with
              completion := some (.error code, 0)
              returned := true }] } } := by
        simp [State.act, Endpoint.step, here.operations, State.Ready, here.open', State.callback?,
          top, pending, here.uncalled, kind, sendCallback, name, Async.step, State.update]
      exact ⟨_, { operation with completion := some (.error code, 0), returned := true }, reports,
        pending, fun never => (by cases never), fun _ => ⟨⟨here.running, here.open'⟩, here.at',
        here.stack, rfl, ⟨code, 0, rfl⟩, here.incomplete⟩⟩
  | ok =>
      have resumes : ∃ runtime, state.act (.complete 0 .ok 0) state.pc = some { state with
          endpoint := { state.endpoint with
            runtime := runtime
            operations := [{ operation with completion := some (.ok, 0) }] } } ∧
          runtime.stack = [.resumed (.operation 0) startClientWorkerHandle, .native (.callback 0),
            .native progress] := by
        simp [State.act, Endpoint.step, here.operations, State.Ready, here.open', State.callback?,
          top, pending, here.uncalled, kind, sendCallback, name, run, callbackHead, Async.step,
          Async.setOr, waits, Async.AutoResetEvent.setOr, State.update, Async.State.resume,
          Async.State.pass, Async.State.accept]
      obtain ⟨runtime, resumes, inside⟩ := resumes
      exact ⟨_, { operation with completion := some (.ok, 0) }, resumes, pending,
        fun _ => ⟨⟨here.running, here.open'⟩, .inl here.at', inside, rfl, ⟨pending, 0, rfl⟩,
          here.incomplete⟩, fun other => absurd rfl other⟩

theorem Waiting.effect (here : Waiting operation state)
    (stepped : step state action = some next) : Effect state next := by
  cases loop_step here.toLive (by simp [here.at']) here.stack stepped with
  | @turns other stack same =>
      subst same
      have live : Live (state.withStack other) := ⟨here.running, here.open'⟩
      exact .goes (.waiting ⟨live, here.at', stack, here.operations, here.param, here.uncalled,
        here.event, here.incomplete⟩) live id
  | terminates ended => exact .terminates ended
  | returns completed => simp [here.incomplete] at completed
  | @called status rest top completes =>
      have stack : state.stack = [.native progress] := by
        simpa [Looping, Base, here.incomplete, top] using here.stack
      by_cases pending : operation.result = .request
      · have free : ¬ state.Stuck := by
          rintro ⟨_, finished | ⟨other, member, failed⟩⟩
          · simp [here.at'] at finished
          · simp [here.operations] at member
            simp [member, pending, here.uncalled] at failed
        obtain ⟨_, operation', called, _, succeeds, fails⟩ := here.called pending stack status
        cases called.symm.trans completes
        by_cases ok : status = .ok
        · exact .goes (.resumed (succeeds ok)) (succeeds ok).toLive fun stuck => absurd stuck free
        · exact .goes (.failed (fails ok)) (fails ok).toLive fun stuck => absurd stuck free
      · simp [State.act, Endpoint.step, here.operations, pending] at completes

theorem Failed.effect (here : Failed operation state)
    (stepped : step state action = some next) : Effect state next := by
  obtain ⟨code, length, failed⟩ := here.failed
  exact loop_effect here.toLive (by simp [here.at']) here.stack
    (by simp [here.operations, failed]) (by simp [here.incomplete])
    (fun _ stack => .failed ⟨⟨here.running, here.open'⟩, here.at', stack, here.operations,
      here.failed, here.incomplete⟩) stepped

theorem Thrown.effect (here : Thrown state) (stepped : step state action = some next) :
    Effect state next :=
  loop_effect here.toLive (by simp [here.at']) here.stack (by simp [here.operations])
    (by simp [here.incomplete]) (fun _ stack => .thrown ⟨⟨here.running, here.open'⟩, here.at',
      stack, here.operations, here.incomplete⟩) stepped

theorem Over.effect (here : Over operation state) (stepped : step state action = some next) :
    Effect state next := by
  obtain ⟨length, succeeded⟩ := here.succeeds.2
  exact loop_effect here.toLive (by simp [here.at']) here.stack
    (by simp [here.operations, succeeded])
    (fun _ => ⟨operation, by simp [here.operations], here.succeeds, here.returned⟩)
    (fun _ stack => .behind ⟨⟨here.running, here.open'⟩, here.at', stack, here.operations,
      here.succeeds, here.returned⟩) stepped

theorem Resumed.free (here : Resumed operation state) : ¬ state.Stuck := by
  obtain ⟨length, succeeded⟩ := here.succeeds.2
  rintro ⟨_, finished | ⟨other, member, failed⟩⟩
  · rcases here.at' with at' | at'
    · simp [at'] at finished
    · simp [at'] at finished
  · simp [here.operations] at member
    simp [member, here.succeeds.1, succeeded] at failed

theorem Resumed.finish (here : Resumed operation state) (completed : Bool) :
    ∃ next, State.finish { state with completed := completed } = some next ∧
      Leaving operation next ∧ next.completed = completed := by
  have stack : state.endpoint.runtime.stack =
    [.resumed (.operation 0) startClientWorkerHandle, .native (.callback 0), .native progress] :=
    here.stack
  have leaves : State.finish { state with completed := completed } = some { state with
      endpoint := { state.endpoint with
        runtime := state.endpoint.runtime.finish startClientWorkerHandle }
      pc := .finished
      completed := completed } := by
    simp [State.finish, State.act, Endpoint.step, State.Ready, here.open', State.callback?, stack,
      Permitted, Async.step, Async.State.current?, Async.Frame.coroutine?]
  have left : (state.endpoint.runtime.finish startClientWorkerHandle).stack =
      [.native (.callback 0), .native progress] := by
    simp [Async.State.finish, Async.State.leave, stack]
  exact ⟨_, leaves, ⟨⟨here.running, here.open'⟩, rfl, left, here.operations, here.succeeds⟩, rfl⟩

theorem Resumed.step_run (here : Resumed operation state) (outcome : Outcome) :
    step state (.run outcome) = state.runStartClientWorker outcome := by
  have stack : state.endpoint.runtime.stack =
    [.resumed (.operation 0) startClientWorkerHandle, .native (.callback 0), .native progress] :=
    here.stack
  simp [step, here.running, stack]

theorem Resumed.prints (here : Resumed operation state) (at' : state.pc = .printSent) :
    ∃ next, step state (.run .done) = some next ∧ Resumed operation next ∧ next.pc = .complete :=
  ⟨{ state with pc := .complete }, by
      rw [here.step_run]
      simp only [State.runStartClientWorker, at'],
    ⟨⟨here.running, here.open'⟩, .inr rfl, here.stack, here.operations, here.succeeds,
      here.incomplete⟩, rfl⟩

theorem Resumed.completes (here : Resumed operation state) (at' : state.pc = .complete) :
    ∃ next, step state (.run .done) = some next ∧ Leaving operation next ∧
      next.completed = true := by
  obtain ⟨next, finished, leaving, completed⟩ := here.finish true
  refine ⟨next, ?_, leaving, completed⟩
  rw [here.step_run]
  simpa only [State.runStartClientWorker, at'] using finished

theorem Resumed.effect (here : Resumed operation state)
    (stepped : step state action = some next) : Effect state next := by
  cases action with
  | run outcome =>
      rcases here.at' with at' | at'
      · cases outcome with
        | done =>
            obtain ⟨_, prints, resumed, _⟩ := here.prints at'
            cases prints.symm.trans stepped
            exact .goes (.resumed resumed) resumed.toLive fun stuck => absurd stuck here.free
        | throws =>
            simp only [here.step_run, State.runStartClientWorker, at'] at stepped
            obtain ⟨_, finished, leaving, _⟩ := here.finish state.completed
            cases finished.symm.trans stepped
            exact .goes (.leaving leaving) leaving.toLive fun stuck => absurd stuck here.free
        | terminates | posted => simp [here.step_run, State.runStartClientWorker, at'] at stepped
      · cases outcome with
        | done =>
            obtain ⟨_, completes, leaving, _⟩ := here.completes at'
            cases completes.symm.trans stepped
            exact .goes (.leaving leaving) leaving.toLive fun stuck => absurd stuck here.free
        | throws | terminates | posted =>
            simp [here.step_run, State.runStartClientWorker, at'] at stepped
  | setup | poll | sendComplete | peerError | callbackReturn | progressReturn | epDestroyed =>
      have stack : state.endpoint.runtime.stack = [.resumed (.operation 0) startClientWorkerHandle,
        .native (.callback 0), .native progress] := here.stack
      simp [step, here.running, stack] at stepped

/-- `delete event; ucp_request_free(request);` -/
theorem Leaving.returns (here : Leaving operation state) :
    ∃ next operation', step state .callbackReturn = some next ∧ Over operation' next ∧
      next.completed = state.completed := by
  have stack : state.endpoint.runtime.stack = [.native (.callback 0), .native progress] :=
    here.stack
  have cleans : step state .callbackReturn = some { state with
      endpoint := { state.endpoint with
        runtime := { state.endpoint.runtime with
          stack := [.native progress]
          trace := .note (.released 0) :: .note (.deleted 0) :: state.endpoint.runtime.trace }
        operations := [{ operation with returned := true }] } } := by
    simp [step, here.running, stack, State.act, Endpoint.step, here.open', State.callback?,
      here.operations, run, callbackTail, Async.step, State.update]
  exact ⟨_, _, cleans, ⟨⟨here.running, here.open'⟩, here.at', .inl (.inr rfl), rfl, here.succeeds,
    rfl⟩, rfl⟩

theorem Leaving.effect (here : Leaving operation state)
    (stepped : step state action = some next) : Effect state next := by
  cases action with
  | callbackReturn =>
      obtain ⟨_, operation', returns, looping, completed⟩ := here.returns
      cases returns.symm.trans stepped
      exact .goes (.behind looping) looping.toLive fun stuck =>
        ⟨completed.trans stuck.1, .inl looping.at'⟩
  | setup | run | poll | sendComplete | peerError | progressReturn | epDestroyed =>
      have stack : state.endpoint.runtime.stack = [.native (.callback 0), .native progress] :=
        here.stack
      simp [step, here.running, stack] at stepped

/-- What a step does to a program that runs. -/
theorem Phase.effect (phase : Phase state) (stepped : step state action = some next) :
    Effect state next := by
  cases phase with
  | uncalled here => exact here.effect stepped
  | posting here => exact here.effect stepped
  | awaiting here => exact here.effect stepped
  | waiting here => exact here.effect stepped
  | failed here => exact here.effect stepped
  | resumed here => exact here.effect stepped
  | leaving here => exact here.effect stepped
  | thrown here => exact here.effect stepped
  | behind here => exact here.effect stepped

end Phases

/-- A program that runs is in one of the phases, and one that returned had its
message sent. -/
structure Good (state : State) : Prop where
  phase : state.ended = none → Phase state
  returned : state.ended = some .returned → state.SendOver

theorem running_of_step (stepped : step state action = some next) : state.ended = none := by
  cases running : state.ended with
  | none => rfl
  | some ended => simp [step, running] at stepped

theorem Effect.good (effect : Effect state next) : Good next := by
  cases effect with
  | terminates ended => exact ⟨by simp [ended], by simp [ended]⟩
  | returns _ sent ended => exact ⟨by simp [ended], fun _ => sent⟩
  | goes phase live => exact ⟨fun _ => phase, by simp [live.running]⟩

theorem Good.effect (good : Good state) (stepped : step state action = some next) :
    Effect state next :=
  (good.phase (running_of_step stepped)).effect stepped

theorem uncalled_initial : Uncalled .initial :=
  ⟨⟨rfl, rfl⟩, rfl, rfl, rfl, rfl, rfl, rfl⟩

theorem run_good (reached : run step .initial actions = some state) : Good state :=
  run_preserves Good (fun _ _ _ good stepped => (good.effect stepped).good)
    ⟨fun _ => .uncalled uncalled_initial, by simp [State.initial]⟩ reached

/-- `main` can still return. -/
def CanReturn (state : State) : Prop :=
  ∃ actions final, run step state actions = some final ∧ final.ended = some .returned

/-- Once stuck, the program spins on until it is terminated. -/
theorem not_canReturn (good : Good state) (stuck : state.Stuck) (running : state.ended = none) :
    ¬ CanReturn state := by
  rintro ⟨actions, final, reached, returned⟩
  have kept := run_preserves
    (fun state => Good state ∧
      (state.ended = none ∧ state.Stuck ∨ state.ended = some .terminated))
    (fun state action next ⟨good, spins⟩ stepped => by
      have running := running_of_step stepped
      have stuck : state.Stuck := by simpa [running] using spins
      have effect := good.effect stepped
      refine ⟨effect.good, ?_⟩
      cases effect with
      | terminates ended => exact .inr ended
      | returns completed => simp [stuck.1] at completed
      | goes _ live stays => exact .inl ⟨live.running, stays stuck⟩)
    ⟨good, .inl ⟨running, stuck⟩⟩ reached
  simp [returned] at kept

section Returning

theorem CanReturn.of_step (stepped : step state action = some next) (can : CanReturn next) :
    CanReturn state := by
  obtain ⟨actions, final, reached, returned⟩ := can
  exact ⟨action :: actions, final, (run_cons stepped).trans reached, returned⟩

/-- Behind its loop, `main` destroys the endpoint and returns. -/
theorem Over.canReturn (here : Over operation state) (completed : state.completed = true) :
    CanReturn state := by
  have destroyed {state : State} (live : Live state) (stack : state.stack = [.native epDestroy]) :
      CanReturn state :=
    ⟨[.epDestroyed], { state.withStack [] with ended := some .returned },
      by simp [run, step_epDestroyed live stack], rfl⟩
  have looped {state : State} (here : Over operation state) (completed : state.completed = true)
      (stack : state.stack = []) : CanReturn state := by
    have polls := step_poll here.toLive (by simp [here.at']) stack
    rw [completed, if_pos rfl] at polls
    exact .of_step polls (destroyed ⟨here.running, here.open'⟩ rfl)
  rcases here.stack with (stack | stack) | ⟨_, stack | stack⟩
  · exact looped here completed stack
  · exact .of_step (step_progressReturn here.toLive stack) (looped ⟨⟨here.running, here.open'⟩,
      here.at', .inl (.inl rfl), here.operations, here.succeeds, here.returned⟩ completed rfl)
  · exact destroyed here.toLive stack
  · exact .of_step (step_progressReturn here.toLive stack)
      (destroyed ⟨here.running, here.open'⟩ rfl)

theorem Leaving.canReturn (here : Leaving operation state) (completed : state.completed = true) :
    CanReturn state := by
  obtain ⟨next, _, returns, looping, same⟩ := here.returns
  exact .of_step returns (looping.canReturn (same.trans completed))

theorem Resumed.canReturn (here : Resumed operation state) : CanReturn state := by
  have last {state : State} (here : Resumed operation state) (at' : state.pc = .complete) :
      CanReturn state := by
    obtain ⟨next, completes, leaving, completed⟩ := here.completes at'
    exact .of_step completes (leaving.canReturn completed)
  rcases here.at' with at' | at'
  · obtain ⟨next, prints, resumed, complete⟩ := here.prints at'
    exact .of_step prints (last resumed complete)
  · exact last here at'

theorem Waiting.canReturn (here : Waiting operation state) (pending : operation.result = .request) :
    CanReturn state := by
  have progressed {state : State} (here : Waiting operation state)
      (stack : state.stack = [.native progress]) : CanReturn state := by
    obtain ⟨next, operation', called, _, resumed, _⟩ := here.called pending stack .ok
    have top : state.endpoint.runtime.stack = [.native progress] := stack
    have completes : step state (.sendComplete .ok true) = some next := by
      simp only [step, here.running, top, State.sendCallback, called]
      rfl
    exact .of_step completes (resumed rfl).canReturn
  have base : Base state.stack := by simpa [Looping, here.incomplete] using here.stack
  rcases base with stack | stack
  · have polls := step_poll here.toLive (by simp [here.at']) stack
    rw [here.incomplete] at polls
    exact .of_step polls (progressed ⟨⟨here.running, here.open'⟩, here.at', .inl (.inr rfl),
      here.operations, here.param, here.uncalled, here.event, here.incomplete⟩ rfl)
  · exact progressed here stack

theorem Awaiting.canReturn (here : Awaiting operation state)
    (pending : operation.result = .request) : CanReturn state := by
  obtain ⟨next, suspends, waiting⟩ := here.suspends
  exact .of_step suspends (waiting.canReturn pending)

theorem Posting.canReturn (here : Posting state) : CanReturn state := by
  obtain ⟨next, operation, posts, pending, awaiting⟩ := here.posted 0 .request
  exact .of_step posts (awaiting.canReturn pending)

theorem Phase.canReturn (phase : Phase state) (free : ¬ state.Stuck) : CanReturn state := by
  have stuck_of {operation : Operation} (incomplete : state.completed = false)
      (operations : state.endpoint.operations = [operation])
      (lost : operation.result ≠ .request ∨
        ∃ code length, operation.completion = some (.error code, length)) : state.Stuck :=
    ⟨incomplete, .inr ⟨operation, by simp [operations], lost⟩⟩
  have completed_of (finished : state.pc = .finished) : state.completed = true := by
    cases completed : state.completed with
    | true => rfl
    | false => exact absurd ⟨completed, .inl finished⟩ free
  cases phase with
  | uncalled here =>
      obtain ⟨next, constructed, posting⟩ := here.setup
      exact .of_step constructed posting.canReturn
  | posting here => exact here.canReturn
  | @awaiting operation here =>
      by_cases pending : operation.result = .request
      · exact here.canReturn pending
      · exact absurd (stuck_of here.incomplete here.operations (.inl pending)) free
  | @waiting operation here =>
      by_cases pending : operation.result = .request
      · exact here.canReturn pending
      · exact absurd (stuck_of here.incomplete here.operations (.inl pending)) free
  | failed here => exact absurd (stuck_of here.incomplete here.operations (.inr here.failed)) free
  | resumed here => exact here.canReturn
  | leaving here => exact here.canReturn (completed_of here.at')
  | thrown here => exact absurd ⟨here.incomplete, .inl here.at'⟩ free
  | behind here => exact here.canReturn (completed_of here.at')

end Returning

/-- `main` can return exactly while the coroutine has not thrown and its send
was not done in place, refused or failed. -/
theorem canReturn_iff (reached : run step .initial actions = some state)
    (running : state.ended = none) : CanReturn state ↔ ¬ state.Stuck :=
  ⟨fun can stuck => not_canReturn (run_good reached) stuck running can,
    fun free => ((run_good reached).phase running).canReturn free⟩

/-- `ucp_stream_send_nbx` completes in place, and the coroutine sleeps for ever. -/
theorem sentInPlace_spins :
    ∃ state, run step .initial [.setup true, .run (.posted 4096 (.null 0)), .run .done, .poll,
        .progressReturn] = some state ∧ state.ended = none ∧ ¬ CanReturn state := by
  refine ⟨_, rfl, rfl, fun can => ?_⟩
  refine (@canReturn_iff _ [.setup true, .run (.posted 4096 (.null 0)), .run .done, .poll,
    .progressReturn] rfl rfl).mp can
      ⟨rfl, .inr ⟨_, List.mem_cons_self, .inl fun never => by cases never⟩⟩

section Resources

theorem act_leads {performed : Endpoint.Action} {pc : Pc}
    (acts : state.act performed pc = some next) :
    Leads Endpoint.step (fun _ => True) state.endpoint next.endpoint := by
  simp only [State.act, Option.map_eq_some_iff] at acts
  obtain ⟨endpoint, stepped, rfl⟩ := acts
  exact .of_step trivial stepped

theorem run_leads {outcome : Outcome} (runs : state.runStartClientWorker outcome = some next) :
    Leads Endpoint.step (fun _ => True) state.endpoint next.endpoint := by
  simp only [State.runStartClientWorker] at runs
  split at runs
  · exact act_leads runs
  · exact act_leads runs
  · cases runs
    exact .refl _
  · exact act_leads runs
  · cases runs
    exact .refl _
  · exact act_leads runs
  · exact @act_leads { state with completed := true } next _ _ runs
  · cases runs

/-- The program uses its endpoint as the endpoint's own model allows. -/
theorem step_explained (stepped : step state action = some next) :
    Leads Endpoint.step (fun _ => True) state.endpoint next.endpoint := by
  simp only [step] at stepped
  split at stepped
  · split at stepped
    · split at stepped
      · exact act_leads stepped
      · cases stepped
        exact .refl _
    · cases stepped
  · exact run_leads stepped
  · exact run_leads stepped
  · split at stepped
    · cases stepped
    · split at stepped
      · exact act_leads stepped
      · exact act_leads stepped
  · exact act_leads stepped
  · simp only [State.sendCallback, Option.map_eq_some_iff] at stepped
    obtain ⟨called, acts, rfl⟩ := stepped
    split
    · exact act_leads acts
    · exact .refl _
  · cases stepped
    unfold State.errHandler
    split
    · exact .refl _
    · exact .refl _
  · exact act_leads stepped
  · exact act_leads stepped
  · simp only [Option.map_eq_some_iff] at stepped
    obtain ⟨destroyed, acts, rfl⟩ := stepped
    exact @act_leads state destroyed _ _ acts
  · cases stepped

/-- What the endpoint's model keeps holds of the endpoint of the program. -/
theorem endpoint_kept (reached : run step .initial actions = some state) :
    Sound state.endpoint ∧ Tallied state.endpoint :=
  (run_explained State.endpoint (fun _ _ _ stepped => step_explained stepped) reached).preserves
    (fun endpoint => Sound endpoint ∧ Tallied endpoint)
    (fun _ _ _ ⟨sound, tallied⟩ _ stepped => ⟨sound.step stepped, tallied.step sound stepped⟩)
    ⟨Sound.initial, Tallied.initial⟩

theorem cleanups_eq_one_iff (sound : Sound state.endpoint) :
    cleanups state.endpoint.operations[0]? = 1 ↔ state.SendOver := by
  unfold State.SendOver
  cases first : state.endpoint.operations[0]? with
  | none => simp [cleanups]
  | some operation =>
      have lawful := sound.lawful first
      have pending {status : UcsStatus × Nat} (completed : operation.completion = some status) :
          operation.result = .request := by
        by_contra other
        simp [lawful.pending other] at completed
      simp only [cleanups, Option.some.injEq, exists_eq_left', Operation.Succeeds]
      split
      · rename_i length completed returned
        exact iff_of_true rfl ⟨⟨pending completed, length, completed⟩, returned⟩
      · rename_i other
        refine iff_of_false (by decide) fun succeeds => ?_
        obtain ⟨⟨_, length, completed⟩, returned⟩ := succeeds
        exact other length completed returned

/-- The event is deleted and the request released at the end of the successful
callback and nowhere else, so a failed send leaks both; and `main` returns only
when that has happened. -/
theorem freed_iff_sendOver (reached : run step .initial actions = some state) :
    state.endpoint.releases 0 = state.endpoint.deletions 0 ∧ state.endpoint.deletions 0 ≤ 1 ∧
      (state.endpoint.deletions 0 = 1 ↔ state.SendOver) ∧
        (state.ended = some .returned → state.SendOver) := by
  obtain ⟨sound, tallied⟩ := endpoint_kept reached
  obtain ⟨deletions, releases⟩ := tallied 0
  have bound : cleanups state.endpoint.operations[0]? ≤ 1 := by
    unfold cleanups
    repeat' split
    all_goals omega
  exact ⟨releases.trans deletions.symm, deletions ▸ bound, deletions ▸ cleanups_eq_one_iff sound,
    (run_good reached).returned⟩

/-- Some run returns, with the event deleted. -/
theorem some_run_freed :
    ∃ actions state, run step .initial actions = some state ∧ state.ended = some .returned ∧
      state.endpoint.deletions 0 = 1 := by
  obtain ⟨next, constructed, posting⟩ := uncalled_initial.setup
  obtain ⟨actions, state, reached, returned⟩ := CanReturn.of_step constructed posting.canReturn
  obtain ⟨_, _, freed, sent⟩ := freed_iff_sendOver reached
  exact ⟨actions, state, reached, returned, freed.mpr (sent returned)⟩

end Resources

end UcxPlayground.Client
