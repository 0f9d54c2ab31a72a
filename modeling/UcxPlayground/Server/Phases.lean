import UcxPlayground.Server.Program

/-!
# Phases of the server program

The stack, the statement of `start_server` and the two events only occur in a
few combinations. `Phase` lists them, and `Effect` says what a step does from
there: it ends the process, or leads to another phase.
-/

set_option autoImplicit false

namespace UcxPlayground.Server

open Async

/-- `main` in its loop, with nothing else on the stack than `progress()`. -/
def Base (stack : List Frame) : Prop :=
  stack = [] ∨ stack = [.progress]

/-- The coroutine at the end of the scope of `ep`, in front of `~UcpEndPoint`,
in it, or in a `ucp_worker_progress` that it calls. -/
def Leaving (inner stack : List Frame) : Prop :=
  stack = inner ∨ stack = .epDestroy :: inner ∨ stack = .progress :: .epDestroy :: inner

/-- The stack while the coroutine runs inside a callback. -/
def inside (callback : Frame) : List Frame := [.startServer, callback, .progress]

/-- An event whose waiter is suspended. -/
def waiting (data : Option Nat) : AutoResetEvent Nat := ⟨false, data, some startServerHandle⟩

/-- The statements between the two suspensions, with the result of the post. -/
inductive Serving : Pc → Option StatusPtr → Prop where
  | query : Serving .query none
  | printAddress : Serving .printAddress none
  | createEp : Serving .createEp none
  | printCreated : Serving .printCreated none
  | recvStream : Serving .recvStream none
  | awaitRecv {result : StatusPtr} (posted : ∀ code, result ≠ .error code) :
      Serving .awaitRecv (some result)

inductive Received : Pc → Prop where
  | printReceived : Received .printReceived
  | complete : Received .complete

inductive Phase (state : State) : Prop where
  | uncalled (at' : state.pc = .uncalled) (stack : state.stack = [])
      (listener : state.listenerEvent = .fresh) (recv : state.recv = none)
      (received : state.received = none)
  | called (at' : state.pc = .accept) (stack : state.stack = [.startServer])
      (listener : state.listenerEvent = .fresh) (recv : state.recv = none)
      (received : state.received = none)
  | accepting (at' : state.pc = .accept) (stack : Base state.stack)
      (listener : state.listenerEvent = waiting none) (recv : state.recv = none)
      (received : state.received = none)
  | serving (at' : Serving state.pc state.recv) (stack : state.stack = inside .listenerCallback)
      (listener : state.listenerEvent.signaled = true)
      (event : state.recv ≠ none → state.recvEvent = .fresh) (received : state.received = none)
  | failing (at' : state.pc = .scopeEnd true)
      (stack : Leaving (inside .listenerCallback) state.stack)
      (listener : state.listenerEvent.signaled = true) (recv : state.recv = none)
      (received : state.received = none)
  | suspending {result : StatusPtr} (at' : state.pc = .awaitRecv)
      (stack : state.stack = [.listenerCallback, .progress]) (recv : state.recv = some result)
      (posted : ∀ code, result ≠ .error code) (event : state.recvEvent = waiting none)
      (received : state.received = none)
  | receiving {result : StatusPtr} (at' : state.pc = .awaitRecv) (stack : Base state.stack)
      (listener : state.listenerEvent.waiterHandle = none) (recv : state.recv = some result)
      (posted : ∀ code, result ≠ .error code) (event : state.recvEvent = waiting none)
      (received : state.received = none)
  | received {length : Nat} (at' : Received state.pc) (stack : state.stack = inside .recvCallback)
      (listener : state.listenerEvent.waiterHandle = none)
      (received : state.received = some length)
  | leaving {threw : Bool} {length : Nat} (at' : state.pc = .scopeEnd threw)
      (stack : Leaving (inside .recvCallback) state.stack)
      (listener : state.listenerEvent.waiterHandle = none)
      (received : state.received = some length)
  | failed (at' : state.pc = .finished true)
      (stack : state.stack = [.listenerCallback, .progress]) (recv : state.recv = none)
  | left {threw : Bool} {length : Nat} (at' : state.pc = .finished threw)
      (stack : state.stack = [.recvCallback, .progress])
      (listener : state.listenerEvent.waiterHandle = none)
      (received : state.received = some length)
  | finished {threw : Bool} (at' : state.pc = .finished threw) (stack : Base state.stack)
      (listener : state.listenerEvent.waiterHandle = none)
      (settled : state.recv = none ∨ state.received ≠ none)

/-- The coroutine can no longer set `completed`: it has left its body, or waits
for an event that nobody will signal, the receive having been done in place. -/
def Stranded (state : State) : Prop :=
  (∃ threw, state.pc = .scopeEnd threw ∨ state.pc = .finished threw) ∨
    state.pc = .awaitRecv ∧ ∃ length, state.recv = some (.null length)

/-- Steps of the coroutine towards its end. -/
inductive Advances : Pc → Action → Pc → Prop where
  | called : Advances .uncalled (.setup true) .accept
  | accepted {request : Nat} : Advances .accept (.connRequest request) .query
  | queried : Advances .query (.run (.status .ok)) .printAddress
  | printedAddress : Advances .printAddress (.run .done) .createEp
  | created : Advances .createEp (.run (.status .ok)) .printCreated
  | printedCreated : Advances .printCreated (.run .done) .recvStream
  | received {length : Nat} : Advances .awaitRecv (.recvComplete .ok length) .printReceived
  | printedReceived : Advances .printReceived (.run .done) .complete

/-- A call of the coroutine that fails, and where its exception leads. -/
inductive Throws : Pc → Action → Pc → Prop where
  | query {code : Nat} : Throws .query (.run (.status (.error code))) (.finished true)
  | printAddress : Throws .printAddress (.run .throws) (.finished true)
  | createEp {code : Nat} : Throws .createEp (.run (.status (.error code))) (.finished true)
  | printCreated : Throws .printCreated (.run .throws) (.scopeEnd true)
  | recvStream : Throws .recvStream (.run .throws) (.scopeEnd true)
  | printReceived : Throws .printReceived (.run .throws) (.scopeEnd true)

/-- A statement of the coroutine that fails, by an exception or, for the
receive, by being done in place. -/
def Action.fails : Action → Bool
  | .run .throws => true
  | .run (.status (.error _)) => true
  | .run (.posted (.null _)) => true
  | _ => false

inductive Effect (state : State) : Action → State → Prop where
  | ends {action : Action} {next : State} (ended : next.ended ≠ none)
      (harmless : action.fails = false) (destructions : next.destructions = state.destructions)
      (reason : state.completed = true ∨ ¬ Stranded state) : Effect state action next
  | waits {action : Action} {next : State} (harmless : action.fails = false)
      (phase : Phase next) (pc : next.pc = state.pc) (completed : next.completed = state.completed)
      (recv : next.recv = state.recv) (ended : next.ended = state.ended)
      (destructions : next.destructions = state.destructions) : Effect state action next
  | advances {action : Action} {next : State} (phase : Phase next)
      (advances : Advances state.pc action next.pc) (completed : next.completed = state.completed)
      (ended : next.ended = state.ended)
      (destructions : next.destructions = state.destructions)
      (posted : state.pc = .awaitRecv → state.recv = some .request) : Effect state action next
  | throws {action : Action} {next : State} (phase : Phase next)
      (throws : Throws state.pc action next.pc) (completed : next.completed = state.completed)
      (ended : next.ended = state.ended)
      (destructions : next.destructions = state.destructions) : Effect state action next
  | posts {result : StatusPtr} {next : State} (phase : Phase next) (at' : state.pc = .recvStream)
      (pc : next.pc = .awaitRecv) (recv : next.recv = some result)
      (completed : next.completed = state.completed) (ended : next.ended = state.ended)
      (destructions : next.destructions = state.destructions) :
      Effect state (.run (.posted result)) next
  | completes {next : State} (phase : Phase next) (at' : state.pc = .complete)
      (pc : next.pc = .scopeEnd false) (completed : next.completed = true)
      (destructions : next.destructions = state.destructions) : Effect state (.run .done) next
  | destroys {threw : Bool} {callback : Frame} {next : State} (phase : Phase next)
      (at' : state.pc = .scopeEnd threw) (stack : state.stack = inside callback)
      (inCallback : callback = .recvCallback ↔ state.received ≠ none)
      (pc : next.pc = .scopeEnd threw) (completed : next.completed = state.completed)
      (ended : next.ended = state.ended)
      (destructions : next.destructions = inside callback :: state.destructions) :
      Effect state (.run .done) next
  | finishes {threw : Bool} {next : State} (phase : Phase next) (at' : state.pc = .scopeEnd threw)
      (pc : next.pc = .finished threw) (completed : next.completed = state.completed)
      (ended : next.ended = state.ended)
      (destructions : next.destructions = state.destructions) : Effect state .epDestroyed next

section Events

variable {state : State} {length : Nat}

/-- The listener callback returns at once when its event is signalled or has no
waiter. -/
theorem listenerCallback_quiet (request : Nat)
    (quiet : state.listenerEvent.signaled = true ∨ state.listenerEvent.waiterHandle = none) :
    ∃ event, state.listenerCallback request = { state with listenerEvent := event } ∧
      (state.listenerEvent.signaled = true → event.signaled = true) ∧
      (state.listenerEvent.waiterHandle = none → event.waiterHandle = none) := by
  unfold State.listenerCallback
  cases signaled : state.listenerEvent.signaled with
  | true =>
      rw [AutoResetEvent.setOr_of_signaled signaled]
      exact ⟨state.listenerEvent, rfl, fun _ => signaled, id⟩
  | false =>
      have alone := quiet.resolve_left (by simp [signaled])
      rw [AutoResetEvent.setOr_of_no_waiter signaled alone]
      exact ⟨_, rfl, fun _ => rfl, fun _ => rfl⟩

theorem listenerCallback_accepts {request : Nat} (at' : state.pc = .accept)
    (listener : state.listenerEvent = waiting none) :
    state.listenerCallback request = { state with
      pc := .query
      connRequest := some request
      listenerEvent := ⟨true, some request, some startServerHandle⟩
      stack := .startServer :: .listenerCallback :: state.stack } := by
  simp [State.listenerCallback, listener, waiting, AutoResetEvent.setOr, State.resume, State.push,
    State.pass, at', AutoResetEvent.awaitResume]

theorem recvCallback_receives (at' : state.pc = .awaitRecv)
    (event : state.recvEvent = waiting none) :
    state.recvCallback .ok length = { state with
      pc := .printReceived
      received := some length
      recvEvent := ⟨true, some length, some startServerHandle⟩
      stack := .startServer :: .recvCallback :: state.stack } := by
  simp [State.recvCallback, event, waiting, AutoResetEvent.setOr, State.resume, State.push,
    State.pass, at']

end Events

namespace Phase

variable {state next : State} {action : Action}

theorem initial : Phase .initial := .uncalled rfl rfl rfl rfl rfl

/-- Steps while only `main` and `progress()` are on the stack, the coroutine
having been called. -/
theorem base_step (running : state.ended = none) (stack : Base state.stack)
    (called : state.pc ≠ .uncalled) (stepped : step state action = some next) :
    (action = .poll ∧ state.completed = true ∧
        next = { state with ended := some .returned }) ∨
      (action.fails = false ∧ ∃ below, Base below ∧ next = { state with stack := below }) ∨
      (∃ request, state.stack = [.progress] ∧ action = .connRequest request ∧
        next = state.listenerCallback request) ∨
      (∃ status length, state.stack = [.progress] ∧ action = .recvComplete status length ∧
        state.recv = some .request ∧ state.received = none ∧
        next = state.recvCallback status length) := by
  rcases stack with stack | stack
  · cases action <;> simp only [step, running, stack, called, if_false, reduceCtorEq] at stepped
    case poll =>
      by_cases completed : state.completed = true
      · rw [if_pos completed] at stepped
        exact .inl ⟨rfl, completed, by simp [← Option.some.inj stepped, stack]⟩
      · rw [if_neg completed] at stepped
        exact .inr (.inl ⟨rfl, [.progress], .inr rfl, by
          simp [← Option.some.inj stepped, State.push, stack]⟩)
  · cases action <;> simp only [step, running, stack, reduceCtorEq] at stepped
    case connRequest request =>
      exact .inr (.inr (.inl ⟨request, stack, rfl, (Option.some.inj stepped).symm⟩))
    case recvComplete status length =>
      by_cases pending : state.recv = some .request ∧ state.received = none
      · simp only [pending, and_self, if_true, Option.some.injEq] at stepped
        exact .inr (.inr (.inr ⟨status, length, stack, rfl, pending.1, pending.2, stepped.symm⟩))
      · simp only [pending, if_false, reduceCtorEq] at stepped
    case progressReturn =>
      exact .inr (.inl ⟨rfl, [], .inl rfl, by
        simp [← Option.some.inj stepped, State.pop, stack]⟩)

/-- Steps at the end of the scope of `ep`. -/
theorem leaving_step {threw : Bool} {callback : Frame} (running : state.ended = none)
    (at' : state.pc = .scopeEnd threw) (stack : Leaving (inside callback) state.stack)
    (settled : state.recv = none ∨ state.received ≠ none)
    (stepped : step state action = some next) :
    (action = .run .done ∧ state.stack = inside callback ∧ next = state.destroyEp) ∨
      (action.fails = false ∧ ∃ below, Leaving (inside callback) below ∧
        next = { state with stack := below }) ∨
      (∃ request, action = .connRequest request ∧ next = state.listenerCallback request) ∨
      (action = .epDestroyed ∧
        next = { state with stack := [callback, .progress], pc := .finished threw }) := by
  have noRecv : ¬ (state.recv = some .request ∧ state.received = none) := by
    rcases settled with settled | settled <;> simp [settled]
  rcases stack with stack | stack | stack
  · cases action <;> simp only [step, running, stack, inside, reduceCtorEq] at stepped
    case run outcome =>
      cases outcome <;> simp only [State.runStartServer, at', reduceCtorEq] at stepped
      exact .inl ⟨rfl, stack, (Option.some.inj stepped).symm⟩
  · cases action <;> simp only [step, running, stack, inside, at', reduceCtorEq] at stepped
    case poll =>
      exact .inr (.inl ⟨rfl, _, .inr (.inr rfl), by
        simp [← Option.some.inj stepped, State.push, stack, inside]⟩)
    case epDestroyed =>
      exact .inr (.inr (.inr ⟨rfl, by
        simp [← Option.some.inj stepped, State.pop, State.finish, stack, inside]⟩))
  · cases action <;>
      simp only [step, running, stack, inside, noRecv, if_false, reduceCtorEq] at stepped
    case connRequest request =>
      exact .inr (.inr (.inl ⟨request, rfl, (Option.some.inj stepped).symm⟩))
    case progressReturn =>
      exact .inr (.inl ⟨rfl, _, .inr (.inl rfl), by
        simp [← Option.some.inj stepped, State.pop, stack, inside]⟩)

theorem not_stranded_of_pc {state : State} (body : ∀ threw, state.pc ≠ .scopeEnd threw ∧
    state.pc ≠ .finished threw) (notAwaiting : state.pc ≠ .awaitRecv) : ¬ Stranded state := by
  intro stranded
  rcases stranded with ⟨threw, at' | at'⟩ | ⟨at', _⟩
  · exact (body threw).1 at'
  · exact (body threw).2 at'
  · exact notAwaiting at'

/-- An exception before `ep` exists. -/
theorem throw_early (here : state.pc = .query ∨ state.pc = .printAddress ∨ state.pc = .createEp)
    (stack : state.stack = inside .listenerCallback) :
    state.throw =
      { state with stack := [.listenerCallback, .progress], pc := .finished true } := by
  rcases here with here | here | here <;>
    simp [State.throw, here, State.finish, State.pop, stack, inside]

theorem serving_effect (at' : Serving state.pc state.recv)
    (stack : state.stack = inside .listenerCallback)
    (listener : state.listenerEvent.signaled = true)
    (event : state.recv ≠ none → state.recvEvent = .fresh) (received : state.received = none)
    (running : state.ended = none) (stepped : step state action = some next) :
    Effect state action next := by
  cases action <;> simp only [step, running, stack, inside, reduceCtorEq] at stepped
  case run outcome =>
    generalize here : state.pc = pc at at'
    generalize posted : state.recv = recv at at'
    cases at' with
    | query =>
        cases outcome <;> simp only [State.runStartServer, here, reduceCtorEq] at stepped
        case status status =>
          cases status with
          | ok =>
              cases stepped
              exact .advances (.serving (posted ▸ .printAddress) stack listener event received)
                (here ▸ .queried) rfl rfl rfl (by simp [here])
          | error code =>
              rw [throw_early (.inl here) stack] at stepped
              cases stepped
              exact .throws (.failed rfl rfl posted) (here ▸ .query) rfl rfl rfl
    | printAddress =>
        cases outcome <;> simp only [State.runStartServer, here, reduceCtorEq] at stepped
        case done =>
          cases stepped
          exact .advances (.serving (posted ▸ .createEp) stack listener event received)
            (here ▸ .printedAddress) rfl rfl rfl (by simp [here])
        case throws =>
          rw [throw_early (.inr (.inl here)) stack] at stepped
          cases stepped
          exact .throws (.failed rfl rfl posted) (here ▸ .printAddress) rfl rfl rfl
    | createEp =>
        cases outcome <;> simp only [State.runStartServer, here, reduceCtorEq] at stepped
        case status status =>
          cases status with
          | ok =>
              cases stepped
              exact .advances (.serving (posted ▸ .printCreated) stack listener event received)
                (here ▸ .created) rfl rfl rfl (by simp [here])
          | error code =>
              rw [throw_early (.inr (.inr here)) stack] at stepped
              cases stepped
              exact .throws (.failed rfl rfl posted) (here ▸ .createEp) rfl rfl rfl
    | printCreated =>
        cases outcome <;> simp only [State.runStartServer, here, reduceCtorEq] at stepped
        case done =>
          cases stepped
          exact .advances (.serving (posted ▸ .recvStream) stack listener event received)
            (here ▸ .printedCreated) rfl rfl rfl (by simp [here])
        case throws =>
          simp only [State.throw, here, Option.some.injEq] at stepped
          subst stepped
          exact .throws (.failing rfl (.inl stack) listener posted received)
            (here ▸ .printCreated) rfl rfl rfl
    | recvStream =>
        cases outcome <;> simp only [State.runStartServer, here, reduceCtorEq] at stepped
        case throws =>
          simp only [State.throw, here, Option.some.injEq] at stepped
          subst stepped
          exact .throws (.failing rfl (.inl stack) listener posted received)
            (here ▸ .recvStream) rfl rfl rfl
        case terminates =>
          cases stepped
          exact .ends (by simp) rfl rfl
            (.inr (not_stranded_of_pc (by simp [here]) (by simp [here])))
        case posted result =>
          cases stepped
          cases result with
          | error code =>
              exact .ends (by simp [State.recvStream]) rfl rfl
                (.inr (not_stranded_of_pc (by simp [here]) (by simp [here])))
          | null length =>
              exact .posts (.serving (.awaitRecv (by simp)) stack listener (fun _ => rfl) received)
                here rfl rfl rfl rfl rfl
          | request =>
              exact .posts (.serving (.awaitRecv (by simp)) stack listener (fun _ => rfl) received)
                here rfl rfl rfl rfl rfl
    | @awaitRecv result notError =>
        have fresh := event (by simp [posted])
        cases outcome <;> simp only [State.runStartServer, here, reduceCtorEq] at stepped
        case done =>
          have suspends : state.coAwaitRecv = { state.pop with recvEvent := waiting none } := by
            simp [State.coAwaitRecv, fresh, AutoResetEvent.awaitReady, AutoResetEvent.awaitSuspend,
              waiting]
          rw [suspends] at stepped
          cases stepped
          exact .waits rfl
            (.suspending here (by simp [State.pop, stack, inside]) posted notError rfl received)
            rfl rfl rfl rfl rfl

theorem received_effect {length : Nat} (at' : Received state.pc)
    (stack : state.stack = inside .recvCallback)
    (listener : state.listenerEvent.waiterHandle = none)
    (received : state.received = some length) (running : state.ended = none)
    (stepped : step state action = some next) : Effect state action next := by
  cases action <;> simp only [step, running, stack, inside, reduceCtorEq] at stepped
  case run outcome =>
    generalize here : state.pc = pc at at'
    cases at' with
    | printReceived =>
        cases outcome <;> simp only [State.runStartServer, here, reduceCtorEq] at stepped
        case done =>
          cases stepped
          exact .advances (.received .complete stack listener received) (here ▸ .printedReceived)
            rfl rfl rfl (by simp [here])
        case throws =>
          simp only [State.throw, here, Option.some.injEq] at stepped
          subst stepped
          exact .throws (.leaving rfl (.inl stack) listener received) (here ▸ .printReceived)
            rfl rfl rfl
    | complete =>
        cases outcome <;> simp only [State.runStartServer, here, reduceCtorEq] at stepped
        case done =>
          cases stepped
          exact .completes (.leaving rfl (.inl stack) listener received) here rfl rfl rfl

theorem base_effect (running : state.ended = none) (stack : Base state.stack)
    (called : state.pc ≠ .uncalled)
    (stays : ∀ below, Base below → Phase { state with stack := below })
    (callback : ∀ request, state.stack = [.progress] →
      Effect state (.connRequest request) (state.listenerCallback request))
    (receives : ∀ status length, state.stack = [.progress] → state.recv = some .request →
      state.received = none →
      Effect state (.recvComplete status length) (state.recvCallback status length))
    (stepped : step state action = some next) : Effect state action next := by
  rcases base_step running stack called stepped with
    ⟨rfl, completed, rfl⟩ | ⟨harmless, below, base, rfl⟩ | ⟨request, top, rfl, rfl⟩ |
      ⟨status, length, top, rfl, posted, pending, rfl⟩
  · exact .ends (by simp) rfl rfl (.inl completed)
  · exact .waits harmless (stays below base) rfl rfl rfl rfl rfl
  · exact callback request top
  · exact receives status length top posted pending

theorem leaving_effect {threw : Bool} {callback : Frame} (running : state.ended = none)
    (at' : state.pc = .scopeEnd threw) (stack : Leaving (inside callback) state.stack)
    (settled : state.recv = none ∨ state.received ≠ none)
    (inCallback : callback = .recvCallback ↔ state.received ≠ none)
    (stays : ∀ below destructions, Leaving (inside callback) below →
      Phase { state with stack := below, destructions := destructions })
    (quiet : ∀ request, ∃ event, state.listenerCallback request =
      { state with listenerEvent := event } ∧ Phase { state with listenerEvent := event })
    (final : Phase { state with stack := [callback, .progress], pc := .finished threw })
    (stepped : step state action = some next) : Effect state action next := by
  rcases leaving_step running at' stack settled stepped with
    ⟨rfl, top, rfl⟩ | ⟨harmless, below, within, rfl⟩ | ⟨request, rfl, rfl⟩ | ⟨rfl, rfl⟩
  · exact .destroys (stays (.epDestroy :: state.stack) (state.stack :: state.destructions)
      (.inr (.inl (by rw [top])))) at' top inCallback at' rfl rfl
      (by simp [State.destroyEp, State.push, top])
  · exact .waits harmless (stays below state.destructions within) rfl rfl rfl rfl rfl
  · obtain ⟨event, moved, phase⟩ := quiet request
    rw [moved]
    exact .waits rfl phase rfl rfl rfl rfl rfl
  · exact .finishes final at' rfl rfl rfl rfl

theorem callbackReturn_of_top {callback : Frame} (running : state.ended = none)
    (stack : state.stack = [callback, .progress])
    (isCallback : callback = .listenerCallback ∨ callback = .recvCallback)
    (stepped : step state action = some next) : action = .callbackReturn := by
  rcases isCallback with rfl | rfl <;> cases action <;>
    simp only [step, running, stack, reduceCtorEq] at stepped ⊢

theorem effect (phase : Phase state) (running : state.ended = none)
    (stepped : step state action = some next) : Effect state action next := by
  cases phase with
  | uncalled at' stack listener recv received =>
      cases action <;> simp only [step, running, stack, at', if_true, reduceCtorEq] at stepped
      case setup constructed =>
        cases constructed with
        | false =>
            cases stepped
            exact .ends (by simp) rfl rfl
              (.inr (not_stranded_of_pc (by simp [at']) (by simp [at'])))
        | true =>
            cases stepped
            exact .advances (.called rfl rfl listener recv received) (at' ▸ .called) rfl
              running.symm rfl (by simp [at'])
  | called at' stack listener recv received =>
      cases action <;> simp only [step, running, stack, reduceCtorEq] at stepped
      case run outcome =>
        cases outcome <;> simp only [State.runStartServer, at', reduceCtorEq] at stepped
        have suspends : state.coAwaitAccept = { state.pop with listenerEvent := waiting none } := by
          simp [State.coAwaitAccept, listener, AutoResetEvent.awaitReady,
            AutoResetEvent.awaitSuspend, waiting]
        rw [suspends] at stepped
        cases stepped
        exact .waits rfl (.accepting at' (.inl (by simp [State.pop, stack])) rfl recv received)
          rfl rfl rfl rfl rfl
  | accepting at' stack listener recv received =>
      refine base_effect running stack (by simp [at'])
        (fun below base => .accepting at' base listener recv received) (fun request top => ?_)
        (fun _ _ _ posted => by simp [recv] at posted) stepped
      rw [listenerCallback_accepts at' listener]
      exact .advances (.serving (recv ▸ .query) (by simp [top, inside]) rfl (by simp [recv])
        received) (at' ▸ .accepted) rfl rfl rfl (by simp [at'])
  | serving at' stack listener event received =>
      exact serving_effect at' stack listener event received running stepped
  | failing at' stack listener recv received =>
      refine leaving_effect running at' stack (.inl recv) (by simp [received])
        (fun below destructions within => .failing at' within listener recv received)
        (fun request => ?_) (.failed rfl rfl recv) stepped
      obtain ⟨event, moved, signaled, _⟩ := listenerCallback_quiet request (.inl listener)
      exact ⟨event, moved, .failing at' stack (signaled listener) recv received⟩
  | suspending at' stack recv notError event received =>
      obtain rfl := callbackReturn_of_top running stack (.inl rfl) stepped
      simp only [step, running, stack, Option.some.injEq] at stepped
      subst stepped
      exact .waits rfl
        (.receiving at' (.inr (by simp [State.pop, stack])) rfl recv notError event received)
        rfl rfl rfl rfl rfl
  | receiving at' stack listener recv notError event received =>
      refine base_effect running stack (by simp [at'])
        (fun below base => .receiving at' base listener recv notError event received)
        (fun request top => ?_) (fun status length top posted pending => ?_) stepped
      · obtain ⟨other, moved, _, alone⟩ := listenerCallback_quiet request (.inr listener)
        rw [moved]
        exact .waits rfl (.receiving at' stack (alone listener) recv notError event received)
          rfl rfl rfl rfl rfl
      · cases status with
        | error code =>
            refine .ends (by simp [State.recvCallback]) rfl rfl (.inr fun stranded => ?_)
            rcases stranded with ⟨threw, other | other⟩ | ⟨_, length, inPlace⟩
            · simp [at'] at other
            · simp [at'] at other
            · simp [posted] at inPlace
        | ok =>
            rw [recvCallback_receives at' event]
            exact .advances (.received .printReceived (by simp [top, inside]) listener rfl)
              (at' ▸ .received) rfl rfl rfl (fun _ => posted)
  | received at' stack listener received =>
      exact received_effect at' stack listener received running stepped
  | leaving at' stack listener received =>
      refine leaving_effect running at' stack (.inr (by simp [received])) (by simp [received])
        (fun below destructions within => .leaving at' within listener received)
        (fun request => ?_) (.left rfl rfl listener received) stepped
      obtain ⟨event, moved, _, alone⟩ := listenerCallback_quiet request (.inr listener)
      exact ⟨event, moved, .leaving at' stack (alone listener) received⟩
  | failed at' stack recv =>
      obtain rfl := callbackReturn_of_top running stack (.inl rfl) stepped
      simp only [step, running, stack, Option.some.injEq] at stepped
      subst stepped
      exact .waits rfl (.finished at' (.inr (by simp [State.pop, stack])) rfl (.inl recv))
        rfl rfl rfl rfl rfl
  | left at' stack listener received =>
      obtain rfl := callbackReturn_of_top running stack (.inr rfl) stepped
      simp only [step, running, stack, Option.some.injEq] at stepped
      subst stepped
      exact .waits rfl (.finished at' (.inr (by simp [State.pop, stack])) listener
        (.inr (by simp [State.pop, received]))) rfl rfl rfl rfl rfl
  | finished at' stack listener settled =>
      refine base_effect running stack (by simp [at'])
        (fun below base => .finished at' base listener settled) (fun request top => ?_)
        (fun status length top posted pending => ?_) stepped
      · obtain ⟨event, moved, _, alone⟩ := listenerCallback_quiet request (.inr listener)
        rw [moved]
        exact .waits rfl (.finished at' stack (alone listener) settled) rfl rfl rfl rfl rfl
      · simp [posted, pending] at settled

end Phase

end UcxPlayground.Server
