import UcxPlayground.Server.Destruction

/-!
# Failures of the server

An exception that leaves the body of `start_server` goes to the empty
`unhandled_exception`, and `completed` is written at the end of the body only.
So a call that fails, and a receive that is done in place, leave `main` in its
loop with nobody to end it.
-/

set_option autoImplicit false

namespace UcxPlayground.Server

open Async Transition

variable {state next : State} {action : Action} {actions : List Action}

def CanComplete (state : State) : Prop :=
  ∃ actions final, run step state actions = some final ∧ final.completed = true

/-- A `start_server` that has finished has set `completed` or ended the process,
and while `main` is on its way to the end of its loop, `completed` can still be
set. -/
structure State.Attended (state : State) : Prop where
  settled : ∀ threw, state.pc = .finished threw → state.completed = true ∨ state.ended ≠ none
  alive : state.ended = none → state.completed = false → CanComplete state

/-- No call made in `start_server` fails, and the receive is not done in place. -/
def Succeeds (_ : State) (action : Action) : Prop :=
  action.fails = false

instance (state : State) (action : Action) : Decidable (Succeeds state action) :=
  inferInstanceAs (Decidable (_ = false))

namespace CanComplete

theorem of_step (stepped : step state action = some next) (can : CanComplete next) :
    CanComplete state := by
  obtain ⟨actions, final, reached, completed⟩ := can
  exact ⟨action :: actions, final, (run_cons stepped).trans reached, completed⟩

/-- `main` is in its loop: `progress()` is called, if it is not running. -/
theorem of_base (running : state.ended = none) (completed : state.completed = false)
    (called : state.pc ≠ .uncalled) (stack : Base state.stack)
    (can : CanComplete { state with stack := [.progress] }) : CanComplete state := by
  rcases stack with stack | stack
  · have stepped : step state .poll = some { state with stack := [.progress] } := by
      simp [step, running, stack, called, completed, State.push]
    exact of_step stepped can
  · rwa [← stack] at can

theorem of_received {below : List Frame} (running : state.ended = none)
    (at' : Received state.pc) (stack : state.stack = .startServer :: below) :
    CanComplete state := by
  have last {state : State} (running : state.ended = none) (at' : state.pc = .complete)
      (stack : state.stack = .startServer :: below) : CanComplete state :=
    ⟨[.run .done], { state with completed := true, pc := .scopeEnd false },
      by simp [run, step, running, stack, State.runStartServer, at'], rfl⟩
  generalize here : state.pc = pc at at'
  cases at' with
  | complete => exact last running here stack
  | printReceived =>
      have stepped : step state (.run .done) = some { state with pc := .complete } := by
        simp [step, running, stack, State.runStartServer, here]
      exact of_step stepped (last running rfl stack)

theorem of_receiving (running : state.ended = none) (completed : state.completed = false)
    (at' : state.pc = .awaitRecv) (stack : Base state.stack) (recv : state.recv = some .request)
    (event : state.recvEvent = waiting none) (received : state.received = none) :
    CanComplete state := by
  refine of_base running completed (by simp [at']) stack ?_
  let polling : State := { state with stack := [.progress] }
  have stepped : step polling (.recvComplete .ok 8) = some (polling.recvCallback .ok 8) := by
    simp [polling, step, running, recv, received]
  rw [@recvCallback_receives polling 8 at' event] at stepped
  exact of_step stepped (of_received running .printReceived rfl)

/-- The coroutine at a statement between its suspensions, nothing having failed
so far. -/
structure Serves (state : State) (pc : Pc) : Prop where
  running : state.ended = none
  completed : state.completed = false
  at' : state.pc = pc
  stack : state.stack = inside .listenerCallback
  received : state.received = none

theorem Serves.goto {pc : Pc} (serves : Serves state pc) (other : Pc) :
    Serves { state with pc := other } other :=
  ⟨serves.running, serves.completed, rfl, serves.stack, serves.received⟩

theorem of_awaitRecv (serves : Serves state .awaitRecv) (recv : state.recv = some .request)
    (event : state.recvEvent = .fresh) : CanComplete state := by
  let suspended : State := { state.pop with recvEvent := waiting none }
  let returned : State :=
    { suspended.pop with listenerEvent := state.listenerEvent.afterResume }
  have stack := serves.stack
  have resumes : CanComplete returned :=
    of_receiving serves.running serves.completed serves.at'
      (.inr (by simp [returned, suspended, State.pop, stack, inside])) recv rfl serves.received
  have suspends : step state (.run .done) = some suspended := by
    simp [suspended, step, serves.running, stack, inside, State.runStartServer, serves.at',
      State.coAwaitRecv, event, AutoResetEvent.awaitReady, AutoResetEvent.awaitSuspend, waiting]
  have returns : step suspended .callbackReturn = some returned := by
    simp [returned, suspended, step, serves.running, stack, State.pop, inside]
  exact of_step suspends (of_step returns resumes)

theorem of_recvStream (serves : Serves state .recvStream) : CanComplete state := by
  have posted : Serves (state.recvStream .request) .awaitRecv :=
    ⟨serves.running, serves.completed, rfl, serves.stack, serves.received⟩
  have stepped : step state (.run (.posted .request)) = some (state.recvStream .request) := by
    simp [step, serves.running, serves.stack, inside, State.runStartServer, serves.at']
  exact of_step stepped (of_awaitRecv posted rfl rfl)

theorem of_serves {pc other : Pc} (outcome : Outcome) (serves : Serves state pc)
    (runs : ∀ state : State, state.pc = pc →
      state.runStartServer outcome = some { state with pc := other })
    (can : CanComplete { state with pc := other }) : CanComplete state := by
  have stepped : step state (.run outcome) = some { state with pc := other } := by
    simp [step, serves.running, serves.stack, inside, runs state serves.at']
  exact of_step stepped can

theorem of_printCreated (serves : Serves state .printCreated) : CanComplete state :=
  of_serves .done serves (fun state at' => by simp [State.runStartServer, at'])
    (of_recvStream (serves.goto _))

theorem of_createEp (serves : Serves state .createEp) : CanComplete state :=
  of_serves (.status .ok) serves (fun state at' => by simp [State.runStartServer, at'])
    (of_printCreated (serves.goto _))

theorem of_printAddress (serves : Serves state .printAddress) : CanComplete state :=
  of_serves .done serves (fun state at' => by simp [State.runStartServer, at'])
    (of_createEp (serves.goto _))

theorem of_query (serves : Serves state .query) : CanComplete state :=
  of_serves (.status .ok) serves (fun state at' => by simp [State.runStartServer, at'])
    (of_printAddress (serves.goto _))

theorem of_accepting (running : state.ended = none) (completed : state.completed = false)
    (at' : state.pc = .accept) (stack : Base state.stack)
    (listener : state.listenerEvent = waiting none) (received : state.received = none) :
    CanComplete state := by
  refine of_base running completed (by simp [at']) stack ?_
  let polling : State := { state with stack := [.progress] }
  have stepped : step polling (.connRequest 0) = some (polling.listenerCallback 0) := by
    simp [polling, step, running]
  rw [@listenerCallback_accepts polling 0 at' listener] at stepped
  exact of_step stepped (of_query ⟨running, completed, rfl, rfl, received⟩)

theorem of_called (running : state.ended = none) (completed : state.completed = false)
    (at' : state.pc = .accept) (stack : state.stack = [.startServer])
    (listener : state.listenerEvent = .fresh) (received : state.received = none) :
    CanComplete state := by
  have stepped : step state (.run .done) =
      some { state.pop with listenerEvent := waiting none } := by
    simp [step, running, stack, State.runStartServer, at', State.coAwaitAccept, listener,
      AutoResetEvent.awaitReady, AutoResetEvent.awaitSuspend, waiting]
  exact of_step stepped
    (of_accepting running completed at' (.inl (by simp [State.pop, stack])) rfl received)

theorem of_uncalled (running : state.ended = none) (completed : state.completed = false)
    (at' : state.pc = .uncalled) (stack : state.stack = [])
    (listener : state.listenerEvent = .fresh) (received : state.received = none) :
    CanComplete state := by
  have stepped : step state (.setup true) =
      some { state with stack := [.startServer], pc := .accept } := by
    simp [step, running, stack, at']
  exact of_step stepped (of_called running completed rfl rfl listener received)

/-- A coroutine that is not stranded can still set `completed`. -/
theorem of_phase (phase : Phase state) (running : state.ended = none)
    (completed : state.completed = false) (free : ¬ Stranded state) : CanComplete state := by
  have pending {result : StatusPtr} (at' : state.pc = .awaitRecv)
      (recv : state.recv = some result) (posted : ∀ code, result ≠ .error code) :
      state.recv = some .request := by
    cases result with
    | null length => exact absurd (.inr ⟨at', length, recv⟩) free
    | error code => exact absurd rfl (posted code)
    | request => exact recv
  cases phase with
  | uncalled at' stack listener _ received =>
      exact of_uncalled running completed at' stack listener received
  | called at' stack listener _ received =>
      exact of_called running completed at' stack listener received
  | accepting at' stack listener _ received =>
      exact of_accepting running completed at' stack listener received
  | serving at' stack _ event received =>
      generalize here : state.pc = pc at at'
      generalize posted : state.recv = recv at at'
      have serves : Serves state pc := ⟨running, completed, here, stack, received⟩
      cases at' with
      | query => exact of_query serves
      | printAddress => exact of_printAddress serves
      | createEp => exact of_createEp serves
      | printCreated => exact of_printCreated serves
      | recvStream => exact of_recvStream serves
      | awaitRecv notError =>
          exact of_awaitRecv serves (pending here posted notError) (event (by simp [posted]))
  | suspending at' stack recv notError event received =>
      have stepped : step state .callbackReturn =
          some { state.pop with listenerEvent := state.listenerEvent.afterResume } := by
        simp [step, running, stack]
      exact of_step stepped (of_receiving running completed at'
        (.inr (by simp [State.pop, stack])) (pending at' recv notError) event received)
  | receiving at' stack _ recv notError event received =>
      exact of_receiving running completed at' stack (pending at' recv notError) event received
  | received at' stack => exact of_received running at' stack
  | failing at' | leaving at' => exact absurd (.inl ⟨_, .inl at'⟩) free
  | failed at' | left at' | finished at' => exact absurd (.inl ⟨_, .inr at'⟩) free

end CanComplete

/-- The coroutine is behind its body, or can still set `completed`. -/
structure Healthy (state : State) : Prop where
  phase : Phase state
  ends : state.completed = true → ∃ threw, state.pc = .scopeEnd threw ∨ state.pc = .finished threw
  free : state.completed = false → ¬ Stranded state

structure Lost (state : State) : Prop where
  running : state.ended = none
  phase : Phase state
  completed : state.completed = false
  stranded : Stranded state

def Good (state : State) : Prop :=
  state.ended = none → Healthy state

theorem Healthy.not_completed (healthy : Healthy state)
    (body : ∀ threw, state.pc ≠ .scopeEnd threw ∧ state.pc ≠ .finished threw) :
    state.completed = false := by
  cases completed : state.completed with
  | false => rfl
  | true =>
      obtain ⟨threw, at' | at'⟩ := healthy.ends completed
      · exact absurd at' (body threw).1
      · exact absurd at' (body threw).2

/-- A coroutine behind its body has set `completed`. -/
theorem Healthy.completed_of_over (healthy : Healthy state) {threw : Bool}
    (at' : state.pc = .scopeEnd threw ∨ state.pc = .finished threw) : state.completed = true := by
  cases completed : state.completed with
  | true => rfl
  | false => exact absurd (.inl ⟨threw, at'⟩) (healthy.free completed)

theorem Advances.body {pc other : Pc} (advances : Advances pc action other) :
    (∀ threw, pc ≠ .scopeEnd threw ∧ pc ≠ .finished threw) ∧
      (∀ threw, other ≠ .scopeEnd threw ∧ other ≠ .finished threw) ∧ other ≠ .awaitRecv := by
  cases advances <;> simp

theorem Advances.harmless {pc other : Pc} (advances : Advances pc action other) :
    action.fails = false := by
  cases advances <;> rfl

theorem Throws.fails {pc other : Pc} (throws : Throws pc action other) : action.fails = true := by
  cases throws <;> rfl

theorem Throws.body {pc other : Pc} (throws : Throws pc action other) :
    (∀ threw, pc ≠ .scopeEnd threw ∧ pc ≠ .finished threw) ∧ pc ≠ .awaitRecv ∧
      ∃ threw, other = .scopeEnd threw ∨ other = .finished threw := by
  cases throws <;> simp

theorem Healthy.step (healthy : Healthy state) (condition : Succeeds state action)
    (effect : Effect state action next) : Good next := by
  cases effect with
  | ends ended => exact fun running => absurd running ended
  | waits _ phase pc completed recv =>
      refine fun _ => ⟨phase, ?_, ?_⟩
      · rw [completed, pc]
        exact healthy.ends
      · rw [completed, Stranded, pc, recv]
        exact healthy.free
  | advances phase advances completed =>
      have ⟨before, after, notAwaiting⟩ := advances.body
      have incomplete := healthy.not_completed before
      refine fun _ => ⟨phase, fun done => ?_, fun _ => ?_⟩
      · simp [completed, incomplete] at done
      · exact Phase.not_stranded_of_pc after notAwaiting
  | throws _ throws => exact absurd (throws.fails.symm.trans condition) (by simp)
  | @posts result _ phase at' pc recv completed =>
      have incomplete := healthy.not_completed (by simp [at'])
      refine fun _ => ⟨phase, fun done => ?_, fun _ stranded => ?_⟩
      · simp [completed, incomplete] at done
      · rcases stranded with ⟨threw, other | other⟩ | ⟨_, length, inPlace⟩
        · simp [pc] at other
        · simp [pc] at other
        · rw [recv] at inPlace
          cases inPlace
          simp [Succeeds, Action.fails] at condition
  | completes phase at' pc completed =>
      exact fun _ => ⟨phase, fun _ => ⟨false, .inl pc⟩, fun undone => by simp [completed] at undone⟩
  | destroys phase at' _ _ pc completed =>
      have done := healthy.completed_of_over (.inl at')
      exact fun _ => ⟨phase, fun _ => ⟨_, .inl pc⟩, fun undone => by
        simp [completed, done] at undone⟩
  | finishes phase at' pc completed =>
      have done := healthy.completed_of_over (.inl at')
      exact fun _ => ⟨phase, fun _ => ⟨_, .inr pc⟩, fun undone => by
        simp [completed, done] at undone⟩

theorem Healthy.loses (healthy : Healthy state) (running : state.ended = none)
    (condition : ¬ Succeeds state action) (effect : Effect state action next) : Lost next := by
  cases effect with
  | ends _ harmless => exact absurd harmless condition
  | waits harmless => exact absurd harmless condition
  | advances _ advances => exact absurd advances.harmless condition
  | throws phase throws completed ended =>
      have ⟨before, _, after⟩ := throws.body
      exact ⟨ended.trans running, phase, completed.trans (healthy.not_completed before), .inl after⟩
  | @posts result _ phase at' pc recv completed ended =>
      have incomplete := healthy.not_completed (by simp [at'])
      cases result with
      | null length =>
          exact ⟨ended.trans running, phase, completed.trans incomplete, .inr ⟨pc, length, recv⟩⟩
      | error code => exact absurd rfl condition
      | request => exact absurd rfl condition
  | completes | destroys | finishes => exact absurd rfl condition

theorem Lost.step (lost : Lost state) (effect : Effect state action next) : Lost next := by
  have stranded := lost.stranded
  cases effect with
  | ends _ _ _ reason =>
      rcases reason with completed | free
      · simp [lost.completed] at completed
      · exact absurd stranded free
  | waits _ phase pc completed recv ended =>
      refine ⟨ended.trans lost.running, phase, completed.trans lost.completed, ?_⟩
      rwa [Stranded, pc, recv]
  | advances _ advances _ _ _ posted =>
      have ⟨before, _⟩ := advances.body
      rcases stranded with ⟨threw, at' | at'⟩ | ⟨at', length, inPlace⟩
      · exact absurd at' (before threw).1
      · exact absurd at' (before threw).2
      · simp [posted at'] at inPlace
  | throws _ throws =>
      have ⟨before, notAwaiting, _⟩ := throws.body
      exact absurd stranded (Phase.not_stranded_of_pc before notAwaiting)
  | posts _ at' =>
      exact absurd stranded (Phase.not_stranded_of_pc (by simp [at']) (by simp [at']))
  | completes _ at' =>
      exact absurd stranded (Phase.not_stranded_of_pc (by simp [at']) (by simp [at']))
  | destroys phase _ _ _ pc completed ended =>
      exact ⟨ended.trans lost.running, phase, completed.trans lost.completed, .inl ⟨_, .inl pc⟩⟩
  | finishes phase _ pc completed ended =>
      exact ⟨ended.trans lost.running, phase, completed.trans lost.completed, .inl ⟨_, .inr pc⟩⟩

theorem Lost.effect (lost : Lost state) (stepped : Server.step state action = some next) :
    Effect state action next :=
  lost.phase.effect lost.running stepped

/-- No continuation sets `completed` any more. -/
theorem Lost.not_canComplete (lost : Lost state) : ¬ CanComplete state := by
  intro can
  obtain ⟨actions, final, reached, completed⟩ := can
  have ends := run_preserves Lost (fun _ _ _ lost stepped => lost.step (lost.effect stepped))
    lost reached
  simp [ends.completed] at completed

theorem Good.initial : Good .initial := by
  refine fun _ => ⟨Phase.initial, by simp [State.initial], fun _ => ?_⟩
  exact Phase.not_stranded_of_pc (by simp [State.initial]) (by simp [State.initial])

theorem Good.attended (good : Good state) : state.Attended where
  settled threw at' := by
    cases ended : state.ended with
    | some how => exact .inr (by simp)
    | none => exact .inl ((good ended).completed_of_over (.inr at'))
  alive running completed :=
    .of_phase (good running).phase running completed ((good running).free completed)

/-- The main loop is never left with a dead coroutine exactly when every call
that `start_server` makes succeeds and its receive is left pending. -/
theorem attended_iff_along (reached : run step .initial actions = some state) :
    state.Attended ↔ Along step Succeeds .initial actions :=
  property_iff_along Good Lost
    (fun _ _ _ good condition stepped =>
      have running := running_of_step stepped
      (good running).step condition ((good running).phase.effect running stepped))
    (fun _ _ _ good condition stepped =>
      have running := running_of_step stepped
      (good running).loses running condition ((good running).phase.effect running stepped))
    (fun _ _ _ lost stepped => lost.step (lost.effect stepped))
    (fun _ good => good.attended)
    (fun _ lost attended => lost.not_canComplete (attended.alive lost.running lost.completed))
    Good.initial reached

theorem servedClient_attended :
    ∃ state, run step .initial servedClient = some state ∧ state.pc = .finished false ∧
      state.completed = true ∧ state.Attended :=
  ⟨_, rfl, rfl, rfl, (@attended_iff_along _ servedClient rfl).mpr (by decide)⟩

/-- `ucp_conn_request_query` fails: the exception is dropped, `start_server` is
gone, and `main` keeps calling `progress()`. -/
theorem failedQuery_unattended :
    ∃ state, run step .initial [.setup true, .run .done, .poll, .connRequest 1,
        .run (.status (.error 22)), .callbackReturn, .progressReturn, .poll] = some state ∧
      state.pc = .finished true ∧ state.stack = [.progress] ∧ state.completed = false ∧
      state.ended = none ∧ ¬ state.Attended :=
  ⟨_, rfl, rfl, rfl, rfl, rfl, fun attended => by
    rcases attended.settled true rfl with completed | ended
    · cases completed
    · exact ended rfl⟩

end UcxPlayground.Server
