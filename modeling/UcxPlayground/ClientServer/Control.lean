import Mathlib.Tactic.SplitIfs
import UcxPlayground.ClientServer.Program

/-!
# The steps of the main program

`Move` says what a step does to the objects and to `context.conn_request`, with
tables for the statements between which it leads.
-/

set_option autoImplicit false

namespace UcxPlayground.ClientServer.Program

open Resource

/-- Steps that touch neither an object nor the request. -/
inductive Jump : Pc → Pc → Prop where
  | parsed : Jump .parseCmd .ucpInit
  | refused : Jump .parseCmd .returned
  | noContext : Jump .ucpInit .returned
  | noWorker : Jump .initWorker .errCleanup
  | noDataWorker : Jump .initDataWorker .workerDestroy
  | noHandler : Jump .registerHandler .errWorker
  | noListener : Jump .listenerCreate .errWorker
  | queried : Jump .listenerQuery .waitRequest
  | notQueried : Jump .listenerQuery .listenerDestroy
  | worked {site : CloseSite} : site ≠ .client → Jump .serverWork (.epClose site)
  | clientWorked : Jump .clientWork (.epClose .client)
  | closing {site : CloseSite} : Jump (.epClose site) (.closing site)
  | noEndpoint : Jump .startClient .workerDestroy

/-- The objects of `main` and `run_server`, with where they are created. -/
inductive Creates : Pc → Handle → Pc → Prop where
  | ucpContext : Creates .ucpInit .ucpContext .initWorker
  | serverWorker : Creates .initWorker .ucpWorker .initDataWorker
  | clientWorker : Creates .initWorker .ucpWorker .startClient
  | handledWorker : Creates .initDataWorker .ucpDataWorker .registerHandler
  | listener : Creates .listenerCreate .listener .listenerQuery

inductive Destroys : Pc → Handle → Pc → Prop where
  | errCleanup : Destroys .errCleanup .ucpContext .returned
  | listenerDestroy : Destroys .listenerDestroy .listener .errWorker
  | errListener : Destroys .errListener .listener .errWorker
  | errWorker : Destroys .errWorker .ucpDataWorker .workerDestroy
  | workerDestroy : Destroys .workerDestroy .ucpWorker .cleanup
  | cleanup : Destroys .cleanup .ucpContext .returned

inductive Move (state : State) : Action → State → Prop where
  | callback (listening : state.pc.listening = true) :
      Move state .connRequest state.serverConnHandleCb
  | idle {action : Action} (own : action.own = true)
      (waits : (state.pc = .waitRequest ∧ state.connRequest = none) ∨
        ∃ site, state.pc = .closing site) : Move state action state
  | jump {action : Action} {isServer : Bool} {sendRecvType : SendRecvType} {ret : Int} {pc : Pc}
      (own : action.own = true) (jumps : Jump state.pc pc) :
      Move state action
        { state with isServer := isServer, sendRecvType := sendRecvType, ret := ret, pc := pc }
  | create {status : UcsStatus} {handle : Handle} {pc : Pc} (creates : Creates state.pc handle pc) :
      Move state (.answered status) (state.acquire handle pc)
  | destroy {handle : Handle} {pc : Pc} (destroys : Destroys state.pc handle pc) :
      Move state .proceed (state.release handle pc)
  | dataWorker (at' : state.pc = .initDataWorker) :
      Move state (.answered .ok) (state.acquire .ucpDataWorker .listenerCreate).startServer
  | listen (at' : state.pc = .registerHandler) : Move state (.answered .ok) state.startServer
  | found {request : Nat} (at' : state.pc = .waitRequest)
      (pending : state.connRequest = some request) : Move state .proceed (state.goto .createEp)
  | createEp {request : Nat} {status : UcsStatus} (at' : state.pc = .createEp)
      (pending : state.connRequest = some request) :
      Move state (.answered status) (state.serverCreateEp request status)
  | connect (at' : state.pc = .startClient) :
      Move state (.answered .ok) { state.acquire .clientEp .clientWork with ep := some .clientEp }
  | close {action : Action} {site : CloseSite} {ep : Handle} (own : action.own = true)
      (at' : state.pc = .epClose site ∨ state.pc = .closing site) (named : state.ep = some ep) :
      Move state action (state.release ep site.next)
  | reset (at' : state.pc = .resetRequest) :
      Move state .proceed { state with connRequest := none, pc := .waitRequest }

section Inversion

variable {state next : State} {action : Action}

theorem answered_move {status : UcsStatus} (stepped : state.answered status = some next) :
    Move state (.answered status) next := by
  have jump {pc : Pc} (jumps : Jump state.pc pc) :
      Move state (.answered status) (state.fail (-1) pc) := .jump rfl jumps
  cases at' : state.pc <;> cases status <;>
    simp only [State.answered, at', reduceCtorEq, Option.some.injEq, Option.map_eq_some_iff]
      at stepped
  case ucpInit.ok => exact stepped ▸ .create (at' ▸ .ucpContext)
  case ucpInit.error => exact stepped ▸ jump (at' ▸ .noContext)
  case initWorker.ok =>
    subst stepped
    split_ifs
    · exact .create (at' ▸ .serverWorker)
    · exact .create (at' ▸ .clientWorker)
  case initWorker.error => exact stepped ▸ jump (at' ▸ .noWorker)
  case initDataWorker.ok =>
    subst stepped
    simp only [State.runServer]
    split_ifs
    · exact .create (at' ▸ .handledWorker)
    · exact .dataWorker at'
  case initDataWorker.error => exact stepped ▸ jump (at' ▸ .noDataWorker)
  case registerHandler.ok => exact stepped ▸ .listen at'
  case registerHandler.error => exact stepped ▸ jump (at' ▸ .noHandler)
  case listenerCreate.ok => exact stepped ▸ .create (at' ▸ .listener)
  case listenerCreate.error => exact stepped ▸ jump (at' ▸ .noListener)
  case listenerQuery.ok => exact stepped ▸ Move.jump rfl (at' ▸ .queried)
  case listenerQuery.error => exact stepped ▸ jump (at' ▸ .notQueried)
  case createEp.ok | createEp.error =>
    obtain ⟨request, pending, created⟩ := stepped
    exact created ▸ .createEp at' pending
  case startClient.ok => exact stepped ▸ .connect at'
  case startClient.error => exact stepped ▸ jump (at' ▸ .noEndpoint)

theorem proceed_move (stepped : state.proceed = some next) : Move state .proceed next := by
  cases at' : state.pc <;>
    simp only [State.proceed, at', reduceCtorEq, Option.some.injEq] at stepped
  case errCleanup => exact stepped ▸ .destroy (at' ▸ .errCleanup)
  case listenerDestroy => exact stepped ▸ .destroy (at' ▸ .listenerDestroy)
  case waitRequest =>
    subst stepped
    cases pending : state.connRequest with
    | none => exact .idle rfl (.inl ⟨at', pending⟩)
    | some request => exact .found at' pending
  case resetRequest => exact stepped ▸ .reset at'
  case errListener => exact stepped ▸ .destroy (at' ▸ .errListener)
  case errWorker => exact stepped ▸ .destroy (at' ▸ .errWorker)
  case workerDestroy => exact stepped ▸ .destroy (at' ▸ .workerDestroy)
  case cleanup => exact stepped ▸ .destroy (at' ▸ .cleanup)

theorem worked_move {ret : Int} (stepped : state.worked ret = some next) :
    Move state (.worked ret) next := by
  cases at' : state.pc <;>
    simp only [State.worked, at', reduceCtorEq, Option.some.injEq] at stepped
  case serverWork =>
    subst stepped
    refine Move.jump rfl (at' ▸ .worked ?_)
    split_ifs <;> simp
  case clientWork => exact stepped ▸ Move.jump rfl (at' ▸ .clientWorked)

theorem closed_move {site : CloseSite} (own : action.own = true)
    (at' : state.pc = .epClose site ∨ state.pc = .closing site)
    (stepped : state.closed site = some next) : Move state action next := by
  obtain ⟨ep, named, closed⟩ := Option.map_eq_some_iff.mp stepped
  exact closed ▸ .close own at' named

theorem step_move (stepped : step state action = some next) : Move state action next := by
  cases action with
  | parsed ret isServer sendRecvType =>
      by_cases at' : state.pc = .parseCmd
      · simp only [step, at', if_true, Option.some.injEq] at stepped
        subst stepped
        refine .jump rfl ?_
        rw [at']
        split_ifs
        · exact .parsed
        · exact .refused
      · simp only [step, at', if_false, reduceCtorEq] at stepped
  | answered status => exact answered_move stepped
  | worked ret => exact worked_move stepped
  | close result =>
      cases at' : state.pc <;> simp only [step, at', reduceCtorEq] at stepped
      case epClose site =>
        cases result with
        | request =>
            cases stepped
            exact Move.jump rfl (at' ▸ .closing)
        | null length => exact closed_move rfl (.inl at') stepped
        | error code => exact closed_move rfl (.inl at') stepped
  | checked status =>
      cases at' : state.pc <;> cases status <;>
        simp only [step, at', reduceCtorEq, Option.some.injEq] at stepped
      case closing.none => exact stepped ▸ .idle rfl (.inr ⟨_, at'⟩)
      case closing.some => exact closed_move rfl (.inr at') stepped
  | proceed => exact proceed_move stepped
  | connRequest =>
      by_cases listening : state.pc.listening = true
      · simp only [step, listening, if_true, Option.some.injEq] at stepped
        exact stepped ▸ .callback listening
      · simp only [step, listening, Bool.false_eq_true, if_false, reduceCtorEq] at stepped

end Inversion

end UcxPlayground.ClientServer.Program
