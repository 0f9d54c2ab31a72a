import UcxPlayground.Endpoint.Model
import UcxPlayground.Endpoint.Value

/-!
# The client program

`main` and `start_client_worker` of `src/client.cpp`, on one thread. The program
drives the endpoint that it has constructed: its stack is the endpoint's, and
what a step does there is an action of the endpoint's own model.
-/

set_option autoImplicit false

namespace UcxPlayground.Client

open Endpoint

/-- The next statement of `start_client_worker`. It is behind the `co_await` as
soon as that was evaluated, also while the coroutine is suspended there. -/
inductive Pc where
  | uncalled
  | sendStream
  | coAwait
  | printSent
  | complete
  | finished
  deriving DecidableEq, Repr

/-- How the process ended: `std::terminate`, or the end of `main`. -/
inductive Ended where
  | terminated
  | returned
  deriving DecidableEq, Repr

structure State where
  endpoint : Endpoint.State
  pc : Pc
  completed : Bool
  ended : Option Ended

/-- What a statement of the coroutine meets. Allocating the event and printing may throw. The
constructor of the event is `noexcept`, so the process ends where it cannot allocate.
`parameter` is where the parameter of `send_stream` lives. -/
inductive Outcome where
  | done
  | throws
  | terminates
  | posted (parameter : Nat) (result : StatusPtr)
  deriving DecidableEq, Repr

/-- `setup` is everything in `main` before `start_client_worker`, which an
exception may leave. `poll` goes around the loop of `main`, or the one inside
`ucp_ep_destroy`. `sendComplete` and `peerError` are the callbacks inside
`ucp_worker_progress`; the first prints the status, which may throw. -/
inductive Action where
  | setup (constructed : Bool)
  | run (outcome : Outcome)
  | poll
  | sendComplete (status : UcsStatus) (printed : Bool)
  | peerError (status : UcsStatus)
  | callbackReturn
  | progressReturn
  | epDestroyed
  deriving DecidableEq, Repr

/-- The handle of the only coroutine. -/
def startClientWorkerHandle : Async.CoroutineHandle := 0

/-- The frames of `ucp_worker_progress` and of `~UcpEndPoint`. -/
@[match_pattern, reducible] def progress : Tag := .user 0

@[match_pattern, reducible] def epDestroy : Tag := .user 1

namespace State

def initial : State where
  endpoint := .initial
  pc := .uncalled
  completed := false
  ended := none

/-- The endpoint takes an action of its own, and the program goes on at `pc`. -/
def act (state : State) (action : Endpoint.Action) (pc : Pc) : Option State :=
  (Endpoint.step state.endpoint action).map fun endpoint =>
    { state with endpoint := endpoint, pc := pc }

/-- The end of `start_client_worker`. `unhandled_exception` does nothing and
`final_suspend` never suspends, so control returns to the caller either way. -/
def finish (state : State) : Option State :=
  state.act (.code .finish) .finished

/-- The argument `&data` selects the template that posts its own parameter. -/
def sendStream (state : State) (parameter : Nat) (result : StatusPtr) : Option State :=
  state.act (.sendStream
    ⟨parameter, 1 * (Sending.CppType.pointer (.integer 4)).size⟩ result) .coAwait

/-- One statement of `start_client_worker`. -/
def runStartClientWorker (state : State) (outcome : Outcome) : Option State :=
  match state.pc, outcome with
  | .sendStream, .posted parameter result => state.sendStream parameter result
  | .sendStream, .throws => state.finish
  | .sendStream, .terminates => some { state with ended := some .terminated }
  | .coAwait, .done => state.act (.code (.coAwait (.operation 0))) .printSent
  | .printSent, .done => some { state with pc := .complete }
  | .printSent, .throws => state.finish
  | .complete, .done => { state with completed := true }.finish
  | _, _ => none

/-- The lambda in `param.cb.send`, up to the end or to its `resume()`. It has
printed the status before, and nothing on the stack catches an exception. -/
def sendCallback (state : State) (status : UcsStatus) (printed : Bool) : Option State :=
  (state.act (.complete 0 status 0) state.pc).map fun called =>
    if printed then called else { state with ended := some .terminated }

/-- The lambda in `ep_params.err_handler.cb`. -/
def errHandler (state : State) : UcsStatus → State
  | .ok => state
  | .error _ => { state with ended := some .terminated }

end State

def step (state : State) (action : Action) : Option State :=
  match state.ended, action, state.endpoint.runtime.stack with
  | none, .setup constructed, [] =>
      if state.pc = .uncalled then
        if constructed then state.act (.code (.start startClientWorkerHandle)) .sendStream
        else some { state with ended := some .terminated }
      else none
  | none, .run outcome, .called _ :: _ => state.runStartClientWorker outcome
  | none, .run outcome, .resumed _ _ :: _ => state.runStartClientWorker outcome
  | none, .poll, [] =>
      if state.pc = .uncalled then none
      else if state.completed then state.act (.code (.call epDestroy)) state.pc
      else state.act (.code (.call progress)) state.pc
  | none, .poll, .native epDestroy :: _ => state.act (.code (.call progress)) state.pc
  | none, .sendComplete status printed, .native progress :: _ =>
      state.sendCallback status printed
  | none, .peerError status, .native progress :: _ => some (state.errHandler status)
  | none, .callbackReturn, .native (.callback _) :: _ => state.act .callbackReturn state.pc
  | none, .progressReturn, .native progress :: _ => state.act (.code .ret) state.pc
  | none, .epDestroyed, .native epDestroy :: _ =>
      (state.act (.code .ret) state.pc).map fun destroyed =>
        { destroyed with ended := some .returned }
  | _, _, _ => none

end UcxPlayground.Client
