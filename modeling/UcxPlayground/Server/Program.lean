import UcxPlayground.Async.AutoResetEvent
import UcxPlayground.Transition.Run
import UcxPlayground.Ucx

/-!
# The server program

`main` and `start_server` of `src/server.cpp`, on one thread. The coroutine runs
nested in whoever calls or resumes it: in `main` at first, then in the `set_or`
of a callback that UCX runs inside `ucp_worker_progress`. UCX chooses which
callback comes when, and every call that can fail may fail.
-/

set_option autoImplicit false

namespace UcxPlayground.Server

open Async

/-- The next statement of `start_server`. At `accept` and `awaitRecv` the
coroutine may also be suspended, which it is while it is on no stack. `scopeEnd`
is where `ep` goes out of scope, also by an exception. -/
inductive Pc where
  | uncalled
  | accept
  | query
  | printAddress
  | createEp
  | printCreated
  | recvStream
  | awaitRecv
  | printReceived
  | complete
  | scopeEnd (threw : Bool)
  | finished (threw : Bool)
  deriving DecidableEq, Repr

/-- What is on the stack above `main`: `ucp_worker_progress`; a callback whose
`set_or` resumes the coroutine, until it has run to its end (for the receive
that is behind `delete event` and `ucp_request_free`); the coroutine; and
`~UcpEndPoint`. -/
inductive Frame where
  | progress
  | listenerCallback
  | recvCallback
  | startServer
  | epDestroy
  deriving DecidableEq, Repr

/-- How the process ended: `std::terminate`, `exit(1)`, or the end of `main`. -/
inductive Ended where
  | terminated
  | exited
  | returned
  deriving DecidableEq, Repr

/-- `recv` is what `ucp_stream_recv_nbx` returned, `received` the length its
callback got with `UCS_OK`. `destructions` holds the stack below each call of
`~UcpEndPoint`; the program does not have it. -/
structure State where
  stack : List Frame
  pc : Pc
  listenerEvent : AutoResetEvent Nat
  recvEvent : AutoResetEvent Nat
  connRequest : Option Nat
  recv : Option StatusPtr
  received : Option Nat
  completed : Bool
  ended : Option Ended
  destructions : List (List Frame)
  deriving DecidableEq, Repr

/-- What a statement of the coroutine meets. Formatting, printing and allocating
may throw; the process ends where the `noexcept` constructor of the event cannot
allocate. -/
inductive Outcome where
  | done
  | throws
  | terminates
  | status (status : UcsStatus)
  | posted (result : StatusPtr)
  deriving DecidableEq, Repr

/-- `setup` is everything in `main` before its loop, which a constructor may
leave by an exception. `poll` goes around the loop of `main`, or the one inside
`ucp_ep_destroy`; `connRequest` and `recvComplete` are callbacks inside
`ucp_worker_progress`, and `callbackReturn` is the rest of one behind its
`resume()`. -/
inductive Action where
  | setup (constructed : Bool)
  | run (outcome : Outcome)
  | poll
  | connRequest (request : Nat)
  | recvComplete (status : UcsStatus) (length : Nat)
  | callbackReturn
  | progressReturn
  | epDestroyed
  deriving DecidableEq, Repr

/-- The handle of the only coroutine. -/
def startServerHandle : CoroutineHandle := 0

namespace State

def initial : State where
  stack := []
  pc := .uncalled
  listenerEvent := .fresh
  recvEvent := .fresh
  connRequest := none
  recv := none
  received := none
  completed := false
  ended := none
  destructions := []

def push (state : State) (frame : Frame) : State :=
  { state with stack := frame :: state.stack }

def pop (state : State) : State :=
  { state with stack := state.stack.tail }

/-- The end of `start_server`. `unhandled_exception` does nothing and
`final_suspend` never suspends, so control returns to the caller either way. -/
def finish (state : State) (threw : Bool) : State :=
  { state.pop with pc := .finished threw }

/-- An exception in the body, before `ep` is constructed and afterwards. -/
def throw (state : State) : State :=
  match state.pc with
  | .query => state.finish true
  | .printAddress => state.finish true
  | .createEp => state.finish true
  | _ => { state with pc := .scopeEnd true }

/-- The coroutine goes on behind a `co_await`. -/
def pass (state : State) : State :=
  match state.pc with
  | .accept =>
      { state with pc := .query, connRequest := state.listenerEvent.awaitResume }
  | .awaitRecv => { state with pc := .printReceived }
  | _ => state

def coAwaitAccept (state : State) : State :=
  if state.listenerEvent.awaitReady then state.pass
  else
    match state.listenerEvent.awaitSuspend startServerHandle with
    | (true, event) => { state.pop with listenerEvent := event }
    | (false, _) => state.pass

def coAwaitRecv (state : State) : State :=
  if state.recvEvent.awaitReady then state.pass
  else
    match state.recvEvent.awaitSuspend startServerHandle with
    | (true, event) => { state.pop with recvEvent := event }
    | (false, _) => state.pass

/-- `ep.recv_stream(std::span{buf})`, which makes the event and posts. -/
def recvStream (state : State) (result : StatusPtr) : State :=
  let posted := { state with recvEvent := .fresh, recv := some result, pc := .awaitRecv }
  match result with
  | .error _ => { posted with ended := some .exited }
  | _ => posted

def destroyEp (state : State) : State :=
  { state.push .epDestroy with destructions := state.stack :: state.destructions }

/-- One statement of `start_server`. -/
def runStartServer (state : State) (outcome : Outcome) : Option State :=
  match state.pc, outcome with
  | .accept, .done => some state.coAwaitAccept
  | .query, .status .ok => some { state with pc := .printAddress }
  | .query, .status (.error _) => some state.throw
  | .printAddress, .done => some { state with pc := .createEp }
  | .printAddress, .throws => some state.throw
  | .createEp, .status .ok => some { state with pc := .printCreated }
  | .createEp, .status (.error _) => some state.throw
  | .printCreated, .done => some { state with pc := .recvStream }
  | .printCreated, .throws => some state.throw
  | .recvStream, .posted result => some (state.recvStream result)
  | .recvStream, .throws => some state.throw
  | .recvStream, .terminates => some { state with ended := some .terminated }
  | .awaitRecv, .done => some state.coAwaitRecv
  | .printReceived, .done => some { state with pc := .complete }
  | .printReceived, .throws => some state.throw
  | .complete, .done => some { state with completed := true, pc := .scopeEnd false }
  | .scopeEnd _, .done => some state.destroyEp
  | _, _ => none

def resume (state : State) (frame : Frame) : State :=
  ((state.push frame).push .startServer).pass

/-- `listener_callback`, up to the end or to its `resume()`. -/
def listenerCallback (state : State) (request : Nat) : State :=
  match state.listenerEvent.setOr request with
  | .full => state
  | .stored event => { state with listenerEvent := event }
  | .resume event _ => { state with listenerEvent := event }.resume .listenerCallback

/-- The receive callback, up to the end or to its `resume()`. Nothing on the
stack catches its exception. -/
def recvCallback (state : State) (status : UcsStatus) (length : Nat) : State :=
  match status with
  | .error _ => { state with ended := some .terminated }
  | .ok =>
      let received := { state with received := some length }
      match state.recvEvent.setOr length with
      | .full => received
      | .stored event => { received with recvEvent := event }
      | .resume event _ => { received with recvEvent := event }.resume .recvCallback

end State

def step (state : State) (action : Action) : Option State :=
  match state.ended, action, state.stack with
  | none, .setup constructed, [] =>
      if state.pc = .uncalled then
        some (if constructed then { state with stack := [.startServer], pc := .accept }
          else { state with ended := some .terminated })
      else none
  | none, .run outcome, .startServer :: _ => state.runStartServer outcome
  | none, .poll, [] =>
      if state.pc = .uncalled then none
      else if state.completed then some { state with ended := some .returned }
      else some (state.push .progress)
  | none, .poll, .epDestroy :: _ => some (state.push .progress)
  | none, .connRequest request, .progress :: _ => some (state.listenerCallback request)
  | none, .recvComplete status length, .progress :: _ =>
      if state.recv = some .request ∧ state.received = none then
        some (state.recvCallback status length)
      else none
  | none, .callbackReturn, .listenerCallback :: _ =>
      some { state.pop with listenerEvent := state.listenerEvent.afterResume }
  | none, .callbackReturn, .recvCallback :: _ =>
      some { state.pop with recvEvent := state.recvEvent.afterResume }
  | none, .progressReturn, .progress :: _ => some state.pop
  | none, .epDestroyed, .epDestroy :: _ =>
      match state.pc with
      | .scopeEnd threw => some (state.pop.finish threw)
      | _ => none
  | _, _, _ => none

end UcxPlayground.Server
