import UcxPlayground.ClientServer.Model
import UcxPlayground.Resource.Ledger

/-!
# The main program of `ucp_client_server.c`

`main`, `init_context`, `run_server`, `start_server`, `run_client` and
`ep_close`, one call of UCX at a time, with the callback that UCX may run for
a connection request as long as the listener exists. What
`client_server_do_work` does is the subject of the other modules; here it
returns any value.
-/

set_option autoImplicit false

namespace UcxPlayground.ClientServer.Program

open Resource

/-- The UCX objects of the program. A server endpoint is named by the request
it was created from. -/
inductive Handle where
  | ucpContext
  | ucpWorker
  | ucpDataWorker
  | listener
  | serverEp (request : Nat)
  | clientEp
  deriving DecidableEq, Repr

/-- The object that another one is created on. -/
def Handle.needs : Handle → Option Handle
  | .ucpContext => none
  | .ucpWorker => some .ucpContext
  | .ucpDataWorker => some .ucpContext
  | .listener => some .ucpWorker
  | .serverEp _ => some .ucpDataWorker
  | .clientEp => some .ucpWorker

/-- The three calls of `ep_close`: after a client was served, at the label
`err_ep`, and in `run_client`. -/
inductive CloseSite where
  | served
  | errEp
  | client
  deriving DecidableEq, Repr

/-- The next statement. `epClose` calls `ucp_ep_close_nbx`, and `closing` waits
for the request it returned; `listenerDestroy` is the call in `start_server`,
`errListener` the one in `run_server`. -/
inductive Pc where
  | parseCmd
  | ucpInit
  | initWorker
  | errCleanup
  | initDataWorker
  | registerHandler
  | listenerCreate
  | listenerQuery
  | listenerDestroy
  | waitRequest
  | createEp
  | serverWork
  | epClose (site : CloseSite)
  | closing (site : CloseSite)
  | resetRequest
  | errListener
  | errWorker
  | startClient
  | clientWork
  | workerDestroy
  | cleanup
  | returned
  deriving DecidableEq, Repr

/-- Requests are named by the order of their arrival; `ep` is `server_ep` or
`client_ep`. -/
structure State where
  isServer : Bool
  sendRecvType : SendRecvType
  pc : Pc
  ret : Int
  connRequest : Option Nat
  ep : Option Handle
  -- history
  ledger : Ledger Handle
  arrived : Nat
  stored : List Nat
  rejected : List Nat
  passed : List Nat  -- to `server_create_ep`
  deriving DecidableEq, Repr

/-- What happens next: `parse_cmd` or `client_server_do_work` returns, a call
that can fail is answered, `ucp_ep_close_nbx` or `ucp_request_check_status`
returns (`none` is `UCS_INPROGRESS`), the program proceeds on its own, or UCX
runs the callback. -/
inductive Action where
  | parsed (ret : Int) (isServer : Bool) (sendRecvType : SendRecvType)
  | answered (status : UcsStatus)
  | worked (ret : Int)
  | close (result : StatusPtr)
  | checked (status : Option UcsStatus)
  | proceed
  | connRequest
  deriving DecidableEq, Repr

def CloseSite.next : CloseSite → Pc
  | .served => .resetRequest
  | .errEp => .errListener
  | .client => .workerDestroy

/-- The statements between the creation of the listener and its destruction. -/
def Pc.listening : Pc → Bool
  | .listenerQuery => true
  | .listenerDestroy => true
  | .waitRequest => true
  | .createEp => true
  | .serverWork => true
  | .epClose .served => true
  | .closing .served => true
  | .epClose .errEp => true
  | .closing .errEp => true
  | .resetRequest => true
  | .errListener => true
  | _ => false

/-- The statements of the endless loop of `run_server`. -/
def Pc.serving : Pc → Bool
  | .waitRequest => true
  | .createEp => true
  | .serverWork => true
  | .epClose .served => true
  | .closing .served => true
  | .resetRequest => true
  | _ => false

namespace State

def initial : State where
  isServer := false
  sendRecvType := .stream
  pc := .parseCmd
  ret := 0
  connRequest := none
  ep := none
  ledger := []
  arrived := 0
  stored := []
  rejected := []
  passed := []

def goto (state : State) (pc : Pc) : State :=
  { state with pc := pc }

def fail (state : State) (ret : Int) (pc : Pc) : State :=
  { state with ret := ret, pc := pc }

def acquire (state : State) (handle : Handle) (pc : Pc) : State :=
  { state with ledger := .acquire handle :: state.ledger, pc := pc }

def release (state : State) (handle : Handle) (pc : Pc) : State :=
  { state with ledger := .release handle :: state.ledger, pc := pc }

/-- The results of `ucp_conn_request_query` and `ucp_listener_reject` only
select messages. -/
def serverConnHandleCb (state : State) : State :=
  if state.connRequest = none then
    { state with
      connRequest := some state.arrived
      arrived := state.arrived + 1
      stored := state.stored ++ [state.arrived] }
  else
    { state with
      arrived := state.arrived + 1
      rejected := state.rejected ++ [state.arrived] }

/-- The call of `start_server`, behind `context.conn_request = NULL`. -/
def startServer (state : State) : State :=
  { state with connRequest := none, pc := .listenerCreate }

/-- The first statements of `run_server` with a data worker. -/
def runServer (state : State) : State :=
  if state.sendRecvType = .am then state.goto .registerHandler else state.startServer

def serverCreateEp (state : State) (request : Nat) (status : UcsStatus) : State :=
  let passed := { state with passed := state.passed ++ [request] }
  match status with
  | .ok => { passed.acquire (.serverEp request) .serverWork with ep := some (.serverEp request) }
  | .error _ => passed.fail (-1) .errListener

def answered (state : State) (status : UcsStatus) : Option State :=
  match state.pc, status with
  | .ucpInit, .ok => some (state.acquire .ucpContext .initWorker)
  | .ucpInit, .error _ => some (state.fail (-1) .returned)
  | .initWorker, .ok =>
      some (state.acquire .ucpWorker
        (if state.isServer then .initDataWorker else .startClient))
  | .initWorker, .error _ => some (state.fail (-1) .errCleanup)
  | .initDataWorker, .ok => some (state.acquire .ucpDataWorker .listenerCreate).runServer
  | .initDataWorker, .error _ => some (state.fail (-1) .workerDestroy)
  | .registerHandler, .ok => some state.startServer
  | .registerHandler, .error _ => some (state.fail (-1) .errWorker)
  | .listenerCreate, .ok => some (state.acquire .listener .listenerQuery)
  | .listenerCreate, .error _ => some (state.fail (-1) .errWorker)
  | .listenerQuery, .ok => some (state.goto .waitRequest)
  | .listenerQuery, .error _ => some (state.fail (-1) .listenerDestroy)
  | .createEp, status => state.connRequest.map fun request => state.serverCreateEp request status
  | .startClient, .ok => some { state.acquire .clientEp .clientWork with ep := some .clientEp }
  | .startClient, .error _ => some (state.fail (-1) .workerDestroy)
  | _, _ => none

/-- Statements that cannot fail. The loop in front of `server_create_ep` is left
when its test finds a request. -/
def proceed (state : State) : Option State :=
  match state.pc with
  | .errCleanup => some (state.release .ucpContext .returned)
  | .listenerDestroy => some (state.release .listener .errWorker)
  | .waitRequest => some (if state.connRequest = none then state else state.goto .createEp)
  | .resetRequest => some { state with connRequest := none, pc := .waitRequest }
  | .errListener => some (state.release .listener .errWorker)
  | .errWorker => some (state.release .ucpDataWorker .workerDestroy)
  | .workerDestroy => some (state.release .ucpWorker .cleanup)
  | .cleanup => some (state.release .ucpContext .returned)
  | _ => none

/-- Behind `client_server_do_work`. -/
def worked (state : State) (ret : Int) : Option State :=
  match state.pc with
  | .serverWork =>
      some { state with ret := ret, pc := .epClose (if ret ≠ 0 then .errEp else .served) }
  | .clientWork => some { state with ret := ret, pc := .epClose .client }
  | _ => none

/-- The end of `ep_close`. Also when closing failed, which is only reported, the
endpoint cannot be used any more. -/
def closed (state : State) (site : CloseSite) : Option State :=
  state.ep.map fun ep => state.release ep (site.next)

end State

def step (state : State) : Action → Option State
  | .parsed ret isServer sendRecvType =>
      if state.pc = .parseCmd then
        some { state with
          ret := ret
          isServer := isServer
          sendRecvType := sendRecvType
          pc := if ret = 0 then .ucpInit else .returned }
      else none
  | .answered status => state.answered status
  | .worked ret => state.worked ret
  | .close result =>
      match state.pc with
      | .epClose site =>
          match result with
          | .request => some (state.goto (.closing site))
          | _ => state.closed site
      | _ => none
  | .checked status =>
      match state.pc, status with
      | .closing _, none => some state
      | .closing site, some _ => state.closed site
      | _, _ => none
  | .proceed => state.proceed
  | .connRequest => if state.pc.listening then some state.serverConnHandleCb else none

/-- The steps of the program itself, as opposed to those of the callback. -/
def Action.own : Action → Bool
  | .connRequest => false
  | _ => true

end UcxPlayground.ClientServer.Program
