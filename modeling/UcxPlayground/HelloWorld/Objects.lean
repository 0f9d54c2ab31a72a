import UcxPlayground.HelloWorld.Process
import UcxPlayground.Resource.Ledger

/-!
# What a process of `ucp_hello_world` creates and releases

The process with a ledger of its objects: those of UCX, the memory and the socket.
A call that goes on to a cleanup label releases on the way there what the labels
in front of `err_worker` release.
-/

set_option autoImplicit false

namespace UcxPlayground.HelloWorld

open Resource

/-- `addressMessage` is the `msg` with the address of the client, `dataMessage` the one
with the test string, `string` is `str`, `tagMessage` what `ucp_tag_probe_nb` took out of
the queue of the worker, and `clientAddress` the `peer_addr` of `run_ucx_server`. -/
inductive Handle where
  | config
  | context
  | worker
  | localAddress
  | socket
  | peerAddress
  | endpoint
  | tagMessage
  | addressMessage
  | addressRequest
  | dataMessage
  | dataRequest
  | string
  | clientAddress
  | flushRequest
  | closeRequest
  deriving DecidableEq, Repr

/-- The endpoint of a request that sends, the worker of one that receives, and the
message of either. -/
def Handle.needs (role : Role) : Handle → List Handle
  | .worker => [.context]
  | .localAddress => [.worker]
  | .endpoint => [.worker]
  | .addressRequest =>
      match role with
      | .client => [.endpoint, .addressMessage]
      | .server => [.worker, .addressMessage]
  | .dataRequest =>
      match role with
      | .client => [.worker, .dataMessage]
      | .server => [.endpoint, .dataMessage]
  | .flushRequest => [.endpoint]
  | .closeRequest => [.worker]
  | _ => []

/-- The message whose buffer a process receives into. -/
def Role.buffer : Role → Handle
  | .client => .dataMessage
  | .server => .addressMessage

/-- A process; `request` says that its variable `request` holds one that `ucx_wait` will
free. -/
structure Tracked where
  process : Process
  request : Bool
  ledger : Ledger Handle
  deriving DecidableEq, Repr

/-- What a call returned; `request` says that the operation it posted gave a request. -/
structure Reply where
  action : Action
  request : Bool
  deriving DecidableEq, Repr

/-- `ucx_wait`, or the wait loop of a close or a flush, on the request of a post. -/
def awaited (request : Bool) (handle : Handle) : Ledger Handle :=
  if request then [.release handle, .acquire handle] else []

/-- `ucp_tag_msg_recv_nbx`, which uses the message up, and `ucx_wait`. -/
def received (request : Bool) (handle : Handle) : Ledger Handle :=
  awaited request handle ++ [.release .tagMessage]

/-- `ep_close` -/
def closed (request : Bool) : Ledger Handle :=
  awaited request .closeRequest ++ [.release .endpoint]

/-- From the label `err_addr` up to `err_worker`. -/
def errAddr : Ledger Handle := [.release .localAddress]

/-- From the label `err_peer_addr`; the `peer_addr` of a server is `NULL`. -/
def errPeerAddr : Role → Ledger Handle
  | .client => errAddr ++ [.release .peerAddress]
  | .server => errAddr

/-- From `close(oob_sock)`. -/
def closeSocket (role : Role) : Ledger Handle :=
  errPeerAddr role ++ [.release .socket]

section Calls

variable (options : Options) (tracked : Tracked) (reply : Reply)

/-- What `run_ucx_client` does in a call. -/
def clientLedger (pc : ClientPc) : Ledger Handle :=
  match pc, reply.action with
  | .creatingEp, .status .ok => [.acquire .endpoint]
  | .allocatingMessage, .allocated true => [.acquire .addressMessage]
  | .posting, .posted => if reply.request then [.acquire .addressRequest] else []
  | .waitingSend, .status _ =>
      .release .addressMessage :: if tracked.request then [.release .addressRequest] else []
  | .receiving, .message => [.acquire .tagMessage]
  | .allocatingBuffer, .allocated true => [.acquire .dataMessage]
  | .waitingReceive, .status .ok => received reply.request .dataRequest
  | .waitingReceive, .status (.error _) =>
      .release .dataMessage :: received reply.request .dataRequest
  | .allocatingString, .allocated true =>
      [.release .dataMessage, .release .string, .acquire .string]
  | .allocatingString, .allocated false => [.release .dataMessage]
  | .closing _, .done => closed reply.request
  | _, _ => []

/-- What `run_ucx_server` does in a call. -/
def serverLedger (pc : ServerPc) : Ledger Handle :=
  match pc, reply.action with
  | .probing, .message => [.acquire .tagMessage]
  | .allocatingMessage, .allocated true => [.acquire .addressMessage]
  | .waitingReceive, .status .ok =>
      if options.mode = .send then .release .addressMessage :: received reply.request .addressRequest
      else received reply.request .addressRequest
  | .waitingReceive, .status (.error _) =>
      .release .addressMessage :: received reply.request .addressRequest
  | .allocatingAddress, .allocated true => [.release .addressMessage, .acquire .clientAddress]
  | .allocatingAddress, .allocated false => [.release .addressMessage]
  | .creatingEp, .status .ok => [.acquire .endpoint]
  | .allocatingText, .allocated true => [.acquire .dataMessage]
  | .generating, .allocated false => [.release .dataMessage]
  | .posting, .posted => if reply.request then [.acquire .dataRequest] else []
  | .waitingSend, .status .ok => if tracked.request then [.release .dataRequest] else []
  | .waitingSend, .status (.error _) =>
      (if options.mode ≠ .none then [.release .dataMessage] else []) ++
        if tracked.request then [.release .dataRequest] else []
  | .waitingFailure, .reported => [.release .dataMessage]
  | .flushing, .status _ => .release .dataMessage :: awaited reply.request .flushRequest
  | .closing _, .done => closed reply.request
  | _, _ => []

/-- What `main` does in a call, up to a jump. -/
def mainLedger : Ledger Handle :=
  match tracked.process.pc, reply.action with
  | .readingConfig, .status .ok => [.acquire .config]
  | .initialising, .status .ok => [.release .config, .acquire .context]
  | .initialising, .status (.error _) => [.release .config]
  | .creatingWorker, .status .ok => [.acquire .worker]
  | .querying, .queried _ => [.acquire .localAddress]
  | .connecting, .connected true => [.acquire .socket]
  | .allocatingAddress, .allocated true => [.acquire .peerAddress]
  | .client pc, _ => clientLedger tracked reply pc
  | .server pc, _ => serverLedger options tracked reply pc
  | .destroying, .done => [.release .worker]
  | .cleaning, .done => [.release .context]
  | _, _ => []

/-- What the labels of `main` release after a jump to them. -/
def unwinding (pc : Pc) : Ledger Handle :=
  match pc with
  | .connecting | .receivingLength | .allocatingAddress => errAddr
  | .receivingAddress | .sendingLength | .sendingAddress => errPeerAddr options.role
  | .client _ | .server _ | .barrier _ => closeSocket options.role
  | _ => []

namespace Tracked

def initial : Tracked where
  process := .initial
  request := false
  ledger := []

/-- The ledger grows by what the call did, and by what the labels release where the call
goes on to them. -/
def advance (next : Process) : Tracked where
  process := next
  request := decide (reply.action = .posted) && reply.request
  ledger :=
    (if next.pc = .destroying then unwinding options tracked.process.pc else []) ++
      (mainLedger options tracked reply ++ tracked.ledger)

def step : Option Tracked :=
  (HelloWorld.step options tracked.process reply.action).map (tracked.advance options reply)

end Tracked

end Calls

end UcxPlayground.HelloWorld
