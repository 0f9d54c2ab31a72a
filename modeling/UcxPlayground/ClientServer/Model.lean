import UcxPlayground.Bytes.Representation
import UcxPlayground.Transition.Run
import UcxPlayground.Ucx

/-!
# The client and server of `ucp_client_server.c`

Both processes run `client_server_do_work`. A process takes small steps: it
calls `client_server_communication`, tests the condition of a wait loop, and
calls `ucp_worker_progress`, inside which UCX may complete its request and
handle any number of active messages. UCX chooses the results of posts and the
order of everything that happens inside a progress call.

The fields below "history" record what happened; the program does not have
them.
-/

set_option autoImplicit false

namespace UcxPlayground.ClientServer

open Bytes

inductive SendRecvType where
  | stream
  | tag
  | am
  deriving DecidableEq, Repr

/-- The options both sides run with; `parse_cmd` refuses an `iov_cnt` of 0. What
`generate_test_string` writes is given by client, `current_iter` and offset. -/
structure Config where
  sendRecvType : SendRecvType
  numIterations : Int
  testStringLength : Nat
  iovCnt : Nat
  iovCnt_pos : 0 < iovCnt
  testString : Nat → Nat → Nat → Byte

/-- The buffers of a `ucp_dt_iov_t` array. -/
abbrev Iov := List (List Byte)

/-- The copy loop of `ucp_am_data_cb`: `count` buffers of `length` bytes each. -/
def scatter (length : Nat) : (count : Nat) → List Byte → Iov
  | 0, _ => []
  | count + 1, data => data.take length :: scatter length count (data.drop length)

namespace Config

def messageLength (cfg : Config) : Nat :=
  cfg.iovCnt * cfg.testStringLength

def bufferMalloc (cfg : Config) : Iov :=
  List.replicate cfg.iovCnt (List.replicate cfg.testStringLength 0)

def fillBuffer (cfg : Config) (client currentIter : Nat) : Iov :=
  (List.range cfg.iovCnt).map fun idx =>
    (List.range cfg.testStringLength).map fun offset =>
      cfg.testString client currentIter (idx * cfg.testStringLength + offset)

end Config

/-- The calls of `client_server_communication` in `client_server_do_work`. The
FIN message goes in the reverse direction. -/
inductive Call where
  | data (iteration : Nat)
  | fin
  deriving DecidableEq, Repr

def Call.currentIter (cfg : Config) : Call → Nat
  | .data iteration => iteration
  | .fin => cfg.numIterations.toNat + 1  -- `i + 1` behind the loop

structure Message where
  data : List Byte
  rndv : Bool
  deriving DecidableEq, Repr

/-- One direction of the connection: the messages posted, how many of them were
handled or matched at the receiver, how many bytes its stream receives took, and
the rendezvous messages whose data it fetched. -/
structure Channel where
  log : List Message
  next : Nat
  taken : Nat
  fetched : List Nat
  deriving DecidableEq, Repr

def Channel.empty : Channel where
  log := []
  next := 0
  taken := 0
  fetched := []

inductive Request where
  | send (message : Nat)
  | recvStream
  | recvTag
  | recvAm (message : Nat)
  deriving DecidableEq, Repr

namespace Channel

def post (channel : Channel) (message : Message) : Channel :=
  { channel with log := channel.log ++ [message] }

def stream (channel : Channel) : List Byte :=
  channel.log.flatMap Message.data

/-- The data with which a receive can succeed now, and the channel afterwards.
A stream receive has `UCP_STREAM_RECV_FLAG_WAITALL`; a tag receive has tag mask
0 and matches the oldest message. UCX receives the data of a descriptor once,
which nothing here demands: the model has more runs than UCX. -/
def supply (cfg : Config) (channel : Channel) : Request → Option (Channel × List Byte)
  | .recvStream =>
      if channel.taken + cfg.messageLength ≤ channel.stream.length then
        some ({ channel with taken := channel.taken + cfg.messageLength },
          (channel.stream.drop channel.taken).take cfg.messageLength)
      else none
  | .recvTag =>
      channel.log[channel.next]?.map fun message =>
        ({ channel with next := channel.next + 1 }, message.data)
  | .recvAm index =>
      channel.log[index]?.map fun message =>
        ({ channel with fetched := index :: channel.fetched }, message.data)
  | .send _ => none

end Channel

/-- The global `am_data_desc`. A descriptor is named by its message, a receive
buffer by the call of `send_recv_am` whose `iov` it is. -/
structure AmDataDesc where
  complete : Nat
  isRndv : Bool
  desc : Option Nat
  recvBuf : Option Nat
  deriving DecidableEq, Repr

/-- Where a process is in `client_server_do_work`: about to make a call, in the
loop of `send_recv_am` that waits for `ucp_am_data_cb`, in `request_wait`, about
to register the handler (the client), or waiting for the client to close the
connection (the server). -/
inductive Pc where
  | idle
  | call (call : Call)
  | amWait (call : Call)
  | requestWait (call : Call)
  | register
  | waitClose
  | returned (ret : Int)
  deriving DecidableEq, Repr

/-- A call of `client_server_communication` that returned, with its buffers as
they were before `buffer_free`. -/
structure Finished where
  client : Nat
  call : Call
  ret : Int
  iov : Iov
  deriving DecidableEq, Repr

/-- A process, with the client that it is or works with. `inProgress` holds
inside `ucp_worker_progress`; `serial` counts the calls of `send_recv_*` and so
names the buffers of the last one; `ctx` is set when `ctx->complete` is, to the
status of the request; `handler` says that `ucp_am_data_cb` is registered. -/
structure Proc where
  isServer : Bool
  client : Nat
  pc : Pc
  inProgress : Bool
  serial : Nat
  iov : Iov
  request : Option Request
  ctx : Option UcsStatus
  amDataDesc : AmDataDesc
  last : Nat  -- the static variable of `send_recv_am`
  handler : Bool
  connectionClosed : Bool
  -- history
  descTaken : Bool  -- the descriptor was passed to `ucp_am_recv_data_nbx`
  finished : List Finished
  stray : List Nat  -- eager messages copied to buffers of no current call
  overwritten : List Nat  -- descriptors overwritten before they were received
  discarded : List Nat  -- active messages without a handler
  deriving DecidableEq, Repr

/-- What happens at one process. A call meets the answer of UCX to its post
(`communicate`), which may send an active message by rendezvous, or fails in
`fill_request_param` (`outOfMemory`). A wait loop calls `ucp_worker_progress`
(`poll`), in which the callback of the request is called (`complete`), an active
message is handled (`arrive`) or `err_cb` is called (`peerError`), until it
returns (`progressed`). When a wait loop ends (`leave`), UCX answers the post
that follows in `send_recv_am`, if there is one. -/
inductive Step where
  | communicate (result : StatusPtr) (rndv : Bool)
  | outOfMemory
  | poll
  | complete (status : UcsStatus)
  | arrive
  | peerError
  | progressed
  | leave (result : StatusPtr)
  | register (status : UcsStatus)
  deriving DecidableEq, Repr

def afterLoop (cfg : Config) (isServer : Bool) : Pc :=
  if isServer = false ∧ cfg.sendRecvType = .am then .register else .call .fin

/-- The loop of `client_server_do_work` at its test. -/
def loop (cfg : Config) (isServer : Bool) (i : Nat) : Pc :=
  if (i : Int) < cfg.numIterations then .call (.data i) else afterLoop cfg isServer

/-- `client_server_do_work` behind a call of `client_server_communication`. -/
def afterCall (cfg : Config) (isServer : Bool) (call : Call) (ret : Int) : Pc :=
  if ret ≠ 0 then .returned ret
  else
    match call with
    | .data i => loop cfg isServer (i + 1)
    | .fin => if isServer then .waitClose else .returned 0

namespace Proc

/-- The argument `is_server` of a call, negated for the FIN message. -/
def receives (proc : Proc) : Call → Bool
  | .data _ => proc.isServer
  | .fin => !proc.isServer

def clientServerDoWork (cfg : Config) (proc : Proc) : Proc :=
  { proc with connectionClosed := false, pc := loop cfg proc.isServer 0 }

def fillRequestParam (cfg : Config) (proc : Proc) (call : Call) : Proc :=
  { proc with
    serial := proc.serial + 1
    iov :=
      if proc.receives call then cfg.bufferMalloc
      else cfg.fillBuffer proc.client (call.currentIter cfg)
    ctx := none }

/-- The condition of the wait loop the process is in. A server that has
returned progresses its worker in `ep_close`. -/
def waiting (proc : Proc) : Bool :=
  match proc.pc with
  | .amWait _ => proc.last == proc.amDataDesc.complete
  | .requestWait _ => proc.ctx.isNone
  | .waitClose => !proc.connectionClosed
  | .returned _ => proc.isServer
  | _ => false

def inCall (proc : Proc) : Bool :=
  match proc.pc with
  | .amWait _ => true
  | .requestWait _ => true
  | _ => false

/-- The end of `request_finalize`, and what follows the call. -/
def finish (cfg : Config) (proc : Proc) (call : Call) (ret : Int) : Proc :=
  { proc with
    pc := afterCall cfg proc.isServer call ret
    request := none
    finished := ⟨proc.client, call, ret, proc.iov⟩ :: proc.finished }

/-- `ucp_am_data_cb` with the message at position `index`. -/
def ucpAmDataCb (cfg : Config) (proc : Proc) (index : Nat) (message : Message) : Proc :=
  if message.data.length ≠ cfg.messageLength then
    proc  -- only a message on stderr
  else
    let desc := { proc.amDataDesc with complete := proc.amDataDesc.complete + 1 }
    if message.rndv then
      { proc with
        amDataDesc := { desc with isRndv := true, desc := some index }
        descTaken := false
        overwritten :=
          (if proc.descTaken then [] else proc.amDataDesc.desc.toList) ++ proc.overwritten }
    else
      let proc := { proc with amDataDesc := { desc with isRndv := false } }
      if proc.amDataDesc.recvBuf = some proc.serial ∧ proc.inCall = true then
        { proc with iov := scatter cfg.testStringLength cfg.iovCnt message.data }
      else
        { proc with stray := index :: proc.stray }

end Proc

structure Side where
  proc : Proc
  incoming : Channel
  outgoing : Channel

namespace Side

def deliver (cfg : Config) (side : Side) (request : Request) : Option Side :=
  (side.incoming.supply cfg request).map fun (incoming, data) =>
    { side with
      incoming := incoming
      proc := { side.proc with iov := scatter cfg.testStringLength cfg.iovCnt data } }

/-- Post a receive, and pass its result to `request_finalize`. -/
def receive (cfg : Config) (side : Side) (call : Call) (request : Request) :
    StatusPtr → Option Side
  | .null _ =>
      (side.deliver cfg request).map fun side =>
        { side with proc := side.proc.finish cfg call 0 }
  | .request =>
      some { side with
        proc := { side.proc with pc := .requestWait call, request := some request } }
  | .error _ => some { side with proc := side.proc.finish cfg call (-1) }

/-- Post a send, and pass its result to `request_finalize`. A rendezvous send
does not complete in place. -/
def send (cfg : Config) (side : Side) (call : Call) (rndv : Bool) : StatusPtr → Option Side
  | .null _ =>
      if rndv then none
      else some { side with
        outgoing := side.outgoing.post ⟨side.proc.iov.flatten, false⟩
        proc := side.proc.finish cfg call 0 }
  | .request =>
      some { side with
        outgoing := side.outgoing.post ⟨side.proc.iov.flatten, rndv⟩
        proc := { side.proc with
          pc := .requestWait call
          request := some (.send side.outgoing.log.length) } }
  | .error _ => some { side with proc := side.proc.finish cfg call (-1) }

def sendRecvStream (cfg : Config) (side : Side) (call : Call) (result : StatusPtr) :
    Option Side :=
  let side := { side with proc := side.proc.fillRequestParam cfg call }
  if side.proc.receives call then side.receive cfg call .recvStream result
  else side.send cfg call false result

def sendRecvTag (cfg : Config) (side : Side) (call : Call) (result : StatusPtr) :
    Option Side :=
  let side := { side with proc := side.proc.fillRequestParam cfg call }
  if side.proc.receives call then side.receive cfg call .recvTag result
  else side.send cfg call false result

/-- `send_recv_am` up to its wait loop on the receiving side. -/
def sendRecvAm (cfg : Config) (side : Side) (call : Call) (result : StatusPtr) (rndv : Bool) :
    Option Side :=
  let side := { side with proc := side.proc.fillRequestParam cfg call }
  if side.proc.receives call then
    some { side with
      proc := { side.proc with
        amDataDesc := { side.proc.amDataDesc with recvBuf := some side.proc.serial }
        pc := .amWait call } }
  else side.send cfg call rndv result

def clientServerCommunication (cfg : Config) (side : Side) (call : Call) (result : StatusPtr)
    (rndv : Bool) : Option Side :=
  match cfg.sendRecvType with
  | .stream => side.sendRecvStream cfg call result
  | .tag => side.sendRecvTag cfg call result
  | .am => side.sendRecvAm cfg call result rndv

/-- `send_recv_am` behind its wait loop. The request of `ucp_am_recv_data_nbx`
does not complete in place, and an eager message needs no request. -/
def afterAmWait (cfg : Config) (side : Side) (call : Call) (result : StatusPtr) : Option Side :=
  let proc := { side.proc with last := side.proc.last + 1 }
  if proc.amDataDesc.isRndv then
    match proc.amDataDesc.desc, result with
    | some desc, .request =>
        some { side with
          proc := { proc with
            descTaken := true
            pc := .requestWait call
            request := some (.recvAm desc) } }
    | some _, .error _ =>
        some { side with proc := { proc with descTaken := true }.finish cfg call (-1) }
    | _, _ => none
  else some { side with proc := proc.finish cfg call 0 }

/-- The callback of the request the process waits for. A rendezvous send
succeeds when the receiver has fetched the data. -/
def completeRequest (cfg : Config) (side : Side) (request : Request) :
    UcsStatus → Option Side
  | .error code => some { side with proc := { side.proc with ctx := some (.error code) } }
  | .ok =>
      match request with
      | .send index =>
          if ∀ message, side.outgoing.log[index]? = some message → message.rndv = true →
              index ∈ side.outgoing.fetched then
            some { side with proc := { side.proc with ctx := some .ok } }
          else none
      | _ =>
          (side.deliver cfg request).map fun side =>
            { side with proc := { side.proc with ctx := some .ok } }

/-- UCX hands the next active message to the worker's handler, if it has one. -/
def arrive (cfg : Config) (side : Side) : Option Side :=
  side.incoming.log[side.incoming.next]?.map fun message =>
    { side with
      incoming := { side.incoming with next := side.incoming.next + 1 }
      proc :=
        if side.proc.handler then side.proc.ucpAmDataCb cfg side.incoming.next message
        else { side.proc with discarded := side.incoming.next :: side.proc.discarded } }

def leave (cfg : Config) (side : Side) (result : StatusPtr) : Option Side :=
  match side.proc.pc with
  | .amWait call => side.afterAmWait cfg call result
  | .requestWait call =>
      match side.proc.ctx with
      | some .ok => some { side with proc := side.proc.finish cfg call 0 }
      | some (.error _) => some { side with proc := side.proc.finish cfg call (-1) }
      | none => none
  | .waitClose => some { side with proc := { side.proc with pc := .returned 0 } }
  | _ => none

def step (cfg : Config) (side : Side) : Step → Option Side
  | .communicate result rndv =>
      match side.proc.pc with
      | .call call => side.clientServerCommunication cfg call result rndv
      | _ => none
  | .outOfMemory =>
      match side.proc.pc with
      | .call call => some { side with proc := side.proc.finish cfg call (-1) }
      | _ => none
  | .poll =>
      if side.proc.inProgress = false ∧ side.proc.waiting = true then
        some { side with proc := { side.proc with inProgress := true } }
      else none
  | .complete status =>
      match side.proc.request with
      | some request =>
          if side.proc.inProgress = true ∧ side.proc.ctx = none then
            side.completeRequest cfg request status
          else none
      | none => none
  | .arrive =>
      if side.proc.inProgress = true ∧ cfg.sendRecvType = .am then side.arrive cfg else none
  | .peerError =>
      if side.proc.inProgress = true then
        some { side with proc := { side.proc with connectionClosed := true } }
      else none
  | .progressed =>
      if side.proc.inProgress = true then
        some { side with proc := { side.proc with inProgress := false } }
      else none
  | .leave result =>
      if side.proc.inProgress = false ∧ side.proc.waiting = false then side.leave cfg result
      else none
  | .register status =>
      if side.proc.pc = .register then
        match status with
        | .ok => some { side with proc := { side.proc with handler := true, pc := .call .fin } }
        | .error _ => some { side with proc := { side.proc with pc := .returned (-1) } }
      else none

end Side

/-- The server with the client it works with, and how many have connected. -/
structure State where
  server : Proc
  client : Proc
  toServer : Channel
  toClient : Channel
  clients : Nat
  -- history
  base : Nat  -- how many messages the earlier clients had sent
  past : List Proc

/-- To `connect`, the server accepts the next client. -/
inductive Action where
  | connect
  | server (step : Step)
  | client (step : Step)
  deriving DecidableEq, Repr

def Proc.fresh (isServer : Bool) (handler : Bool) (client : Nat) : Proc where
  isServer := isServer
  client := client
  pc := .idle
  inProgress := false
  serial := 0
  iov := []
  request := none
  ctx := none
  amDataDesc := ⟨0, false, none, none⟩
  last := 0
  handler := handler
  connectionClosed := true
  descTaken := false
  finished := []
  stray := []
  overwritten := []
  discarded := []

namespace State

/-- `run_server` has registered the handler if the type is AM, and waits. -/
def initial (cfg : Config) : State where
  server := .fresh true (decide (cfg.sendRecvType = .am)) 0
  client := .fresh false false 0
  toServer := .empty
  toClient := .empty
  clients := 0
  base := 0
  past := []

def serverSide (state : State) : Side :=
  ⟨state.server, state.toServer, state.toClient⟩

def clientSide (state : State) : Side :=
  ⟨state.client, state.toClient, state.toServer⟩

def withServer (state : State) (side : Side) : State :=
  { state with server := side.proc, toServer := side.incoming, toClient := side.outgoing }

def withClient (state : State) (side : Side) : State :=
  { state with client := side.proc, toClient := side.incoming, toServer := side.outgoing }

/-- The client is a new process on a new connection; the server keeps its
worker and its static variables. -/
def connect (cfg : Config) (state : State) : State where
  server := { state.server with client := state.clients }.clientServerDoWork cfg
  client := (Proc.fresh false false state.clients).clientServerDoWork cfg
  toServer := state.toServer
  toClient := .empty
  clients := state.clients + 1
  base := state.toServer.log.length
  past := state.client :: state.past

end State

def step (cfg : Config) (state : State) : Action → Option State
  | .connect =>
      if state.server.inProgress = false ∧
          (state.server.pc = .idle ∨ state.server.pc = .returned 0) then
        some (state.connect cfg)
      else none
  | .server action => (state.serverSide.step cfg action).map state.withServer
  | .client action => (state.clientSide.step cfg action).map state.withClient

end UcxPlayground.ClientServer
