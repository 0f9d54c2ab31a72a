import UcxPlayground.Bytes.Representation
import UcxPlayground.HelloWorld.Options
import UcxPlayground.Ucx

/-!
# A process of `ucp_hello_world`

`main` with `run_ucx_client`, `run_ucx_server` and `barrier`, one call at a time.
Every call may return whatever it can return, and a loop that goes round without
effect is no step. One `int`, `ret`, carries byte counts and results from call to
call, and is what `main` returns.
-/

set_option autoImplicit false

namespace UcxPlayground.HelloWorld

open Bytes

inductive Role where
  | client
  | server
  deriving DecidableEq, Repr

/-- The client is started with the name of a server. -/
structure Options where
  role : Role
  mode : FailureMode
  deriving DecidableEq, Repr

/-- The calls of `run_ucx_client`. `receiving` is the receive loop, and `closing`
the close of the endpoint before `ret` is returned. -/
inductive ClientPc where
  | creatingEp
  | allocatingMessage
  | posting
  | waitingSend
  | receiving
  | allocatingBuffer
  | waitingReceive
  | allocatingString
  | closing (ret : Int)
  deriving DecidableEq, Repr

/-- The calls of `run_ucx_server`. The loops that wait for `failure_handler` are
at `waitingFailure` after a send that failed, and at `waitingKeepalive`. -/
inductive ServerPc where
  | probing
  | allocatingMessage
  | waitingReceive
  | allocatingAddress
  | creatingEp
  | allocatingText
  | generating
  | posting
  | waitingSend
  | waitingFailure
  | waitingKeepalive
  | flushing
  | closing (ret : Int)
  deriving DecidableEq, Repr

inductive BarrierPc where
  | sending
  | polling
  | receiving
  deriving DecidableEq, Repr

/-- The calls of `main`. From `destroying` on it is behind its cleanup labels. -/
inductive Pc where
  | parsing
  | readingConfig
  | initialising
  | creatingWorker
  | querying
  | connecting
  | receivingLength
  | allocatingAddress
  | receivingAddress
  | sendingLength
  | sendingAddress
  | client (pc : ClientPc)
  | server (pc : ServerPc)
  | barrier (pc : BarrierPc)
  | destroying
  | cleaning
  | returned
  | killed
  deriving DecidableEq, Repr

/-- The transfers that a run consists of. -/
inductive Transfer where
  | length
  | address
  | addressMessage
  | dataMessage
  | barrier
  deriving DecidableEq, Repr

/-- `exchanged` is a transfer of `main` with what the call returned and what it had
to return, `probed` and `posted` are the message that the process found and the
`ucp_tag_send_nbx` of its own, `ran` the return of `run_ucx_client` or
`run_ucx_server`, and `barrierSent` the send of `barrier`. -/
inductive Event where
  | exchanged (transfer : Transfer) (count : Option Nat) (required : Nat)
  | transfer (transfer : Transfer) (succeeded : Bool)
  | probed
  | posted
  | ran (ret : Int)
  | barrierSent
  deriving DecidableEq, Repr

/-- `localAddr` is the address of the worker. The program does not have `written`
and `consumed`, the bytes that the process has sent and received on the socket, and
`log`, what it has done, the latest first. -/
structure Process where
  pc : Pc
  ret : Int
  localAddr : List Byte
  peerAddrLen : Nat
  peerAddr : List Byte
  written : List Byte
  consumed : List Byte
  log : List Event
  deriving DecidableEq, Repr

/-- What a call returned: for `recv` the bytes, for `send` their number, `none`
when it failed. `reported` is `failure_handler` having been called. -/
inductive Action where
  | status (status : UcsStatus)
  | queried (address : List Byte)
  | connected (succeeded : Bool)
  | allocated (succeeded : Bool)
  | received (data : Option (List Byte))
  | sent (count : Option Nat)
  | posted
  | message
  | reported
  | ready
  | done
  | killed
  deriving DecidableEq, Repr

/-- What one call of `send` or `recv` transfers at most. -/
def maxTransfer : Nat := 0x7ffff000

/-- No object is larger. -/
def maxObject : Nat := 2 ^ 63

/-- `sizeof(peer_addr_len)` -/
def lengthSize : Nat := 8

/-- `sizeof(dummy)` -/
def tokenSize : Nat := 4

/-- The `ssize_t` that `send` and `recv` return. -/
def ssize : Option Nat → Int
  | none => -1
  | some count => count

namespace Process

def initial : Process where
  pc := .parsing
  ret := -1
  localAddr := []
  peerAddrLen := 0
  peerAddr := []
  written := []
  consumed := []
  log := []

def goTo (process : Process) (pc : Pc) : Process :=
  { process with pc := pc }

def record (process : Process) (event : Event) : Process :=
  { process with log := event :: process.log }

/-- To the cleanup labels, where nothing writes `ret` any more. -/
def leave (process : Process) (ret : Int) : Process :=
  { process with pc := .destroying, ret := ret }

/-- `run_ucx_client` or `run_ucx_server` returns to `main`. -/
def returnFrom (options : Options) (process : Process) (ret : Int) : Process :=
  { process with
    pc := if ret = 0 ∧ options.mode = .none then .barrier .sending else .destroying
    ret := ret
    log := .ran ret :: process.log }

def write (process : Process) (bytes : List Byte) (count : Option Nat) : Process :=
  { process with written := process.written ++ bytes.take (count.getD 0) }

def consume (process : Process) (data : Option (List Byte)) : Process :=
  { process with consumed := process.consumed ++ data.getD [] }

/-- A transfer of `main`, with `CHKERR_JUMP_RETVAL`. -/
def exchange (process : Process) (transfer : Transfer) (count : Option Nat) (required : Nat)
    (next : Pc) : Process :=
  { process with
    pc := if toInt (ssize count) ≠ toInt required then .destroying else next
    ret := toInt (ssize count)
    log := .exchanged transfer count required :: process.log }

end Process

/-- A call for `required` bytes can return this. -/
def Possible (required : Nat) (count : Option Nat) : Prop :=
  ∀ transferred ∈ count, transferred ≤ required ∧ transferred ≤ maxTransfer

instance (required : Nat) (count : Option Nat) : Decidable (Possible required count) :=
  match count with
  | none => .isTrue (by simp [Possible])
  | some transferred =>
      decidable_of_iff (transferred ≤ required ∧ transferred ≤ maxTransfer) (by simp [Possible])

section Calls

variable (options : Options) (process : Process)

def runUcxClient (pc : ClientPc) (action : Action) : Option Process :=
  match pc, action with
  | .creatingEp, .status .ok => some (process.goTo (.client .allocatingMessage))
  | .creatingEp, .status (.error _) => some (process.returnFrom options (-1))
  | .allocatingMessage, .allocated true => some (process.goTo (.client .posting))
  | .allocatingMessage, .allocated false => some (process.goTo (.client (.closing (-1))))
  | .posting, .posted => some ((process.record .posted).goTo (.client .waitingSend))
  | .waitingSend, .status .ok =>
      some ((process.record (.transfer .addressMessage true)).goTo
        (if options.mode = .recv then .killed else .client .receiving))
  | .waitingSend, .status (.error _) =>
      some ((process.record (.transfer .addressMessage false)).goTo (.client (.closing (-1))))
  | .receiving, .message =>
      some ((process.record .probed).goTo
        (if options.mode = .keepalive then .killed else .client .allocatingBuffer))
  -- The endpoint is disconnected, or the wait fails.
  | .receiving, .status (.error _) => some (process.goTo (.client (.closing (-1))))
  | .allocatingBuffer, .allocated true => some (process.goTo (.client .waitingReceive))
  | .allocatingBuffer, .allocated false => some (process.goTo (.client (.closing (-1))))
  | .waitingReceive, .status .ok =>
      some ((process.record (.transfer .dataMessage true)).goTo (.client .allocatingString))
  | .waitingReceive, .status (.error _) =>
      some ((process.record (.transfer .dataMessage false)).goTo (.client (.closing (-1))))
  | .allocatingString, .allocated true => some (process.goTo (.client (.closing 0)))
  | .allocatingString, .allocated false => some (process.goTo (.client (.closing (-1))))
  | .closing ret, .done => some (process.returnFrom options ret)
  | _, _ => none

def runUcxServer (pc : ServerPc) (action : Action) : Option Process :=
  match pc, action with
  | .probing, .message => some ((process.record .probed).goTo (.server .allocatingMessage))
  | .allocatingMessage, .allocated true => some (process.goTo (.server .waitingReceive))
  | .allocatingMessage, .allocated false => some (process.returnFrom options (-1))
  | .waitingReceive, .status .ok =>
      some ((process.record (.transfer .addressMessage true)).goTo
        (if options.mode = .send then .killed else .server .allocatingAddress))
  | .waitingReceive, .status (.error _) =>
      some ((process.record (.transfer .addressMessage false)).returnFrom options (-1))
  | .allocatingAddress, .allocated true => some (process.goTo (.server .creatingEp))
  | .allocatingAddress, .allocated false => some (process.returnFrom options (-1))
  | .creatingEp, .status .ok => some (process.goTo (.server .allocatingText))
  | .creatingEp, .status (.error _) =>
      some (process.returnFrom options (if options.mode ≠ .none then 0 else -1))
  | .allocatingText, .allocated true => some (process.goTo (.server .generating))
  | .allocatingText, .allocated false => some (process.goTo (.server (.closing (-1))))
  -- `generate_test_string`
  | .generating, .allocated true => some (process.goTo (.server .posting))
  | .generating, .allocated false => some (process.goTo (.server (.closing (-1))))
  | .posting, .posted => some ((process.record .posted).goTo (.server .waitingSend))
  | .waitingSend, .status .ok =>
      some ((process.record (.transfer .dataMessage true)).goTo
        (.server (if options.mode = .keepalive then .waitingKeepalive else .flushing)))
  | .waitingSend, .status (.error _) =>
      some ((process.record (.transfer .dataMessage false)).goTo
        (.server (if options.mode ≠ .none then .closing (-1) else .waitingFailure)))
  | .waitingFailure, .reported => some (process.goTo (.server (.closing 0)))
  | .waitingKeepalive, .reported => some (process.goTo (.server .flushing))
  | .flushing, .status _ => some (process.goTo (.server (.closing 0)))
  | .closing ret, .done => some (process.returnFrom options ret)
  | _, _ => none

/-- `barrier`, and what `main` does with its result. -/
def barrier (pc : BarrierPc) (action : Action) : Option Process :=
  match pc, action with
  | .sending, .sent none =>
      some ((process.record (.transfer .barrier false)).leave (-1))
  | .sending, .sent (some count) =>
      if Possible tokenSize (some count) then
        some (((process.write (bytesOf tokenSize 0) (some count)).record .barrierSent).goTo
          (.barrier .polling))
      else none
  | .polling, .ready => some (process.goTo (.barrier .receiving))
  | .receiving, .received data =>
      if Possible tokenSize (data.map List.length) then
        let received := decide (data.map List.length = some tokenSize)
        some (((process.consume data).record (.transfer .barrier received)).leave
          (if received then 0 else 1))
      else none
  | _, _ => none

def main (action : Action) : Option Process :=
  match process.pc, action with
  | .parsing, .status .ok => some (process.goTo .readingConfig)
  | .parsing, .status (.error _) => some (process.goTo .returned)
  | .readingConfig, .status .ok => some (process.goTo .initialising)
  | .readingConfig, .status (.error _) => some (process.goTo .returned)
  | .initialising, .status .ok => some (process.goTo .creatingWorker)
  | .initialising, .status (.error _) => some (process.goTo .returned)
  | .creatingWorker, .status .ok => some (process.goTo .querying)
  | .creatingWorker, .status (.error _) => some (process.goTo .cleaning)
  | .querying, .queried address =>
      if address.length < maxObject then
        some { process with pc := .connecting, localAddr := address }
      else none
  | .querying, .status (.error _) => some (process.goTo .destroying)
  | .connecting, .connected true =>
      match options.role with
      | .client => some (process.goTo .receivingLength)
      | .server => some (process.goTo .sendingLength)
  | .connecting, .connected false => some (process.goTo .destroying)
  | .receivingLength, .received data =>
      if Possible lengthSize (data.map List.length) then
        some (({ process with peerAddrLen := ofBytes (data.getD []) }.consume data).exchange .length
          (data.map List.length) lengthSize .allocatingAddress)
      else none
  | .allocatingAddress, .allocated true => some (process.goTo .receivingAddress)
  | .allocatingAddress, .allocated false => some (process.goTo .destroying)
  | .receivingAddress, .received data =>
      if Possible process.peerAddrLen (data.map List.length) then
        some (({ process with peerAddr := data.getD [] }.consume data).exchange .address
          (data.map List.length) process.peerAddrLen (.client .creatingEp))
      else none
  | .sendingLength, .sent count =>
      if Possible lengthSize count then
        some ((process.write (bytesOf lengthSize process.localAddr.length) count).exchange .length
          count lengthSize .sendingAddress)
      else none
  | .sendingAddress, .sent count =>
      if Possible process.localAddr.length count then
        some ((process.write process.localAddr count).exchange .address count
          process.localAddr.length (.server .probing))
      else none
  | .destroying, .done => some (process.goTo .cleaning)
  | .cleaning, .done => some (process.goTo .returned)
  | _, _ => none

/-- The process may be killed at any time before it has returned. -/
def step (action : Action) : Option Process :=
  match process.pc, action with
  | .returned, _ => none
  | .killed, _ => none
  | _, .killed => some (process.goTo .killed)
  | .client pc, action => runUcxClient options process pc action
  | .server pc, action => runUcxServer options process pc action
  | .barrier pc, action => barrier process pc action
  | _, action => main options process action

end Calls

end UcxPlayground.HelloWorld
