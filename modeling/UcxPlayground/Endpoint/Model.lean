import UcxPlayground.Async.Invariants
import UcxPlayground.Ucx

/-!
# Stream operations of an endpoint

`send_stream` and `recv_stream` of `src/ucp_endpoint.hpp`, each with the
callback it hands to UCX. UCX is the environment: it chooses what a post
returns, and when and with which status it completes a pending operation. A
callback is split at its `set_or`, which may run arbitrary coroutine code.
-/

set_option autoImplicit false

namespace UcxPlayground.Endpoint

open Transition

inductive OpAttr where
  | fieldFlags
  | fieldUserData
  | fieldDatatype
  | fieldCallback
  deriving DecidableEq, Repr

inductive StreamRecvFlag where
  | waitAll
  deriving DecidableEq, Repr

/-- Which member of `param.cb` is set, and with it which function runs. -/
inductive Callback where
  | send
  | recvStream
  deriving DecidableEq, Repr

/-- The `ucp_request_param_t` of a post. `userData` is the event handle. -/
structure RequestParam where
  opAttrMask : List OpAttr
  flags : List StreamRecvFlag
  contig : Nat
  userData : Nat
  cb : Callback
  deriving DecidableEq, Repr

/-- The flags UCX looks at: those of a field that the mask announces. -/
def RequestParam.hasFlag (param : RequestParam) (flag : StreamRecvFlag) : Bool :=
  decide (.fieldFlags ∈ param.opAttrMask) && decide (flag ∈ param.flags)

/-- A `std::span` as UCX sees it. -/
structure Buffer where
  address : Nat
  sizeBytes : Nat
  deriving DecidableEq, Repr

/-- One call of `send_stream` or `recv_stream` and what UCX made of it. Its
position in the list of calls names the call, its event and its request.
`completion` is what the callback was called with. -/
structure Operation where
  param : RequestParam
  buffer : Buffer
  result : StatusPtr
  completion : Option (UcsStatus × Nat)
  returned : Bool
  deriving DecidableEq, Repr

/-- Events: one for each operation, and others of the program. -/
inductive EventId where
  | operation (index : Nat)
  | user (name : Nat)
  deriving DecidableEq, Repr

/-- What the events carry: `void *` for a send, `size_t` for a receive. -/
inductive Value where
  | request (index : Nat)
  | length (bytes : Nat)
  | user (value : Nat)
  deriving DecidableEq, Repr

/-- The native frames of callbacks, and the effects of the program: the message
"send failed", `delete event`, and `ucp_request_free(request)`. -/
inductive Tag where
  | callback (index : Nat)
  | sendFailed (index : Nat) (code : Nat)
  | deleted (index : Nat)
  | released (index : Nat)
  | user (name : Nat)
  deriving DecidableEq, Repr

/-- How the process ended: `exit(1)` in `recv_stream`, or the exception of the
receive callback. -/
inductive Ended where
  | exited (index : Nat) (code : Nat)
  | threw (index : Nat) (code : Nat)
  deriving DecidableEq, Repr

structure State where
  runtime : Async.State EventId Value Tag
  operations : List Operation
  ended : Option Ended

/-- `complete` is the call of a pending operation's callback up to its `set_or`,
`callbackReturn` what follows it. -/
inductive Action where
  | sendStream (buffer : Buffer) (result : StatusPtr)
  | recvStream (buffer : Buffer) (result : StatusPtr)
  | complete (index : Nat) (status : UcsStatus) (length : Nat)
  | callbackReturn
  | code (action : Async.Action EventId Value Tag)
  deriving DecidableEq, Repr

def sendParam (event : Nat) : RequestParam where
  opAttrMask := [.fieldUserData, .fieldDatatype, .fieldCallback]
  flags := []
  contig := 1
  userData := event
  cb := .send

/-- The mask announces flags, but the assignment of
`UCP_STREAM_RECV_FLAG_WAITALL` is commented out and `param` is zeroed. -/
def recvParam (event : Nat) : RequestParam where
  opAttrMask := [.fieldFlags, .fieldUserData, .fieldDatatype, .fieldCallback]
  flags := []
  contig := 1
  userData := event
  cb := .recvStream

namespace State

def initial : State where
  runtime := .initial
  operations := []
  ended := none

def post (state : State) (param : Nat → RequestParam) (buffer : Buffer) (result : StatusPtr) :
    State :=
  { state with
    operations := state.operations ++
      [{ param := param state.operations.length
         buffer := buffer
         result := result
         completion := none
         returned := false }] }

def callback? (state : State) : Option Nat :=
  match state.runtime.stack with
  | .native (.callback index) :: _ => some index
  | _ => none

def Ready (state : State) : Prop :=
  state.ended = none ∧ state.callback? = none

instance (state : State) : Decidable state.Ready :=
  inferInstanceAs (Decidable (_ ∧ _))

def update (state : State) (index : Nat) (operation : Operation)
    (runtime : Async.State EventId Value Tag) : State :=
  { state with runtime := runtime, operations := state.operations.set index operation }

end State

/-- The result of `ucp_stream_send_nbx` is not looked at. -/
def sendStream (state : State) (buffer : Buffer) (result : StatusPtr) : State :=
  state.post sendParam buffer result

def recvStream (state : State) (buffer : Buffer) (result : StatusPtr) : State :=
  let posted := state.post recvParam buffer result
  match result with
  | .error code => { posted with ended := some (.exited state.operations.length code) }
  | _ => posted

/-- A callback up to the point where its `set_or` returns. -/
def callbackHead (index : Nat) (value : Value) : List (Async.Action EventId Value Tag) :=
  [.call (.callback index), .setOr (.operation index) value none]

/-- A callback behind its `set_or`: `delete event; ucp_request_free(request);`. -/
def callbackTail (index : Nat) : List (Async.Action EventId Value Tag) :=
  [.note (.deleted index), .note (.released index), .ret]

/-- The lambda in `param.cb.send`. -/
def sendCallback (state : State) (operation : Operation) (request : Nat) (status : UcsStatus)
    (length : Nat) : Option State :=
  let completed := { operation with completion := some (status, length) }
  match status with
  | .error code =>
      (Async.step state.runtime (.note (.sendFailed operation.param.userData code))).map
        (state.update request { completed with returned := true })
  | .ok =>
      (run Async.step state.runtime
        (callbackHead operation.param.userData (.request request))).map
          (state.update request completed)

/-- The lambda in `param.cb.recv_stream`. -/
def recvCallback (state : State) (operation : Operation) (request : Nat) (status : UcsStatus)
    (length : Nat) : Option State :=
  let completed := { operation with completion := some (status, length) }
  match status with
  | .error code =>
      some {
        state.update request { completed with returned := true } state.runtime with
        ended := some (.threw operation.param.userData code) }
  | .ok =>
      (run Async.step state.runtime
        (callbackHead operation.param.userData (.length length))).map
          (state.update request completed)

/-- What the code outside the callbacks may do: anything but signal the event
of an operation, whose handles only the callbacks signal. -/
def Permitted (state : State) : Async.Action EventId Value Tag → Prop
  | .setOr (.user _) _ none => True
  | .setOr (.user _) _ (some (.user _)) => True
  | .coAwait (.operation index) => index < state.operations.length
  | .coAwait (.user _) => True
  | .start _ => True
  | .finish => True
  | .call (.user _) => True
  | .ret => True
  | .note (.user _) => True
  | _ => False

instance (state : State) (action : Async.Action EventId Value Tag) :
    Decidable (Permitted state action) := by
  unfold Permitted
  split <;> infer_instance

def step (state : State) : Action → Option State
  | .sendStream buffer result =>
      if state.Ready then some (sendStream state buffer result) else none
  | .recvStream buffer result =>
      if state.Ready then some (recvStream state buffer result) else none
  | .complete index status length =>
      match state.operations[index]? with
      | some operation =>
          if state.Ready ∧ operation.result = .request ∧ operation.completion = none then
            match operation.param.cb with
            | .send => sendCallback state operation index status length
            | .recvStream => recvCallback state operation index status length
          else none
      | none => none
  | .callbackReturn =>
      match state.ended, state.callback? with
      | none, some index =>
          match state.operations[index]? with
          | some operation =>
              (run Async.step state.runtime (callbackTail index)).map
                (state.update index { operation with returned := true })
          | none => none
      | _, _ => none
  | .code action =>
      if state.Ready ∧ Permitted state action then
        (Async.step state.runtime action).map (fun runtime => { state with runtime := runtime })
      else none

end UcxPlayground.Endpoint
