import UcxPlayground.Resource.Ledger
import UcxPlayground.Ucx

/-!
# The C++ wrappers of UCX handles

The constructors and destructors of `UcpContext`, `UcpWorker`, `UcpListener` and
`UcpEndPoint` under `src/`, and the programs that nest such objects. A
constructor that throws does not run its own destructor; the destructors of the
objects around it run as the exception leaves their scopes.
-/

set_option autoImplicit false

namespace UcxPlayground.Wrappers

open Resource

inductive Kind where
  | config
  | context
  | worker
  | listener
  | endPoint
  deriving DecidableEq, Repr

/-- The value of a variable, by the order of the acquisition that it came from; `none` is a
value that came from none, such as a null pointer. -/
structure Handle where
  kind : Kind
  serial : Option Nat
  deriving DecidableEq, Repr

/-- The calls of the constructors that can fail. -/
inductive Call where
  | configRead
  | init
  | workerCreate
  | listenerCreate
  | listenerQuery
  | epCreate
  deriving DecidableEq, Repr

/-- What the constructors find: the results of their calls, by number, and what the member
that such a call has to write holds before, which is no handle or one of an earlier object. -/
structure Environment where
  answers : Nat → UcsStatus
  unwritten : Nat → Option Nat

/-- `calls` holds the calls made so far with their results, the latest first. -/
structure State where
  acquisitions : Nat
  calls : List (Call × UcsStatus)
  ledger : Ledger Handle
  deriving DecidableEq, Repr

namespace State

def initial : State where
  acquisitions := 0
  calls := []
  ledger := []

def call (env : Environment) (state : State) (call : Call) : UcsStatus × State :=
  let status := env.answers state.calls.length
  (status, { state with calls := (call, status) :: state.calls })

def release (state : State) (handle : Handle) : State :=
  { state with ledger := .release handle :: state.ledger }

def acquire (state : State) (kind : Kind) : State :=
  { state with
    acquisitions := state.acquisitions + 1
    ledger := .acquire ⟨kind, some state.acquisitions⟩ :: state.ledger }

/-- A call that makes a handle, with the variable it writes, which held `before`. -/
def create (env : Environment) (state : State) (call : Call) (kind : Kind)
    (before : Option Nat) : UcsStatus × Handle × State :=
  match state.call env call with
  | (.ok, next) => (.ok, ⟨kind, some next.acquisitions⟩, next.acquire kind)
  | (.error code, next) => (.error code, ⟨kind, before⟩, next)

/-- A call that writes a member of the object under construction, which nothing has
initialised. -/
def createMember (env : Environment) (state : State) (call : Call) (kind : Kind) :
    UcsStatus × Handle × State :=
  state.create env call kind (env.unwritten state.calls.length)

end State

section Constructors

variable (env : Environment) (state : State)

/-- `UcpContext::UcpContext()`. The result of `ucp_config_read` is not looked at; `config`
is initialised. -/
def ucpContext : Option Handle × State :=
  match state.create env .configRead .config none with
  | (_, config, state) =>
      match state.createMember env .init .context with
      | (.error _, context, state) => (none, state.release context)  -- `cleanup()`
      | (.ok, context, state) => (some context, state.release config)

def ucpWorker : Option Handle × State :=
  match state.createMember env .workerCreate .worker with
  | (.error _, worker, state) => (none, state.release worker)  -- `cleanup()`
  | (.ok, worker, state) => (some worker, state)

end Constructors

inductive Wrapper where
  | context
  | worker
  | listener
  | endPoint
  deriving DecidableEq, Repr

/-- Programs that construct wrappers. `scope` is a block that starts with the
declaration of an object; `attempt` is a block whose exceptions are caught. -/
inductive Program where
  | skip
  | throw
  | seq (first rest : Program)
  | scope (wrapper : Wrapper) (body : Program)
  | attempt (body : Program)
  deriving DecidableEq, Repr

/-- The objects of `main` in `src/server.cpp`, in a block that catches what their
constructors throw. `main` itself has no such block. -/
def serverObjects : Program :=
  .attempt (.scope .context (.scope .worker (.scope .listener .skip)))

end UcxPlayground.Wrappers
