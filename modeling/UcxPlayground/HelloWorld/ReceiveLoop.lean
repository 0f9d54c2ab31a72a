import UcxPlayground.HelloWorld.Options
import UcxPlayground.Transition.Run
import UcxPlayground.Ucx

/-!
# The receive loop of the client

`run_ucx_client` looks at `ep_status`, probes for the message of the server and
progresses the worker, and sleeps when the worker had nothing to do. Events
arrive at any time in between. A client that sleeps has missed nothing, since
nothing was processed after its last look, and the event that wakes it is signalled.
-/

set_option autoImplicit false

namespace UcxPlayground.HelloWorld.ReceiveLoop

open Transition

/-- An event of the worker. Other messages than those with the tag of the program
are not told apart from the rest. -/
inductive Event where
  | message (length : Nat)
  | failure (status : UcsStatus)
  | other
  deriving DecidableEq, Repr

/-- `pending` holds the events that `ucp_worker_progress` has not processed and
`unexpected` the lengths of the messages received but not probed. `epStatus` is
the variable of the program that `failure_handler` writes. -/
structure Worker where
  pending : List Event
  unexpected : List Nat
  epStatus : UcsStatus
  armed : Bool
  readable : Bool
  deriving DecidableEq, Repr

namespace Worker

/-- What `ucp_worker_progress` does for one event. -/
def process (worker : Worker) : Event → Worker
  | .message length => { worker with unexpected := worker.unexpected ++ [length] }
  | .failure status => { worker with epStatus := status }  -- `failure_handler`
  | .other => worker

/-- An event that arrives makes the file descriptor readable when the worker is
armed; otherwise it may or may not. -/
def arrive (worker : Worker) (event : Event) (signals : Bool) : Worker :=
  { worker with
    pending := worker.pending ++ [event]
    readable := worker.readable || worker.armed || signals }

def progress (worker : Worker) (processed rest : List Event) : Worker :=
  { processed.foldl process worker with pending := rest, armed := false }

def arm (worker : Worker) (succeeded readable : Bool) : Worker :=
  { worker with armed := succeeded, readable := readable }

end Worker

/-- Where the loop is. `arming` and `blocked` are inside `ucp_worker_wait` or
`test_poll_wait`, `blocked` where it polls. -/
inductive Pc where
  | checking
  | probing
  | progressing
  | falling
  | gettingFd
  | adding
  | arming
  | blocked
  | received (length : Nat)
  | failed
  deriving DecidableEq, Repr

structure State where
  pc : Pc
  worker : Worker
  deriving DecidableEq, Repr

/-- The result of `ucp_worker_arm`. -/
inductive Armed where
  | ok
  | busy
  | error
  deriving DecidableEq, Repr

/-- `loop` is a step of the loop that no other code takes part in. The others are
events that arrive, and what the calls of the loop do. -/
inductive Action where
  | arrive (event : Event) (signals : Bool)
  | loop
  | progress (result : Nat) (processed rest : List Event)
  | getFd (succeeded : Bool)
  | add (succeeded : Bool)
  | arm (result : Armed) (readable : Bool)
  | poll
  | interrupt
  | pollFails
  deriving DecidableEq, Repr

namespace State

def goTo (state : State) (pc : Pc) : State :=
  { state with pc := pc }

end State

/-- The test of `ep_status`, `ucp_tag_probe_nb`, and the choice of how to sleep. -/
def loop (mode : TestMode) (state : State) : Option State :=
  match state.pc with
  | .checking => some (state.goTo (if state.worker.epStatus = .ok then .probing else .failed))
  | .probing =>
      match state.worker.unexpected with
      | length :: rest => some ⟨.received length, { state.worker with unexpected := rest }⟩
      | [] => some (state.goTo .progressing)
  | .falling =>
      match mode with
      | .probe => some (state.goTo .checking)
      | .wait => some (state.goTo .arming)
      | .eventfd => some (state.goTo .gettingFd)
  | _ => none

/-- `ucp_worker_arm` in both modes; it succeeds only when nothing is pending. -/
def arm (state : State) (result : Armed) (readable : Bool) : Option State :=
  match result with
  | .ok =>
      if state.worker.pending = [] then some ⟨.blocked, state.worker.arm true readable⟩ else none
  | .busy => some ⟨.checking, state.worker.arm false readable⟩
  | .error => some ⟨.failed, state.worker.arm false readable⟩

def step (mode : TestMode) (state : State) (action : Action) : Option State :=
  match state.pc, action with
  | _, .arrive event signals => some { state with worker := state.worker.arrive event signals }
  | _, .loop => loop mode state
  | .progressing, .progress result processed rest =>
      -- The result is zero only when nothing was processed.
      if (processed ++ rest).Perm state.worker.pending ∧ (result = 0 → processed = []) then
        some ⟨if result = 0 then .falling else .checking, state.worker.progress processed rest⟩
      else none
  | .gettingFd, .getFd succeeded => some (state.goTo (if succeeded then .adding else .failed))
  | .adding, .add succeeded => some (state.goTo (if succeeded then .arming else .failed))
  | .arming, .arm result readable => arm state result readable
  | .blocked, .poll => if state.worker.readable then some (state.goTo .checking) else none
  | .blocked, .interrupt => some state
  | .blocked, .pollFails =>
      match mode with
      | .wait => some (state.goTo .failed)
      | _ => some (state.goTo .checking)  -- `ret = UCS_OK` whatever `epoll_wait` returned
  | _, _ => none

/-- The loop is entered with a worker of which nothing is known. -/
def start (worker : Worker) : State :=
  ⟨.checking, worker⟩

/-- A client that sleeps has missed nothing. -/
structure State.Attentive (state : State) : Prop where
  probed : state.pc = .blocked → state.worker.unexpected = []
  signalled : state.pc = .blocked → state.worker.pending ≠ [] → state.worker.readable
  examined : state.pc = .blocked → state.worker.epStatus = .ok

section Invariant

variable {mode : TestMode} {state next : State}

/-- The loop has looked at everything that was processed. -/
structure Worker.Quiet (worker : Worker) : Prop where
  probed : worker.unexpected = []
  examined : worker.epStatus = .ok

theorem Worker.Quiet.arrive {worker : Worker} (quiet : worker.Quiet) (event : Event)
    (signals : Bool) : (worker.arrive event signals).Quiet :=
  ⟨quiet.probed, quiet.examined⟩

theorem Worker.Quiet.arm {worker : Worker} (quiet : worker.Quiet) (succeeded readable : Bool) :
    (worker.arm succeeded readable).Quiet :=
  ⟨quiet.probed, quiet.examined⟩

theorem Worker.Quiet.progress_nothing {worker : Worker} (quiet : worker.Quiet)
    (rest : List Event) : (worker.progress [] rest).Quiet :=
  ⟨quiet.probed, quiet.examined⟩

/-- What is known at each place of the loop. From the progress that returned 0 on
nothing is processed, and from the arming on every arrival is signalled. -/
def Invariant (state : State) : Prop :=
  match state.pc with
  | .checking | .received _ | .failed => True
  | .probing => state.worker.epStatus = .ok
  | .progressing | .falling | .gettingFd | .adding | .arming => state.worker.Quiet
  | .blocked => state.worker.Quiet ∧ state.worker.armed ∧
      (state.worker.pending ≠ [] → state.worker.readable)

theorem Invariant.initial (worker : Worker) : Invariant (start worker) :=
  trivial

theorem Invariant.arrive (invariant : Invariant state) (event : Event) (signals : Bool) :
    Invariant { state with worker := state.worker.arrive event signals } := by
  cases pc : state.pc with
  | checking | received _ | failed => trivial
  | probing =>
      simp only [Invariant, pc] at invariant ⊢
      exact invariant
  | progressing | falling | gettingFd | adding | arming =>
      simp only [Invariant, pc] at invariant ⊢
      exact invariant.arrive event signals
  | blocked =>
      simp only [Invariant, pc] at invariant ⊢
      obtain ⟨quiet, armed, _⟩ := invariant
      exact ⟨quiet.arrive event signals, armed, fun _ => by simp [Worker.arrive, armed]⟩

theorem Invariant.loop (invariant : Invariant state) (looped : loop mode state = some next) :
    Invariant next := by
  cases pc : state.pc <;> simp only [ReceiveLoop.loop, pc, reduceCtorEq] at looped
  case checking =>
    obtain rfl := Option.some.inj looped
    by_cases healthy : state.worker.epStatus = .ok
    · rw [if_pos healthy]
      exact healthy
    · rw [if_neg healthy]
      trivial
  case probing =>
    simp only [Invariant, pc] at invariant
    cases unexpected : state.worker.unexpected with
    | nil =>
        simp only [unexpected] at looped
        obtain rfl := Option.some.inj looped
        exact ⟨unexpected, invariant⟩
    | cons length rest =>
        simp only [unexpected] at looped
        obtain rfl := Option.some.inj looped
        trivial
  case falling =>
    simp only [Invariant, pc] at invariant
    cases mode with
    | probe =>
        obtain rfl := Option.some.inj looped
        trivial
    | wait | eventfd =>
        obtain rfl := Option.some.inj looped
        exact invariant

theorem arm_invariant {result : Armed} {readable : Bool} (quiet : state.worker.Quiet)
    (armed : arm state result readable = some next) : Invariant next := by
  cases result with
  | ok =>
      by_cases idle : state.worker.pending = []
      · simp only [ReceiveLoop.arm, if_pos idle] at armed
        obtain rfl := Option.some.inj armed
        exact ⟨quiet.arm true readable, rfl, fun pending => absurd idle pending⟩
      · simp only [ReceiveLoop.arm, if_neg idle, reduceCtorEq] at armed
  | busy | error =>
      obtain rfl := Option.some.inj armed
      trivial

theorem Invariant.step {action : Action} (invariant : Invariant state)
    (stepped : step mode state action = some next) : Invariant next := by
  cases action with
  | arrive event signals =>
      obtain rfl := Option.some.inj stepped
      exact invariant.arrive event signals
  | loop => exact invariant.loop stepped
  | progress result processed rest =>
      cases pc : state.pc <;> simp only [ReceiveLoop.step, pc, reduceCtorEq] at stepped
      simp only [Invariant, pc] at invariant
      by_cases possible : (processed ++ rest).Perm state.worker.pending ∧
          (result = 0 → processed = [])
      · rw [if_pos possible] at stepped
        obtain rfl := Option.some.inj stepped
        by_cases idle : result = 0
        · rw [if_pos idle, possible.2 idle]
          exact invariant.progress_nothing rest
        · rw [if_neg idle]
          trivial
      · simp only [if_neg possible, reduceCtorEq] at stepped
  | getFd succeeded | add succeeded =>
      cases pc : state.pc <;> simp only [ReceiveLoop.step, pc, reduceCtorEq] at stepped
      simp only [Invariant, pc] at invariant
      obtain rfl := Option.some.inj stepped
      cases succeeded with
      | true => exact invariant
      | false => trivial
  | arm result readable =>
      cases pc : state.pc <;> simp only [ReceiveLoop.step, pc, reduceCtorEq] at stepped
      simp only [Invariant, pc] at invariant
      exact arm_invariant invariant stepped
  | poll =>
      cases pc : state.pc <;> simp only [ReceiveLoop.step, pc, reduceCtorEq] at stepped
      by_cases readable : state.worker.readable = true
      · rw [if_pos readable] at stepped
        obtain rfl := Option.some.inj stepped
        trivial
      · simp only [if_neg readable, reduceCtorEq] at stepped
  | interrupt =>
      cases pc : state.pc <;> simp only [ReceiveLoop.step, pc, reduceCtorEq] at stepped
      obtain rfl := Option.some.inj stepped
      exact invariant
  | pollFails =>
      cases pc : state.pc <;> simp only [ReceiveLoop.step, pc, reduceCtorEq] at stepped
      cases mode with
      | wait | probe | eventfd =>
          obtain rfl := Option.some.inj stepped
          trivial

theorem Invariant.attentive (invariant : Invariant state) : state.Attentive := by
  cases pc : state.pc with
  | blocked =>
      simp only [Invariant, pc] at invariant
      obtain ⟨quiet, _, signalled⟩ := invariant
      exact ⟨fun _ => quiet.probed, fun _ => signalled, fun _ => quiet.examined⟩
  | _ => constructor <;> simp [pc]

end Invariant

/-- The client never sleeps on a message, an event or a failure that it has missed. -/
theorem attentive_of_run {mode : TestMode} {worker : Worker} {actions : List Action} {state : State}
    (reached : run (step mode) (start worker) actions = some state) : state.Attentive :=
  (run_preserves Invariant (fun _ _ _ invariant stepped => invariant.step stepped)
    (Invariant.initial worker) reached).attentive

/-- The client, which found the worker idle, is woken by the message. -/
theorem wokenClient_attentive :
    State.Attentive ⟨.blocked, ⟨[.message 24], [], .ok, true, true⟩⟩ :=
  @attentive_of_run .wait ⟨[], [], .ok, false, false⟩ [.loop, .loop, .progress 0 [] [], .loop,
    .arm .ok false, .arrive (.message 24) false] _ (by decide)

end UcxPlayground.HelloWorld.ReceiveLoop
