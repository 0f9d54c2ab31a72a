import UcxPlayground.Server.Phases

/-!
# Destruction of the endpoint

The receive callback resumes `start_server`, which runs to its end there and
destroys `ep` on the way, before the callback has deleted its event and freed
its request.
-/

set_option autoImplicit false

namespace UcxPlayground.Server

open Transition

variable {state next : State} {action : Action} {actions : List Action}

/-- No call of `~UcpEndPoint` was made inside the receive callback. -/
def State.DestroyedOutside (state : State) : Prop :=
  ∀ below ∈ state.destructions, .recvCallback ∉ below

instance (state : State) : Decidable state.DestroyedOutside :=
  inferInstanceAs (Decidable (∀ below ∈ state.destructions, _))

/-- When `start_server` leaves the scope of `ep`, its receive has not completed
with `UCS_OK`. -/
def LeavesUnreceived (state : State) (action : Action) : Prop :=
  match state.pc, action with
  | .scopeEnd _, .run _ => state.received = none
  | _, _ => True

instance (state : State) (action : Action) : Decidable (LeavesUnreceived state action) := by
  unfold LeavesUnreceived
  split <;> infer_instance

/-- As long as the process lives, it is in one of the phases. -/
def Live (state : State) : Prop :=
  state.ended = none → Phase state

theorem running_of_step (stepped : step state action = some next) : state.ended = none := by
  cases ended : state.ended with
  | none => rfl
  | some how => simp [step, ended] at stepped

theorem Effect.live (effect : Effect state action next) : Live next := by
  cases effect with
  | ends ended => exact fun running => absurd running ended
  | waits _ phase | advances phase | throws phase | posts phase | completes phase
    | destroys phase | finishes phase => exact fun _ => phase

theorem Live.effect (live : Live state) (stepped : step state action = some next) :
    Effect state action next :=
  have running := running_of_step stepped
  (live running).effect running stepped

theorem DestroyedOutside.step (live : Live state) (outside : state.DestroyedOutside)
    (condition : LeavesUnreceived state action) (stepped : step state action = some next) :
    next.DestroyedOutside := by
  have same (unchanged : next.destructions = state.destructions) : next.DestroyedOutside := by
    unfold State.DestroyedOutside
    rwa [unchanged]
  cases live.effect stepped with
  | ends _ _ destructions | waits _ _ _ _ _ _ destructions | advances _ _ _ _ destructions
    | throws _ _ _ _ destructions | posts _ _ _ _ _ _ destructions | completes _ _ _ _ destructions
    | finishes _ _ _ _ _ destructions => exact same destructions
  | @destroys threw callback _ _ at' stack inCallback _ _ _ destructions =>
      have unreceived : state.received = none := by
        simpa [LeavesUnreceived, at'] using condition
      have other : .recvCallback ≠ callback := fun is => inCallback.mp is.symm unreceived
      intro below member
      rw [destructions, List.mem_cons] at member
      rcases member with rfl | earlier
      · simp [inside, other]
      · exact outside below earlier

/-- With its receive completed, the coroutine leaves the scope of `ep` inside the
receive callback. -/
theorem Phase.inside_callback (phase : Phase state) {threw : Bool}
    (at' : state.pc = .scopeEnd threw) (received : state.received ≠ none) :
    .recvCallback ∈ state.stack := by
  cases phase with
  | leaving _ stack => rcases stack with stack | stack | stack <;> simp [stack, inside]
  | failing _ _ _ _ unreceived => exact absurd unreceived received
  | serving other =>
      rw [at'] at other
      cases other
  | received other =>
      rw [at'] at other
      cases other
  | uncalled other | called other | accepting other | suspending other | receiving other
    | failed other | left other | finished other => simp [at'] at other

theorem destroys_of_scopeEnd {threw : Bool} {outcome : Outcome}
    (at' : state.pc = .scopeEnd threw) (stepped : step state (.run outcome) = some next) :
    next = state.destroyEp := by
  have running := running_of_step stepped
  cases stacked : state.stack with
  | nil => simp only [step, running, stacked, reduceCtorEq] at stepped
  | cons top below =>
      cases top <;> simp only [step, running, stacked, reduceCtorEq] at stepped
      case startServer =>
        cases outcome <;> simp only [State.runStartServer, at', reduceCtorEq] at stepped
        exact (Option.some.inj stepped).symm

theorem destroyed_inside (live : Live state) (condition : ¬ LeavesUnreceived state action)
    (stepped : step state action = some next) : ¬ next.DestroyedOutside := by
  unfold LeavesUnreceived at condition
  split at condition
  · rename_i threw outcome at'
    have phase := live (running_of_step stepped)
    obtain rfl := destroys_of_scopeEnd at' stepped
    intro outside
    exact outside state.stack List.mem_cons_self (phase.inside_callback at' condition)
  · exact absurd trivial condition

theorem destructions_mono (live : Live state) (violated : ¬ state.DestroyedOutside)
    (stepped : step state action = some next) : ¬ next.DestroyedOutside := by
  intro outside
  refine violated fun below member => outside below ?_
  cases live.effect stepped with
  | destroys _ _ _ _ _ _ _ destructions =>
      rw [destructions]
      exact List.mem_cons_of_mem _ member
  | ends _ _ destructions | waits _ _ _ _ _ _ destructions | advances _ _ _ _ destructions
    | throws _ _ _ _ destructions | posts _ _ _ _ _ _ destructions | completes _ _ _ _ destructions
    | finishes _ _ _ _ _ destructions => rwa [destructions]

/-- The endpoint is destroyed inside its own receive callback exactly when
`start_server` leaves its scope with the receive completed. -/
theorem destroyedOutside_iff_along (reached : run step .initial actions = some state) :
    state.DestroyedOutside ↔ Along step LeavesUnreceived .initial actions :=
  property_iff_along (fun state => Live state ∧ state.DestroyedOutside)
    (fun state => Live state ∧ ¬ state.DestroyedOutside)
    (fun _ _ _ good condition stepped =>
      ⟨(good.1.effect stepped).live, DestroyedOutside.step good.1 good.2 condition stepped⟩)
    (fun _ _ _ good condition stepped =>
      ⟨(good.1.effect stepped).live, destroyed_inside good.1 condition stepped⟩)
    (fun _ _ _ bad stepped =>
      ⟨(bad.1.effect stepped).live, destructions_mono bad.1 bad.2 stepped⟩)
    (fun _ good => good.2) (fun _ bad => bad.2)
    ⟨fun _ => Phase.initial, by simp [State.DestroyedOutside, State.initial]⟩ reached

/-- A client connects, and printing fails once the endpoint exists. -/
def failedPrint : List Action :=
  [.setup true, .run .done, .poll, .connRequest 1, .run (.status .ok), .run .done,
    .run (.status .ok), .run .throws, .run .done, .poll, .connRequest 2, .progressReturn,
    .epDestroyed, .callbackReturn, .progressReturn]

theorem failedPrint_destroyed_outside :
    ∃ state, run step .initial failedPrint = some state ∧ state.destructions ≠ [] ∧
      state.DestroyedOutside :=
  ⟨_, rfl, by decide, (@destroyedOutside_iff_along _ failedPrint rfl).mpr (by decide)⟩

/-- A client connects and its message arrives: what the program is for. -/
def servedClient : List Action :=
  [.setup true, .run .done, .poll, .connRequest 1, .run (.status .ok), .run .done,
    .run (.status .ok), .run .done, .run (.posted .request), .run .done, .callbackReturn,
    .recvComplete .ok 8, .run .done, .run .done, .run .done, .epDestroyed, .callbackReturn,
    .progressReturn, .poll]

theorem servedClient_destroyed_inside :
    ∃ state, run step .initial servedClient = some state ∧ state.ended = some .returned ∧
      ¬ state.DestroyedOutside :=
  ⟨_, rfl, rfl, by decide⟩

end UcxPlayground.Server
