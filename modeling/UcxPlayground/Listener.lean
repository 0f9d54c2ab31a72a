import UcxPlayground.Async.Data

/-!
# Connection requests at the listener

`UcpListener` of `src/ucp_listener.hpp` with the `listener_callback` of
`src/ucp_listener.cpp`. UCX may call the callback at any time, also while a
coroutine that an earlier request resumed is still running. The callback passes
no `full_callback`, so a request that finds the event signalled is dropped.
-/

set_option autoImplicit false

namespace UcxPlayground.Listener

open Transition

/-- A `ucp_conn_request_h`. The program only has `handle`; `arrival` counts the
requests, so that one is told from a later one with the same handle. -/
structure ConnRequest where
  handle : Nat
  arrival : Nat
  deriving DecidableEq, Repr

/-- What events carry: the listener's carries requests, the others anything. -/
inductive Value (Payload : Type) where
  | connRequest (request : ConnRequest)
  | payload (payload : Payload)
  deriving DecidableEq, Repr

structure UcpListener (Event : Type) where
  task : Event

/-- A copy of `task`, which shares the event. -/
def UcpListener.accept {Event : Type} (listener : UcpListener Event) : Event :=
  listener.task

structure State (Event Payload Tag : Type) where
  runtime : Async.State Event (Value Payload) Tag
  arrived : List ConnRequest

inductive Action (Event Payload Tag : Type) where
  | connRequest (handle : Nat)
  | code (action : Async.Action Event (Value Payload) Tag)
  deriving DecidableEq, Repr

variable {Event Payload Tag : Type}

/-- A request that is safe in the listener's slot: still to be awaited, or
returned already. -/
def Safe (task : Event) (slot : Async.Slot Event (Value Payload) Tag)
    (request : ConnRequest) : Prop :=
  (slot.event.signaled = true ∧ slot.event.data = some (.connRequest request) ∧
      slot.delivering = false) ∨
    ∃ observation ∈ slot.history, observation.Returns task (.connRequest request)

section Slots

variable {task : Event} {action : Async.Action Event (Value Payload) Tag}
  {slot next : Async.Slot Event (Value Payload) Tag} {request : ConnRequest}

theorem Safe.step (safe : Safe task slot request)
    (move : Async.SlotMove task action slot next) : Safe task next request := by
  cases move with
  | unchanged => exact safe
  | refused => exact safe.imp_right fun ⟨observation, member, returns⟩ =>
      ⟨observation, List.mem_cons_of_mem _ member, returns⟩
  | stored clear =>
      rcases safe with ⟨signaled, _⟩ | ⟨observation, member, returns⟩
      · simp [clear] at signaled
      · exact .inr ⟨observation, List.mem_cons_of_mem _ member, returns⟩
  | delivered clear =>
      rcases safe with ⟨signaled, _⟩ | ⟨observation, member, returns⟩
      · simp [clear] at signaled
      · exact .inr ⟨observation, by simp [member], returns⟩
  | passed => exact safe.imp_right fun ⟨observation, member, returns⟩ =>
      ⟨observation, List.mem_cons_of_mem _ member, returns⟩
  | suspended clear =>
      rcases safe with ⟨signaled, _⟩ | ⟨observation, member, returns⟩
      · simp [clear] at signaled
      · exact .inr ⟨observation, List.mem_cons_of_mem _ member, returns⟩
  | left _ _ delivering =>
      rcases safe with ⟨_, _, still⟩ | returned
      · simp [delivering] at still
      · exact .inr returned

theorem safe_of_arrival {fullCallback : Option Tag}
    (move : Async.SlotMove task (.setOr task (.connRequest request) fullCallback) slot next)
    (free : slot.event.signaled = false) : Safe task next request := by
  cases move with
  | unchanged other => exact False.elim (other _ _ rfl)
  | refused signaled => simp [free] at signaled
  | stored => exact .inl ⟨rfl, rfl, rfl⟩
  | delivered => exact .inr ⟨_, List.mem_cons_self, rfl, rfl⟩
  | left other => exact False.elim (other _ _ rfl)

theorem accepted_of_move {serial : Nat} {value : Value Payload}
    (move : Async.SlotMove task action slot next)
    (accepted : .accepted task serial value ∈ next.history) :
    .accepted task serial value ∈ slot.history ∨
      (slot.event.signaled = false ∧ ∃ fullCallback, action = .setOr task value fullCallback) := by
  cases move with
  | unchanged | left => exact .inl accepted
  | refused | passed | suspended => exact .inl (by simpa using accepted)
  | @stored _ stored fullCallback clear =>
      rcases List.mem_cons.mp accepted with first | earlier
      · cases first
        exact .inr ⟨clear, fullCallback, rfl⟩
      · exact .inl earlier
  | @delivered _ stored fullCallback _ clear =>
      simp only [List.mem_cons, reduceCtorEq, false_or] at accepted
      rcases accepted with first | earlier
      · cases first
        exact .inr ⟨clear, fullCallback, rfl⟩
      · exact .inl earlier

theorem refused_of_move {value : Value Payload} {fullCallback : Option Tag}
    (move : Async.SlotMove task action slot next)
    (refused : .refused task value fullCallback ∈ next.history) :
    .refused task value fullCallback ∈ slot.history ∨
      action = .setOr task value fullCallback := by
  cases move with
  | unchanged | left => exact .inl refused
  | stored | delivered | passed | suspended => exact .inl (by simpa using refused)
  | refused =>
      rcases List.mem_cons.mp refused with first | earlier
      · cases first
        exact .inr rfl
      · exact .inl earlier

end Slots

section Model

variable [DecidableEq Event]

def listenerCallback (runtime : Async.State Event (Value Payload) Tag) (request : ConnRequest)
    (task : Event) : Async.State Event (Value Payload) Tag :=
  Async.setOr runtime task (.connRequest request) none

def State.initial : State Event Payload Tag where
  runtime := .initial
  arrived := []

/-- The code around the listener is arbitrary, except that only the callback
signals the listener's event. -/
def step (listener : UcpListener Event) (state : State Event Payload Tag) :
    Action Event Payload Tag → Option (State Event Payload Tag)
  | .connRequest handle =>
      let request := ⟨handle, state.arrived.length⟩
      some {
        runtime := listenerCallback state.runtime request listener.task
        arrived := request :: state.arrived }
  | .code (.setOr event value fullCallback) =>
      if event = listener.task then none
      else some { state with runtime := Async.setOr state.runtime event value fullCallback }
  | .code action =>
      (Async.step state.runtime action).map (fun runtime => { state with runtime := runtime })

inductive Move (listener : UcpListener Event) (state : State Event Payload Tag) :
    Action Event Payload Tag → State Event Payload Tag → Prop where
  | arrived {handle runtime} :
      Async.step state.runtime
        (.setOr listener.task (.connRequest ⟨handle, state.arrived.length⟩) none) = some runtime →
      Move listener state (.connRequest handle)
        { runtime := runtime, arrived := ⟨handle, state.arrived.length⟩ :: state.arrived }
  | executed {action runtime} :
      (∀ value fullCallback, action ≠ .setOr listener.task value fullCallback) →
      Async.step state.runtime action = some runtime →
      Move listener state (.code action) { state with runtime := runtime }

theorem step_move {listener : UcpListener Event} {state next : State Event Payload Tag}
    {action : Action Event Payload Tag} (stepped : step listener state action = some next) :
    Move listener state action next := by
  cases action with
  | connRequest handle =>
      cases stepped
      exact .arrived rfl
  | code action =>
      cases action with
      | setOr event value fullCallback =>
          by_cases same : event = listener.task
          · simp only [step, same, if_true, reduceCtorEq] at stepped
          · simp only [step, same, if_false, Option.some.injEq] at stepped
            subst next
            exact .executed (by simp [same]) rfl
      | coAwait | start | finish | call | ret | note =>
          simp only [step] at stepped
          obtain ⟨runtime, executed, rfl⟩ := Option.map_eq_some_iff.mp stepped
          exact .executed (by simp) executed

section Requests

variable (listener : UcpListener Event)

def Pending (state : State Event Payload Tag) (request : ConnRequest) : Prop :=
  (state.runtime.events listener.task).signaled = true ∧
    (state.runtime.events listener.task).data = some (.connRequest request)

def Returned (state : State Event Payload Tag) (request : ConnRequest) : Prop :=
  ∃ observation ∈ state.runtime.trace, observation.Returns listener.accept (.connRequest request)

/-- The request was handed to a `full_callback`, the only way to turn one down. -/
def Rejected (state : State Event Payload Tag) (request : ConnRequest) : Prop :=
  ∃ observation ∈ state.runtime.trace, observation.HandsBack listener.task (.connRequest request)

def NoneLost (state : State Event Payload Tag) : Prop :=
  ∀ request ∈ state.arrived,
    Pending listener state request ∨ Returned listener state request ∨
      Rejected listener state request

instance [DecidableEq Payload] (state : State Event Payload Tag) :
    Decidable (NoneLost listener state) := by
  unfold NoneLost Pending Returned Rejected
  infer_instance

/-- A request may only arrive while the listener's event is not signalled. -/
def ArrivesAtFreeSlot (state : State Event Payload Tag) : Action Event Payload Tag → Prop
  | .connRequest _ => (state.runtime.events listener.task).signaled = false
  | .code _ => True

instance (state : State Event Payload Tag) (action : Action Event Payload Tag) :
    Decidable (ArrivesAtFreeSlot listener state action) := by
  unfold ArrivesAtFreeSlot
  split <;> infer_instance

/-- What every run keeps: the event accepted only requests that arrived, and
none was handed to a callback. -/
structure Ledger (state : State Event Payload Tag) : Prop where
  wellFormed : Async.WellFormed state.runtime
  loaded : (state.runtime.slot listener.task).Loaded listener.task
  numbered : ∀ request ∈ state.arrived, request.arrival < state.arrived.length
  known : ∀ {serial request}, .accepted listener.task serial (.connRequest request) ∈
    (state.runtime.slot listener.task).history → request ∈ state.arrived
  dropped : ∀ {value fullCallback}, .refused listener.task value fullCallback ∈
    (state.runtime.slot listener.task).history → fullCallback = none

def Missed (state : State Event Payload Tag) (request : ConnRequest) : Prop :=
  ∀ serial, .accepted listener.task serial (.connRequest request) ∉
    (state.runtime.slot listener.task).history

end Requests

section Runs

variable {listener : UcpListener Event} {state next : State Event Payload Tag}
  {action : Action Event Payload Tag}

theorem Ledger.initial (listener : UcpListener Event) :
    Ledger listener (State.initial : State Event Payload Tag) where
  wellFormed := .initial
  loaded := .initial listener.task
  numbered request member := by simp [State.initial] at member
  known member := by simp [State.initial, Async.State.initial, Async.historyOf] at member
  dropped member := by simp [State.initial, Async.State.initial, Async.historyOf] at member

theorem Ledger.step (ledger : Ledger listener state)
    (stepped : Listener.step listener state action = some next) : Ledger listener next := by
  cases step_move stepped with
  | @arrived handle runtime executed =>
      have move := Async.step_slotMove ledger.wellFormed executed listener.task
      refine ⟨ledger.wellFormed.step executed, ledger.loaded.step move, ?_, ?_, ?_⟩
      · intro request member
        rcases List.mem_cons.mp member with rfl | earlier
        · simp
        · simpa using Nat.lt_succ_of_lt (ledger.numbered request earlier)
      · intro serial request accepted
        rcases accepted_of_move move accepted with earlier | ⟨_, _, same⟩
        · exact List.mem_cons_of_mem _ (ledger.known earlier)
        · cases same
          exact List.mem_cons_self
      · intro value fullCallback refused
        rcases refused_of_move move refused with earlier | same
        · exact ledger.dropped earlier
        · cases same
          rfl
  | @executed action runtime other executed =>
      have move := Async.step_slotMove ledger.wellFormed executed listener.task
      refine ⟨ledger.wellFormed.step executed, ledger.loaded.step move, ledger.numbered, ?_, ?_⟩
      · intro serial request accepted
        rcases accepted_of_move move accepted with earlier | ⟨_, fullCallback, same⟩
        · exact ledger.known earlier
        · exact False.elim (other _ fullCallback same)
      · intro value fullCallback refused
        rcases refused_of_move move refused with earlier | same
        · exact ledger.dropped earlier
        · exact False.elim (other value fullCallback same)

theorem safe_step (ledger : Ledger listener state)
    (safe : ∀ request ∈ state.arrived,
      Safe listener.task (state.runtime.slot listener.task) request)
    (free : ArrivesAtFreeSlot listener state action)
    (stepped : Listener.step listener state action = some next) :
    ∀ request ∈ next.arrived, Safe listener.task (next.runtime.slot listener.task) request := by
  cases step_move stepped with
  | @arrived handle runtime executed =>
      have move := Async.step_slotMove ledger.wellFormed executed listener.task
      intro request member
      rcases List.mem_cons.mp member with rfl | earlier
      · exact safe_of_arrival move free
      · exact (safe request earlier).step move
  | executed _ executed =>
      have move := Async.step_slotMove ledger.wellFormed executed listener.task
      exact fun request member => (safe request member).step move

theorem missed_of_taken (ledger : Ledger listener state)
    (taken : ¬ ArrivesAtFreeSlot listener state action)
    (stepped : Listener.step listener state action = some next) :
    ∃ request ∈ next.arrived, Missed listener next request := by
  cases step_move stepped with
  | @arrived handle runtime executed =>
      have move := Async.step_slotMove ledger.wellFormed executed listener.task
      refine ⟨_, List.mem_cons_self, fun serial accepted => ?_⟩
      rcases accepted_of_move move accepted with earlier | ⟨clear, _⟩
      · exact Nat.lt_irrefl _ (ledger.numbered _ (ledger.known earlier))
      · exact taken clear
  | executed => exact False.elim (taken trivial)

theorem missed_step (ledger : Ledger listener state)
    (missed : ∃ request ∈ state.arrived, Missed listener state request)
    (stepped : Listener.step listener state action = some next) :
    ∃ request ∈ next.arrived, Missed listener next request := by
  obtain ⟨request, member, missed⟩ := missed
  cases step_move stepped with
  | @arrived handle runtime executed =>
      have move := Async.step_slotMove ledger.wellFormed executed listener.task
      refine ⟨request, List.mem_cons_of_mem _ member, fun serial accepted => ?_⟩
      rcases accepted_of_move move accepted with earlier | ⟨_, _, same⟩
      · exact missed serial earlier
      · cases same
        exact Nat.lt_irrefl _ (ledger.numbered _ member)
  | @executed action runtime other executed =>
      have move := Async.step_slotMove ledger.wellFormed executed listener.task
      refine ⟨request, member, fun serial accepted => ?_⟩
      rcases accepted_of_move move accepted with earlier | ⟨_, fullCallback, same⟩
      · exact missed serial earlier
      · exact other _ fullCallback same

theorem noneLost_of_safe
    (safe : ∀ request ∈ state.arrived,
      Safe listener.task (state.runtime.slot listener.task) request) :
    NoneLost listener state := by
  intro request member
  rcases safe request member with ⟨signaled, held, _⟩ | ⟨observation, member, returns⟩
  · exact .inl ⟨signaled, held⟩
  · exact .inr (.inl ⟨observation, (Async.mem_historyOf.mp member).1, returns⟩)

theorem not_noneLost_of_missed (ledger : Ledger listener state)
    (missed : ∃ request ∈ state.arrived, Missed listener state request) :
    ¬ NoneLost listener state := by
  obtain ⟨request, member, missed⟩ := missed
  intro noneLost
  rcases noneLost request member with ⟨signaled, held⟩ | ⟨observation, observed, returns⟩ |
    ⟨observation, observed, handsBack⟩
  · obtain ⟨value, same, accepted⟩ := ledger.loaded.held signaled
    cases held.symm.trans same
    exact missed _ accepted
  · obtain ⟨coroutine, serial, immediate, rfl⟩ := observation.returns_cases returns
    obtain ⟨value, same, accepted⟩ :=
      ledger.loaded.returned (Async.mem_historyOf.mpr ⟨observed, rfl⟩)
    cases same
    exact missed _ accepted
  · obtain ⟨callback, rfl⟩ := observation.handsBack_cases handsBack
    cases ledger.dropped (Async.mem_historyOf.mpr ⟨observed, rfl⟩)

/-- Over any run of the listener's program, no request is lost exactly when
each one arrives while the listener's event is not signalled. -/
theorem noneLost_iff_along {actions : List (Action Event Payload Tag)}
    (reached : run (Listener.step listener) .initial actions = some state) :
    NoneLost listener state ↔
      Along (Listener.step listener) (ArrivesAtFreeSlot listener) .initial actions := by
  apply property_iff_along
    (fun state => Ledger listener state ∧ ∀ request ∈ state.arrived,
      Safe listener.task (state.runtime.slot listener.task) request)
    (fun state => Ledger listener state ∧
      ∃ request ∈ state.arrived, Missed listener state request) _ _ _ _ _ _ reached
  · intro state action next held free stepped
    obtain ⟨ledger, safe⟩ := held
    exact ⟨ledger.step stepped, safe_step ledger safe free stepped⟩
  · intro state action next held taken stepped
    obtain ⟨ledger, _⟩ := held
    exact ⟨ledger.step stepped, missed_of_taken ledger taken stepped⟩
  · intro state action next held stepped
    obtain ⟨ledger, missed⟩ := held
    exact ⟨ledger.step stepped, missed_step ledger missed stepped⟩
  · intro state held
    obtain ⟨_, safe⟩ := held
    exact noneLost_of_safe safe
  · intro state held
    obtain ⟨ledger, missed⟩ := held
    exact not_noneLost_of_missed ledger missed
  · exact ⟨.initial listener, fun request member => by simp [State.initial] at member⟩

end Runs

end Model

/-- `start_server` awaits a request on event 0 and then a message on event 1.
Three clients connect, and nobody awaits `accept()` again. -/
def threeClients : List (Action Nat Unit Unit) :=
  [.code (.start 0), .code (.coAwait 0), .connRequest 10, .code (.coAwait 1),
    .connRequest 11, .connRequest 12]

theorem threeClients_lose_request :
    ∃ state, run (step ⟨0⟩) State.initial threeClients = some state ∧ ¬ NoneLost ⟨0⟩ state :=
  ⟨_, rfl, by decide⟩

theorem twoClients_lose_nothing :
    ∃ state, run (step ⟨0⟩) State.initial (threeClients.take 5) = some state ∧
      NoneLost ⟨0⟩ state :=
  ⟨_, rfl, (noneLost_iff_along
    (show run (step ⟨0⟩) .initial (threeClients.take 5) = _ from rfl)).mpr (by decide)⟩

end UcxPlayground.Listener
