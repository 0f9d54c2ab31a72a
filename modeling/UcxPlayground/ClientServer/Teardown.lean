import UcxPlayground.ClientServer.Requests

/-!
# Teardown of the main program

Which objects exist at each statement, and that nothing is left, released twice
or released too early when `main` returns.
-/

set_option autoImplicit false

namespace UcxPlayground.ClientServer.Program

open Resource Transition

/-- The objects of `main` once `init_context` has succeeded, the last one
first. -/
def mainObjects : List Handle := [.ucpWorker, .ucpContext]

def serverObjects : List Handle := .listener :: .ucpDataWorker :: mainObjects

def CloseSite.objects : CloseSite → List Handle
  | .served => serverObjects
  | .errEp => serverObjects
  | .client => mainObjects

/-- The objects that exist when a statement is about to run. -/
def Pc.live (ep : Option Handle) : Pc → List Handle
  | .parseCmd => []
  | .ucpInit => []
  | .initWorker => [.ucpContext]
  | .errCleanup => [.ucpContext]
  | .initDataWorker => mainObjects
  | .registerHandler => .ucpDataWorker :: mainObjects
  | .listenerCreate => .ucpDataWorker :: mainObjects
  | .listenerQuery => serverObjects
  | .listenerDestroy => serverObjects
  | .waitRequest => serverObjects
  | .createEp => serverObjects
  | .serverWork => ep.toList ++ serverObjects
  | .epClose site => ep.toList ++ site.objects
  | .closing site => ep.toList ++ site.objects
  | .resetRequest => serverObjects
  | .errListener => serverObjects
  | .errWorker => .ucpDataWorker :: mainObjects
  | .startClient => mainObjects
  | .clientWork => ep.toList ++ mainObjects
  | .workerDestroy => mainObjects
  | .cleanup => [.ucpContext]
  | .returned => []

/-- The objects other than server endpoints that were not created yet. -/
def Pc.uncreated : Pc → List Handle
  | .parseCmd => [.ucpContext, .ucpWorker, .ucpDataWorker, .listener, .clientEp]
  | .ucpInit => [.ucpContext, .ucpWorker, .ucpDataWorker, .listener, .clientEp]
  | .initWorker => [.ucpWorker, .ucpDataWorker, .listener, .clientEp]
  | .initDataWorker => [.ucpDataWorker, .listener, .clientEp]
  | .registerHandler => [.listener]
  | .listenerCreate => [.listener]
  | .startClient => [.clientEp]
  | _ => []

/-- The statements at which `ep` is an endpoint. -/
def Pc.connected : Pc → Bool
  | .serverWork => true
  | .clientWork => true
  | .epClose _ => true
  | .closing _ => true
  | _ => false

structure Tidy (state : State) : Prop where
  replayed : held Handle.needs state.ledger = some (state.pc.live state.ep)
  fresh : ∀ handle ∈ state.pc.uncreated, handle ∉ acquired state.ledger
  endpoints : ∀ request, .serverEp request ∈ acquired state.ledger → request ∈ state.passed
  ep : state.pc.connected = true → state.ep ≠ none

namespace Tidy

variable {state : State}

theorem initial : Tidy .initial where
  replayed := rfl
  fresh := by simp [State.initial]
  endpoints := by simp [State.initial]
  ep := by decide

theorem goto (tidy : Tidy state) {next : State} (ledger : next.ledger = state.ledger)
    (passed : next.passed = state.passed) (ep : next.ep = state.ep)
    (live : next.pc.live state.ep = state.pc.live state.ep)
    (fresh : next.pc.uncreated ⊆ state.pc.uncreated)
    (connected : next.pc.connected = true → state.pc.connected = true) : Tidy next where
  replayed := by rw [ledger, ep, live]; exact tidy.replayed
  fresh handle member := by rw [ledger]; exact tidy.fresh handle (fresh member)
  endpoints := by rw [ledger, passed]; exact tidy.endpoints
  ep isConnected := by rw [ep]; exact tidy.ep (connected isConnected)

theorem jump (tidy : Tidy state) {isServer : Bool} {sendRecvType : SendRecvType} {ret : Int}
    {pc : Pc} (jumps : Jump state.pc pc) :
    Tidy { state with
      isServer := isServer, sendRecvType := sendRecvType, ret := ret, pc := pc } := by
  generalize at' : state.pc = here at jumps
  cases jumps
  case worked site notClient =>
    refine tidy.goto rfl rfl rfl ?_ (by simp [Pc.uncreated]) (by simp [at', Pc.connected])
    cases site with
    | client => exact absurd rfl notClient
    | served | errEp => rw [at']; rfl
  all_goals
    exact tidy.goto rfl rfl rfl (by rw [at']; rfl) (by simp [at', Pc.uncreated])
      (by simp [at', Pc.connected])

theorem acquire (tidy : Tidy state) {handle : Handle} {pc : Pc}
    (fresh : handle ∉ acquired state.ledger)
    (supported : ∀ owner ∈ handle.needs, owner ∈ state.pc.live state.ep)
    (live : pc.live state.ep = handle :: state.pc.live state.ep)
    (uncreated : ∀ other ∈ pc.uncreated, other ≠ handle ∧ other ∈ state.pc.uncreated)
    (endpoint : ∀ request, handle ≠ .serverEp request)
    (connected : pc.connected = false) : Tidy (state.acquire handle pc) where
  replayed := by
    simp only [State.acquire, live]
    exact held_acquire tidy.replayed fresh supported
  fresh other member := by
    obtain ⟨differs, listed⟩ := uncreated other member
    simp only [State.acquire, acquired_acquire, List.mem_cons, not_or]
    exact ⟨differs, tidy.fresh other listed⟩
  endpoints request member := by
    simp only [State.acquire, acquired_acquire, List.mem_cons] at member
    rcases member with same | earlier
    · exact absurd same.symm (endpoint request)
    · exact tidy.endpoints request earlier
  ep isConnected := by simp [State.acquire, connected] at isConnected

theorem create (tidy : Tidy state) {handle : Handle} {pc : Pc}
    (creates : Creates state.pc handle pc) : Tidy (state.acquire handle pc) := by
  have fresh := tidy.fresh
  generalize at' : state.pc = here at creates
  rw [at'] at fresh
  cases creates <;>
    exact tidy.acquire (fresh _ (by simp [Pc.uncreated]))
      (by simp [Handle.needs, at', Pc.live, mainObjects]) (by rw [at']; rfl)
      (by simp [at', Pc.uncreated]) (by simp) rfl

theorem destroy (tidy : Tidy state) {handle : Handle} {pc : Pc}
    (destroys : Destroys state.pc handle pc) : Tidy (state.release handle pc) := by
  have before := tidy.replayed
  generalize state.pc = here at destroys before
  cases destroys <;>
    exact ⟨held_release before, by simp [State.release, Pc.uncreated], tidy.endpoints,
      by simp [State.release, Pc.connected]⟩

theorem close (tidy : Tidy state) {site : CloseSite} {ep : Handle}
    (at' : state.pc = .epClose site ∨ state.pc = .closing site) (named : state.ep = some ep) :
    Tidy (state.release ep site.next) := by
  have before : held Handle.needs state.ledger = some (ep :: site.objects) := by
    rcases at' with at' | at' <;> simpa [at', Pc.live, named] using tidy.replayed
  have after := held_release before
  cases site <;>
    exact ⟨after, by simp [State.release, CloseSite.next, Pc.uncreated], tidy.endpoints,
      by simp [State.release, CloseSite.next, Pc.connected]⟩

theorem createEp (tidy : Tidy state) (orderly : Orderly state) {request : Nat}
    {status : UcsStatus} (at' : state.pc = .createEp)
    (pending : state.connRequest = some request) :
    Tidy (state.serverCreateEp request status) := by
  have before : held Handle.needs state.ledger = some serverObjects := by
    simpa [at', Pc.live] using tidy.replayed
  cases status with
  | ok =>
      have fresh : .serverEp request ∉ acquired state.ledger := fun member =>
        orderly.chosen_fresh at' pending (tidy.endpoints request member)
      refine ⟨held_acquire before fresh (by simp [Handle.needs, serverObjects]),
        by simp [State.serverCreateEp, State.acquire, Pc.uncreated], fun other member => ?_,
        by simp [State.serverCreateEp]⟩
      simp only [State.serverCreateEp, State.acquire, acquired_acquire, List.mem_cons,
        Handle.serverEp.injEq] at member
      rcases member with same | earlier
      · simp [State.serverCreateEp, State.acquire, same]
      · simp [State.serverCreateEp, State.acquire, tidy.endpoints other earlier]
  | error code =>
      refine ⟨before, by simp [State.serverCreateEp, State.fail, Pc.uncreated],
        fun other member => ?_, by simp [State.serverCreateEp, State.fail, Pc.connected]⟩
      simp [State.serverCreateEp, State.fail, tidy.endpoints other member]

theorem connect (tidy : Tidy state) (at' : state.pc = .startClient) :
    Tidy { state.acquire .clientEp .clientWork with ep := some .clientEp } := by
  have before : held Handle.needs state.ledger = some mainObjects := by
    simpa [at', Pc.live] using tidy.replayed
  have fresh : .clientEp ∉ acquired state.ledger := tidy.fresh _ (by simp [at', Pc.uncreated])
  refine ⟨held_acquire before fresh (by simp [Handle.needs, mainObjects]),
    by simp [State.acquire, Pc.uncreated], fun request member => ?_, by simp⟩
  simp only [State.acquire, acquired_acquire, List.mem_cons, reduceCtorEq, false_or] at member
  exact tidy.endpoints request member

theorem step (tidy : Tidy state) (orderly : Orderly state) {next : State} {action : Action}
    (stepped : step state action = some next) : Tidy next := by
  cases step_move stepped with
  | callback =>
      unfold State.serverConnHandleCb
      split_ifs <;> exact tidy.goto rfl rfl rfl rfl (List.Subset.refl _) id
  | idle => exact tidy
  | jump _ jumps => exact tidy.jump jumps
  | create creates => exact tidy.create creates
  | destroy destroys => exact tidy.destroy destroys
  | dataWorker at' =>
      have fresh : .ucpDataWorker ∉ acquired state.ledger :=
        tidy.fresh _ (by simp [at', Pc.uncreated])
      have created : Tidy (state.acquire .ucpDataWorker .listenerCreate) :=
        tidy.acquire fresh (by simp [Handle.needs, at', Pc.live, mainObjects]) (by rw [at']; rfl)
          (by simp [at', Pc.uncreated]) (by simp) rfl
      exact created.goto rfl rfl rfl rfl (List.Subset.refl _) id
  | listen at' =>
      exact tidy.goto rfl rfl rfl (by rw [at']; rfl)
        (by simp [State.startServer, at', Pc.uncreated]) (by simp [State.startServer, Pc.connected])
  | found at' =>
      exact tidy.goto rfl rfl rfl (by rw [at']; rfl) (by simp [State.goto, Pc.uncreated])
        (by simp [State.goto, Pc.connected])
  | createEp at' pending => exact tidy.createEp orderly at' pending
  | connect at' => exact tidy.connect at'
  | close _ at' named => exact tidy.close at' named
  | reset at' =>
      exact tidy.goto rfl rfl rfl (by rw [at']; rfl) (by simp [Pc.uncreated])
        (by simp [Pc.connected])

end Tidy

section Runs

variable {actions : List Action} {state : State}

theorem run_tidy (reached : run step .initial actions = some state) : Tidy state :=
  (run_preserves (fun state => Orderly state ∧ Tidy state)
    (fun _ _ _ both stepped => ⟨both.1.step stepped, both.2.step both.1 stepped⟩)
    ⟨Orderly.initial, Tidy.initial⟩ reached).2

/-- When `main` returns, everything it created was released, once and in a safe
order. -/
theorem returned_settled (reached : run step .initial actions = some state)
    (returned : state.pc = .returned) : Settled Handle.needs state.ledger := by
  have replayed := (run_tidy reached).replayed
  rw [returned] at replayed
  exact settled_of_held replayed

end Runs

/-- A server that serves one client and fails to create an endpoint for the
next one, which connects only after the first was served. -/
def servedAndRefused : List Action :=
  [.parsed 0 true .stream, .answered .ok, .answered .ok, .answered .ok, .answered .ok,
    .answered .ok, .connRequest, .proceed, .answered .ok, .connRequest, .worked 0,
    .close .request, .checked none, .checked (some .ok), .proceed, .connRequest, .proceed,
    .answered (.error 1), .proceed, .proceed, .proceed, .proceed]

theorem servedAndRefused_settled :
    ∃ state, run step .initial servedAndRefused = some state ∧ state.pc = .returned ∧
      state.ret = -1 ∧ Settled Handle.needs state.ledger :=
  ⟨_, rfl, rfl, rfl, @returned_settled servedAndRefused _ rfl rfl⟩

end UcxPlayground.ClientServer.Program
