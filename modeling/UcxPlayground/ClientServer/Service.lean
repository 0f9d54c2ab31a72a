import UcxPlayground.ClientServer.Admission
import UcxPlayground.ClientServer.ExitStatus
import UcxPlayground.ClientServer.Fin

/-!
# The server and its clients

The main program of a server together with the sessions that it has with its clients: a
session begins when `server_create_ep` succeeds, the serving loop goes on with what
`client_server_do_work` returned, and `ep_close` progresses the worker of the session.
-/

set_option autoImplicit false

namespace UcxPlayground.ClientServer

open Transition

/-- The process of a server, and all that it exchanges with its clients. -/
structure Service where
  main : Program.State
  session : State

inductive ServiceAction where
  | main (action : Program.Action)
  | server (step : Step)
  | client (step : Step)
  deriving DecidableEq, Repr

/-- The points of `client_server_do_work` with a loop that progresses the worker. -/
def Pc.loops : Pc → Bool
  | .amWait _ => true
  | .requestWait _ => true
  | .waitClose => true
  | _ => false

def Pc.hasReturned : Pc → Bool
  | .returned _ => true
  | _ => false

namespace Service

def initial (cfg : Config) : Service where
  main := .initial
  session := .initial cfg

/-- `client_server_do_work` runs, or the loop of `ep_close`. -/
def progresses (service : Service) : Bool :=
  match service.main.pc with
  | .serverWork => !service.session.server.pc.hasReturned
  | .closing _ => true
  | _ => false

/-- The command line is that of a server with the options of the session. What
`client_server_do_work` returns is up to the session, and `ep_close` looks at its request only
behind `ucp_worker_progress`. -/
def permits (cfg : Config) (service : Service) : Program.Action → Bool
  | .parsed _ isServer sendRecvType => isServer && decide (sendRecvType = cfg.sendRecvType)
  | .worked ret => decide (service.session.server.pc = .returned ret)
  | .checked _ => !service.session.server.inProgress
  | _ => true

def stepSession (cfg : Config) (service : Service) (action : Action) : Option Service :=
  (ClientServer.step cfg service.session action).map fun session =>
    { service with session := session }

def step (cfg : Config) (service : Service) : ServiceAction → Option Service
  | .main action =>
      if service.permits cfg action then
        (Program.step service.main action).bind fun main =>
          if service.main.pc = .createEp ∧ action = .answered .ok then
            { service with main := main }.stepSession cfg .connect
          else some { service with main := main }
      else none
  | .server step =>
      if service.progresses then service.stepSession cfg (.server step) else none
  | .client step => service.stepSession cfg (.client step)

end Service

section Refinement

variable {cfg : Config} {service next : Service} {action : ServiceAction}
  {actions : List ServiceAction}

/-- What a step is for the main program, and for the session. -/
inductive Service.Move (cfg : Config) (service : Service) : ServiceAction → Service → Prop where
  | main {action : Program.Action} {main : Program.State}
      (permitted : service.permits cfg action = true)
      (stepped : Program.step service.main action = some main)
      (other : ¬ (service.main.pc = .createEp ∧ action = .answered .ok)) :
      Move cfg service (.main action) { service with main := main }
  | connect {main : Program.State} {session : State} (at' : service.main.pc = .createEp)
      (stepped : Program.step service.main (.answered .ok) = some main)
      (connected : ClientServer.step cfg service.session .connect = some session) :
      Move cfg service (.main (.answered .ok)) ⟨main, session⟩
  | server {step : Step} {session : State} (progresses : service.progresses = true)
      (stepped : ClientServer.step cfg service.session (.server step) = some session) :
      Move cfg service (.server step) { service with session := session }
  | client {step : Step} {session : State}
      (stepped : ClientServer.step cfg service.session (.client step) = some session) :
      Move cfg service (.client step) { service with session := session }

theorem Service.step_move (stepped : service.step cfg action = some next) :
    Service.Move cfg service action next := by
  cases action with
  | main action =>
      simp only [step, Option.ite_none_right_eq_some, Option.bind_eq_some_iff] at stepped
      obtain ⟨permitted, main, stepped, rest⟩ := stepped
      by_cases connects : service.main.pc = .createEp ∧ action = .answered .ok
      · rw [if_pos connects] at rest
        obtain ⟨at', rfl⟩ := connects
        obtain ⟨session, connected, rfl⟩ := Option.map_eq_some_iff.mp rest
        exact .connect at' stepped connected
      · rw [if_neg connects] at rest
        obtain rfl := Option.some.inj rest
        exact .main permitted stepped connects
  | server action =>
      simp only [Service.step, Option.ite_none_right_eq_some] at stepped
      obtain ⟨progresses, mapped⟩ := stepped
      obtain ⟨session, performed, rfl⟩ := Option.map_eq_some_iff.mp mapped
      exact .server progresses performed
  | client action =>
      obtain ⟨session, performed, rfl⟩ := Option.map_eq_some_iff.mp stepped
      exact .client performed

theorem Service.main_reached
    (reached : run (Service.step cfg) (.initial cfg) actions = some service) :
    Leads Program.step (fun _ => True) .initial service.main := by
  refine run_explained Service.main (fun before action after stepped => ?_) reached
  cases Service.step_move stepped with
  | main _ performed | connect _ performed => exact .of_step trivial performed
  | server | client => exact .refl _

theorem Service.session_reached
    (reached : run (Service.step cfg) (.initial cfg) actions = some service) :
    Leads (ClientServer.step cfg) (fun _ => True) (.initial cfg) service.session := by
  refine run_explained Service.session (fun before action after stepped => ?_) reached
  cases Service.step_move stepped with
  | main => exact .refl _
  | connect _ _ performed | server _ performed | client performed =>
      exact .of_step trivial performed

end Refinement

section Sessions

variable {cfg : Config} {side next : Side} {action : Step}

/-- Inside `ucp_worker_progress`, `client_server_do_work` is at one of its loops. -/
def Proc.Calm (proc : Proc) : Prop :=
  proc.inProgress = true → proc.pc.loops = true

theorem Proc.Calm.idle {proc : Proc} (calm : proc.Calm) (outside : proc.pc.loops = false) :
    proc.inProgress = false := by
  cases inside : proc.inProgress with
  | false => rfl
  | true => exact absurd (calm inside) (by simp [outside])

theorem Side.Move.calm (move : Side.Move cfg side action next) (calm : side.proc.Calm)
    (working : side.proc.pc.hasReturned = false) : next.proc.Calm := by
  have outside (place : side.proc.pc.loops = false) : next.proc.inProgress = side.proc.inProgress →
      next.proc.Calm := by
    intro same inside
    rw [same, calm.idle place] at inside
    cases inside
  cases move with
  | callFailed place which =>
      refine outside (by rw [place]; rfl) ?_
      rcases which with rfl | rfl <;> rfl
  | sent place | posted place | awaiting place | received place | receiving place
  | registered place | registerFailed place => exact outside (by rw [place]; rfl) rfl
  | polled _ waiting =>
      intro _
      show side.proc.pc.loops = true
      cases place : side.proc.pc <;> simp [Proc.waiting, place, Pc.hasReturned] at waiting working
      all_goals rfl
  | progressed => exact fun never => by cases never
  | closed | failed | sendDone | receiveDone | discarded => exact calm
  | handled =>
      intro inside
      simp only [Proc.ucpAmDataCb_inProgress] at inside
      simp only [Proc.ucpAmDataCb_pc]
      exact calm inside
  | leftRndv _ idle | leftRndvFailed _ idle | leftEager _ idle | waited _ idle | waitFailed _ idle
  | leftClose _ idle =>
      intro inside
      exact absurd (idle.symm.trans inside) (by decide)

/-- Nothing happens to a `client_server_do_work` that has returned. -/
theorem Side.Move.hasReturned (move : Side.Move cfg side action next)
    (done : side.proc.pc.hasReturned = true) : next.proc.pc = side.proc.pc := by
  cases move with
  | handled => simp
  | polled | progressed | closed | failed | sendDone | receiveDone | discarded => rfl
  | callFailed place | sent place | posted place | awaiting place | received place
  | receiving place | leftRndv place | leftRndvFailed place | leftEager place | waited place
  | waitFailed place | leftClose place | registered place | registerFailed place =>
      simp [place, Pc.hasReturned] at done

theorem Side.Move.finished (move : Side.Move cfg side action next) :
    side.proc.finished ⊆ next.proc.finished := by
  cases move with
  | handled => simp
  | callFailed _ which =>
      rcases which with rfl | rfl <;> exact List.subset_cons_self _ _
  | sent | received | leftRndvFailed | leftEager | waited | waitFailed =>
      exact List.subset_cons_self _ _
  | posted | awaiting | receiving | polled | progressed | closed | failed | sendDone | receiveDone
  | discarded | leftRndv | leftClose | registered | registerFailed => exact List.Subset.refl _

/-- The server has received every message of the clients before the last one. -/
structure State.Earlier (cfg : Config) (state : State) : Prop where
  received : ∀ client, client + 1 < state.clients → ∀ k < cfg.iterations, ∃ iov,
    (⟨client, .data k, 0, iov⟩ : Finished) ∈ state.server.finished
  current : state.server.pc ≠ .idle → state.server.client + 1 = state.clients
  unused : state.server.pc = .idle → state.clients = 0

namespace State

variable {state after : State}

theorem Earlier.initial (cfg : Config) : (State.initial cfg).Earlier cfg where
  received _ never := by cases never
  current used := absurd rfl used
  unused _ := rfl

/-- Between two clients there is nothing left to receive. -/
theorem Earlier.all (earlier : state.Earlier cfg) (session : state.Session cfg)
    (ready : state.server.pc = .idle ∨ state.server.pc = .returned 0) :
    ∀ client < state.clients, ∀ k < cfg.iterations, ∃ iov,
      (⟨client, .data k, 0, iov⟩ : Finished) ∈ state.server.finished := by
  intro client below k iteration
  rcases ready with unused | returned
  · rw [earlier.unused unused] at below
    exact absurd below (Nat.not_lt_zero client)
  · rcases Nat.lt_or_eq_of_le (Nat.succ_le_of_lt below) with before | last
    · exact earlier.received client before k iteration
    · have current := earlier.current (by simp [returned])
      have here := session.server.here
      rw [show state.serverSide.proc.pc = .returned 0 from returned] at here
      obtain ⟨iov, member⟩ := (here.2 (.inl rfl)).results k iteration
      obtain rfl : client = state.server.client := by omega
      exact ⟨iov, member⟩

theorem Earlier.step {action : Action} (earlier : state.Earlier cfg) (session : state.Session cfg)
    (stepped : ClientServer.step cfg state action = some after) : after.Earlier cfg := by
  cases State.step_move stepped with
  | connected ready =>
      refine ⟨fun client below k iteration => ?_, fun _ => rfl, fun idle => ?_⟩
      · exact earlier.all session ready client (Nat.lt_of_succ_lt_succ below) k iteration
      · exact absurd idle (loop_ne_idle cfg _ 0)
  | server move =>
      have same := move.idle_iff
      refine ⟨fun client below k iteration => ?_, fun used => ?_, fun idle => ?_⟩
      · obtain ⟨iov, member⟩ := earlier.received client below k iteration
        exact ⟨iov, move.finished member⟩
      · exact (congrArg (· + 1) move.identity.2).trans
          (earlier.current fun idle => used (same.mpr idle))
      · exact earlier.unused (same.mp idle)
  | client => exact ⟨earlier.received, earlier.current, earlier.unused⟩

theorem Earlier.reached {actions : List Action} (sized : cfg.Sized)
    (reached : run (ClientServer.step cfg) (State.initial cfg) actions = some state) :
    state.Session cfg ∧ state.Earlier cfg :=
  run_preserves (fun state => state.Session cfg ∧ state.Earlier cfg)
    (fun _ _ _ ⟨session, earlier⟩ stepped =>
      ⟨session.step sized stepped, earlier.step session stepped⟩)
    ⟨Session.initial cfg, Earlier.initial cfg⟩ reached

end State

end Sessions

/-- The server can begin to work with a client. -/
def State.Ready (state : State) : Prop :=
  state.server.inProgress = false ∧ (state.server.pc = .idle ∨ state.server.pc = .returned 0)

section Attuned

variable {cfg : Config} {service next : Service}

/-- The points of the main program at which no session is going on, and none has failed. -/
def Program.Pc.between (pc : Program.Pc) : Bool :=
  !pc.cleaning && decide (pc ≠ .serverWork) && decide (pc ≠ .closing .served)

/-- Those behind a session. -/
def Program.Pc.behind : Program.Pc → Bool
  | .epClose .served => true
  | .closing .served => true
  | .resetRequest => true
  | _ => false

/-- The main program and the session agree on where the server is. -/
structure Attuned (service : Service) : Prop where
  working : service.main.pc = .serverWork → service.session.server.Calm
  behind : service.main.pc.behind = true → service.session.server.pc = .returned 0
  ready : service.main.pc.between = true → service.session.Ready
  counted : service.main.pc.cleaning = false →
    service.session.clients = service.main.passed.length

theorem Attuned.initial (cfg : Config) : Attuned (.initial cfg) where
  working at' := by cases at'
  behind at' := by cases at'
  ready _ := ⟨rfl, .inl rfl⟩
  counted _ := rfl

theorem Program.Pc.behind_of_cleaning {pc : Program.Pc} (cleaning : pc.cleaning = true) :
    pc.behind = false := by
  revert cleaning
  fun_cases Program.Pc.cleaning pc <;>
    first
    | exact fun _ => rfl
    | exact fun never => by cases never

/-- Where the program only cleans up, it no longer matters where the session is. -/
theorem Attuned.cleans (cleaning : service.main.pc.cleaning = true) : Attuned service where
  working at' := by simp [at', Program.Pc.cleaning] at cleaning
  behind served := by simp [Program.Pc.behind_of_cleaning cleaning] at served
  ready between := by simp [Program.Pc.between, cleaning] at between
  counted before := by simp [cleaning] at before

/-- The main program goes on between two sessions. -/
theorem Attuned.goes {main : Program.State} (attuned : Attuned service)
    (before : service.main.pc.between = true) (after : main.pc.between = true)
    (fresh : main.pc.behind = false) (passed : main.passed = service.main.passed) :
    Attuned { service with main := main } where
  working at' := by
    have at' : main.pc = .serverWork := at'
    simp [at', Program.Pc.between] at after
  behind served := by simp [fresh] at served
  ready _ := attuned.ready before
  counted _ := by
    simp only [Program.Pc.between, Bool.and_eq_true, Bool.not_eq_true'] at before
    rw [passed]
    exact attuned.counted before.1.1

/-- The main program stays where it is. -/
theorem Attuned.stays {main : Program.State} (attuned : Attuned service)
    (pc : main.pc = service.main.pc) (passed : main.passed = service.main.passed) :
    Attuned { service with main := main } where
  working at' := attuned.working (pc.symm.trans at')
  behind served := attuned.behind (by rwa [← pc])
  ready between := attuned.ready (by rwa [← pc])
  counted before := by
    rw [passed]
    exact attuned.counted (by rwa [← pc])

/-- A session is over, and the main program goes on behind it. -/
theorem Attuned.follows {main : Program.State} (attuned : Attuned service)
    (at' : service.main.pc.cleaning = false) (served : service.session.server.pc = .returned 0)
    (quiet : main.pc ≠ .closing .served → service.session.server.inProgress = false)
    (working : main.pc ≠ .serverWork) (passed : main.passed = service.main.passed) :
    Attuned { service with main := main } where
  working at' := absurd at' working
  behind _ := served
  ready between := by
    simp only [Program.Pc.between, Bool.and_eq_true, decide_eq_true_eq] at between
    exact ⟨quiet between.2, .inr served⟩
  counted _ := by
    rw [passed]
    exact attuned.counted at'

namespace Program

variable {main after : State} {action : Action}

theorem worked_of_serverWork (at' : main.pc = .serverWork) (own : action.own = true)
    (stepped : step main action = some after) : ∃ ret, action = .worked ret ∧
      after = { main with ret := ret, pc := .epClose (if ret ≠ 0 then .errEp else .served) } := by
  cases action with
  | worked ret =>
      simp only [step, State.worked, at', Option.some.injEq] at stepped
      exact ⟨ret, rfl, stepped.symm⟩
  | connRequest => cases own
  | parsed | answered status | close | checked | proceed =>
      simp [step, State.answered, State.proceed, at'] at stepped

theorem checked_of_closing {site : CloseSite} (at' : main.pc = .closing site)
    (own : action.own = true) (stepped : step main action = some after) :
    ∃ status, action = .checked status := by
  cases action with
  | checked status => exact ⟨status, rfl⟩
  | connRequest => cases own
  | parsed | answered status | close | worked | proceed =>
      simp [step, State.answered, State.proceed, State.worked, at'] at stepped

end Program

/-- What `client_server_do_work` returned decides where the server goes on. -/
theorem Attuned.worked {action : Program.Action} {main : Program.State}
    (attuned : Attuned service) (at' : service.main.pc = .serverWork) (own : action.own = true)
    (permitted : service.permits cfg action = true)
    (stepped : Program.step service.main action = some main) :
    Attuned { service with main := main } := by
  obtain ⟨ret, rfl, rfl⟩ := Program.worked_of_serverWork at' own stepped
  have returned : service.session.server.pc = .returned ret := of_decide_eq_true permitted
  have quiet := (attuned.working at').idle (by rw [returned]; rfl)
  by_cases success : ret = 0
  · subst success
    exact attuned.follows (by rw [at']; rfl) returned (fun _ => quiet)
      (fun never => by cases never) rfl
  · refine .cleans ?_
    simp only [ne_eq, success, not_false_eq_true, if_true]
    rfl

theorem Attuned.main {action : Program.Action} {main : Program.State} (attuned : Attuned service)
    (permitted : service.permits cfg action = true)
    (stepped : Program.step service.main action = some main)
    (other : ¬ (service.main.pc = .createEp ∧ action = .answered .ok)) :
    Attuned { service with main := main } := by
  cases Program.step_move stepped with
  | callback =>
      refine attuned.stays ?_ ?_ <;> unfold Program.State.serverConnHandleCb <;> split <;> rfl
  | idle => exact attuned.stays rfl rfl
  | jump own jumps =>
      generalize at' : service.main.pc = here at jumps
      cases jumps with
      | worked => exact attuned.worked at' own permitted stepped
      | parsed | queried => exact attuned.goes (by rw [at']; rfl) rfl rfl rfl
      | @closing site =>
          cases site with
          | served =>
              have served := attuned.behind (by rw [at']; rfl)
              exact attuned.follows (by rw [at']; rfl) served (absurd rfl)
                (fun never => by cases never) rfl
          | errEp | client => exact .cleans rfl
      | refused | noContext | noWorker | noDataWorker | noHandler | noListener | notQueried
      | clientWorked | noEndpoint => exact .cleans rfl
  | create creates =>
      generalize at' : service.main.pc = here at creates
      cases creates <;> exact attuned.goes (by rw [at']; rfl) rfl rfl rfl
  | destroy destroys =>
      generalize service.main.pc = here at destroys
      cases destroys <;> exact .cleans rfl
  | dataWorker at' | listen at' | found at' | connect at' =>
      exact attuned.goes (by rw [at']; rfl) rfl rfl rfl
  | @createEp _ status at' =>
      cases status with
      | ok => exact absurd ⟨at', rfl⟩ other
      | error => exact .cleans rfl
  | @close _ site _ own at' =>
      cases site with
      | served =>
          have before : service.main.pc.cleaning = false := by
            rcases at' with at' | at' <;> rw [at'] <;> rfl
          have served := attuned.behind (by rcases at' with at' | at' <;> rw [at'] <;> rfl)
          refine attuned.follows before served (fun _ => ?_) (fun never => by cases never) rfl
          rcases at' with at' | at'
          · exact (attuned.ready (by rw [at']; rfl)).1
          · obtain ⟨status, rfl⟩ := Program.checked_of_closing at' own stepped
            simpa [Service.permits] using permitted
      | errEp | client => exact .cleans rfl
  | reset at' =>
      have served := attuned.behind (by rw [at']; rfl)
      have quiet := (attuned.ready (by rw [at']; rfl)).1
      exact attuned.follows (by rw [at']; rfl) served (fun _ => quiet)
        (fun never => by cases never) rfl

/-- A session begins. -/
theorem Attuned.connect {main : Program.State} {session : State} (attuned : Attuned service)
    (at' : service.main.pc = .createEp)
    (stepped : Program.step service.main (.answered .ok) = some main)
    (connected : ClientServer.step cfg service.session .connect = some session) :
    Attuned ⟨main, session⟩ := by
  have counted := attuned.counted (by rw [at']; rfl)
  simp only [Program.step, Program.State.answered, at', Option.map_eq_some_iff] at stepped
  obtain ⟨request, _, rfl⟩ := stepped
  simp only [ClientServer.step, Option.ite_none_right_eq_some, Option.some.injEq] at connected
  obtain ⟨⟨quiet, _⟩, rfl⟩ := connected
  refine ⟨fun _ inside => ?_, fun never => (by cases never), fun never => (by cases never),
    fun _ => ?_⟩
  · exact absurd (quiet.symm.trans inside) (by decide)
  · show service.session.clients + 1 = (service.main.passed ++ [request]).length
    rw [counted, List.length_append, List.length_singleton]

theorem Attuned.server {step : Step} {session : State} (attuned : Attuned service)
    (progresses : service.progresses = true)
    (stepped : ClientServer.step cfg service.session (.server step) = some session) :
    Attuned { service with session := session } := by
  cases State.step_move stepped with
  | server move =>
      cases at' : service.main.pc with
      | serverWork =>
          have working : service.session.server.pc.hasReturned = false := by
            simpa [Service.progresses, at'] using progresses
          refine ⟨fun _ => move.calm (attuned.working at') working, fun served => ?_,
            fun between => ?_, fun before => attuned.counted before⟩
          · simp [at', Program.Pc.behind] at served
          · simp [at', Program.Pc.between] at between
      | closing site =>
          refine ⟨fun other => ?_, fun served => ?_, fun between => ?_,
            fun before => attuned.counted before⟩
          · simp [at'] at other
          · have returned := attuned.behind served
            have stays := move.hasReturned (show service.session.server.pc.hasReturned = true by
              rw [returned]; rfl)
            exact stays.trans returned
          · cases site <;> simp [at', Program.Pc.between, Program.Pc.cleaning] at between
      | _ => simp [Service.progresses, at'] at progresses

theorem Attuned.step {action : ServiceAction} (attuned : Attuned service)
    (stepped : service.step cfg action = some next) : Attuned next := by
  cases Service.step_move stepped with
  | main permitted performed other => exact attuned.main permitted performed other
  | connect at' performed connected => exact attuned.connect at' performed connected
  | server progresses performed => exact attuned.server progresses performed
  | client performed =>
      cases State.step_move performed with
      | client => exact ⟨attuned.working, attuned.behind, attuned.ready, attuned.counted⟩

end Attuned

/-- The serving loop comes to the next client only with a session that is ready for it, and with
every message of all clients before received. While it serves, a session has begun for every
request that was passed to `server_create_ep`; where this call fails, the last one has none. -/
structure Service.Serves (cfg : Config) (service : Service) : Prop where
  counted : service.main.pc.serving = true → service.session.clients = service.main.passed.length
  ready : service.main.pc = .createEp → (ClientServer.step cfg service.session .connect).isSome
  received : service.main.pc = .waitRequest ∨ service.main.pc = .createEp →
    ∀ client < service.session.clients, ∀ k < cfg.iterations, ∃ iov,
      (⟨client, .data k, 0, iov⟩ : Finished) ∈ service.session.server.finished

section Runs

variable {cfg : Config} {service : Service} {actions : List ServiceAction}

theorem Service.attuned (reached : run (Service.step cfg) (.initial cfg) actions = some service) :
    Attuned service :=
  run_preserves Attuned (fun _ _ _ attuned stepped => attuned.step stepped) (Attuned.initial cfg)
    reached

/-- In every run of the main program with its sessions, each is a run of its own model, and the
main program serves one client after the other. -/
theorem Service.serves (positive : 0 < cfg.testStringLength)
    (reached : run (Service.step cfg) (.initial cfg) actions = some service) :
    Leads Program.step (fun _ => True) .initial service.main ∧
      Leads (ClientServer.step cfg) (fun _ => True) (.initial cfg) service.session ∧
      service.Serves cfg := by
  have attuned := Service.attuned reached
  have leads := Service.session_reached reached
  obtain ⟨sessionActions, _, sessionReached⟩ := id leads
  have sized : cfg.Sized := fun _ => Nat.mul_pos cfg.iovCnt_pos positive
  obtain ⟨session, earlier⟩ := State.Earlier.reached sized sessionReached
  refine ⟨Service.main_reached reached, leads, fun serving => ?_, fun at' => ?_, fun at' => ?_⟩
  · refine attuned.counted ?_
    revert serving
    fun_cases Program.Pc.serving service.main.pc <;>
      first
      | exact fun _ => rfl
      | exact fun never => by cases never
  · have ready := attuned.ready (by rw [at']; rfl)
    exact congrArg Option.isSome (if_pos ready)
  · have ready := attuned.ready (by rcases at' with at' | at' <;> rw [at'] <;> rfl)
    exact earlier.all session ready.2

/-- A client is served, and the server waits for the next one. -/
def oneServed : List ServiceAction :=
  ([.parsed 0 true .stream, .answered .ok, .answered .ok, .answered .ok, .answered .ok,
    .answered .ok, .connRequest, .proceed, .answered .ok] : List Program.Action).map .main ++
  [.client (.communicate (.null 1) false), .server (.communicate .request false), .server .poll,
    .server (.complete .ok), .server .progressed, .server (.leave (.null 0)),
    .server (.communicate (.null 1) false), .server .poll, .server .peerError,
    .server .progressed, .server (.leave (.null 0)), .main (.worked 0), .main (.close .request),
    .server .poll, .server .progressed, .main (.checked (some .ok)), .main .proceed]

theorem oneServed_serves :
    ∃ service, run (Service.step (State.oneByte .stream)) (.initial (State.oneByte .stream))
        oneServed = some service ∧
      service.main.pc = .waitRequest ∧ service.session.clients = 1 ∧
      service.Serves (State.oneByte .stream) := by
  refine ⟨_, rfl, rfl, rfl, ?_⟩
  exact (Service.serves (by decide)
    (show run (Service.step (State.oneByte .stream)) _ oneServed = some _ from rfl)).2.2

end Runs

end UcxPlayground.ClientServer
