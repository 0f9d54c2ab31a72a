import UcxPlayground.ClientServer.Control
import UcxPlayground.Transition.Run

/-!
# The result of `ucp_client_server`

Behind the first failure the program only cleans up, and what `main` returns is what the
failure left. A server has no other way out of its loop. An endpoint that cannot be closed or a
request that cannot be rejected is no such failure, since `ep_close` and the callback only
report it.
-/

set_option autoImplicit false

namespace UcxPlayground.ClientServer.Program

open Transition

/-- What a failure leaves in `ret`: the value of `parse_cmd` or `client_server_do_work`, and -1
for a call of UCX. The calls of `ep_close` and of the callback may fail as well, which leaves
nothing there. -/
def Action.failure : Action → Option Int
  | .parsed ret _ _ => if ret = 0 then none else some ret
  | .worked ret => if ret = 0 then none else some ret
  | .answered .ok => none
  | .answered (.error _) => some (-1)
  | _ => none

def failures (actions : List Action) : List Int :=
  actions.filterMap Action.failure

/-- The calls of `ep_close`, a statement that cannot fail, or the callback. -/
def Action.cleansUp : Action → Bool
  | .close _ => true
  | .checked _ => true
  | .proceed => true
  | .connRequest => true
  | _ => false

/-- The statements that only clean up, or end the program. -/
def Pc.cleaning : Pc → Bool
  | .errCleanup => true
  | .listenerDestroy => true
  | .epClose .errEp => true
  | .closing .errEp => true
  | .errListener => true
  | .errWorker => true
  | .epClose .client => true
  | .closing .client => true
  | .workerDestroy => true
  | .cleanup => true
  | .returned => true
  | _ => false

/-- Those that a client comes by when it is done. -/
def Pc.closesClient : Pc → Bool
  | .epClose .client => true
  | .closing .client => true
  | .workerDestroy => true
  | .cleanup => true
  | .returned => true
  | _ => false

/-- The statements that only a client has. -/
def Pc.ofClient : Pc → Bool
  | .startClient => true
  | .clientWork => true
  | _ => false

/-- A step: nothing has failed and nothing fails, a call fails, the client is done, or the
program cleans up. -/
inductive Turn (state : State) : Action → State → Prop where
  | proceeds {action : Action} {next : State} (before : state.pc.cleaning = false)
      (unfailed : action.failure = none) (after : next.pc.cleaning = false)
      (ret : state.ret = 0 → next.ret = 0)
      (client : (state.pc.ofClient = true → state.isServer = false) →
        next.pc.ofClient = true → next.isServer = false) : Turn state action next
  | fails {action : Action} {next : State} (before : state.pc.cleaning = false)
      (failed : action.failure = some next.ret) (after : next.pc.cleaning = true)
      (ret : next.ret ≠ 0) : Turn state action next
  | finishes {next : State} (before : state.pc = .clientWork) (after : next.pc = .epClose .client)
      (ret : next.ret = 0) (isServer : next.isServer = state.isServer) :
      Turn state (.worked 0) next
  | cleans {action : Action} {next : State} (before : state.pc.cleaning = true)
      (unfailed : action.failure = none) (after : next.pc.cleaning = true)
      (closes : state.pc.closesClient = true → next.pc.closesClient = true)
      (ret : next.ret = state.ret) (isServer : next.isServer = state.isServer) :
      Turn state action next

section Inversion

variable {state next : State} {action : Action}

/-- Going on to a statement that not only a client has. -/
theorem goes_turn (before : state.pc.cleaning = false) (unfailed : action.failure = none)
    (after : next.pc.cleaning = false) (ret : state.ret = 0 → next.ret = 0)
    (shared : next.pc.ofClient = false) : Turn state action next := by
  refine .proceeds before unfailed after ret fun _ ofClient => ?_
  rw [shared] at ofClient
  cases ofClient

theorem answered_turn {status : UcsStatus} (stepped : state.answered status = some next) :
    Turn state (.answered status) next := by
  have refused {code : Nat} {pc : Pc} (before : state.pc.cleaning = false)
      (after : pc.cleaning = true) : Turn state (.answered (.error code)) (state.fail (-1) pc) :=
    .fails before rfl after (show (-1 : Int) ≠ 0 by decide)
  cases at' : state.pc <;> cases status <;>
    simp only [State.answered, at', reduceCtorEq, Option.some.injEq, Option.map_eq_some_iff]
      at stepped
  case ucpInit.error | initWorker.error | initDataWorker.error | registerHandler.error |
      listenerCreate.error | listenerQuery.error | startClient.error =>
    exact stepped ▸ refused (by rw [at']; rfl) rfl
  case createEp.error =>
    obtain ⟨request, _, rfl⟩ := stepped
    exact .fails (by rw [at']; rfl) rfl rfl (show (-1 : Int) ≠ 0 by decide)
  case createEp.ok =>
    obtain ⟨request, _, rfl⟩ := stepped
    exact goes_turn (by rw [at']; rfl) rfl rfl id rfl
  case initWorker.ok =>
    subst stepped
    cases role : state.isServer with
    | true => exact goes_turn (by rw [at']; rfl) rfl rfl id rfl
    | false => exact .proceeds (by rw [at']; rfl) rfl rfl id fun _ _ => role
  case initDataWorker.ok =>
    subst stepped
    unfold State.runServer
    split
    · exact goes_turn (by rw [at']; rfl) rfl rfl id rfl
    · exact goes_turn (by rw [at']; rfl) rfl rfl id rfl
  case startClient.ok =>
    exact stepped ▸ .proceeds (by rw [at']; rfl) rfl rfl id fun client _ =>
      client (by rw [at']; rfl)
  case ucpInit.ok | registerHandler.ok | listenerCreate.ok | listenerQuery.ok =>
    exact stepped ▸ goes_turn (by rw [at']; rfl) rfl rfl id rfl

theorem proceed_turn (stepped : state.proceed = some next) : Turn state .proceed next := by
  cases at' : state.pc <;>
    simp only [State.proceed, at', reduceCtorEq, Option.some.injEq] at stepped
  case waitRequest =>
    subst stepped
    split
    · exact goes_turn (by rw [at']; rfl) rfl (by rw [at']; rfl) id (by rw [at']; rfl)
    · exact goes_turn (by rw [at']; rfl) rfl rfl id rfl
  case resetRequest => exact stepped ▸ goes_turn (by rw [at']; rfl) rfl rfl id rfl
  case workerDestroy | cleanup =>
    exact stepped ▸ .cleans (by rw [at']; rfl) rfl rfl (fun _ => rfl) rfl rfl
  all_goals
    exact stepped ▸ .cleans (by rw [at']; rfl) rfl rfl
      (by rw [at']; exact fun never => by cases never) rfl rfl

theorem worked_turn {ret : Int} (stepped : state.worked ret = some next) :
    Turn state (.worked ret) next := by
  cases at' : state.pc <;>
    simp only [State.worked, at', reduceCtorEq, Option.some.injEq] at stepped
  case serverWork =>
    subst stepped
    by_cases success : ret = 0
    · simp only [success, ne_eq, not_true_eq_false, if_false]
      exact goes_turn (by rw [at']; rfl) rfl rfl (fun _ => rfl) rfl
    · simp only [success, ne_eq, not_false_eq_true, if_true]
      exact .fails (by rw [at']; rfl) (if_neg success) rfl success
  case clientWork =>
    subst stepped
    by_cases success : ret = 0
    · subst success
      exact .finishes at' rfl rfl rfl
    · exact .fails (by rw [at']; rfl) (if_neg success) rfl success

theorem closed_turn {site : CloseSite} (unfailed : action.failure = none)
    (at' : state.pc = .epClose site ∨ state.pc = .closing site)
    (stepped : state.closed site = some next) : Turn state action next := by
  obtain ⟨ep, _, rfl⟩ := Option.map_eq_some_iff.mp stepped
  cases site with
  | served =>
      exact goes_turn (by rcases at' with at' | at' <;> rw [at'] <;> rfl) unfailed rfl id rfl
  | errEp | client =>
      refine .cleans (by rcases at' with at' | at' <;> rw [at'] <;> rfl) unfailed rfl ?_ rfl rfl
      rcases at' with at' | at' <;> simp [at', Pc.closesClient, State.release, CloseSite.next]

/-- Staying where it is, or waiting for a close, the program neither fails nor gets on. -/
theorem stays_turn (unfailed : action.failure = none)
    (cleaning : next.pc.cleaning = state.pc.cleaning)
    (closes : next.pc.closesClient = state.pc.closesClient)
    (client : next.pc.ofClient = true → state.pc.ofClient = true) (ret : next.ret = state.ret)
    (isServer : next.isServer = state.isServer) : Turn state action next := by
  cases before : state.pc.cleaning with
  | true =>
      exact .cleans before unfailed (cleaning.trans before) (fun same => closes.trans same) ret
        isServer
  | false =>
      exact .proceeds before unfailed (cleaning.trans before) (fun same => ret.trans same)
        fun role ofClient => isServer.trans (role (client ofClient))

theorem step_turn (stepped : step state action = some next) : Turn state action next := by
  cases action with
  | parsed ret isServer sendRecvType =>
      by_cases at' : state.pc = .parseCmd
      · simp only [step, at', if_true, Option.some.injEq] at stepped
        subst stepped
        by_cases success : ret = 0
        · simp only [success, if_true]
          exact goes_turn (by rw [at']; rfl) rfl rfl (fun _ => rfl) rfl
        · simp only [success, if_false]
          exact .fails (by rw [at']; rfl) (if_neg success) rfl success
      · simp only [step, at', if_false, reduceCtorEq] at stepped
  | answered status => exact answered_turn stepped
  | worked ret => exact worked_turn stepped
  | close result =>
      cases at' : state.pc <;> simp only [step, at', reduceCtorEq] at stepped
      case epClose site =>
        cases result with
        | request =>
            cases stepped
            refine stays_turn rfl ?_ ?_ (fun never => by cases never) rfl rfl <;>
              rw [at'] <;> cases site <;> rfl
        | null length => exact closed_turn rfl (.inl at') stepped
        | error code => exact closed_turn rfl (.inl at') stepped
  | checked status =>
      cases at' : state.pc <;> cases status <;>
        simp only [step, at', reduceCtorEq, Option.some.injEq] at stepped
      case closing.none => exact stepped ▸ stays_turn rfl rfl rfl id rfl rfl
      case closing.some => exact closed_turn rfl (.inr at') stepped
  | proceed => exact proceed_turn stepped
  | connRequest =>
      by_cases listening : state.pc.listening = true
      · simp only [step, listening, if_true, Option.some.injEq] at stepped
        subst stepped
        unfold State.serverConnHandleCb
        split
        · exact stays_turn rfl rfl rfl id rfl rfl
        · exact stays_turn rfl rfl rfl id rfl rfl
      · simp only [step, listening, Bool.false_eq_true, if_false, reduceCtorEq] at stepped

/-- Where the program cleans up, only the calls of `ep_close` can fail. -/
theorem cleansUp_of_cleaning (cleaning : state.pc.cleaning = true)
    (stepped : step state action = some next) : action.cleansUp = true := by
  cases action with
  | close | checked | proceed | connRequest => rfl
  | parsed =>
      by_cases at' : state.pc = .parseCmd
      · simp [at', Pc.cleaning] at cleaning
      · simp only [step, at', if_false, reduceCtorEq] at stepped
  | answered status =>
      cases at' : state.pc <;>
        first
        | (simp [at', Pc.cleaning] at cleaning; done)
        | simp [step, State.answered, at'] at stepped
  | worked =>
      cases at' : state.pc <;>
        first
        | (simp [at', Pc.cleaning] at cleaning; done)
        | simp [step, State.worked, at'] at stepped

end Inversion

/-- Where the program is, with what has failed so far. -/
inductive Standing (actions : List Action) (state : State) : Prop where
  | working (at' : state.pc.cleaning = false) (unfailed : failures actions = [])
      (ret : state.ret = 0) (client : state.pc.ofClient = true → state.isServer = false) :
      Standing actions state
  | failed (at' : state.pc.cleaning = true) (once : failures actions = [state.ret])
      (ret : state.ret ≠ 0) : Standing actions state
  | done (at' : state.pc.closesClient = true) (unfailed : failures actions = [])
      (ret : state.ret = 0) (client : state.isServer = false) (worked : .worked 0 ∈ actions) :
      Standing actions state

theorem Pc.cleaning_of_closesClient {pc : Pc} (closes : pc.closesClient = true) :
    pc.cleaning = true := by
  revert closes
  fun_cases Pc.closesClient pc <;> first | exact fun _ => rfl | exact fun never => by cases never

theorem failures_concat (actions : List Action) (action : Action) :
    failures (actions ++ [action]) = failures actions ++ action.failure.toList := by
  rw [failures, List.filterMap_append]
  cases failure : action.failure <;> simp [failure, failures]

section Runs

variable {actions : List Action} {state next : State} {action : Action}

theorem Standing.step (standing : Standing actions state)
    (stepped : Program.step state action = some next) :
    Standing (actions ++ [action]) next := by
  have turn := step_turn stepped
  cases standing with
  | working at' unfailed ret client =>
      cases turn with
      | proceeds _ harmless after kept role =>
          refine .working after ?_ (kept ret) (role client)
          rw [failures_concat, unfailed, harmless]
          rfl
      | fails _ failed after ret =>
          refine .failed after ?_ ret
          rw [failures_concat, unfailed, failed]
          rfl
      | finishes before after ret isServer =>
          refine .done (by rw [after]; rfl) ?_ ret (isServer.trans (client (by rw [before]; rfl)))
            (by simp)
          rw [failures_concat, unfailed]
          rfl
      | cleans before => simp [at'] at before
  | failed at' once nonzero =>
      cases turn with
      | proceeds before | fails before => simp [at'] at before
      | finishes before => simp [before, Pc.cleaning] at at'
      | cleans _ harmless after _ ret =>
          refine .failed after ?_ (ret ▸ nonzero)
          rw [failures_concat, once, harmless, ret]
          rfl
  | done at' unfailed zero client worked =>
      have cleaning := Pc.cleaning_of_closesClient at'
      cases turn with
      | proceeds before | fails before => simp [cleaning] at before
      | finishes before => simp [before, Pc.cleaning] at cleaning
      | cleans _ harmless _ closes ret isServer =>
          refine .done (closes at') ?_ (ret.trans zero) (isServer.trans client)
            (List.mem_append_left _ worked)
          rw [failures_concat, unfailed, harmless]
          rfl

theorem Standing.cleaning (standing : Standing actions state) (failed : failures actions ≠ []) :
    state.pc.cleaning = true := by
  cases standing with
  | working _ unfailed => exact absurd unfailed failed
  | failed at' => exact at'
  | done _ unfailed => exact absurd unfailed failed

theorem run_standing (reached : run Program.step .initial actions = some state) :
    Standing actions state := by
  have initially : Standing [] State.initial := .working rfl rfl rfl fun never => by cases never
  exact run_records Standing (fun _ _ _ _ standing stepped => standing.step stepped) initially
    reached

/-- Behind a failure the program makes no call that can fail but those of `ep_close`. -/
theorem run_cleansUp {earlier later : List Action}
    (reached : run Program.step .initial (earlier ++ later) = some state)
    (failed : failures earlier ≠ []) : ∀ action ∈ later, action.cleansUp = true := by
  intro action member
  obtain ⟨front, back, rfl⟩ := List.append_of_mem member
  rw [← List.append_assoc] at reached
  obtain ⟨middle, before, after⟩ := run_append_inv reached
  obtain ⟨next, stepped, _⟩ := run_cons_inv after
  have still : failures (earlier ++ front) ≠ [] := by
    rw [failures, List.filterMap_append]
    exact List.append_ne_nil_of_left_ne_nil failed _
  exact cleansUp_of_cleaning ((run_standing before).cleaning still) stepped

/-- At most one call fails in a run, if those of `ep_close` and of the callback are left out.
Behind it the program only cleans up, where no other call can fail, and `main` returns what the
failure left in `ret`. Without one it returns 0, which only a client does, and only when its
`client_server_do_work` returned 0. -/
theorem exit_reports_failure (reached : run Program.step .initial actions = some state) :
    (failures actions).length ≤ 1 ∧ (failures actions ≠ [] → state.pc.cleaning = true) ∧
      (∀ earlier later, actions = earlier ++ later → failures earlier ≠ [] →
        ∀ action ∈ later, action.cleansUp = true) ∧
      (state.pc = .returned → state.ret = (failures actions).head?.getD 0 ∧
        (state.ret = 0 → state.isServer = false ∧ .worked 0 ∈ actions)) := by
  have standing := run_standing reached
  refine ⟨?_, standing.cleaning, fun earlier later split failed => ?_, fun returned => ?_⟩
  · cases standing with
    | working _ unfailed | done _ unfailed => simp [unfailed]
    | failed _ once => simp [once]
  · subst split
    exact run_cleansUp reached failed
  · cases standing with
    | working at' => simp [returned, Pc.cleaning] at at'
    | failed _ once ret =>
        rw [once]
        exact ⟨rfl, fun zero => absurd zero ret⟩
    | done _ unfailed ret client worked =>
        rw [unfailed]
        exact ⟨ret, fun _ => ⟨client, worked⟩⟩

/-- A server that serves one client, fails with the next one and cannot close its endpoint. -/
def secondFails : List Action :=
  [.parsed 0 true .tag, .answered .ok, .answered .ok, .answered .ok, .answered .ok,
    .answered .ok, .connRequest, .proceed, .answered .ok, .worked 0, .close (.null 0), .proceed,
    .connRequest, .proceed, .answered .ok, .worked (-7), .close (.error 3), .proceed, .proceed,
    .proceed, .proceed]

theorem secondFails_reported :
    ∃ state, run Program.step .initial secondFails = some state ∧ state.pc = .returned ∧
      state.ret = -7 := by
  refine ⟨_, rfl, rfl, ?_⟩
  exact ((@exit_reports_failure secondFails _ rfl).2.2.2 rfl).1

end Runs

end UcxPlayground.ClientServer.Program
