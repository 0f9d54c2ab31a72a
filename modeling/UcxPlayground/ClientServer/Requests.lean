import Mathlib.Data.List.Nodup
import UcxPlayground.ClientServer.Control

/-!
# Connection requests of the server

What becomes of the requests that UCX hands to `server_conn_handle_cb`, in the
order of their arrival.
-/

set_option autoImplicit false

namespace UcxPlayground.ClientServer.Program

open Resource

/-- The statements at which a request in the slot was not yet passed on. -/
def Pc.admits : Pc → Bool
  | .listenerQuery => true
  | .listenerDestroy => true
  | .waitRequest => true
  | .createEp => true
  | _ => false

/-- The statements in front of the creation of the listener. -/
def Pc.early : Pc → Bool
  | .parseCmd => true
  | .ucpInit => true
  | .initWorker => true
  | .initDataWorker => true
  | .registerHandler => true
  | .listenerCreate => true
  | _ => false

/-- The statements at which the slot is taken, so that new requests are
rejected. -/
def Pc.busy (pc : Pc) : Bool :=
  pc.listening && (!pc.admits || decide (pc = .createEp))

def State.unserved (state : State) : List Nat :=
  if state.pc.admits then state.connRequest.toList else []

structure Orderly (state : State) : Prop where
  fates : ∀ request, state.stored.count request + state.rejected.count request =
    if request < state.arrived then 1 else 0
  early : state.pc.early = true → state.stored = [] ∧ state.passed = []
  clear : state.pc = .listenerCreate → state.connRequest = none
  busy : state.pc.busy = true → state.connRequest ≠ none
  served : state.pc.listening = true → state.stored = state.passed ++ state.unserved
  passed : state.passed <+: state.stored

/-- One more request meets one of the two fates. -/
theorem fates_append {fate other : List Nat} {arrived : Nat}
    (fates : ∀ request, fate.count request + other.count request =
      if request < arrived then 1 else 0) (request : Nat) :
    (fate ++ [arrived]).count request + other.count request =
      if request < arrived + 1 then 1 else 0 := by
  have settled := fates request
  rw [List.count_append]
  by_cases newest : request = arrived
  · subst newest
    simp only [Nat.lt_irrefl, if_false] at settled
    simp
    omega
  · have bound : request < arrived + 1 ↔ request < arrived := by omega
    simp only [List.count_singleton, beq_iff_eq, Ne.symm newest, if_false, Nat.add_zero, bound]
    exact settled

namespace Orderly

variable {state : State}

theorem initial : Orderly .initial where
  fates request := by simp [State.initial]
  early _ := ⟨rfl, rfl⟩
  clear _ := rfl
  busy := by decide
  served _ := rfl
  passed := List.prefix_refl _

theorem stored_nodup (orderly : Orderly state) : state.stored.Nodup := by
  refine List.nodup_iff_count_le_one.mpr fun request => ?_
  have fate := orderly.fates request
  split_ifs at fate <;> omega

theorem chosen_fresh (orderly : Orderly state) {request : Nat} (at' : state.pc = .createEp)
    (pending : state.connRequest = some request) : request ∉ state.passed := by
  have served := orderly.served (by rw [at']; rfl)
  simp only [State.unserved, at', Pc.admits, if_true, pending, Option.toList_some] at served
  have nodup := orderly.stored_nodup
  rw [served, List.nodup_append] at nodup
  intro member
  exact nodup.2.2 request member request (List.mem_singleton_self _) rfl

/-- The program's own steps that change no list of requests. -/
theorem keep (orderly : Orderly state) {next : State} (stored : next.stored = state.stored)
    (rejected : next.rejected = state.rejected) (arrived : next.arrived = state.arrived)
    (passed : next.passed = state.passed)
    (early : next.pc.early = true → state.pc.early = true)
    (clear : next.pc = .listenerCreate → next.connRequest = none)
    (busy : next.pc.busy = true → next.connRequest ≠ none)
    (served : next.pc.listening = true → state.stored = state.passed ++ next.unserved) :
    Orderly next where
  fates := by rw [stored, rejected, arrived]; exact orderly.fates
  early isEarly := by rw [stored, passed]; exact orderly.early (early isEarly)
  clear := clear
  busy := busy
  served listening := by rw [stored, passed]; exact served listening
  passed := by rw [stored, passed]; exact orderly.passed

/-- The steps outside the serving loop. -/
theorem outside (orderly : Orderly state) {next : State} (stored : next.stored = state.stored)
    (rejected : next.rejected = state.rejected) (arrived : next.arrived = state.arrived)
    (passed : next.passed = state.passed)
    (early : next.pc.early = true → state.pc.early = true)
    (clear : next.pc = .listenerCreate → next.connRequest = none)
    (deaf : next.pc.listening = false) : Orderly next :=
  orderly.keep stored rejected arrived passed early clear (by simp [Pc.busy, deaf])
    (by simp [deaf])

theorem callback (orderly : Orderly state) (listening : state.pc.listening = true) :
    Orderly state.serverConnHandleCb := by
  have late : state.pc.early = false := by
    cases at' : state.pc <;> simp_all [Pc.listening, Pc.early]
  have created : state.pc ≠ .listenerCreate := by
    intro at'
    simp [at', Pc.listening] at listening
  have fates := orderly.fates
  have served := orderly.served listening
  unfold State.serverConnHandleCb
  split_ifs with free
  · have idle : state.pc.busy = false := by
      by_contra busy
      exact orderly.busy (by simpa using busy) free
    have admits : state.pc.admits = true := by
      simp only [Pc.busy, listening, Bool.true_and, Bool.or_eq_false_iff] at idle
      simpa using idle.1
    have alone : state.stored = state.passed := by
      simpa [State.unserved, admits, free] using served
    refine ⟨fates_append fates, by simp [late], fun at' => absurd at' created,
      fun busy => by simp, fun _ => ?_, ?_⟩
    · simp [State.unserved, admits, alone]
    · rw [alone]
      exact List.prefix_append _ _
  · refine ⟨fun request => ?_, by simp [late], fun at' => absurd at' created, orderly.busy,
      orderly.served, orderly.passed⟩
    rw [Nat.add_comm]
    exact fates_append (fun request => (Nat.add_comm _ _).trans (fates request)) request

theorem createEp (orderly : Orderly state) {request : Nat} {status : UcsStatus}
    (at' : state.pc = .createEp) (pending : state.connRequest = some request) :
    Orderly (state.serverCreateEp request status) := by
  have served := orderly.served (by rw [at']; rfl)
  simp only [State.unserved, at', Pc.admits, if_true, pending, Option.toList_some] at served
  cases status with
  | ok =>
      refine ⟨orderly.fates, by simp [State.serverCreateEp, State.acquire, Pc.early],
        by simp [State.serverCreateEp, State.acquire], ?_, ?_, ?_⟩
      · simp [State.serverCreateEp, State.acquire, pending]
      · simp [State.serverCreateEp, State.acquire, State.unserved, Pc.admits, served]
      · simp [State.serverCreateEp, State.acquire, served]
  | error code =>
      refine ⟨orderly.fates, by simp [State.serverCreateEp, State.fail, Pc.early],
        by simp [State.serverCreateEp, State.fail], ?_, ?_, ?_⟩
      · simp [State.serverCreateEp, State.fail, pending]
      · simp [State.serverCreateEp, State.fail, State.unserved, Pc.admits, served]
      · simp [State.serverCreateEp, State.fail, served]

end Orderly

section Steps

variable {state next : State} {action : Action}

theorem Orderly.jump (orderly : Orderly state) {isServer : Bool} {sendRecvType : SendRecvType}
    {ret : Int} {pc : Pc} (jumps : Jump state.pc pc) :
    Orderly { state with
      isServer := isServer, sendRecvType := sendRecvType, ret := ret, pc := pc } := by
  have served := orderly.served
  have busy := orderly.busy
  generalize at' : state.pc = here at jumps
  cases jumps
  case parsed =>
    exact orderly.outside rfl rfl rfl rfl (by simp [at', Pc.early]) (by simp) rfl
  case queried | notQueried =>
    simp only [at', Pc.listening, State.unserved, Pc.admits, if_true, forall_const] at served
    exact orderly.keep rfl rfl rfl rfl (by simp [Pc.early]) (by simp)
      (by simp [Pc.busy, Pc.listening, Pc.admits])
      (fun _ => by simpa [State.unserved, Pc.admits] using served)
  case worked site notClient =>
    simp only [at', Pc.listening, State.unserved, Pc.admits, forall_const] at served
    refine orderly.keep rfl rfl rfl rfl (by simp [Pc.early]) (by simp) (fun _ => busy ?_)
      (fun _ => by simpa [State.unserved, Pc.admits] using served)
    rw [at']
    rfl
  case closing site =>
    simp only [at', State.unserved, Pc.admits] at served
    refine orderly.keep rfl rfl rfl rfl (by simp [Pc.early]) (by simp) (fun isBusy => busy ?_)
      (fun listening => ?_)
    · rw [at']
      cases site <;> exact isBusy
    · simp only [State.unserved, Pc.admits]
      exact served (by cases site <;> exact listening)
  all_goals
    exact orderly.outside rfl rfl rfl rfl (by simp [Pc.early]) (by simp) rfl

theorem Orderly.step (orderly : Orderly state) (stepped : step state action = some next) :
    Orderly next := by
  cases step_move stepped with
  | callback listening => exact orderly.callback listening
  | idle => exact orderly
  | jump _ jumps => exact orderly.jump jumps
  | create creates =>
      have early := orderly.early
      have clear := orderly.clear
      generalize at' : state.pc = here at creates
      simp only [at'] at early clear
      cases creates
      case listener =>
        refine orderly.keep rfl rfl rfl rfl (by simp [State.acquire, Pc.early])
          (by simp [State.acquire]) (by simp [State.acquire, Pc.busy, Pc.listening, Pc.admits]) ?_
        simp [State.acquire, State.unserved, Pc.admits, early rfl, clear rfl]
      all_goals
        exact orderly.outside rfl rfl rfl rfl (by simp [at', Pc.early])
          (by simp [State.acquire]) rfl
  | destroy destroys =>
      generalize state.pc = here at destroys
      cases destroys <;>
        exact orderly.outside rfl rfl rfl rfl (by simp [State.release, Pc.early])
          (by simp [State.release]) rfl
  | dataWorker at' | listen at' =>
      exact orderly.outside rfl rfl rfl rfl (by simp [at', Pc.early]) (fun _ => rfl) rfl
  | found at' pending =>
      have served := orderly.served
      simp only [at', Pc.listening, State.unserved, Pc.admits, if_true, forall_const] at served
      exact orderly.keep rfl rfl rfl rfl (by simp [State.goto, Pc.early]) (by simp [State.goto])
        (fun _ => by simp [State.goto, pending])
        (fun _ => by simpa [State.goto, State.unserved, Pc.admits] using served)
  | createEp at' pending => exact orderly.createEp at' pending
  | connect =>
      exact orderly.outside rfl rfl rfl rfl (by simp [State.acquire, Pc.early])
        (by simp [State.acquire]) rfl
  | @close _ site ep _ at' named =>
      have served := orderly.served
      have busy := orderly.busy
      cases site with
      | client =>
          exact orderly.outside rfl rfl rfl rfl (by simp [State.release, CloseSite.next, Pc.early])
            (by simp [State.release, CloseSite.next]) rfl
      | served | errEp =>
          have listening : state.pc.listening = true := by
            rcases at' with at' | at' <;> rw [at'] <;> rfl
          have isBusy : state.pc.busy = true := by
            rcases at' with at' | at' <;> rw [at'] <;> rfl
          have closed : state.pc.admits = false := by
            rcases at' with at' | at' <;> rw [at'] <;> rfl
          refine orderly.keep rfl rfl rfl rfl (by simp [State.release, CloseSite.next, Pc.early])
            (by simp [State.release, CloseSite.next]) (fun _ => busy isBusy) (fun _ => ?_)
          have alone : state.stored = state.passed := by
            simpa [State.unserved, closed] using served listening
          simpa [State.release, CloseSite.next, State.unserved, Pc.admits] using alone
  | reset at' =>
      have served := orderly.served
      simp only [at', Pc.listening, State.unserved, Pc.admits, forall_const] at served
      exact orderly.keep rfl rfl rfl rfl (by simp [Pc.early]) (by simp)
        (by simp [Pc.busy, Pc.listening, Pc.admits])
        (fun _ => by simpa [State.unserved, Pc.admits] using served)

end Steps

end UcxPlayground.ClientServer.Program
