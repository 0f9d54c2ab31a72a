import UcxPlayground.ClientServer.Client

/-!
# The session invariant

A session is a client together with the server that works with it. The
invariant holds in every state the two processes reach, with any number of
clients before, and whatever UCX makes of their calls.
-/

set_option autoImplicit false

namespace UcxPlayground.ClientServer

open Transition

section Idle

variable {cfg : Config} {side next : Side} {action : Step}

theorem loop_ne_idle (cfg : Config) (isServer : Bool) (i : Nat) : loop cfg isServer i ≠ .idle := by
  rcases loop_cases cfg isServer i with ⟨_, next⟩ | next <;> simp [next]

theorem afterCall_ne_idle (cfg : Config) (isServer : Bool) (call : Call) (ret : Int) :
    afterCall cfg isServer call ret ≠ .idle := by
  rcases afterCall_cases cfg isServer call ret with ⟨_, next⟩ | next | next | ⟨_, next⟩ <;>
    simp [next]

theorem Side.Move.idle_iff (move : Move cfg side action next) :
    next.proc.pc = .idle ↔ side.proc.pc = .idle := by
  have finish (proc : Proc) (call : Call) (ret : Int) : (proc.finish cfg call ret).pc ≠ .idle :=
    afterCall_ne_idle cfg _ call ret
  cases move with
  | handled => simp
  | polled | progressed | closed | failed | sendDone | receiveDone | discarded => exact Iff.rfl
  | callFailed place | sent place | received place | leftRndvFailed place | leftEager place
  | waited place | waitFailed place => simp [finish, place]
  | posted place | awaiting place | receiving place | leftRndv place | leftClose place
  | registered place | registerFailed place => simp [place]

end Idle

namespace State

structure Session (cfg : Config) (state : State) : Prop where
  server : state.serverSide.Server cfg state.base
  client : state.clientSide.Client cfg state.base
  together : state.server.client = state.client.client
  toServer : state.toServer.Lawful cfg
  toClient : state.toClient.Lawful cfg
  idle : state.server.pc = .idle → state.client.pc = .idle

variable {cfg : Config} {state next : State}

theorem Session.initial (cfg : Config) : (State.initial cfg).Session cfg where
  server := {
    role := rfl
    handler := by intro kind; simp [State.initial, serverSide, Proc.fresh, kind]
    counted := fun _ => rfl
    ordered := fun _ => Nat.le_refl _
    latest := by intro _ index message ends; simp [State.initial, serverSide, Channel.empty] at ends
    here := ⟨rfl, rfl, rfl, rfl⟩ }
  client := {
    role := rfl
    counted := fun _ => rfl
    ordered := fun _ => Nat.le_refl _
    contents := by
      intro k message found
      simp [State.initial, clientSide, Channel.empty] at found
    capped := Nat.zero_le _
    fetched := by
      intro index message found
      simp [State.initial, clientSide, Channel.empty] at found
    waits := by simp [State.initial, clientSide, Proc.fresh]
    here := rfl }
  together := rfl
  toServer := .empty cfg
  toClient := .empty cfg
  idle := fun _ => rfl

/-- Between two clients everything the earlier ones sent has been received. -/
theorem Session.between (session : state.Session cfg)
    (ready : state.server.pc = .idle ∨ state.server.pc = .returned 0) :
    state.serverSide.Received cfg state.toServer.log.length ∧ state.toServer.AllFetched ∧
      state.server.request = none := by
  have here := session.server.here
  rcases ready with place | place
  · rw [show state.serverSide.proc.pc = .idle from place] at here
    obtain ⟨empty, _, last, quiet⟩ := here
    have empty : state.toServer = .empty := empty
    refine ⟨?_, ?_, quiet⟩
    · have last : state.server.last = 0 := last
      unfold Side.Received
      cases cfg.sendRecvType <;> simp [empty, Channel.empty, last, serverSide]
    · intro index message found
      simp [empty, Channel.empty] at found
  · rw [show state.serverSide.proc.pc = .returned 0 from place] at here
    obtain ⟨quiet, complete⟩ := here
    have complete := complete (.inl rfl)
    refine ⟨?_, ?_, quiet⟩
    · rw [show state.toServer.log.length = _ from complete.posted]
      exact complete.received
    · intro index message found rndv
      rcases session.client.fetched index message found rndv with member | last
      · exact member
      · exact complete.fetched index message last found rndv

theorem Session.connect (session : state.Session cfg)
    (ready : state.server.pc = .idle ∨ state.server.pc = .returned 0) :
    (state.connect cfg).Session cfg := by
  obtain ⟨received, fetched, quiet⟩ := session.between ready
  have lastFetched : (state.connect cfg).serverSide.LastFetched :=
    fun index message _ found rndv => fetched index message found rndv
  refine ⟨⟨session.server.role, session.server.handler, session.server.counted,
    session.server.ordered, session.server.latest, ?_⟩, ⟨rfl, fun _ => rfl, fun _ => Nat.le_refl _,
    fun k message found => ?_, Nat.le_add_right _ _, fetched.fetchedBut, by
      simp [State.connect, clientSide, Proc.clientServerDoWork, Proc.fresh], ?_⟩, rfl,
    session.toServer, .empty cfg, fun idle => absurd idle (loop_ne_idle cfg _ 0)⟩
  · have role : state.server.isServer = true := session.server.role
    change (state.connect cfg).serverSide.ServerAt cfg _ (loop cfg state.server.isServer 0)
    rw [role, loop_eq]
    split
    · rename_i more
      exact ⟨more, received, fun _ below => absurd below (Nat.not_lt_zero _), quiet, rfl⟩
    · obtain none : cfg.iterations = 0 := by omega
      rw [afterLoop_server]
      refine ⟨⟨?_, ?_, lastFetched, ?_⟩, quiet⟩
      · rw [none]
        rfl
      · rw [none]
        exact received
      · rw [none]
        exact fun _ below => absurd below (Nat.not_lt_zero _)
  · have beyond : state.toServer.log[state.toServer.log.length + k]? = none := by simp
    exact absurd (beyond.symm.trans found) (by simp)
  · change (state.connect cfg).clientSide.ClientAt cfg _ (loop cfg false 0)
    rw [loop_eq]
    split
    · rename_i more
      exact ⟨more, rfl, fetched, rfl, rfl, rfl⟩
    · obtain none : cfg.iterations = 0 := by omega
      have posted : (state.connect cfg).clientSide.Posted cfg (state.connect cfg).base := by
        rw [Side.Posted, none]
        rfl
      unfold afterLoop
      split
      · exact ⟨posted, rfl, rfl, rfl⟩
      · rename_i other
        exact ⟨posted, rfl, rfl, fun kind => absurd ⟨rfl, kind⟩ other⟩

theorem Session.serverMoves (session : state.Session cfg) (sized : cfg.Sized) {action : Step}
    {side : Side} (move : Side.Move cfg state.serverSide action side) :
    (state.withServer side).Session cfg := by
  have capped : state.toServer.log.length ≤ state.base + cfg.iterations := session.client.capped
  have lawful := move.lawful session.toServer session.toClient
  refine ⟨session.server.step move sized session.toServer lawful.1 capped, ?_,
    move.identity.2.trans session.together, lawful.1, lawful.2,
    fun idle => session.idle (move.idle_iff.mp idle)⟩
  refine session.client.served ⟨rfl, move.incoming.1, move.incoming.2, ?_, ?_⟩
  · rcases move.outgoing with same | ⟨_, _, _, _, _, _, posted⟩
    · rw [show (state.withServer side).clientSide.incoming = _ from same]
      rfl
    · rw [show (state.withServer side).clientSide.incoming = _ from posted]
      rfl
  · intro answered
    rcases move.outgoing with same | ⟨_, _, _, _, _, _, posted⟩
    · rw [show (state.withServer side).clientSide.incoming = _ from same]
      exact answered
    · rw [show (state.withServer side).clientSide.incoming = _ from posted]
      simp [Channel.post]

theorem Session.clientMoves (session : state.Session cfg) (sized : cfg.Sized) {action : Step}
    {side : Side} (move : Side.Move cfg state.clientSide action side) :
    (state.withClient side).Session cfg := by
  have lawful := move.lawful session.toClient session.toServer
  refine ⟨?_, session.client.step move sized session.toClient,
    session.together.trans move.identity.2.symm, lawful.2, lawful.1,
    fun idle => move.idle_iff.mpr (session.idle idle)⟩
  refine session.server.peer session.toServer ⟨rfl, ?_, move.incoming.1⟩
  rcases session.client.outgoing move with
    same | ⟨k, message, place, below, length, _, _, posted⟩
  · exact ⟨state.toServer.log, same, .inl rfl⟩
  · refine ⟨_, posted, .inr ⟨message, rfl, ?_, ?_⟩⟩
    · rw [show state.serverSide.incoming.log.length = _ from length]
      omega
    · intro idle
      simp [show state.clientSide.proc.pc = .idle from session.idle idle] at place

theorem Session.step {action : Action} (session : state.Session cfg) (sized : cfg.Sized)
    (stepped : step cfg state action = some next) : next.Session cfg := by
  cases step_move stepped with
  | connected ready => exact session.connect ready
  | server move => exact session.serverMoves sized move
  | client move => exact session.clientMoves sized move

theorem Session.reached {actions : List Action} (sized : cfg.Sized)
    (reached : run (ClientServer.step cfg) (State.initial cfg) actions = some state) :
    state.Session cfg :=
  run_preserves (State.Session cfg) (fun _ _ _ session stepped => session.step sized stepped)
    (Session.initial cfg) reached

/-- The server posts its FIN message behind all its receives, wherever it has
come to since. -/
theorem Session.complete (session : state.Session cfg) (answered : state.toClient.log ≠ []) :
    state.serverSide.Complete cfg state.base := by
  rcases session.server.here.silent_or_complete with silent | complete
  · exact absurd silent answered
  · exact complete

end State

end UcxPlayground.ClientServer
