import UcxPlayground.ClientServer.Fin

/-!
# The answer of the server

The server answers a client once, and nothing of the answer is gone before the client
receives it. With active messages, what a process fetches was announced to it.
-/

set_option autoImplicit false

namespace UcxPlayground.ClientServer

open Transition

/-- What a process fetches, or is about to fetch, was announced by rendezvous. -/
structure Side.Announced (side : Side) : Prop where
  desc : side.proc.amDataDesc.isRndv = true → ∃ index message,
    side.proc.amDataDesc.desc = some index ∧ side.incoming.log[index]? = some message ∧
      message.rndv = true
  request : ∀ index, side.proc.request = some (.recvAm index) → ∃ message,
    side.incoming.log[index]? = some message ∧ message.rndv = true

namespace Side.Announced

variable {cfg : Config} {side next : Side} {action : Step}

theorem grow (announced : side.Announced) {later : List Message} (proc : next.proc = side.proc)
    (log : next.incoming.log = side.incoming.log ++ later) : next.Announced := by
  have kept {index : Nat} {message : Message}
      (found : side.incoming.log[index]? = some message) :
      next.incoming.log[index]? = some message := by
    have below := (List.getElem?_eq_some_iff.mp found).1
    rw [log, List.getElem?_append_left below, found]
  constructor
  · intro rndv
    rw [proc] at rndv
    obtain ⟨index, message, named, found, announces⟩ := announced.desc rndv
    exact ⟨index, message, by rw [proc, named], kept found, announces⟩
  · intro index waits
    rw [proc] at waits
    obtain ⟨message, found, announces⟩ := announced.request index waits
    exact ⟨message, kept found, announces⟩

theorem step (announced : side.Announced) (lawful : side.incoming.Lawful cfg)
    (move : Side.Move cfg side action next) : next.Announced := by
  obtain ⟨desc, request⟩ := announced
  cases move with
  | callFailed _ filled => rcases filled with rfl | rfl <;> exact ⟨desc, nofun⟩
  | sent | waited | waitFailed | leftEager | leftRndvFailed | posted => exact ⟨desc, nofun⟩
  | received _ _ _ supply =>
      have log := (Channel.supplied supply).log
      exact ⟨by simp only [log]; exact desc, nofun⟩
  | receiving _ _ kind =>
      refine ⟨desc, ?_⟩
      rintro index ⟨⟩
      rcases kind with ⟨_, other⟩ | ⟨_, other⟩ <;> cases other
  | receiveDone _ _ supply =>
      have log := (Channel.supplied supply).log
      exact ⟨by simpa only [log] using desc, by simpa only [log] using request⟩
  | @handled message _ _ found =>
      have agreed := lawful.sized message (List.mem_of_getElem? found)
      refine ⟨fun rndv => ?_, by simpa using request⟩
      rw [Proc.ucpAmDataCb_isRndv agreed] at rndv
      exact ⟨_, message, by rw [Proc.ucpAmDataCb_rndv agreed rndv], found, rndv⟩
  | leftRndv _ _ _ rndv named =>
      refine ⟨desc, ?_⟩
      rintro index ⟨⟩
      obtain ⟨other, message, same, found, announces⟩ := desc rndv
      cases named.symm.trans same
      exact ⟨message, found, announces⟩
  | _ => exact ⟨desc, request⟩

end Side.Announced

/-- The server has not come to its FIN message. -/
def Pc.beforeFin : Pc → Bool
  | .idle | .call _ | .amWait _ | .requestWait (.data _) | .register => true
  | _ => false

/-- The server has posted its FIN message, and no call has failed since. -/
def Pc.behindFin : Pc → Bool
  | .requestWait .fin | .waitClose => true
  | .returned ret => decide (ret = 0)
  | _ => false

/-- The client has not received the FIN message. -/
def Proc.unanswered (proc : Proc) : Bool :=
  match proc.pc with
  | .requestWait .fin => decide (proc.ctx ≠ some .ok)
  | .waitClose | .returned _ => false
  | _ => true

namespace State

structure Answer (cfg : Config) (state : State) : Prop where
  once : state.toClient.log.length ≤ 1
  unsent : state.server.pc.beforeFin = true → state.toClient.log = []
  posted : state.server.pc.behindFin = true → state.toClient.log ≠ []
  untaken : cfg.sendRecvType ≠ .am → state.client.unanswered = true →
    state.toClient.taken = 0 ∧ state.toClient.next = 0
  awaited : cfg.sendRecvType = .am →
    state.client.pc = .requestWait .fin ∨ state.client.pc = .returned 0 → 1 ≤ state.client.last
  server : state.serverSide.Announced
  client : state.clientSide.Announced

section Steps

variable {cfg : Config} {state next : State} {side : Side} {action : Step}

theorem beforeFin_afterCall (cfg : Config) (ret : Int) :
    (afterCall cfg true .fin ret).beforeFin = false := by
  unfold afterCall
  split <;> rfl

theorem beforeFin_step {side after : Side} (role : side.proc.isServer = true)
    (move : Side.Move cfg side action after) (late : side.proc.pc.beforeFin = false) :
    after.proc.pc.beforeFin = false := by
  cases move with
  | handled => simpa using late
  | callFailed place | sent place | posted place | awaiting place | received place
  | receiving place | leftRndv place | leftRndvFailed place | leftEager place | registered place
  | registerFailed place => simp [place, Pc.beforeFin] at late
  | leftClose => rfl
  | @waited call _ place | @waitFailed call _ _ place =>
      cases call with
      | data => simp [place, Pc.beforeFin] at late
      | fin =>
          simp only [Proc.finish, role]
          exact beforeFin_afterCall cfg _
  | _ => exact late

theorem unsent_step {side after : Side} (role : side.proc.isServer = true)
    (move : Side.Move cfg side action after)
    (unsent : side.proc.pc.beforeFin = true → side.outgoing.log = [])
    (early : after.proc.pc.beforeFin = true) : after.outgoing.log = [] := by
  have before : side.proc.pc.beforeFin = true := by
    by_contra late
    have after := beforeFin_step role move (Bool.eq_false_iff.mpr late)
    exact absurd (early.symm.trans after) (by decide)
  cases move with
  | @sent call _ _ _ sends =>
      cases call with
      | data => simp [Proc.receives, role] at sends
      | fin =>
          have late := beforeFin_afterCall cfg 0
          simp [Proc.finish, Proc.fillRequestParam, role, late] at early
  | @posted call _ _ _ sends =>
      cases call with
      | data => simp [Proc.receives, role] at sends
      | fin => cases early
  | _ => exact unsent before

theorem posted_step {side after : Side} {base : Nat} (server : side.Server cfg base)
    (move : Side.Move cfg side action after)
    (posted : side.proc.pc.behindFin = true → side.outgoing.log ≠ [])
    (behind : after.proc.pc.behindFin = true) : after.outgoing.log ≠ [] := by
  have role := server.role
  have data (i : Nat) : (afterCall cfg true (.data i) 0).behindFin = false := by
    rw [afterCall_data]
    rcases loop_cases cfg true (i + 1) with ⟨next, place⟩ | place <;> simp [place, Pc.behindFin]
  cases move with
  | sent | posted => simp [Channel.post]
  | handled => exact posted (by simpa using behind)
  | polled | progressed | closed | failed | sendDone | receiveDone | discarded => exact posted behind
  | callFailed | waitFailed | leftRndvFailed =>
      simp [Proc.finish, afterCall_failed, Pc.behindFin] at behind
  | awaiting | registered | registerFailed => cases behind
  | leftClose place => exact posted (by rw [place]; rfl)
  | @received call _ _ _ _ _ _ receives =>
      cases call with
      | data k =>
          simp [Proc.finish, Proc.fillRequestParam, role, data] at behind
      | fin => simp [Proc.receives, role] at receives
  | @receiving call _ _ _ receives =>
      cases call with
      | data => cases behind
      | fin => simp [Proc.receives, role] at receives
  | @leftRndv call _ place =>
      have here := server.here
      rw [place] at here
      cases call with
      | data => cases behind
      | fin => exact here.elim
  | @leftEager call _ place =>
      have here := server.here
      rw [place] at here
      cases call with
      | data k => simp [Proc.finish, role, data] at behind
      | fin => exact here.elim
  | @waited call _ place =>
      cases call with
      | data k => simp [Proc.finish, role, data] at behind
      | fin => exact posted (by rw [place]; rfl)

theorem afterCall_fin (cfg : Config) (ret : Int) :
    afterCall cfg false .fin ret = .returned ret := by
  unfold afterCall
  split
  · rfl
  · simp_all

/-- Only a receive of the answer takes something from the client's channel, and the
client is behind it then. -/
theorem unanswered_step {side after : Side} {base : Nat} (client : side.Client cfg base)
    (move : Side.Move cfg side action after) (other : cfg.sendRecvType ≠ .am)
    (open' : after.proc.unanswered = true) :
    side.proc.unanswered = true ∧ after.incoming.taken = side.incoming.taken ∧
      after.incoming.next = side.incoming.next := by
  have role := client.role
  cases move with
  | handled _ kind | discarded _ kind | awaiting _ _ kind => exact absurd kind other
  | callFailed place | sent place | posted place | receiving place | leftRndv place
  | leftRndvFailed place | leftEager place | registered place | registerFailed place =>
      exact ⟨by simp [Proc.unanswered, place], rfl, rfl⟩
  | polled | progressed | closed => exact ⟨open', rfl, rfl⟩
  | @received call _ _ _ _ _ place receives =>
      cases call with
      | data => simp [Proc.receives, role] at receives
      | fin =>
          have answered := afterCall_fin cfg 0
          simp [Proc.unanswered, Proc.finish, Proc.fillRequestParam, role, answered] at open'
  | @waited call _ place | @waitFailed call _ _ place =>
      cases call with
      | data => exact ⟨by simp [Proc.unanswered, place], rfl, rfl⟩
      | fin => simp [Proc.unanswered, Proc.finish, role, afterCall_fin] at open'
  | leftClose => cases open'
  | failed _ pending | sendDone _ pending =>
      refine ⟨?_, rfl, rfl⟩
      simp only [Proc.unanswered, pending] at open' ⊢
      split at open' <;> simp_all
  | receiveDone waits pending supply =>
      obtain ⟨call, place⟩ := client.here.waits waits
      have here := client.here
      rw [place] at here
      cases call with
      | data =>
          obtain ⟨_, _, sends, _⟩ := here
          cases waits.symm.trans sends
          cases Channel.supplied supply
      | fin => simp [Proc.unanswered, place] at open'

theorem afterData_not_behind (cfg : Config) (isServer : Bool) (k : Nat) :
    ¬ (afterCall cfg isServer (.data k) 0 = .requestWait .fin ∨
      afterCall cfg isServer (.data k) 0 = .returned 0) := by
  rw [afterCall_data]
  rcases loop_cases cfg isServer (k + 1) with ⟨next, place⟩ | place <;> simp [place]

/-- With active messages the client counts the message it leaves its wait loop for. -/
theorem awaited_step {side after : Side} {base : Nat} (client : side.Client cfg base)
    (move : Side.Move cfg side action after) (kind : cfg.sendRecvType = .am)
    (awaited : side.proc.pc = .requestWait .fin ∨ side.proc.pc = .returned 0 → 1 ≤ side.proc.last)
    (behind : after.proc.pc = .requestWait .fin ∨ after.proc.pc = .returned 0) :
    1 ≤ after.proc.last := by
  have role := client.role
  cases move with
  | leftRndv | leftRndvFailed | leftEager => exact Nat.le_add_left 1 _
  | handled => simpa using awaited (by simpa using behind)
  | polled | progressed | closed | failed | sendDone | receiveDone | discarded =>
      exact awaited behind
  | callFailed | waitFailed => simp [Proc.finish, afterCall_failed] at behind
  | awaiting | registered | registerFailed => simp at behind
  | received _ _ receives | receiving _ _ receives =>
      rcases receives with ⟨other, _⟩ | ⟨other, _⟩ <;> simp [kind] at other
  | @sent call _ _ _ sends =>
      cases call with
      | data => exact absurd behind (afterData_not_behind cfg _ _)
      | fin => simp [Proc.receives, role] at sends
  | @posted call _ _ _ sends =>
      cases call with
      | data => simp at behind
      | fin => simp [Proc.receives, role] at sends
  | @waited call _ place =>
      cases call with
      | data => exact absurd behind (afterData_not_behind cfg _ _)
      | fin => exact awaited (.inl place)
  | leftClose place =>
      have here := client.here
      rw [place] at here
      exact here.elim

theorem Answer.initial (cfg : Config) : (State.initial cfg).Answer cfg where
  once := Nat.zero_le 1
  unsent _ := rfl
  posted := nofun
  untaken _ _ := ⟨rfl, rfl⟩
  awaited _ behind := by simp [State.initial, Proc.fresh] at behind
  server := ⟨nofun, nofun⟩
  client := ⟨nofun, nofun⟩

theorem Answer.connect (answer : state.Answer cfg) (session : state.Session cfg)
    (ready : state.server.pc = .idle ∨ state.server.pc = .returned 0) :
    (state.connect cfg).Answer cfg where
  once := Nat.zero_le 1
  unsent _ := rfl
  posted behind := by
    have place : (state.connect cfg).server.pc = loop cfg state.server.isServer 0 := rfl
    rw [place] at behind
    rcases loop_cases cfg state.server.isServer 0 with ⟨next, at'⟩ | at' <;>
      simp [at', Pc.behindFin] at behind
  untaken _ _ := ⟨rfl, rfl⟩
  awaited _ behind := by
    have place : (state.connect cfg).client.pc = loop cfg false 0 := rfl
    rw [place] at behind
    rcases loop_cases cfg false 0 with ⟨next, at'⟩ | at' <;> simp [at'] at behind
  server := by
    obtain ⟨_, _, quiet⟩ := session.between ready
    refine ⟨answer.server.desc, fun index waits => ?_⟩
    cases quiet.symm.trans waits
  client := ⟨nofun, nofun⟩

theorem Answer.serverMoves (answer : state.Answer cfg) (session : state.Session cfg)
    (move : Side.Move cfg state.serverSide action side) : (state.withServer side).Answer cfg := by
  refine ⟨?_, unsent_step session.server.role move answer.unsent,
    posted_step session.server move answer.posted, fun other open' => ?_, answer.awaited,
    answer.server.step session.toServer move, ?_⟩
  all_goals rcases posts_only_fin session.server move with same | ⟨place, message, posted⟩
  · rw [show (state.withServer side).toClient = state.toClient from same]
    exact answer.once
  · rw [show (state.withServer side).toClient = state.toClient.post message from posted]
    have empty := answer.unsent (by rw [show state.server.pc = .call .fin from place]; rfl)
    simp [Channel.post, empty]
  · rw [show (state.withServer side).toClient = state.toClient from same]
    exact answer.untaken other open'
  · rw [show (state.withServer side).toClient = state.toClient.post message from posted]
    exact answer.untaken other open'
  · have log := congrArg Channel.log same
    exact answer.client.grow rfl (log.trans (List.append_nil _).symm)
  · exact answer.client.grow rfl (congrArg Channel.log posted)

theorem Answer.clientMoves (answer : state.Answer cfg) (session : state.Session cfg)
    (move : Side.Move cfg state.clientSide action side) : (state.withClient side).Answer cfg := by
  have log := move.incoming.1
  refine ⟨?_, ?_, ?_, fun other open' => ?_, fun kind => awaited_step session.client move kind
    (answer.awaited kind), ?_, answer.client.step session.toClient move⟩
  · rw [show (state.withClient side).toClient.log = state.toClient.log from log]
    exact answer.once
  · intro early
    exact log.trans (answer.unsent early)
  · intro behind
    rw [show (state.withClient side).toClient.log = state.toClient.log from log]
    exact answer.posted behind
  · obtain ⟨before, taken, next⟩ := unanswered_step session.client move other open'
    obtain ⟨untaken, unread⟩ := answer.untaken other before
    exact ⟨taken.trans untaken, next.trans unread⟩
  · rcases move.outgoing with same | ⟨_, message, _, _, _, _, posted⟩
    · exact answer.server.grow rfl ((congrArg Channel.log same).trans (List.append_nil _).symm)
    · exact answer.server.grow rfl (congrArg Channel.log posted)

theorem Answer.step {action : Action} (answer : state.Answer cfg) (session : state.Session cfg)
    (stepped : ClientServer.step cfg state action = some next) : next.Answer cfg := by
  cases step_move stepped with
  | connected ready => exact answer.connect session ready
  | server move => exact answer.serverMoves session move
  | client move => exact answer.clientMoves session move

theorem Answer.reached {actions : List Action} (sized : cfg.Sized)
    (reached : run (ClientServer.step cfg) (State.initial cfg) actions = some state) :
    state.Session cfg ∧ state.Answer cfg :=
  run_preserves (fun state => state.Session cfg ∧ state.Answer cfg)
    (fun _ _ _ both stepped => ⟨both.1.step sized stepped, both.2.step both.1 stepped⟩)
    ⟨Session.initial cfg, Answer.initial cfg⟩ reached

end Steps

end State

end UcxPlayground.ClientServer
