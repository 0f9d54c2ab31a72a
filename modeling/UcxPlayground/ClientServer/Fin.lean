import UcxPlayground.ClientServer.Session

/-!
# The FIN message

The server's FIN message tells the client that everything was delivered. With
active messages the client may progress its worker, and so lose the message,
before it has registered its handler.
-/

set_option autoImplicit false

namespace UcxPlayground.ClientServer

open Transition

namespace State

/-- The server posted its FIN message, the only one it sends to a client. -/
def FinPosted (state : State) : Prop :=
  state.toClient.log ≠ []

def AllReturned (cfg : Config) (state : State) : Prop :=
  ∀ i : Nat, (i : Int) < cfg.numIterations →
    ∃ finished ∈ state.server.finished,
      finished.client = state.client.client ∧ finished.call = .data i ∧ finished.ret = 0

/-- No data message is underway: none was only posted, or only announced. -/
def NoneUnderway (cfg : Config) (state : State) : Prop :=
  match cfg.sendRecvType with
  | .stream => state.toServer.taken = state.toServer.stream.length
  | .tag => state.toServer.next = state.toServer.log.length
  | .am => state.toServer.next = state.toServer.log.length ∧ state.toServer.AllFetched

section Delivery

variable {cfg : Config} {base : Nat} {state : State} {side next : Side} {action : Step}

theorem posts_only_fin (server : side.Server cfg base) (move : Side.Move cfg side action next) :
    next.outgoing = side.outgoing ∨
      side.proc.pc = .call .fin ∧ ∃ message, next.outgoing = side.outgoing.post message := by
  rcases move.outgoing with same | ⟨call, message, place, sends, _, _, posted⟩
  · exact .inl same
  · cases call with
    | data => simp [Proc.receives, server.role] at sends
    | fin => exact .inr ⟨place, message, posted⟩

theorem Session.allReturned (session : state.Session cfg)
    (complete : state.serverSide.Complete cfg state.base) : state.AllReturned cfg := by
  intro i below
  obtain ⟨iov, member⟩ := complete.results i (Int.lt_toNat.mpr below)
  exact ⟨_, member, session.together, rfl, rfl⟩

theorem Session.noneUnderway (session : state.Session cfg)
    (complete : state.serverSide.Complete cfg state.base) : state.NoneUnderway cfg := by
  have length : state.toServer.log.length = state.base + cfg.iterations := complete.posted
  have received := complete.received
  unfold NoneUnderway
  cases kind : cfg.sendRecvType with
  | stream =>
      simp only [Side.Received, kind] at received
      change state.toServer.taken = state.toServer.stream.length
      rw [session.toServer.length_stream, length]
      exact received
  | tag =>
      simp only [Side.Received, kind] at received
      change state.toServer.next = state.toServer.log.length
      rw [length]
      exact received
  | am =>
      simp only [Side.Received, kind] at received
      change state.toServer.next = state.toServer.log.length ∧ state.toServer.AllFetched
      have ordered : state.server.last ≤ state.toServer.next := session.server.ordered kind
      have bound := session.toServer.bound
      have last : state.server.last = state.base + cfg.iterations := received
      refine ⟨by omega, ?_⟩
      intro index message found rndv
      rcases session.client.fetched index message found rndv with member | ends
      · exact member
      · exact complete.fetched index message ends found rndv

/-- When the client's `client_server_do_work` returns 0, the server has received
every message of the client and has posted the FIN message. -/
theorem success_acknowledges_delivery {actions : List Action}
    (positive : 0 < cfg.testStringLength)
    (reached : run (step cfg) (State.initial cfg) actions = some state)
    (success : state.client.pc = .returned 0) :
    state.AllReturned cfg ∧ state.FinPosted ∧ state.NoneUnderway cfg := by
  have session := Session.reached (fun _ => Nat.mul_pos cfg.iovCnt_pos positive) reached
  have here := session.client.here
  rw [show state.clientSide.proc.pc = .returned 0 from success] at here
  have answered : state.toClient.log ≠ [] := (here.2 rfl).2
  have complete := session.complete answered
  exact ⟨session.allReturned complete, answered, session.noneUnderway complete⟩

def oneByte (sendRecvType : SendRecvType) : Config where
  sendRecvType := sendRecvType
  numIterations := 1
  testStringLength := 1
  iovCnt := 1
  iovCnt_pos := Nat.one_pos
  testString _ _ _ := 65

def streamSession : List Action :=
  [.connect, .client (.communicate (.null 1) false), .server (.communicate .request false),
    .server .poll, .server (.complete .ok), .server .progressed, .server (.leave (.null 0)),
    .server (.communicate (.null 1) false), .client (.communicate (.null 1) false)]

theorem streamSession_acknowledges_delivery :
    ∃ state, run (step (oneByte .stream)) (State.initial (oneByte .stream)) streamSession =
        some state ∧
      state.client.pc = .returned 0 ∧
      state.AllReturned (oneByte .stream) ∧ state.FinPosted ∧
      state.NoneUnderway (oneByte .stream) :=
  ⟨_, rfl, by decide, success_acknowledges_delivery (by decide)
    (show run (step (oneByte .stream)) _ streamSession = _ from rfl) (by decide)⟩

end Delivery

section Handler

variable {cfg : Config} {state next : State} {action : Action}

def NoneDiscarded (state : State) : Prop :=
  ∀ client ∈ state.client :: state.past, client.discarded = []

/-- The FIN message is not discarded, and once it was handled the client's final
`send_recv_am` leaves its wait loop. -/
def FinKept (state : State) : Prop :=
  state.NoneDiscarded ∧
    (state.client.pc = .amWait .fin → 0 < state.toClient.next → state.client.waiting = false)

/-- The client is not in `request_wait` for the send of its last iteration when
an active message is handled. -/
def BehindLastWait (cfg : Config) (state : State) : Action → Prop
  | .client .arrive => state.client.pc ≠ .requestWait (.data (cfg.iterations - 1))
  | _ => True

instance (cfg : Config) (state : State) : ∀ action, Decidable (BehindLastWait cfg state action)
  | .client .arrive =>
      inferInstanceAs (Decidable (state.client.pc ≠ .requestWait (.data (cfg.iterations - 1))))
  | .connect | .server _ | .client (.communicate ..) | .client .outOfMemory | .client .poll
  | .client (.complete _) | .client .peerError | .client .progressed | .client (.leave _)
  | .client (.register _) => .isTrue trivial

theorem discards {side after : Side} {step : Step} (move : Side.Move cfg side step after) :
    (after.proc.discarded = side.proc.discarded ∧
        ¬ (step = .arrive ∧ side.proc.handler = false)) ∨
      step = .arrive ∧ side.proc.inProgress = true ∧ side.incoming.log ≠ [] ∧
        cfg.sendRecvType = .am ∧ side.proc.handler = false ∧
        after.proc.discarded = side.incoming.next :: side.proc.discarded := by
  cases move with
  | handled _ _ _ registered => exact .inl ⟨by simp, by simp [registered]⟩
  | discarded inside kind found unhandled =>
      have answered : side.incoming.log ≠ [] := by
        intro empty
        simp [empty] at found
      exact .inr ⟨rfl, inside, answered, kind, unhandled, rfl⟩
  | callFailed _ filled shape =>
      rcases filled with rfl | rfl
      all_goals
        refine .inl ⟨rfl, ?_⟩
        rcases shape with rfl | ⟨_, _, rfl⟩ <;> simp
  | _ => exact .inl ⟨rfl, by simp⟩

theorem Session.client_place (session : state.Session cfg) (inside : state.client.inProgress = true)
    (answered : state.toClient.log ≠ []) :
    state.client.pc = .requestWait (.data (cfg.iterations - 1)) ∨
      (cfg.sendRecvType = .am → state.client.handler = true) := by
  have posted : state.toServer.log.length = state.base + cfg.iterations :=
    (session.complete answered).posted
  have here : state.clientSide.ClientAt cfg state.base state.client.pc := session.client.here
  obtain ⟨call, place | place⟩ := session.client.waits inside
  · have place : state.client.pc = .amWait call := place
    rw [place] at here
    cases call with
    | data => exact here.elim
    | fin =>
        obtain ⟨_, _, _, _, handler⟩ := here
        exact .inr fun _ => handler
  · have place : state.client.pc = .requestWait call := place
    rw [place] at here
    cases call with
    | data k =>
        obtain ⟨below, length, _⟩ := here
        have length : state.toServer.log.length = state.base + k + 1 := length
        obtain rfl : k = cfg.iterations - 1 := by omega
        exact .inl place
    | fin =>
        obtain ⟨_, handler, _⟩ := here
        exact .inr handler

theorem Session.unregistered (session : state.Session cfg) {k : Nat}
    (place : state.client.pc = .requestWait (.data k)) : state.client.handler = false := by
  have here : state.clientSide.ClientAt cfg state.base state.client.pc := session.client.here
  rw [place] at here
  obtain ⟨_, _, _, _, unregistered, _⟩ := here
  exact unregistered

theorem Session.finKept (session : state.Session cfg) (kind : cfg.sendRecvType = .am)
    (kept : state.NoneDiscarded) : state.FinKept := by
  refine ⟨kept, ?_⟩
  intro place handled
  have here : state.clientSide.ClientAt cfg state.base state.client.pc := session.client.here
  rw [place] at here
  obtain ⟨_, _, _, last, _⟩ := here
  have last : state.client.last = 0 := last
  have counted : state.client.amDataDesc.complete + state.client.discarded.length =
      state.toClient.next := session.client.counted kind
  rw [kept state.client List.mem_cons_self, List.length_nil] at counted
  simp only [Proc.waiting, place, last, beq_eq_false_iff_ne]
  omega

theorem NoneDiscarded.step (kept : state.NoneDiscarded) (session : state.Session cfg)
    (behind : BehindLastWait cfg state action)
    (stepped : ClientServer.step cfg state action = some next) : next.NoneDiscarded := by
  cases step_move stepped with
  | connected =>
      intro client member
      rcases List.mem_cons.mp member with rfl | earlier
      · rfl
      · exact kept client earlier
  | server move => exact kept
  | @client action side move =>
      have own : side.proc.discarded = [] := by
        rcases discards move with ⟨same, _⟩ | ⟨rfl, inside, answered, kind, unhandled, _⟩
        · rw [same]
          exact kept state.client List.mem_cons_self
        · have unregistered : state.client.handler = false := unhandled
          rcases session.client_place inside answered with place | registered
          · exact absurd place behind
          · simp [registered kind] at unregistered
      intro client member
      rcases List.mem_cons.mp member with rfl | earlier
      · exact own
      · exact kept client (List.mem_cons_of_mem _ earlier)

theorem discarded_of_lastWait (session : state.Session cfg)
    (during : ¬ BehindLastWait cfg state action)
    (stepped : ClientServer.step cfg state action = some next) : ¬ next.NoneDiscarded := by
  intro kept
  cases step_move stepped with
  | connected | server => exact during trivial
  | @client action side move =>
      have none : side.proc.discarded = [] := kept side.proc List.mem_cons_self
      rcases discards move with ⟨_, other⟩ | ⟨_, _, _, _, _, lost⟩
      · apply during
        unfold BehindLastWait
        split
        · rename_i arrives
          cases arrives
          intro place
          exact other ⟨rfl, session.unregistered place⟩
        · trivial
      · simp [lost] at none

theorem discarded_step (lost : ¬ state.NoneDiscarded)
    (stepped : ClientServer.step cfg state action = some next) : ¬ next.NoneDiscarded := by
  intro kept
  apply lost
  cases step_move stepped with
  | connected => exact fun client member => kept client (List.mem_cons_of_mem _ member)
  | server => exact kept
  | @client action side move =>
      have none : side.proc.discarded = [] := kept side.proc List.mem_cons_self
      intro client member
      rcases List.mem_cons.mp member with rfl | earlier
      · rcases discards move with ⟨same, _⟩ | ⟨_, _, _, _, _, lost⟩
        · exact same.symm.trans none
        · simp [lost] at none
      · exact kept client (List.mem_cons_of_mem _ earlier)

/-- With active messages, no FIN message is lost exactly when none is handled
while its client waits for the send of its last iteration. -/
theorem finKept_iff_along (kind : cfg.sendRecvType = .am) {actions : List Action}
    (reached : run (step cfg) (State.initial cfg) actions = some state) :
    state.FinKept ↔ Along (step cfg) (BehindLastWait cfg) (State.initial cfg) actions := by
  have sized : cfg.Sized := fun other => by simp [kind] at other
  apply property_iff_along (fun state => state.Session cfg ∧ state.NoneDiscarded)
    (fun state => state.Session cfg ∧ ¬ state.NoneDiscarded) _ _ _ _ _ _ reached
  · intro state action next held behind stepped
    obtain ⟨session, kept⟩ := held
    exact ⟨session.step sized stepped, kept.step session behind stepped⟩
  · intro state action next held during stepped
    obtain ⟨session, _⟩ := held
    exact ⟨session.step sized stepped, discarded_of_lastWait session during stepped⟩
  · intro state action next held stepped
    obtain ⟨session, lost⟩ := held
    exact ⟨session.step sized stepped, discarded_step lost stepped⟩
  · intro state held
    obtain ⟨session, kept⟩ := held
    exact session.finKept kind kept
  · intro state held kept
    obtain ⟨_, lost⟩ := held
    exact lost kept.1
  · refine ⟨Session.initial cfg, ?_⟩
    intro client member
    rcases List.mem_cons.mp member with rfl | none
    · rfl
    · simp [State.initial] at none

/-- The send of the only message is pending while the server receives it and
posts the FIN message. -/
def pendingSend : List Action :=
  [.connect, .client (.communicate .request false), .client .poll,
    .server (.communicate .request false), .server .poll, .server .arrive, .server .progressed,
    .server (.leave .request), .server (.communicate (.null 0) false)]

theorem pendingSend_loses_fin :
    ∃ state, run (step (oneByte .am)) (State.initial (oneByte .am))
        (pendingSend ++ [.client .arrive]) = some state ∧ ¬ state.FinKept :=
  ⟨_, rfl, fun kept => absurd (kept.1 _ List.mem_cons_self) (by decide)⟩

/-- The client's callback is called first, and the FIN message handled later. -/
def finLater : List Action :=
  pendingSend ++ [.client (.complete .ok), .client .progressed, .client (.leave (.null 0)),
    .client (.register .ok), .client (.communicate .request false), .client .poll, .client .arrive]

theorem finLater_keeps_fin :
    ∃ state, run (step (oneByte .am)) (State.initial (oneByte .am)) finLater = some state ∧
      state.FinKept :=
  ⟨_, rfl, (finKept_iff_along rfl
    (show run (step (oneByte .am)) _ finLater = _ from rfl)).mpr (by decide)⟩

end Handler

end State

end UcxPlayground.ClientServer
