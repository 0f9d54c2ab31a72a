import UcxPlayground.ClientServer.Answer

/-!
# Completion

As long as no call has failed, the client and the server can still come to the end of
`client_server_do_work`: the client on its own up to the FIN message, then the server,
then the client.
-/

set_option autoImplicit false

namespace UcxPlayground.ClientServer

open Transition

/-- Steps of one process. -/
abbrev Side.Leads (cfg : Config) (side next : Side) : Prop :=
  Transition.Leads (Side.step cfg) (fun _ => True) side next

/-- Steps of the two processes, without another client. -/
abbrev State.Leads (cfg : Config) (state next : State) : Prop :=
  Transition.Leads (step cfg) (· ≠ .connect) state next

def Channel.Eager (channel : Channel) : Prop :=
  ∀ message ∈ channel.log, message.rndv = false

instance (channel : Channel) : Decidable channel.Eager :=
  inferInstanceAs (Decidable (∀ message ∈ channel.log, message.rndv = false))

/-- No call of the process has failed. -/
structure Proc.Well (proc : Proc) : Prop where
  returned : ∀ ret, proc.pc = .returned ret → ret = 0
  ctx : ∀ code, proc.ctx ≠ some (.error code)

theorem Proc.well_awaiting {proc : Proc} {call : Call} (place : proc.pc = .amWait call)
    (pending : proc.ctx = none) : proc.Well where
  returned ret returns := by
    rw [place] at returns
    cases returns
  ctx code failed := by
    rw [pending] at failed
    cases failed

namespace Side

section Paths

variable {cfg : Config} {side : Side} {call : Call}

theorem communicate_sends (place : side.proc.pc = .call call)
    (sends : side.proc.receives call = false) :
    side.step cfg (.communicate (.null 0) false) = some { side with
      outgoing := side.outgoing.post (side.message cfg call false)
      proc := (side.proc.fillRequestParam cfg call).finish cfg call 0 } := by
  have filled : (side.proc.fillRequestParam cfg call).receives call = false := by
    cases call <;> exact sends
  simp only [step, place, clientServerCommunication]
  cases cfg.sendRecvType <;>
    simp [sendRecvStream, sendRecvTag, sendRecvAm, filled, send, message_of_fill false sends]

theorem communicate_receives {request : Request} {incoming : Channel} {data : List Bytes.Byte}
    (place : side.proc.pc = .call call) (receives : side.proc.receives call = true)
    (kind : Receives cfg request)
    (supply : side.incoming.supply cfg request = some (incoming, data)) :
    side.step cfg (.communicate (.null 0) false) = some { side with
      incoming := incoming
      proc := { side.proc.fillRequestParam cfg call with
        iov := scatter cfg.testStringLength cfg.iovCnt data }.finish cfg call 0 } := by
  have filled : (side.proc.fillRequestParam cfg call).receives call = true := by
    cases call <;> exact receives
  simp only [step, place, clientServerCommunication]
  rcases kind with ⟨kind, rfl⟩ | ⟨kind, rfl⟩ <;>
    simp [kind, sendRecvStream, sendRecvTag, filled, receive, deliver, supply]

theorem communicate_awaits (place : side.proc.pc = .call call)
    (receives : side.proc.receives call = true) (kind : cfg.sendRecvType = .am) :
    side.step cfg (.communicate (.null 0) false) = some { side with
      proc := { side.proc.fillRequestParam cfg call with
        amDataDesc := { side.proc.amDataDesc with recvBuf := some (side.proc.serial + 1) }
        pc := .amWait call } } := by
  have filled : (side.proc.fillRequestParam cfg call).receives call = true := by
    cases call <;> exact receives
  simp only [step, place, clientServerCommunication, kind, sendRecvAm, filled]
  rfl

/-- The process inside `ucp_worker_progress`. -/
def inside (side : Side) (inProgress : Bool) : Side :=
  { side with proc := { side.proc with inProgress := inProgress } }

theorem enters (waiting : side.proc.waiting = true) : side.Leads cfg (side.inside true) := by
  cases inProgress : side.proc.inProgress with
  | true =>
      have same : side.inside true = side := by simp [inside, ← inProgress]
      rw [same]
      exact .refl side
  | false =>
      have stepped : side.step cfg .poll = some (side.inside true) := by
        simp [step, inProgress, waiting, inside]
      exact .of_step trivial stepped

theorem comes_back (cfg : Config) (side : Side) : side.Leads cfg (side.inside false) := by
  cases inProgress : side.proc.inProgress with
  | false =>
      have same : side.inside false = side := by simp [inside, ← inProgress]
      rw [same]
      exact .refl side
  | true =>
      have stepped : side.step cfg .progressed = some (side.inside false) := by
        simp [step, inProgress, inside]
      exact .of_step trivial stepped

/-- The process gets through a call of `client_server_communication`. -/
structure Passes (cfg : Config) (side : Side) (call : Call) (next : Side) : Prop where
  leads : side.Leads cfg next
  pc : next.proc.pc = afterCall cfg side.proc.isServer call 0
  ctx : ∀ code, next.proc.ctx ≠ some (.error code)
  discarded : next.proc.discarded = side.proc.discarded
  incoming : next.incoming.log = side.incoming.log
  outgoing : next.outgoing = side.outgoing ∨
    ∃ message, message.rndv = false ∧ next.outgoing = side.outgoing.post message

theorem passes_send (place : side.proc.pc = .call call)
    (sends : side.proc.receives call = false) : ∃ next, side.Passes cfg call next :=
  ⟨_, .of_step trivial (communicate_sends place sends), rfl, fun _ same => (by cases same), rfl,
    rfl, .inr ⟨_, rfl, rfl⟩⟩

theorem passes_receive {request : Request} (place : side.proc.pc = .call call)
    (receives : side.proc.receives call = true) (kind : Receives cfg request)
    (supply : (side.incoming.supply cfg request).isSome) : ∃ next, side.Passes cfg call next := by
  obtain ⟨⟨incoming, data⟩, supply⟩ := Option.isSome_iff_exists.mp supply
  exact ⟨_, .of_step trivial (communicate_receives place receives kind supply), rfl,
    fun _ same => (by cases same), rfl, (Channel.supplied supply).log, .inl rfl⟩

/-- The wait loop of `request_wait` ends when the callback has been called. -/
theorem passes_done (place : side.proc.pc = .requestWait call) (done : side.proc.ctx = some .ok) :
    ∃ next, side.Passes cfg call next := by
  have leaves : (side.inside false).step cfg (.leave (.null 0)) = some { side with
      proc := { side.proc with inProgress := false }.finish cfg call 0 } := by
    simp [step, inside, leave, place, done, Proc.waiting]
  exact ⟨_, (comes_back cfg side).trans (.of_step trivial leaves), rfl, by simp [Proc.finish, done],
    rfl, rfl, .inl rfl⟩

theorem passes_wait {request : Request} {after : Side} (place : side.proc.pc = .requestWait call)
    (waits : side.proc.request = some request) (pending : side.proc.ctx = none)
    (completes : (side.inside true).completeRequest cfg request .ok = some after)
    (proc : ∃ iov, after.proc = { side.proc with inProgress := true, iov := iov, ctx := some .ok })
    (incoming : after.incoming.log = side.incoming.log)
    (outgoing : after.outgoing = side.outgoing) :
    ∃ next, side.Passes cfg call next := by
  have waiting : side.proc.waiting = true := by simp [Proc.waiting, place, pending]
  have called : (side.inside true).step cfg (.complete .ok) = some after := by
    simp only [step, show (side.inside true).proc.request = some request from waits]
    rw [if_pos ⟨rfl, pending⟩]
    exact completes
  obtain ⟨iov, proc⟩ := proc
  obtain ⟨next, passes⟩ := @passes_done cfg after call (by rw [proc, place]) (by rw [proc])
  refine ⟨next, (enters waiting).trans ((Leads.of_step trivial called).trans passes.leads), ?_,
    passes.ctx, ?_, passes.incoming.trans incoming, ?_⟩
  · rw [passes.pc, proc]
  · rw [passes.discarded, proc]
  · rw [← outgoing]
    exact passes.outgoing

theorem passes_sending {index : Nat} (place : side.proc.pc = .requestWait call)
    (waits : side.proc.request = some (.send index)) (pending : side.proc.ctx = none)
    (eager : side.outgoing.Eager) : ∃ next, side.Passes cfg call next := by
  refine @passes_wait cfg side call _ { side with
    proc := { side.proc with inProgress := true, ctx := some .ok } } place waits pending ?_
    ⟨_, rfl⟩ rfl rfl
  have sent : ∀ message, side.outgoing.log[index]? = some message → message.rndv = true →
      index ∈ side.outgoing.fetched := by
    intro message found rndv
    simp [eager message (List.mem_of_getElem? found)] at rndv
  simp only [completeRequest]
  exact if_pos sent

theorem passes_receiving {request : Request} (place : side.proc.pc = .requestWait call)
    (waits : side.proc.request = some request) (pending : side.proc.ctx = none)
    (supply : (side.incoming.supply cfg request).isSome) : ∃ next, side.Passes cfg call next := by
  obtain ⟨⟨incoming, data⟩, supply⟩ := Option.isSome_iff_exists.mp supply
  refine @passes_wait cfg side call _ { side with
    incoming := incoming
    proc := { side.proc with
      inProgress := true
      iov := scatter cfg.testStringLength cfg.iovCnt data
      ctx := some .ok } } place waits pending ?_ ⟨_, rfl⟩ (Channel.supplied supply).log rfl
  cases request with
  | send => simp [Channel.supply] at supply
  | recvStream | recvTag | recvAm => simp [completeRequest, deliver, inside, supply]

theorem afterAmWait_eager {result : StatusPtr} (eager : side.proc.amDataDesc.isRndv = false) :
    side.afterAmWait cfg call result = some { side with
      proc := { side.proc with last := side.proc.last + 1 }.finish cfg call 0 } := by
  unfold afterAmWait
  exact if_neg (by simp [eager])

/-- The wait loop of `send_recv_am` ends when `ucp_am_data_cb` has been called. -/
theorem passes_called (place : side.proc.pc = .amWait call)
    (called : side.proc.last ≠ side.proc.amDataDesc.complete)
    (eager : side.proc.amDataDesc.isRndv = false)
    (ctx : ∀ code, side.proc.ctx ≠ some (.error code)) : ∃ next, side.Passes cfg call next := by
  have leaves : (side.inside false).step cfg (.leave (.null 0)) = some { side with
      proc := { side.proc with
        inProgress := false
        last := side.proc.last + 1 }.finish cfg call 0 } := by
    have at' : (side.inside false).proc.pc = .amWait call := place
    have ready : (side.inside false).proc.waiting = false := by
      simp only [Proc.waiting, at']
      exact beq_false_of_ne called
    simp only [step, leave, at']
    exact (if_pos ⟨rfl, ready⟩).trans (afterAmWait_eager eager)
  exact ⟨_, (comes_back cfg side).trans (.of_step trivial leaves), rfl, ctx, rfl, rfl, .inl rfl⟩

theorem passes_awaiting {message : Message} (place : side.proc.pc = .amWait call)
    (kind : cfg.sendRecvType = .am) (handler : side.proc.handler = true)
    (uncalled : side.proc.last = side.proc.amDataDesc.complete)
    (found : side.incoming.log[side.incoming.next]? = some message)
    (agreed : message.data.length = cfg.messageLength) (eager : message.rndv = false)
    (ctx : ∀ code, side.proc.ctx ≠ some (.error code)) : ∃ next, side.Passes cfg call next := by
  have waiting : side.proc.waiting = true := by simp [Proc.waiting, place, uncalled]
  have arrives : (side.inside true).step cfg .arrive = some { side with
      incoming := { side.incoming with next := side.incoming.next + 1 }
      proc := (side.inside true).proc.ucpAmDataCb cfg side.incoming.next message } := by
    have found' : (side.inside true).incoming.log[(side.inside true).incoming.next]? =
      some message := found
    have handler' : (side.inside true).proc.handler = true := handler
    simp only [step, arrive, found', handler', Option.map_some]
    exact if_pos ⟨rfl, kind⟩
  obtain ⟨next, passes⟩ := @passes_called cfg { side with
      incoming := { side.incoming with next := side.incoming.next + 1 }
      proc := (side.inside true).proc.ucpAmDataCb cfg side.incoming.next message } call
    (by simpa [inside] using place)
    (by
      rw [Proc.ucpAmDataCb_complete agreed, Proc.ucpAmDataCb_last]
      simp [inside, uncalled])
    (by rw [Proc.ucpAmDataCb_isRndv agreed, eager]) (by simpa [inside] using ctx)
  refine ⟨next, (enters waiting).trans ((Leads.of_step trivial arrives).trans passes.leads), ?_,
    passes.ctx, ?_, passes.incoming, passes.outgoing⟩
  · rw [passes.pc, Proc.ucpAmDataCb_isServer]
    rfl
  · rw [passes.discarded, Proc.ucpAmDataCb_discarded]
    rfl

/-- `err_cb` is called, and the server leaves the loop that waits for it. -/
theorem closes (place : side.proc.pc = .waitClose) : side.Leads cfg { side with
    proc := { side.proc with
      inProgress := false
      connectionClosed := true
      pc := .returned 0 } } := by
  have called : ∃ inProgress, side.Leads cfg { side with
      proc := { side.proc with inProgress := inProgress, connectionClosed := true } } := by
    cases closed : side.proc.connectionClosed with
    | true =>
        refine ⟨side.proc.inProgress, ?_⟩
        rw [← closed]
        exact .refl side
    | false =>
        have waiting : side.proc.waiting = true := by simp [Proc.waiting, place, closed]
        have errs : (side.inside true).step cfg .peerError = some { side with
            proc := { side.proc with inProgress := true, connectionClosed := true } } := rfl
        exact ⟨true, (enters waiting).trans (.of_step trivial errs)⟩
  obtain ⟨inProgress, leads⟩ := called
  have leaves : Side.step cfg { side with
      proc := { side.proc with inProgress := false, connectionClosed := true } }
      (.leave (.null 0)) = some { side with
        proc := { side.proc with
          inProgress := false
          connectionClosed := true
          pc := .returned 0 } } := by
    simp [step, leave, place, Proc.waiting]
  exact leads.trans ((comes_back cfg _).trans (.of_step trivial leaves))

end Paths

end Side

theorem afterCall_succeeded {cfg : Config} {isServer : Bool} {call : Call} {ret : Int}
    (returned : afterCall cfg isServer call 0 = .returned ret) : ret = 0 := by
  cases call with
  | data i =>
      rw [afterCall_data] at returned
      rcases loop_cases cfg isServer (i + 1) with ⟨next, place⟩ | place <;> simp [place] at returned
  | fin => cases isServer <;> simp_all [afterCall]

theorem Channel.Eager.post {channel : Channel} {message : Message} (eager : channel.Eager)
    (new : message.rndv = false) : (channel.post message).Eager := by
  intro other member
  rcases List.mem_append.mp member with old | last
  · exact eager other old
  · rw [List.mem_singleton.mp last, new]

theorem Channel.supply_stream {cfg : Config} {channel : Channel} {count : Nat}
    (lawful : channel.Lawful cfg) (taken : channel.taken = count * cfg.messageLength)
    (below : count < channel.log.length) : (channel.supply cfg .recvStream).isSome := by
  have enough : channel.taken + cfg.messageLength ≤ channel.stream.length := by
    rw [lawful.length_stream, taken, ← Nat.succ_mul]
    exact Nat.mul_le_mul_right _ below
  simp [Channel.supply, enough]

theorem Channel.supply_tag {cfg : Config} {channel : Channel}
    (below : channel.next < channel.log.length) : (channel.supply cfg .recvTag).isSome := by
  simp [Channel.supply, List.getElem?_eq_getElem below]

namespace State

/-- A session in which no call has failed, nothing is sent by rendezvous and the client
has not lost an active message. -/
structure Sound (cfg : Config) (state : State) : Prop where
  session : state.Session cfg
  answer : state.Answer cfg
  server : state.server.Well
  client : state.client.Well
  toServer : state.toServer.Eager
  toClient : state.toClient.Eager
  kept : cfg.sendRecvType = .am → state.client.discarded = []

section Sound

variable {cfg : Config} {state : State} {side : Side} {call : Call}

theorem leads_server (leads : state.serverSide.Leads cfg side) :
    state.Leads cfg (state.withServer side) := by
  refine Leads.lift Action.server State.withServer ?_ (fun _ never => by cases never) state leads
  intro state part action next stepped
  exact congrArg (Option.map _) stepped

theorem leads_client (leads : state.clientSide.Leads cfg side) :
    state.Leads cfg (state.withClient side) := by
  refine Leads.lift Action.client State.withClient ?_ (fun _ never => by cases never) state leads
  intro state part action next stepped
  exact congrArg (Option.map _) stepped

theorem Leads.session {next : State} (sized : cfg.Sized) (session : state.Session cfg)
    (answer : state.Answer cfg) (leads : state.Leads cfg next) :
    next.Session cfg ∧ next.Answer cfg :=
  leads.preserves (fun state => state.Session cfg ∧ state.Answer cfg)
    (fun _ _ _ both _ stepped => ⟨both.1.step sized stepped, both.2.step both.1 stepped⟩)
    ⟨session, answer⟩

theorem eager_passes {side next : Side} (passes : side.Passes cfg call next)
    (incoming : side.incoming.Eager) (outgoing : side.outgoing.Eager) :
    next.incoming.Eager ∧ next.outgoing.Eager := by
  constructor
  · intro message member
    rw [passes.incoming] at member
    exact incoming message member
  · rcases passes.outgoing with same | ⟨message, new, posted⟩
    · rwa [same]
    · rw [posted]
      exact outgoing.post new

theorem well_passes {side next : Side} (passes : side.Passes cfg call next) : next.proc.Well where
  returned _ place := afterCall_succeeded (passes.pc.symm.trans place)
  ctx := passes.ctx

theorem Sound.serverPasses (sound : state.Sound cfg) (sized : cfg.Sized)
    (passes : ∃ side, state.serverSide.Passes cfg call side) :
    ∃ next, state.Leads cfg next ∧ next.Sound cfg ∧ next.server.pc = afterCall cfg true call 0 ∧
      next.client = state.client := by
  obtain ⟨side, passes⟩ := passes
  have leads := leads_server passes.leads
  obtain ⟨session, answer⟩ := Leads.session sized sound.session sound.answer leads
  obtain ⟨toServer, toClient⟩ := eager_passes passes sound.toServer sound.toClient
  have role : state.serverSide.proc.isServer = true := sound.session.server.role
  refine ⟨_, leads, ⟨session, answer, well_passes passes, sound.client, toServer, toClient,
    sound.kept⟩, ?_, rfl⟩
  rw [← role]
  exact passes.pc

theorem Sound.clientPasses (sound : state.Sound cfg) (sized : cfg.Sized)
    (passes : ∃ side, state.clientSide.Passes cfg call side) :
    ∃ next, state.Leads cfg next ∧ next.Sound cfg ∧ next.client.pc = afterCall cfg false call 0 ∧
      next.server = state.server := by
  obtain ⟨side, passes⟩ := passes
  have leads := leads_client passes.leads
  obtain ⟨session, answer⟩ := Leads.session sized sound.session sound.answer leads
  obtain ⟨toClient, toServer⟩ := eager_passes passes sound.toClient sound.toServer
  have role : state.clientSide.proc.isServer = false := sound.session.client.role
  refine ⟨_, leads, ⟨session, answer, sound.server, well_passes passes, toServer, toClient,
    fun kind => passes.discarded.trans (sound.kept kind)⟩, ?_, rfl⟩
  rw [← role]
  exact passes.pc

/-- The client sends on its own. -/
theorem Sound.client_sends (sound : state.Sound cfg) (sized : cfg.Sized) {k : Nat}
    (place : state.client.pc = .call (.data k) ∨ state.client.pc = .requestWait (.data k)) :
    ∃ next, state.Leads cfg next ∧ next.Sound cfg ∧
      next.client.pc = afterCall cfg false (.data k) 0 ∧ next.server = state.server := by
  apply sound.clientPasses sized
  rcases place with place | place
  · exact Side.passes_send place sound.session.client.role
  · have here : state.clientSide.ClientAt cfg state.base state.client.pc :=
      sound.session.client.here
    rw [place] at here
    obtain ⟨_, _, waits, _⟩ := here
    cases ctx : state.client.ctx with
    | none => exact Side.passes_sending place waits ctx sound.toServer
    | some status =>
        cases status with
        | ok => exact Side.passes_done place ctx
        | error code => exact absurd ctx (sound.client.ctx code)

/-- The client comes to its last call. -/
theorem Sound.client_posts (sound : state.Sound cfg) (sized : cfg.Sized) {k : Nat}
    (place : state.client.pc = .call (.data k) ∨ state.client.pc = .requestWait (.data k)) :
    ∃ next, state.Leads cfg next ∧ next.Sound cfg ∧
      (next.client.pc = .register ∨ next.client.pc = .call .fin) ∧ next.server = state.server := by
  induction left : cfg.iterations - k generalizing state k with
  | zero =>
      obtain ⟨next, leads, good, at', server⟩ := sound.client_sends sized place
      refine ⟨next, leads, good, ?_, server⟩
      rw [at', afterCall_data, loop_eq, if_neg (by omega)]
      unfold afterLoop
      split <;> simp
  | succ left ih =>
      obtain ⟨next, leads, good, at', server⟩ := sound.client_sends sized place
      rw [afterCall_data, loop_eq] at at'
      split at at'
      · obtain ⟨final, later, ends, there, same⟩ := ih good (.inl at') (by omega)
        exact ⟨final, leads.trans later, ends, there, same.trans server⟩
      · refine ⟨next, leads, good, ?_, server⟩
        rw [at']
        unfold afterLoop
        split <;> simp

theorem Sound.client_registers (sound : state.Sound cfg) (sized : cfg.Sized)
    (place : state.client.pc = .register) :
    ∃ next, state.Leads cfg next ∧ next.Sound cfg ∧ next.client.pc = .call .fin ∧
      next.server = state.server := by
  have registers : state.clientSide.step cfg (.register .ok) = some { state.clientSide with
      proc := { state.client with handler := true, pc := .call .fin } } := by
    simp only [Side.step]
    exact if_pos place
  have leads := leads_client (.of_step trivial registers)
  obtain ⟨session, answer⟩ := Leads.session sized sound.session sound.answer leads
  exact ⟨_, leads, ⟨session, answer, sound.server,
    ⟨fun _ never => (by cases never), sound.client.ctx⟩, sound.toServer, sound.toClient,
    sound.kept⟩, rfl, rfl⟩

/-- Where the client waits for the answer of the server, or has it. -/
def AtFin (state : State) : Prop :=
  state.client.pc = .call .fin ∨ state.client.pc = .amWait .fin ∨
    state.client.pc = .requestWait .fin ∨ state.client.pc = .returned 0

theorem Sound.client_arrives (sound : state.Sound cfg) (sized : cfg.Sized)
    (connected : state.client.pc ≠ .idle) :
    ∃ next, state.Leads cfg next ∧ next.Sound cfg ∧ next.AtFin ∧ next.server = state.server := by
  have stays (at' : state.AtFin) : ∃ next, state.Leads cfg next ∧ next.Sound cfg ∧ next.AtFin ∧
      next.server = state.server := ⟨state, .refl state, sound, at', rfl⟩
  have registered {next : State} (good : next.Sound cfg) (place : next.client.pc = .register) :
      ∃ final, next.Leads cfg final ∧ final.Sound cfg ∧ final.AtFin ∧
        final.server = next.server := by
    obtain ⟨final, leads, ends, at', server⟩ := good.client_registers sized place
    exact ⟨final, leads, ends, .inl at', server⟩
  have sends {k : Nat} (place : state.client.pc = .call (.data k) ∨
      state.client.pc = .requestWait (.data k)) : ∃ next, state.Leads cfg next ∧
      next.Sound cfg ∧ next.AtFin ∧ next.server = state.server := by
    obtain ⟨next, leads, good, at' | at', server⟩ := sound.client_posts sized place
    · obtain ⟨final, later, ends, there, same⟩ := registered good at'
      exact ⟨final, leads.trans later, ends, there, same.trans server⟩
    · exact ⟨next, leads, good, .inl at', server⟩
  have here : state.clientSide.ClientAt cfg state.base state.client.pc := sound.session.client.here
  cases place : state.client.pc with
  | idle => exact absurd place connected
  | call call =>
      cases call with
      | data => exact sends (.inl place)
      | fin => exact stays (.inl place)
  | amWait call =>
      cases call with
      | data =>
          rw [place] at here
          exact here.elim
      | fin => exact stays (.inr (.inl place))
  | requestWait call =>
      cases call with
      | data => exact sends (.inr place)
      | fin => exact stays (.inr (.inr (.inl place)))
  | register => exact registered sound place
  | waitClose =>
      rw [place] at here
      exact here.elim
  | returned ret =>
      obtain rfl := sound.client.returned ret place
      exact stays (.inr (.inr (.inr place)))

theorem AtFin.of_client {next : State} (at' : state.AtFin) (client : next.client = state.client) :
    next.AtFin := by
  unfold AtFin
  rwa [client]

theorem Sound.posted (sound : state.Sound cfg) (at' : state.AtFin) :
    state.toServer.log.length = state.base + cfg.iterations := by
  have here : state.clientSide.ClientAt cfg state.base state.client.pc := sound.session.client.here
  rcases at' with place | place | place | place <;> rw [place] at here
  · exact here.1
  · exact here.2.1
  · exact here.1
  · exact (here.2 rfl).1

theorem Sound.server_supply (sound : state.Sound cfg) {k : Nat} (below : k < cfg.iterations)
    (posted : state.toServer.log.length = state.base + cfg.iterations)
    (received : state.serverSide.Received cfg (state.base + k)) {request : Request}
    (kind : Receives cfg request) : (state.toServer.supply cfg request).isSome := by
  rcases kind with ⟨kind, rfl⟩ | ⟨kind, rfl⟩ <;> simp only [Side.Received, kind] at received
  · exact Channel.supply_stream sound.session.toServer received (by omega)
  · have next : state.toServer.next = state.base + k := received
    exact Channel.supply_tag (by omega)

theorem eager_isRndv {side : Side} (announced : side.Announced) (eager : side.incoming.Eager) :
    side.proc.amDataDesc.isRndv = false := by
  cases rndv : side.proc.amDataDesc.isRndv with
  | false => rfl
  | true =>
      obtain ⟨index, message, _, found, announces⟩ := announced.desc rndv
      simp [eager message (List.mem_of_getElem? found)] at announces

theorem eager_request {side : Side} (announced : side.Announced) (eager : side.incoming.Eager)
    (index : Nat) : side.proc.request ≠ some (.recvAm index) := by
  intro waits
  obtain ⟨message, found, announces⟩ := announced.request index waits
  simp [eager message (List.mem_of_getElem? found)] at announces

/-- The server gets through the wait loop of `send_recv_am`. -/
theorem server_passes_amWait {side : Side} {base k : Nat} (server : side.Server cfg base)
    (announced : side.Announced) (lawful : side.incoming.Lawful cfg) (eager : side.incoming.Eager)
    (ctx : ∀ code, side.proc.ctx ≠ some (.error code)) (below : k < cfg.iterations)
    (posted : side.incoming.log.length = base + cfg.iterations)
    (place : side.proc.pc = .amWait (.data k)) : ∃ next, side.Passes cfg (.data k) next := by
  have here := server.here
  rw [place] at here
  obtain ⟨kind, _, received, _⟩ := here
  simp only [Side.Received, kind] at received
  have counted := server.counted kind
  by_cases called : side.proc.last = side.proc.amDataDesc.complete
  · have some : side.incoming.next < side.incoming.log.length := by omega
    have found := List.getElem?_eq_getElem some
    have member := List.mem_of_getElem? found
    exact Side.passes_awaiting place kind (server.handler kind) called found
      (lawful.sized _ member) (eager _ member) ctx
  · exact Side.passes_called place called (eager_isRndv announced eager) ctx

theorem Sound.server_receives (sound : state.Sound cfg) (sized : cfg.Sized) {k : Nat}
    (posted : state.toServer.log.length = state.base + cfg.iterations)
    (place : state.server.pc = .call (.data k) ∨ state.server.pc = .amWait (.data k) ∨
      state.server.pc = .requestWait (.data k)) :
    ∃ next, state.Leads cfg next ∧ next.Sound cfg ∧
      next.server.pc = afterCall cfg true (.data k) 0 ∧ next.client = state.client := by
  have here : state.serverSide.ServerAt cfg state.base state.server.pc := sound.session.server.here
  have role : state.server.isServer = true := sound.session.server.role
  have awaiting {state : State} (sound : state.Sound cfg) (below : k < cfg.iterations)
      (posted : state.toServer.log.length = state.base + cfg.iterations)
      (place : state.server.pc = .amWait (.data k)) : ∃ next, state.Leads cfg next ∧
        next.Sound cfg ∧ next.server.pc = afterCall cfg true (.data k) 0 ∧
        next.client = state.client :=
    sound.serverPasses sized (server_passes_amWait sound.session.server sound.answer.server
      sound.session.toServer sound.toServer sound.server.ctx below posted place)
  rcases place with place | place | place <;> rw [place] at here
  · obtain ⟨below, received, _⟩ := here
    have receives : state.serverSide.proc.receives (.data k) = true := role
    cases kind : cfg.sendRecvType with
    | stream =>
        have kind : Receives cfg .recvStream := .inl ⟨kind, rfl⟩
        exact sound.serverPasses sized (Side.passes_receive place receives kind
          (sound.server_supply below posted received kind))
    | tag =>
        have kind : Receives cfg .recvTag := .inr ⟨kind, rfl⟩
        exact sound.serverPasses sized (Side.passes_receive place receives kind
          (sound.server_supply below posted received kind))
    | am =>
        have awaits := leads_server
          (.of_step trivial (Side.communicate_awaits place receives kind))
        obtain ⟨session, answer⟩ := Leads.session sized sound.session sound.answer awaits
        have waits : Sound cfg (state.withServer _) := ⟨session, answer,
          Proc.well_awaiting rfl rfl, sound.client, sound.toServer, sound.toClient, sound.kept⟩
        obtain ⟨next, leads, good, at', client⟩ := awaiting waits below posted rfl
        exact ⟨next, awaits.trans leads, good, at', client⟩
  · exact awaiting sound here.2.1 posted place
  · obtain ⟨below, receiving, _⟩ := here
    apply sound.serverPasses sized
    cases ctx : state.server.ctx with
    | some status =>
        cases status with
        | ok => exact Side.passes_done place ctx
        | error code => exact absurd ctx (sound.server.ctx code)
    | none =>
        have pending : state.serverSide.proc.ctx ≠ some .ok := by
          rw [show state.serverSide.proc.ctx = none from ctx]
          exact fun never => by cases never
        unfold Side.Receiving at receiving
        split at receiving
        · rename_i kind
          obtain ⟨waits, received⟩ := receiving
          rw [if_neg pending] at received
          exact Side.passes_receiving place waits ctx
            (sound.server_supply below posted received (.inl ⟨kind, rfl⟩))
        · rename_i kind
          obtain ⟨waits, received⟩ := receiving
          rw [if_neg pending] at received
          exact Side.passes_receiving place waits ctx
            (sound.server_supply below posted received (.inr ⟨kind, rfl⟩))
        · obtain ⟨_, index, waits, _⟩ := receiving
          exact absurd waits (eager_request sound.answer.server sound.toServer index)

/-- The server comes to its FIN message. -/
theorem Sound.server_serves (sound : state.Sound cfg) (sized : cfg.Sized) (at' : state.AtFin)
    {k : Nat} (place : state.server.pc = .call (.data k) ∨ state.server.pc = .amWait (.data k) ∨
      state.server.pc = .requestWait (.data k)) :
    ∃ next, state.Leads cfg next ∧ next.Sound cfg ∧ next.server.pc = .call .fin ∧
      next.client = state.client := by
  induction left : cfg.iterations - k generalizing state k with
  | zero =>
      obtain ⟨next, leads, good, here, client⟩ :=
        sound.server_receives sized (sound.posted at') place
      refine ⟨next, leads, good, ?_, client⟩
      rw [here, afterCall_data, loop_eq, if_neg (by omega), afterLoop_server]
  | succ left ih =>
      obtain ⟨next, leads, good, here, client⟩ :=
        sound.server_receives sized (sound.posted at') place
      rw [afterCall_data, loop_eq] at here
      split at here
      · obtain ⟨final, later, ends, there, same⟩ :=
          ih good (at'.of_client client) (.inl here) (by omega)
        exact ⟨final, leads.trans later, ends, there, same.trans client⟩
      · exact ⟨next, leads, good, here.trans (afterLoop_server cfg), client⟩

theorem Sound.server_answers (sound : state.Sound cfg) (sized : cfg.Sized)
    (place : state.server.pc = .call .fin ∨ state.server.pc = .requestWait .fin) :
    ∃ next, state.Leads cfg next ∧ next.Sound cfg ∧ next.server.pc = .waitClose ∧
      next.client = state.client := by
  have role : state.server.isServer = true := sound.session.server.role
  refine @Sound.serverPasses cfg state .fin sound sized ?_
  rcases place with place | place
  · refine Side.passes_send place ?_
    show (!state.server.isServer) = false
    rw [role]
    rfl
  · have here : state.serverSide.ServerAt cfg state.base state.server.pc :=
      sound.session.server.here
    rw [place] at here
    obtain ⟨_, index, waits⟩ := here
    cases ctx : state.server.ctx with
    | none => exact Side.passes_sending place waits ctx sound.toClient
    | some status =>
        cases status with
        | ok => exact Side.passes_done place ctx
        | error code => exact absurd ctx (sound.server.ctx code)

/-- The connection is closed, and the server returns. -/
theorem Sound.server_closes (sound : state.Sound cfg) (sized : cfg.Sized)
    (place : state.server.pc = .waitClose) :
    ∃ next, state.Leads cfg next ∧ next.Sound cfg ∧ next.server.pc = .returned 0 ∧
      next.client = state.client := by
  have leads := leads_server (@Side.closes cfg state.serverSide place)
  obtain ⟨session, answer⟩ := Leads.session sized sound.session sound.answer leads
  exact ⟨_, leads, ⟨session, answer, ⟨fun _ same => (Pc.returned.inj same).symm, sound.server.ctx⟩,
    sound.client, sound.toServer, sound.toClient, sound.kept⟩, rfl, rfl⟩

/-- The server comes to the end, once the client has posted everything. -/
theorem Sound.server_returns (sound : state.Sound cfg) (sized : cfg.Sized) (at' : state.AtFin)
    (connected : state.server.pc ≠ .idle) :
    ∃ next, state.Leads cfg next ∧ next.Sound cfg ∧ next.server.pc = .returned 0 ∧
      next.client = state.client := by
  have closes {state : State} (sound : state.Sound cfg) (place : state.server.pc = .call .fin ∨
      state.server.pc = .requestWait .fin) : ∃ next, state.Leads cfg next ∧ next.Sound cfg ∧
      next.server.pc = .returned 0 ∧ next.client = state.client := by
    obtain ⟨next, leads, good, here, client⟩ := sound.server_answers sized place
    obtain ⟨final, later, ends, there, same⟩ := good.server_closes sized here
    exact ⟨final, leads.trans later, ends, there, same.trans client⟩
  have serves {k : Nat} (place : state.server.pc = .call (.data k) ∨
      state.server.pc = .amWait (.data k) ∨ state.server.pc = .requestWait (.data k)) :
      ∃ next, state.Leads cfg next ∧ next.Sound cfg ∧ next.server.pc = .returned 0 ∧
      next.client = state.client := by
    obtain ⟨next, leads, good, here, client⟩ := sound.server_serves sized at' place
    obtain ⟨final, later, ends, there, same⟩ := closes good (.inl here)
    exact ⟨final, leads.trans later, ends, there, same.trans client⟩
  have here : state.serverSide.ServerAt cfg state.base state.server.pc := sound.session.server.here
  cases place : state.server.pc with
  | idle => exact absurd place connected
  | call call =>
      cases call with
      | data => exact serves (.inl place)
      | fin => exact closes sound (.inl place)
  | amWait call =>
      cases call with
      | data => exact serves (.inr (.inl place))
      | fin =>
          rw [place] at here
          exact here.elim
  | requestWait call =>
      cases call with
      | data => exact serves (.inr (.inr place))
      | fin => exact closes sound (.inr place)
  | register =>
      rw [place] at here
      exact here.elim
  | waitClose => exact sound.server_closes sized place
  | returned ret =>
      obtain rfl := sound.server.returned ret place
      exact ⟨state, .refl state, sound, place, rfl⟩

theorem Sound.client_supply (sound : state.Sound cfg) (answered : state.toClient.log ≠ [])
    (unanswered : state.client.unanswered = true) {request : Request}
    (kind : Receives cfg request) : (state.toClient.supply cfg request).isSome := by
  have some : 0 < state.toClient.log.length := List.length_pos_iff.mpr answered
  have other : cfg.sendRecvType ≠ .am := by
    rcases kind with ⟨kind, _⟩ | ⟨kind, _⟩ <;> simp [kind]
  obtain ⟨taken, next⟩ := sound.answer.untaken other unanswered
  rcases kind with ⟨_, rfl⟩ | ⟨_, rfl⟩
  · exact Channel.supply_stream sound.session.toClient (taken.trans (Nat.zero_mul _).symm) some
  · exact Channel.supply_tag (by omega)

theorem Sound.client_awaits (sound : state.Sound cfg) (sized : cfg.Sized)
    (answered : state.toClient.log ≠ []) (place : state.client.pc = .amWait .fin) :
    ∃ next, state.Leads cfg next ∧ next.Sound cfg ∧
      next.client.pc = afterCall cfg false .fin 0 ∧ next.server = state.server := by
  apply sound.clientPasses sized
  have here : state.clientSide.ClientAt cfg state.base state.client.pc := sound.session.client.here
  rw [place] at here
  obtain ⟨kind, _, _, last, handler⟩ := here
  have last : state.client.last = 0 := last
  have counted : state.client.amDataDesc.complete + state.client.discarded.length =
      state.toClient.next := sound.session.client.counted kind
  rw [sound.kept kind, List.length_nil] at counted
  by_cases called : state.client.last = state.client.amDataDesc.complete
  · have some : state.toClient.next < state.toClient.log.length := by
      have positive := List.length_pos_iff.mpr answered
      omega
    have found := List.getElem?_eq_getElem some
    have member := List.mem_of_getElem? found
    exact Side.passes_awaiting place kind handler called found
      (sound.session.toClient.sized _ member) (sound.toClient _ member) sound.client.ctx
  · exact Side.passes_called place called (eager_isRndv sound.answer.client sound.toClient)
      sound.client.ctx

/-- The client receives the answer of the server. -/
theorem Sound.client_returns (sound : state.Sound cfg) (sized : cfg.Sized) (at' : state.AtFin)
    (answered : state.toClient.log ≠ []) :
    ∃ next, state.Leads cfg next ∧ next.Sound cfg ∧ next.client.pc = .returned 0 ∧
      next.server = state.server := by
  rw [← afterCall_fin cfg 0]
  have role : state.client.isServer = false := sound.session.client.role
  have here : state.clientSide.ClientAt cfg state.base state.client.pc := sound.session.client.here
  rcases at' with place | place | place | place
  · have receives : state.clientSide.proc.receives .fin = true := by
      show (!state.client.isServer) = true
      rw [role]
      rfl
    have unanswered : state.client.unanswered = true := by simp [Proc.unanswered, place]
    cases kind : cfg.sendRecvType with
    | stream =>
        have kind : Receives cfg .recvStream := .inl ⟨kind, rfl⟩
        exact sound.clientPasses sized (Side.passes_receive place receives kind
          (sound.client_supply answered unanswered kind))
    | tag =>
        have kind : Receives cfg .recvTag := .inr ⟨kind, rfl⟩
        exact sound.clientPasses sized (Side.passes_receive place receives kind
          (sound.client_supply answered unanswered kind))
    | am =>
        have awaits := leads_client
          (.of_step trivial (Side.communicate_awaits place receives kind))
        obtain ⟨session, answer⟩ := Leads.session sized sound.session sound.answer awaits
        have waits : Sound cfg (state.withClient _) := ⟨session, answer, sound.server,
          Proc.well_awaiting rfl rfl, sound.toServer, sound.toClient, sound.kept⟩
        obtain ⟨next, leads, good, at', server⟩ := waits.client_awaits sized answered rfl
        exact ⟨next, awaits.trans leads, good, at', server⟩
  · exact sound.client_awaits sized answered place
  · rw [place] at here
    obtain ⟨_, _, ⟨request, waits, kind⟩, _⟩ := here
    refine sound.clientPasses sized ?_
    cases ctx : state.client.ctx with
    | some status =>
        cases status with
        | ok => exact Side.passes_done place ctx
        | error code => exact absurd ctx (sound.client.ctx code)
    | none =>
        have unanswered : state.client.unanswered = true := by simp [Proc.unanswered, place, ctx]
        rcases kind with kind | ⟨_, index, rfl⟩
        · exact Side.passes_receiving place waits ctx (sound.client_supply answered unanswered kind)
        · exact absurd waits (eager_request sound.answer.client sound.toClient index)
  · exact ⟨state, .refl state, sound, place.trans (afterCall_fin cfg 0).symm, rfl⟩

/-- A sound session comes to the end. -/
theorem Sound.completes (sound : state.Sound cfg) (sized : cfg.Sized)
    (server : state.server.pc ≠ .idle) (client : state.client.pc ≠ .idle) :
    ∃ final, state.Leads cfg final ∧ final.server.pc = .returned 0 ∧
      final.client.pc = .returned 0 := by
  obtain ⟨sent, first, good, at', same⟩ := sound.client_arrives sized client
  obtain ⟨served, second, better, returned, same'⟩ :=
    good.server_returns sized at' (by rwa [same])
  have answered : served.toClient.log ≠ [] :=
    better.answer.posted (by rw [returned]; rfl)
  obtain ⟨final, third, _, place, same''⟩ :=
    better.client_returns sized (at'.of_client same') answered
  exact ⟨final, first.trans (second.trans third), by rw [same'', returned], place⟩

end Sound

end State

end UcxPlayground.ClientServer
