import UcxPlayground.ClientServer.Server

/-!
# What the client knows

`Client` is the part of the session invariant that speaks of the client: how
many messages it has posted, what is in them, and which of them a rendezvous
may still be out for. Of the server it only assumes that a message fetched
stays fetched.
-/

set_option autoImplicit false

namespace UcxPlayground.ClientServer

namespace Side

variable (cfg : Config) (base : Nat) (side : Side)

def Posted : Prop :=
  side.outgoing.log.length = base + cfg.iterations

def Unregistered : Prop :=
  side.proc.handler = false ∧ side.proc.last = 0

/-- What holds of the client at each point of `client_server_do_work`. -/
def ClientAt : Pc → Prop
  | .idle => side.proc.request = none
  | .call (.data k) =>
      k < cfg.iterations ∧ side.outgoing.log.length = base + k ∧ side.outgoing.AllFetched ∧
        side.proc.request = none ∧ side.Unregistered
  | .requestWait (.data k) =>
      k < cfg.iterations ∧ side.outgoing.log.length = base + k + 1 ∧
        side.proc.request = some (.send (base + k)) ∧
        (side.proc.ctx = some .ok → side.outgoing.AllFetched) ∧ side.Unregistered
  | .register =>
      side.Posted cfg base ∧ side.proc.request = none ∧ side.Unregistered
  | .call .fin =>
      side.Posted cfg base ∧ side.proc.request = none ∧ side.proc.last = 0 ∧
        (cfg.sendRecvType = .am → side.proc.handler = true)
  | .amWait .fin =>
      cfg.sendRecvType = .am ∧ side.Posted cfg base ∧ side.proc.request = none ∧
        side.proc.last = 0 ∧ side.proc.handler = true
  | .requestWait .fin =>
      side.Posted cfg base ∧ (cfg.sendRecvType = .am → side.proc.handler = true) ∧
        (∃ request, side.proc.request = some request ∧
          (Receives cfg request ∨
            side.incoming.log ≠ [] ∧ ∃ index, request = .recvAm index)) ∧
        (side.proc.ctx = some .ok → side.incoming.log ≠ [])
  | .returned ret =>
      side.proc.request = none ∧
        (ret = 0 → side.Posted cfg base ∧ side.incoming.log ≠ [])
  | .amWait (.data _) | .waitClose => False

structure Client : Prop where
  role : side.proc.isServer = false
  /-- An active message either reached `ucp_am_data_cb` or was discarded. -/
  counted : cfg.sendRecvType = .am →
    side.proc.amDataDesc.complete + side.proc.discarded.length = side.incoming.next
  ordered : cfg.sendRecvType = .am → side.proc.last ≤ side.proc.amDataDesc.complete
  contents : ∀ k message, side.outgoing.log[base + k]? = some message →
    message.data = (cfg.fillBuffer side.proc.client k).flatten
  capped : side.outgoing.log.length ≤ base + cfg.iterations
  fetched : side.outgoing.FetchedBut
  waits : side.proc.inProgress = true →
    ∃ call, side.proc.pc = .amWait call ∨ side.proc.pc = .requestWait call
  here : side.ClientAt cfg base side.proc.pc

end Side

namespace Channel

variable {channel : Channel} {message : Message}

theorem AllFetched.fetchedBut (fetched : channel.AllFetched) : channel.FetchedBut :=
  fun index message found rndv => .inl (fetched index message found rndv)

theorem found_post {index : Nat} {other : Message}
    (found : (channel.post message).log[index]? = some other) :
    channel.log[index]? = some other ∨ index = channel.log.length ∧ other = message := by
  simp only [Channel.post, List.getElem?_append] at found
  split at found
  · exact .inl found
  · obtain ⟨below, same⟩ := List.getElem?_eq_some_iff.mp found
    simp only [List.length_singleton] at below
    refine .inr ⟨by omega, ?_⟩
    simpa using same.symm

@[simp] theorem length_post : (channel.post message).log.length = channel.log.length + 1 := by
  simp [Channel.post]

theorem AllFetched.post (fetched : channel.AllFetched) : (channel.post message).FetchedBut := by
  intro index other found rndv
  rcases found_post found with old | ⟨last, _⟩
  · exact .inl (fetched index other old rndv)
  · exact .inr (by rw [length_post, last])

theorem AllFetched.post_eager (fetched : channel.AllFetched) (eager : message.rndv = false) :
    (channel.post message).AllFetched := by
  intro index other found rndv
  rcases found_post found with old | ⟨_, rfl⟩
  · exact fetched index other old rndv
  · simp [eager] at rndv

theorem FetchedBut.all (fetched : channel.FetchedBut) {last : Nat}
    (length : channel.log.length = last + 1)
    (done : ∀ message, channel.log[last]? = some message → message.rndv = true →
      last ∈ channel.fetched) : channel.AllFetched := by
  intro index message found rndv
  rcases fetched index message found rndv with member | ends
  · exact member
  · obtain rfl : index = last := by omega
    exact done message found rndv

end Channel

namespace Side

section Steps

variable {cfg : Config} {base : Nat} {side next : Side} {action : Step}

theorem ClientAt.waits {pc : Pc} {request : Request} (here : side.ClientAt cfg base pc)
    (waits : side.proc.request = some request) : ∃ call, pc = .requestWait call := by
  cases pc with
  | requestWait call => exact ⟨call, rfl⟩
  | idle =>
      have quiet : side.proc.request = none := here
      simp [quiet] at waits
  | call call =>
      cases call with
      | data => simp [here.2.2.2.1] at waits
      | fin => simp [here.2.1] at waits
  | amWait call =>
      cases call with
      | data => exact here.elim
      | fin => simp [here.2.2.1] at waits
  | register => simp [here.2.1] at waits
  | waitClose => exact here.elim
  | returned => simp [here.1] at waits

theorem sentNext {k : Nat} (below : k < cfg.iterations)
    (length : next.outgoing.log.length = base + (k + 1)) (fetched : next.outgoing.AllFetched)
    (quiet : next.proc.request = none) (unregistered : next.Unregistered) :
    next.ClientAt cfg base (afterCall cfg false (.data k) 0) := by
  rw [afterCall_data, loop_eq]
  split
  · rename_i more
    exact ⟨more, length, fetched, quiet, unregistered⟩
  · obtain last : k + 1 = cfg.iterations := by omega
    have posted : next.Posted cfg base := by rw [Posted, length, last]
    unfold afterLoop
    split
    · exact ⟨posted, quiet, unregistered⟩
    · rename_i other
      exact ⟨posted, quiet, unregistered.2, fun kind => absurd ⟨rfl, kind⟩ other⟩

theorem finNext (posted : next.Posted cfg base) (answered : next.incoming.log ≠ [])
    (quiet : next.proc.request = none) :
    next.ClientAt cfg base (afterCall cfg false .fin 0) :=
  ⟨quiet, fun _ => ⟨posted, answered⟩⟩

theorem ClientAt.settled {pc : Pc} {request : Request} {status : UcsStatus}
    (here : side.ClientAt cfg base pc) (waits : side.proc.request = some request)
    (all : status = .ok → ∀ last, request = .send last → side.outgoing.log.length = last + 1 →
      side.outgoing.AllFetched)
    (unreceived : status = .ok → ∃ index, request = .send index) :
    ClientAt cfg base { side with proc := { side.proc with ctx := some status } } pc := by
  obtain ⟨call, rfl⟩ := here.waits waits
  cases call with
  | data k =>
      obtain ⟨below, length, sends, _, unregistered⟩ := here
      refine ⟨below, length, sends, fun done => ?_, unregistered⟩
      exact all (Option.some.inj done) _ (Option.some.inj (waits.symm.trans sends)) length
  | fin =>
      obtain ⟨posted, handler, ⟨held, holds, kind⟩, _⟩ := here
      refine ⟨posted, handler, ⟨held, holds, kind⟩, fun done => ?_⟩
      obtain ⟨index, rfl⟩ := unreceived (Option.some.inj done)
      obtain rfl := Option.some.inj (waits.symm.trans holds)
      rcases kind with receives | ⟨answered, _⟩
      · rcases receives with ⟨_, other⟩ | ⟨_, other⟩ <;> simp at other
      · exact answered

theorem ClientAt.completed {pc : Pc} {request : Request} {data : List Bytes.Byte}
    {incoming : Channel} {iov : Iov} (here : side.ClientAt cfg base pc)
    (waits : side.proc.request = some request) (sized : cfg.Sized)
    (supplied : Channel.Supplied cfg side.incoming request incoming data) :
    ClientAt cfg base
      { side with incoming := incoming, proc := { side.proc with iov := iov, ctx := some .ok } }
      pc := by
  obtain ⟨call, rfl⟩ := here.waits waits
  cases call with
  | data k =>
      obtain ⟨_, _, sends, _⟩ := here
      cases waits.symm.trans sends
      cases supplied
  | fin =>
      obtain ⟨posted, handler, ⟨held, holds, kind⟩, _⟩ := here
      obtain rfl := Option.some.inj (waits.symm.trans holds)
      have answered : incoming.log ≠ [] := by
        rw [supplied.log]
        rcases kind with receives | ⟨answered, _⟩
        · refine supplied.posted fun stream => ?_
          rcases receives with ⟨kind, _⟩ | ⟨_, other⟩
          · exact sized kind
          · simp [stream] at other
        · exact answered
      refine ⟨posted, handler, ⟨request, holds, ?_⟩, fun _ => answered⟩
      exact kind.imp_right fun held => ⟨answered, held.2⟩

theorem ClientAt.unmoved {pc : Pc} {inProgress connectionClosed : Bool}
    (here : side.ClientAt cfg base pc) :
    ClientAt cfg base
      { side with
        proc := { side.proc with
          inProgress := inProgress
          connectionClosed := connectionClosed } } pc := by
  cases pc with
  | call call | amWait call | requestWait call => cases call <;> exact here
  | _ => exact here

theorem ClientAt.arrived {pc : Pc} (here : side.ClientAt cfg base pc) (message : Message)
    (discarded : List Nat) :
    ClientAt cfg base
        { side with
          incoming := { side.incoming with next := side.incoming.next + 1 }
          proc := side.proc.ucpAmDataCb cfg side.incoming.next message } pc ∧
      ClientAt cfg base
        { side with
          incoming := { side.incoming with next := side.incoming.next + 1 }
          proc := { side.proc with discarded := discarded } } pc := by
  cases pc with
  | call call | requestWait call =>
      cases call <;> simpa [ClientAt, Posted, Unregistered] using here
  | amWait call =>
      cases call with
      | data => exact here.elim
      | fin => simpa [ClientAt, Posted, Unregistered] using here
  | waitClose => exact here.elim
  | _ => simpa [ClientAt, Posted, Unregistered] using here

theorem Client.answered (client : side.Client cfg base) (lawful : side.incoming.Lawful cfg)
    (kind : cfg.sendRecvType = .am) (differs : side.proc.last ≠ side.proc.amDataDesc.complete) :
    side.incoming.log ≠ [] := by
  have counted := client.counted kind
  have ordered := client.ordered kind
  have bound := lawful.bound
  refine List.ne_nil_of_length_pos ?_
  omega

theorem Client.step_here (client : side.Client cfg base) (move : Move cfg side action next)
    (sized : cfg.Sized) (lawful : side.incoming.Lawful cfg) :
    next.ClientAt cfg base next.proc.pc := by
  have role := client.role
  have place {pc : Pc} (here : side.proc.pc = pc) : side.ClientAt cfg base pc :=
    here ▸ client.here
  cases move with
  | callFailed here filled =>
      rcases filled with rfl | rfl <;> simp only [Proc.finish, afterCall_failed]
      all_goals exact ⟨rfl, by simp⟩
  | @sent call _ _ here sends =>
      cases call with
      | data k =>
          obtain ⟨below, length, fetched, _, unregistered⟩ := place here
          simp only [Proc.finish, Proc.fillRequestParam, role]
          exact sentNext below (by simp only [Channel.length_post]; omega) (fetched.post_eager rfl)
            rfl unregistered
      | fin => simp [Proc.receives, role] at sends
  | @posted call _ _ here sends =>
      cases call with
      | data k =>
          obtain ⟨below, length, _, _, unregistered⟩ := place here
          refine ⟨below, by simp only [Channel.length_post]; omega, by simp [length], ?_,
            unregistered⟩
          simp [Proc.fillRequestParam]
      | fin => simp [Proc.receives, role] at sends
  | @awaiting call _ _ here receives kind =>
      cases call with
      | data => simp [Proc.receives, role] at receives
      | fin =>
          obtain ⟨posted, quiet, last, handler⟩ := place here
          exact ⟨kind, posted, quiet, last, handler kind⟩
  | @received call _ _ _ _ _ here receives kind supply =>
      cases call with
      | data => simp [Proc.receives, role] at receives
      | fin =>
          obtain ⟨posted, _, _, _⟩ := place here
          have supplied := Channel.supplied supply
          simp only [Proc.finish, Proc.fillRequestParam, role]
          refine finNext posted ?_ rfl
          rw [supplied.log]
          refine supplied.posted fun stream => ?_
          rcases kind with ⟨kind, _⟩ | ⟨_, other⟩
          · exact sized kind
          · simp [stream] at other
  | @receiving call _ request here receives kind =>
      cases call with
      | data => simp [Proc.receives, role] at receives
      | fin =>
          obtain ⟨posted, _, _, handler⟩ := place here
          exact ⟨posted, handler, ⟨request, rfl, .inl kind⟩, by simp [Proc.fillRequestParam]⟩
  | polled | progressed | closed => exact client.here.unmoved
  | failed waits => exact client.here.settled waits (by simp) (by simp)
  | sendDone waits _ done =>
      refine client.here.settled waits (fun _ last send length => ?_) fun _ => ⟨_, rfl⟩
      cases send
      exact client.fetched.all length done
  | receiveDone waits _ supply =>
      exact client.here.completed waits sized (Channel.supplied supply)
  | handled =>
      rw [Proc.ucpAmDataCb_pc]
      exact (client.here.arrived _ []).1
  | @discarded message => exact (client.here.arrived message _).2
  | @leftRndv call desc here _ differs =>
      cases call with
      | data => exact (place here).elim
      | fin =>
          obtain ⟨kind, posted, _, _, handler⟩ := place here
          have answered := client.answered lawful kind differs
          exact ⟨posted, fun _ => handler, ⟨_, rfl, .inr ⟨answered, desc, rfl⟩⟩,
            fun _ => answered⟩
  | leftRndvFailed =>
      simp only [Proc.finish, afterCall_failed]
      exact ⟨rfl, by simp⟩
  | @leftEager call _ here _ differs =>
      cases call with
      | data => exact (place here).elim
      | fin =>
          obtain ⟨kind, posted, _⟩ := place here
          simp only [Proc.finish, role]
          exact finNext posted (client.answered lawful kind differs) rfl
  | @waited call _ here _ done =>
      simp only [Proc.finish, role]
      cases call with
      | data k =>
          obtain ⟨below, length, _, fetched, unregistered⟩ := place here
          exact sentNext below length (fetched done) rfl unregistered
      | fin =>
          obtain ⟨posted, _, _, answered⟩ := place here
          exact finNext posted (answered done) rfl
  | waitFailed =>
      simp only [Proc.finish, afterCall_failed]
      exact ⟨rfl, by simp⟩
  | leftClose here => exact (place here).elim
  | registered here =>
      obtain ⟨posted, quiet, unregistered⟩ := place here
      exact ⟨posted, quiet, unregistered.2, fun _ => rfl⟩
  | registerFailed here => exact ⟨(place here).2.1, by simp⟩

theorem Client.untagged (client : side.Client cfg base) (kind : cfg.sendRecvType = .am) :
    side.proc.request ≠ some .recvTag := by
  intro tagged
  obtain ⟨call, place⟩ := client.here.waits tagged
  have here := client.here
  rw [place] at here
  cases call with
  | data =>
      obtain ⟨_, _, sends, _⟩ := here
      simp [tagged] at sends
  | fin =>
      obtain ⟨_, _, ⟨request, waits, held⟩, _⟩ := here
      obtain rfl := Option.some.inj (tagged.symm.trans waits)
      rcases held with (⟨other, _⟩ | ⟨other, _⟩) | ⟨_, index, other⟩
      · simp [kind] at other
      · simp [kind] at other
      · simp at other

theorem Client.outgoing (client : side.Client cfg base) (move : Move cfg side action next) :
    next.outgoing = side.outgoing ∨
      ∃ k message, side.proc.pc = .call (.data k) ∧ k < cfg.iterations ∧
        side.outgoing.log.length = base + k ∧ side.outgoing.AllFetched ∧
        message.data = (cfg.fillBuffer side.proc.client k).flatten ∧
        next.outgoing = side.outgoing.post message := by
  rcases move.outgoing with same | ⟨call, message, place, sends, data, _, posted⟩
  · exact .inl same
  · cases call with
    | fin => simp [Proc.receives, client.role] at sends
    | data k =>
        have here := client.here
        rw [place] at here
        obtain ⟨below, length, fetched, _⟩ := here
        exact .inr ⟨k, message, place, below, length, fetched, data, posted⟩

theorem Client.step_waits (client : side.Client cfg base) (move : Move cfg side action next)
    (inside : next.proc.inProgress = true) :
    ∃ call, next.proc.pc = .amWait call ∨ next.proc.pc = .requestWait call := by
  have busy {pc : Pc} (place : side.proc.pc = pc) (inside : side.proc.inProgress = true) :
      ∃ call, pc = .amWait call ∨ pc = .requestWait call :=
    place ▸ client.waits inside
  cases move with
  | callFailed place filled =>
      rcases filled with rfl | rfl
      all_goals
        obtain ⟨_, other | other⟩ := busy place inside <;> simp at other
  | sent place | posted place | awaiting place | received place | receiving place
  | registered place | registerFailed place =>
      obtain ⟨_, other | other⟩ := busy place inside <;> simp at other
  | polled _ waiting =>
      have role := client.role
      cases place : side.proc.pc with
      | amWait call => exact ⟨call, .inl rfl⟩
      | requestWait call => exact ⟨call, .inr rfl⟩
      | waitClose =>
          have here := client.here
          rw [place] at here
          exact here.elim
      | _ => simp [Proc.waiting, place, role] at waiting
  | progressed => simp at inside
  | handled => simpa using client.waits (by simpa using inside)
  | leftRndv _ outside | leftRndvFailed _ outside | leftEager _ outside | waited _ outside
  | waitFailed _ outside | leftClose _ outside =>
      simp [Proc.finish, outside] at inside
  | closed | failed | sendDone | receiveDone | discarded => exact client.waits inside

/-- Every move of the client keeps the invariant. -/
theorem Client.step (client : side.Client cfg base) (move : Move cfg side action next)
    (sized : cfg.Sized) (lawful : side.incoming.Lawful cfg) : next.Client cfg base := by
  have counts (kind : cfg.sendRecvType = .am) : Counts side next :=
    move.counts lawful kind (client.untagged kind)
  have sends := client.outgoing move
  refine ⟨by rw [move.identity.1, client.role], fun kind => ?_, fun kind => ?_,
    fun index message found => ?_, ?_, ?_, client.step_waits move,
    client.step_here move sized lawful⟩
  · have counted := client.counted kind
    cases counts kind with
    | kept _ _ _ _ discarded => rw [discarded]; omega
    | handled _ _ _ _ _ _ discarded => rw [discarded]; omega
    | discarded _ _ _ discarded => rw [discarded, List.length_cons]; omega
  · have ordered := client.ordered kind
    cases counts kind with
    | kept | handled | discarded => omega
  · rw [move.identity.2]
    rcases sends with same | ⟨k, posted, _, _, length, _, data, after⟩
    · rw [same] at found
      exact client.contents index message found
    · rw [after] at found
      rcases Channel.found_post found with old | ⟨last, rfl⟩
      · exact client.contents index message old
      · obtain rfl : index = k := by omega
        exact data
  · rcases sends with same | ⟨k, posted, _, below, length, _, _, after⟩
    · rw [same]
      exact client.capped
    · rw [after, Channel.length_post]
      omega
  · rcases sends with same | ⟨k, posted, _, _, _, fetched, _, after⟩
    · rw [same]
      exact client.fetched
    · rw [after]
      exact fetched.post

/-- A step of the server, seen from the client: it may fetch messages and post
its own. -/
structure ServerStep (side next : Side) : Prop where
  proc : next.proc = side.proc
  log : next.outgoing.log = side.outgoing.log
  fetched : ∀ index ∈ side.outgoing.fetched, index ∈ next.outgoing.fetched
  handled : next.incoming.next = side.incoming.next
  answered : side.incoming.log ≠ [] → next.incoming.log ≠ []

theorem ClientAt.served {pc : Pc} (here : side.ClientAt cfg base pc)
    (served : ServerStep side next) : next.ClientAt cfg base pc := by
  have proc := served.proc
  have log := served.log
  have unregistered (unregistered : side.Unregistered) : next.Unregistered := by
    unfold Unregistered at *
    rwa [proc]
  have posted (posted : side.Posted cfg base) : next.Posted cfg base := by
    unfold Posted at *
    rwa [log]
  have fetched (fetched : side.outgoing.AllFetched) : next.outgoing.AllFetched := by
    intro index message found rndv
    rw [log] at found
    exact served.fetched index (fetched index message found rndv)
  cases pc with
  | idle => rw [ClientAt, proc]; exact here
  | call call =>
      cases call with
      | data =>
          obtain ⟨below, length, all, quiet, handler⟩ := here
          exact ⟨below, by rw [log]; exact length, fetched all, by rw [proc]; exact quiet,
            unregistered handler⟩
      | fin =>
          obtain ⟨all, rest⟩ := here
          exact ⟨posted all, by rw [proc]; exact rest⟩
  | amWait call =>
      cases call with
      | data => exact here.elim
      | fin =>
          obtain ⟨kind, all, rest⟩ := here
          exact ⟨kind, posted all, by rw [proc]; exact rest⟩
  | requestWait call =>
      cases call with
      | data =>
          obtain ⟨below, length, sends, all, handler⟩ := here
          exact ⟨below, by rw [log]; exact length, by rw [proc]; exact sends,
            by rw [proc]; exact fun done => fetched (all done), unregistered handler⟩
      | fin =>
          obtain ⟨all, handler, ⟨request, waits, held⟩, done⟩ := here
          exact ⟨posted all, by rw [proc]; exact handler, ⟨request, by rw [proc]; exact waits,
            held.imp_right fun held => ⟨served.answered held.1, held.2⟩⟩,
            by rw [proc]; exact fun ok => served.answered (done ok)⟩
  | register =>
      obtain ⟨all, quiet, handler⟩ := here
      exact ⟨posted all, by rw [proc]; exact quiet, unregistered handler⟩
  | waitClose => exact here
  | returned ret =>
      exact ⟨by rw [proc]; exact here.1,
        fun success => ⟨posted (here.2 success).1, served.answered (here.2 success).2⟩⟩

theorem Client.served (client : side.Client cfg base) (served : ServerStep side next) :
    next.Client cfg base where
  role := by rw [served.proc]; exact client.role
  counted := by rw [served.proc, served.handled]; exact client.counted
  ordered := by rw [served.proc]; exact client.ordered
  contents := by rw [served.proc, served.log]; exact client.contents
  capped := by rw [served.log]; exact client.capped
  fetched := by
    intro index message found rndv
    rw [served.log] at found ⊢
    exact (client.fetched index message found rndv).imp_left (served.fetched index)
  waits := by rw [served.proc]; exact client.waits
  here := by rw [served.proc]; exact client.here.served served

end Steps

end Side

end UcxPlayground.ClientServer
