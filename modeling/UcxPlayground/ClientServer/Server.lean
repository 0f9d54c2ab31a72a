import UcxPlayground.ClientServer.Channels

/-!
# What the server knows

`Server` is the part of the session invariant that speaks of the server: where
it stands in `client_server_do_work`, and how far its receives have come. It
says nothing about where the client stands; that the client never sends more
than its iterations is an assumption here.
-/

set_option autoImplicit false

namespace UcxPlayground.ClientServer

def Config.iterations (cfg : Config) : Nat := cfg.numIterations.toNat

/-- With the stream type every message has at least one byte. -/
def Config.Sized (cfg : Config) : Prop :=
  cfg.sendRecvType = .stream → 0 < cfg.messageLength

section Control

variable (cfg : Config)

theorem loop_eq (isServer : Bool) (i : Nat) :
    loop cfg isServer i =
      if i < cfg.iterations then .call (.data i) else afterLoop cfg isServer := by
  simp only [loop, Config.iterations, Int.lt_toNat]

theorem afterLoop_server : afterLoop cfg true = .call .fin := by
  simp [afterLoop]

theorem afterCall_failed (isServer : Bool) (call : Call) :
    afterCall cfg isServer call (-1) = .returned (-1) := by
  simp [afterCall]

theorem afterCall_data (isServer : Bool) (iteration : Nat) :
    afterCall cfg isServer (.data iteration) 0 = loop cfg isServer (iteration + 1) := by
  simp [afterCall]

theorem loop_cases (isServer : Bool) (i : Nat) :
    (∃ next, loop cfg isServer i = .call next) ∨ loop cfg isServer i = .register := by
  rw [loop_eq]
  unfold afterLoop
  split
  · exact .inl ⟨_, rfl⟩
  · split
    · exact .inr rfl
    · exact .inl ⟨_, rfl⟩

theorem afterCall_cases (isServer : Bool) (call : Call) (ret : Int) :
    (∃ next, afterCall cfg isServer call ret = .call next) ∨
      afterCall cfg isServer call ret = .register ∨
      afterCall cfg isServer call ret = .waitClose ∨
      ∃ result, afterCall cfg isServer call ret = .returned result := by
  unfold afterCall
  split
  · exact .inr (.inr (.inr ⟨_, rfl⟩))
  · cases call with
    | data i =>
        rcases loop_cases cfg isServer (i + 1) with next | register
        · exact .inl next
        · exact .inr (.inl register)
    | fin =>
        cases isServer with
        | true => exact .inr (.inr (.inl rfl))
        | false => exact .inr (.inr (.inr ⟨_, rfl⟩))

end Control

namespace Side

variable (cfg : Config) (base : Nat) (side : Side)

/-- The receives have taken `count` messages, those of all clients together. -/
def Received (count : Nat) : Prop :=
  match cfg.sendRecvType with
  | .stream => side.incoming.taken = count * cfg.messageLength
  | .tag => side.incoming.next = count
  | .am => side.proc.last = count

/-- The server waits for the receive that follows `count` messages. -/
def Receiving (count : Nat) : Prop :=
  match cfg.sendRecvType with
  | .stream =>
      side.proc.request = some .recvStream ∧
        side.Received cfg (if side.proc.ctx = some .ok then count + 1 else count)
  | .tag =>
      side.proc.request = some .recvTag ∧
        side.Received cfg (if side.proc.ctx = some .ok then count + 1 else count)
  | .am =>
      side.Received cfg (count + 1) ∧
        ∃ index, side.proc.request = some (.recvAm index) ∧
          (count + 1 = base + cfg.iterations → index = count) ∧
          (side.proc.ctx = some .ok → index ∈ side.incoming.fetched)

def Results (count : Nat) : Prop :=
  ∀ iteration < count, ∃ iov,
    (⟨side.proc.client, .data iteration, 0, iov⟩ : Finished) ∈ side.proc.finished

def LastFetched : Prop :=
  ∀ index message, index + 1 = side.incoming.log.length →
    side.incoming.log[index]? = some message → message.rndv = true →
    index ∈ side.incoming.fetched

structure Complete : Prop where
  posted : side.incoming.log.length = base + cfg.iterations
  received : side.Received cfg (base + cfg.iterations)
  fetched : side.LastFetched
  results : side.Results cfg.iterations

/-- What holds of the server at each point of `client_server_do_work`. -/
def ServerAt : Pc → Prop
  | .idle =>
      side.incoming = .empty ∧ side.outgoing.log = [] ∧ side.proc.last = 0 ∧
        side.proc.request = none
  | .call (.data k) =>
      k < cfg.iterations ∧ side.Received cfg (base + k) ∧ side.Results k ∧
        side.proc.request = none ∧ side.outgoing.log = []
  | .amWait (.data k) =>
      cfg.sendRecvType = .am ∧ k < cfg.iterations ∧ side.Received cfg (base + k) ∧
        side.Results k ∧ side.proc.request = none ∧ side.proc.ctx = none ∧
        side.outgoing.log = []
  | .requestWait (.data k) =>
      k < cfg.iterations ∧ side.Receiving cfg base (base + k) ∧ side.Results k ∧
        side.outgoing.log = []
  | .call .fin | .waitClose => side.Complete cfg base ∧ side.proc.request = none
  | .requestWait .fin =>
      side.Complete cfg base ∧ ∃ index, side.proc.request = some (.send index)
  | .returned ret =>
      side.proc.request = none ∧
        (ret = 0 ∨ side.outgoing.log ≠ [] → side.Complete cfg base)
  | .amWait .fin | .register => False

structure Server : Prop where
  role : side.proc.isServer = true
  handler : cfg.sendRecvType = .am → side.proc.handler = true
  counted : cfg.sendRecvType = .am → side.proc.amDataDesc.complete = side.incoming.next
  ordered : cfg.sendRecvType = .am → side.proc.last ≤ side.incoming.next
  /-- The global descriptor is that of the latest message. -/
  latest : cfg.sendRecvType = .am → ∀ index message,
    index + 1 = side.incoming.next → side.incoming.log[index]? = some message →
    side.proc.amDataDesc.isRndv = message.rndv ∧
      (message.rndv = true → side.proc.amDataDesc.desc = some index)
  here : side.ServerAt cfg base side.proc.pc

section Steps

variable {cfg : Config} {base : Nat} {side next : Side} {action : Step}

theorem Results.extend {count : Nat} (results : side.Results count)
    (client : next.proc.client = side.proc.client)
    (kept : side.proc.finished ⊆ next.proc.finished) : next.Results count := by
  intro iteration below
  obtain ⟨iov, member⟩ := results iteration below
  exact ⟨iov, by rw [client]; exact kept member⟩

theorem Results.add {count : Nat} {iov : Iov} (results : side.Results count)
    (client : next.proc.client = side.proc.client)
    (kept : next.proc.finished =
      ⟨side.proc.client, .data count, 0, iov⟩ :: side.proc.finished) :
    next.Results (count + 1) := by
  intro iteration below
  by_cases earlier : iteration < count
  · exact results.extend client (by simp [kept]) iteration earlier
  · obtain rfl : iteration = count := by omega
    exact ⟨iov, by rw [client, kept]; exact List.mem_cons_self⟩

theorem posted_of_received (sized : cfg.Sized) (lawful : side.incoming.Lawful cfg)
    (capped : side.incoming.log.length ≤ base + cfg.iterations)
    (ordered : cfg.sendRecvType = .am → side.proc.last ≤ side.incoming.next)
    (received : side.Received cfg (base + cfg.iterations)) :
    side.incoming.log.length = base + cfg.iterations := by
  refine Nat.le_antisymm capped ?_
  have bound := lawful.bound
  unfold Received at received
  split at received
  · rename_i kind
    have taken := lawful.stream
    rw [received, lawful.length_stream] at taken
    exact Nat.le_of_mul_le_mul_right taken (sized kind)
  · omega
  · rename_i kind
    have := ordered kind
    omega

theorem advance {k : Nat} {iov : Iov} (sized : cfg.Sized) (lawful : next.incoming.Lawful cfg)
    (capped : next.incoming.log.length ≤ base + cfg.iterations)
    (ordered : cfg.sendRecvType = .am → next.proc.last ≤ next.incoming.next)
    (below : k < cfg.iterations) (results : side.Results k)
    (received : next.Received cfg (base + (k + 1)))
    (fetched : k + 1 = cfg.iterations → next.LastFetched)
    (client : next.proc.client = side.proc.client)
    (kept : next.proc.finished = ⟨side.proc.client, .data k, 0, iov⟩ :: side.proc.finished)
    (quiet : next.proc.request = none) (silent : next.outgoing.log = []) :
    next.ServerAt cfg base (afterCall cfg true (.data k) 0) := by
  rw [afterCall_data, loop_eq]
  split
  · rename_i more
    exact ⟨more, received, results.add client kept, quiet, silent⟩
  · obtain last : k + 1 = cfg.iterations := by omega
    rw [afterLoop_server]
    rw [last] at received
    refine ⟨⟨posted_of_received sized lawful capped ordered received, received, fetched last, ?_⟩,
      quiet⟩
    rw [← last]
    exact results.add client kept

theorem Complete.extend (complete : side.Complete cfg base)
    (incoming : next.incoming = side.incoming) (last : next.proc.last = side.proc.last)
    (client : next.proc.client = side.proc.client)
    (kept : side.proc.finished ⊆ next.proc.finished) : next.Complete cfg base where
  posted := by rw [incoming]; exact complete.posted
  received := by
    have received := complete.received
    unfold Received at *
    rwa [incoming, last]
  fetched := by
    unfold LastFetched
    rw [incoming]
    exact complete.fetched
  results := complete.results.extend client kept

/-- Until the server has everything it posts nothing. -/
theorem ServerAt.silent_or_complete {pc : Pc} (here : side.ServerAt cfg base pc) :
    side.outgoing.log = [] ∨ side.Complete cfg base := by
  cases pc with
  | idle => exact .inl here.2.1
  | call call =>
      cases call with
      | data => exact .inl here.2.2.2.2
      | fin => exact .inr here.1
  | amWait call =>
      cases call with
      | data => exact .inl here.2.2.2.2.2.2
      | fin => exact here.elim
  | requestWait call =>
      cases call with
      | data => exact .inl here.2.2.2
      | fin => exact .inr here.1
  | register => exact here.elim
  | waitClose => exact .inr here.1
  | returned ret =>
      by_cases silent : side.outgoing.log = []
      · exact .inl silent
      · exact .inr (here.2 (.inr silent))

theorem ServerAt.failed {pc : Pc} (here : side.ServerAt cfg base pc)
    (incoming : next.incoming = side.incoming) (outgoing : next.outgoing = side.outgoing)
    (last : next.proc.last = side.proc.last) (client : next.proc.client = side.proc.client)
    (kept : side.proc.finished ⊆ next.proc.finished)
    (quiet : next.proc.request = none) : next.ServerAt cfg base (.returned (-1)) := by
  refine ⟨quiet, ?_⟩
  intro either
  rcases either with success | posted
  · simp at success
  · rw [outgoing] at posted
    rcases here.silent_or_complete with silent | complete
    · exact absurd silent posted
    · exact complete.extend incoming last client kept

theorem ServerAt.handled {pc : Pc} {message : Message} (here : side.ServerAt cfg base pc)
    (kind : cfg.sendRecvType = .am)
    (found : side.incoming.log[side.incoming.next]? = some message) :
    ServerAt cfg base
      { side with
        incoming := { side.incoming with next := side.incoming.next + 1 }
        proc := side.proc.ucpAmDataCb cfg side.incoming.next message } pc := by
  have complete (complete : side.Complete cfg base) :
      Complete cfg base
        { side with
          incoming := { side.incoming with next := side.incoming.next + 1 }
          proc := side.proc.ucpAmDataCb cfg side.incoming.next message } := by
    have received := complete.received
    simp only [Received, kind] at received
    exact ⟨complete.posted, by simpa [Received, kind] using received, complete.fetched,
      by simpa [Results] using complete.results⟩
  cases pc with
  | idle => simp [here.1, Channel.empty] at found
  | call call =>
      cases call with
      | data => simpa [ServerAt, Received, Results, kind] using here
      | fin => exact ⟨complete here.1, by simpa using here.2⟩
  | amWait call =>
      cases call with
      | data => simpa [ServerAt, Received, Results, kind] using here
      | fin => exact here
  | requestWait call =>
      cases call with
      | data => simpa [ServerAt, Receiving, Received, Results, kind] using here
      | fin => exact ⟨complete here.1, by simpa using here.2⟩
  | register => exact here
  | waitClose => exact ⟨complete here.1, by simpa using here.2⟩
  | returned ret => exact ⟨by simpa using here.1, fun done => complete (here.2 done)⟩

theorem ServerAt.unmoved {pc : Pc} {inProgress connectionClosed : Bool}
    (here : side.ServerAt cfg base pc) :
    ServerAt cfg base
      { side with
        proc := { side.proc with
          inProgress := inProgress
          connectionClosed := connectionClosed } } pc := by
  have complete (complete : side.Complete cfg base) :
      Complete cfg base
        { side with
          proc := { side.proc with
            inProgress := inProgress
            connectionClosed := connectionClosed } } :=
    complete.extend rfl rfl rfl (List.Subset.refl _)
  cases pc with
  | call call | requestWait call =>
      cases call with
      | data => exact here
      | fin => exact ⟨complete here.1, here.2⟩
  | waitClose => exact ⟨complete here.1, here.2⟩
  | returned ret => exact ⟨here.1, fun done => complete (here.2 done)⟩
  | idle | register => exact here
  | amWait call => cases call <;> exact here

theorem lastFetched_of_not_am (lawful : side.incoming.Lawful cfg)
    (other : cfg.sendRecvType ≠ .am) : side.LastFetched := by
  intro index message _ found rndv
  exact absurd (lawful.rndv message (List.mem_of_getElem? found) rndv) other

theorem Received.supplied {count : Nat} {request : Request} {data : List Bytes.Byte}
    (received : side.Received cfg count) (kind : Receives cfg request)
    (supplied : Channel.Supplied cfg side.incoming request next.incoming data) :
    next.Received cfg (count + 1) := by
  generalize after : next.incoming = incoming at supplied
  rcases kind with ⟨kind, rfl⟩ | ⟨kind, rfl⟩ <;>
    simp only [Received, kind] at received ⊢ <;> cases supplied <;> rw [after]
  · simp only [received, Nat.succ_mul]
  · simp only [received]

theorem ServerAt.waits {pc : Pc} {request : Request} (here : side.ServerAt cfg base pc)
    (waits : side.proc.request = some request) : ∃ call, pc = .requestWait call := by
  cases pc with
  | requestWait call => exact ⟨call, rfl⟩
  | idle => simp [here.2.2.2] at waits
  | call call =>
      cases call with
      | data => simp [here.2.2.2.1] at waits
      | fin => simp [here.2] at waits
  | amWait call =>
      cases call with
      | data => simp [here.2.2.2.2.1] at waits
      | fin => exact here.elim
  | register => exact here.elim
  | waitClose => simp [here.2] at waits
  | returned => simp [here.1] at waits

theorem ServerAt.completed {pc : Pc} {request : Request} {data : List Bytes.Byte}
    {incoming : Channel} {iov : Iov} (here : side.ServerAt cfg base pc)
    (waits : side.proc.request = some request) (unset : side.proc.ctx = none)
    (supplied : Channel.Supplied cfg side.incoming request incoming data) :
    ServerAt cfg base
      { side with incoming := incoming, proc := { side.proc with iov := iov, ctx := some .ok } }
      pc := by
  obtain ⟨call, rfl⟩ := here.waits waits
  cases call with
  | data k =>
      obtain ⟨below, receiving, done, silent⟩ := here
      refine ⟨below, ?_, done, silent⟩
      unfold Receiving at *
      rw [if_pos rfl]
      rw [unset] at receiving
      split at receiving
      · rename_i kind
        obtain ⟨request, received⟩ := receiving
        refine ⟨request, Received.supplied received (.inl ⟨kind, ?_⟩) supplied⟩
        exact Option.some.inj (waits.symm.trans request)
      · rename_i kind
        obtain ⟨request, received⟩ := receiving
        refine ⟨request, Received.supplied received (.inr ⟨kind, ?_⟩) supplied⟩
        exact Option.some.inj (waits.symm.trans request)
      · rename_i kind
        obtain ⟨received, index, request, last, _⟩ := receiving
        simp only [Received, kind] at received ⊢
        refine ⟨received, index, request, last, fun _ => ?_⟩
        cases waits.symm.trans request
        cases supplied
        exact List.mem_cons_self
  | fin =>
      obtain ⟨_, index, sends⟩ := here
      cases waits.symm.trans sends
      cases supplied

theorem ServerAt.settled {pc : Pc} {request : Request} {status : UcsStatus}
    (here : side.ServerAt cfg base pc) (waits : side.proc.request = some request)
    (unset : side.proc.ctx = none) (unreceived : status = .ok → ∃ index, request = .send index) :
    ServerAt cfg base { side with proc := { side.proc with ctx := some status } } pc := by
  obtain ⟨call, rfl⟩ := here.waits waits
  cases call with
  | fin => exact ⟨here.1.extend rfl rfl rfl (List.Subset.refl _), here.2⟩
  | data k =>
      obtain ⟨below, receiving, done, silent⟩ := here
      refine ⟨below, ?_, done, silent⟩
      have failed {held : Request} (holds : side.proc.request = some held)
          (receives : ∀ index, held ≠ .send index) : some status ≠ some UcsStatus.ok := by
        intro ok
        obtain ⟨index, send⟩ := unreceived (Option.some.inj ok)
        exact receives index ((Option.some.inj (holds.symm.trans waits)).trans send)
      unfold Receiving at *
      rw [unset] at receiving
      split at receiving
      · obtain ⟨request, received⟩ := receiving
        rw [if_neg (failed request nofun)]
        exact ⟨request, received⟩
      · obtain ⟨request, received⟩ := receiving
        rw [if_neg (failed request nofun)]
        exact ⟨request, received⟩
      · obtain ⟨received, index, request, last, _⟩ := receiving
        exact ⟨received, index, request, last, fun ok => absurd ok (failed request nofun)⟩

theorem Server.arrived {k : Nat} (server : side.Server cfg base)
    (lawful : side.incoming.Lawful cfg) (capped : side.incoming.log.length ≤ base + cfg.iterations)
    (kind : cfg.sendRecvType = .am) (received : side.proc.last = base + k)
    (differs : side.proc.last ≠ side.proc.amDataDesc.complete) (last : k + 1 = cfg.iterations) :
    side.incoming.log.length = base + k + 1 ∧
      ∃ message, side.incoming.log[base + k]? = some message ∧
        side.proc.amDataDesc.isRndv = message.rndv ∧
        (message.rndv = true → side.proc.amDataDesc.desc = some (base + k)) := by
  have counted := server.counted kind
  have ordered := server.ordered kind
  have bound := lawful.bound
  have length : side.incoming.log.length = base + k + 1 := by omega
  have found : side.incoming.log[base + k]? = some side.incoming.log[base + k] :=
    List.getElem?_eq_getElem (by omega)
  exact ⟨length, _, found, server.latest kind _ _ (by omega) found⟩

/-- When `send_recv_am` finds the last data message eager, nothing is to fetch. -/
theorem Server.lastFetched_of_eager {k : Nat} (server : side.Server cfg base)
    (lawful : side.incoming.Lawful cfg) (capped : side.incoming.log.length ≤ base + cfg.iterations)
    (kind : cfg.sendRecvType = .am) (received : side.proc.last = base + k)
    (differs : side.proc.last ≠ side.proc.amDataDesc.complete)
    (eager : side.proc.amDataDesc.isRndv = false) (last : k + 1 = cfg.iterations) :
    side.LastFetched := by
  obtain ⟨length, latest, there, same, _⟩ :=
    server.arrived lawful capped kind received differs last
  intro index message ends found rndv
  obtain rfl : index = base + k := by omega
  simp only [there, Option.some.injEq] at found
  simp [← found, ← same, eager] at rndv

theorem Receiving.received {count : Nat} (receiving : side.Receiving cfg base count)
    (done : side.proc.ctx = some .ok) : side.Received cfg (count + 1) := by
  unfold Receiving at receiving
  rw [done] at receiving
  simp only [if_true] at receiving
  split at receiving
  · exact receiving.2
  · exact receiving.2
  · exact receiving.1

/-- When `request_wait` returns for the last data message, it was fetched. -/
theorem Server.lastFetched_of_done {k : Nat} (server : side.Server cfg base)
    (lawful : side.incoming.Lawful cfg) (capped : side.incoming.log.length ≤ base + cfg.iterations)
    (receiving : side.Receiving cfg base (base + k)) (done : side.proc.ctx = some .ok)
    (last : k + 1 = cfg.iterations) : side.LastFetched := by
  by_cases kind : cfg.sendRecvType = .am
  · have received := receiving.received done
    simp only [Receiving, kind] at receiving
    simp only [Received, kind] at received
    obtain ⟨_, desc, _, latest, fetched⟩ := receiving
    have ordered := server.ordered kind
    have bound := lawful.bound
    intro index message ends _ _
    obtain rfl : index = desc := by
      have := latest (by omega)
      omega
    exact fetched done
  · exact lastFetched_of_not_am lawful kind

theorem Server.step_here (server : side.Server cfg base) (move : Move cfg side action next)
    (ordered : cfg.sendRecvType = .am → next.proc.last ≤ next.incoming.next)
    (sized : cfg.Sized) (lawful : side.incoming.Lawful cfg) (after : next.incoming.Lawful cfg)
    (capped : side.incoming.log.length ≤ base + cfg.iterations) :
    next.ServerAt cfg base next.proc.pc := by
  have role := server.role
  have still : next.incoming.log.length ≤ base + cfg.iterations := by
    rw [move.incoming.1]
    exact capped
  have place {pc : Pc} (here : side.proc.pc = pc) : side.ServerAt cfg base pc :=
    here ▸ server.here
  cases move with
  | callFailed here filled =>
      rcases filled with rfl | rfl <;> simp only [Proc.finish, afterCall_failed]
      all_goals exact (place here).failed rfl rfl rfl rfl (List.subset_cons_self _ _) rfl
  | @sent call _ _ here sends =>
      cases call with
      | data => simp [Proc.receives, role] at sends
      | fin =>
          have ended : ((side.proc.fillRequestParam cfg .fin).finish cfg .fin 0).pc =
              .waitClose := by
            simp [Proc.finish, Proc.fillRequestParam, afterCall, role]
          rw [ended]
          exact ⟨(place here).1.extend rfl rfl rfl (List.subset_cons_self _ _), rfl⟩
  | @posted call _ _ here sends =>
      cases call with
      | data => simp [Proc.receives, role] at sends
      | fin => exact ⟨(place here).1.extend rfl rfl rfl (List.Subset.refl _), _, rfl⟩
  | @awaiting call _ _ here receives kind =>
      cases call with
      | data =>
          obtain ⟨below, received, results, quiet, silent⟩ := place here
          exact ⟨kind, below, received, results, quiet, rfl, silent⟩
      | fin => simp [Proc.receives, role] at receives
  | @received call _ _ _ _ _ here receives kind supply =>
      cases call with
      | data =>
          obtain ⟨below, received, results, quiet, silent⟩ := place here
          have other : cfg.sendRecvType ≠ .am := by
            rcases kind with ⟨kind, _⟩ | ⟨kind, _⟩ <;> simp [kind]
          simp only [Proc.finish, Proc.fillRequestParam, role]
          exact advance sized after still ordered below results
            (received.supplied kind (Channel.supplied supply))
            (fun _ => lastFetched_of_not_am after other) rfl rfl rfl silent
      | fin => simp [Proc.receives, role] at receives
  | @receiving call _ _ here receives kind =>
      cases call with
      | data =>
          obtain ⟨below, received, results, quiet, silent⟩ := place here
          refine ⟨below, ?_, results, silent⟩
          rcases kind with ⟨kind, rfl⟩ | ⟨kind, rfl⟩ <;>
            simp only [Receiving, Received, kind, Proc.fillRequestParam, reduceCtorEq,
              if_false] at received ⊢
          · exact ⟨trivial, received⟩
          · exact ⟨trivial, received⟩
      | fin => simp [Proc.receives, role] at receives
  | polled | progressed | closed => exact server.here.unmoved
  | failed waits unset => exact server.here.settled waits unset (by simp)
  | sendDone waits unset => exact server.here.settled waits unset fun _ => ⟨_, rfl⟩
  | receiveDone waits unset supply =>
      exact server.here.completed waits unset (Channel.supplied supply)
  | handled _ kind found =>
      simp only [Proc.ucpAmDataCb_pc]
      exact server.here.handled kind found
  | discarded _ kind _ unhandled => simp [server.handler kind] at unhandled
  | @leftRndv call desc here _ differs rndv held =>
      cases call with
      | data k =>
          obtain ⟨kind, below, received, results, quiet, unset, silent⟩ := place here
          simp only [Received, kind] at received
          refine ⟨below, ?_, results, silent⟩
          simp only [Receiving, Received, kind]
          -- earlier descriptors may be stale, but the last one is that of the last message
          refine ⟨by omega, desc, rfl, fun last => ?_, fun done => ?_⟩
          · obtain ⟨_, message, found, same, latest⟩ :=
              server.arrived lawful capped kind received differs (by omega)
            exact Option.some.inj (held.symm.trans (latest (same.symm.trans rndv)))
          · simp [unset] at done
      | fin => exact (place here).elim
  | @leftRndvFailed call _ here =>
      cases call with
      | data =>
          obtain ⟨_, _, _, _, _, _, silent⟩ := place here
          simp only [Proc.finish, afterCall_failed]
          refine ⟨rfl, ?_⟩
          intro either
          rcases either with success | posted
          · simp at success
          · exact absurd silent posted
      | fin => exact (place here).elim
  | @leftEager call _ here _ differs eager =>
      cases call with
      | data k =>
          obtain ⟨kind, below, received, results, quiet, unset, silent⟩ := place here
          simp only [Received, kind] at received
          simp only [Proc.finish, role]
          refine advance sized after still ordered below results ?_ (fun last => ?_)
            rfl rfl rfl silent
          · simp only [Received, kind]
            omega
          · exact server.lastFetched_of_eager lawful capped kind received differs eager last
      | fin => exact (place here).elim
  | @waited call _ here _ done =>
      cases call with
      | data k =>
          obtain ⟨below, receiving, results, silent⟩ := place here
          simp only [Proc.finish, role]
          exact advance sized after still ordered below results (receiving.received done)
            (fun last => server.lastFetched_of_done lawful capped receiving done last)
            rfl rfl rfl silent
      | fin =>
          have ended : (side.proc.finish cfg .fin 0).pc = .waitClose := by
            simp [Proc.finish, afterCall, role]
          rw [ended]
          exact ⟨(place here).1.extend rfl rfl rfl (List.subset_cons_self _ _), rfl⟩
  | waitFailed here =>
      simp only [Proc.finish, afterCall_failed]
      exact (place here).failed rfl rfl rfl rfl (List.subset_cons_self _ _) rfl
  | leftClose here =>
      exact ⟨(place here).2, fun _ => (place here).1.extend rfl rfl rfl (List.Subset.refl _)⟩
  | registered here => exact (place here).elim
  | registerFailed here => exact (place here).elim

theorem Server.untagged (server : side.Server cfg base) (kind : cfg.sendRecvType = .am) :
    side.proc.request ≠ some .recvTag := by
  intro tagged
  obtain ⟨call, place⟩ := server.here.waits tagged
  have here := server.here
  rw [place] at here
  cases call with
  | data =>
      have receiving := here.2.1
      simp [Receiving, kind, tagged] at receiving
  | fin =>
      obtain ⟨_, index, sends⟩ := here
      simp [tagged] at sends

/-- Every move of the server keeps the invariant. -/
theorem Server.step (server : side.Server cfg base) (move : Move cfg side action next)
    (sized : cfg.Sized) (lawful : side.incoming.Lawful cfg) (after : next.incoming.Lawful cfg)
    (capped : side.incoming.log.length ≤ base + cfg.iterations) : next.Server cfg base := by
  have counts (kind : cfg.sendRecvType = .am) : Counts side next :=
    move.counts lawful kind (server.untagged kind)
  have ordered (kind : cfg.sendRecvType = .am) : next.proc.last ≤ next.incoming.next := by
    have counted := server.counted kind
    have ordered := server.ordered kind
    cases counts kind with
    | kept | handled | discarded => omega
  refine ⟨by rw [move.identity.1, server.role], fun kind => move.registered_of (server.handler kind),
    fun kind => ?_, ordered, fun kind => ?_,
    server.step_here move ordered sized lawful after capped⟩
  · have counted := server.counted kind
    cases counts kind with
    | kept | handled => omega
    | discarded unhandled => simp [server.handler kind] at unhandled
  · intro index message ends found
    rw [move.incoming.1] at found
    cases counts kind with
    | kept same _ rndv desc =>
        rw [same] at ends
        rw [rndv, desc]
        exact server.latest kind index message ends found
    | handled arrived _ same _ rndv desc =>
        obtain rfl : index = side.incoming.next := by omega
        rw [arrived] at found
        obtain rfl := Option.some.inj found
        exact ⟨rndv, desc⟩
    | discarded unhandled => simp [server.handler kind] at unhandled

/-- A step of the client, seen from the server: it may post a message if it has
not posted all of its own. -/
structure Peer (cfg : Config) (base : Nat) (side next : Side) : Prop where
  proc : next.proc = side.proc
  incoming : ∃ log, next.incoming = { side.incoming with log := log } ∧
    (log = side.incoming.log ∨ ∃ message, log = side.incoming.log ++ [message] ∧
      side.incoming.log.length < base + cfg.iterations ∧ side.proc.pc ≠ .idle)
  outgoing : next.outgoing.log = side.outgoing.log

theorem Complete.peer (complete : side.Complete cfg base) (peer : Peer cfg base side next) :
    next.Complete cfg base := by
  obtain ⟨log, incoming, rfl | ⟨message, rfl, room, _⟩⟩ := peer.incoming
  · exact complete.extend incoming (by rw [peer.proc]) (by rw [peer.proc])
      (by rw [peer.proc]; exact List.Subset.refl _)
  · have := complete.posted
    omega

theorem ServerAt.peer (here : side.ServerAt cfg base side.proc.pc)
    (peer : Peer cfg base side next) : next.ServerAt cfg base side.proc.pc := by
  obtain ⟨log, incoming, grown⟩ := peer.incoming
  have proc := peer.proc
  have received {count : Nat} (received : side.Received cfg count) : next.Received cfg count := by
    unfold Received at *
    rwa [incoming, proc]
  have results {count : Nat} (results : side.Results count) : next.Results count := by
    unfold Results at *
    rwa [proc]
  generalize place : side.proc.pc = pc at here
  cases pc with
  | idle =>
      obtain ⟨empty, silent, last, quiet⟩ := here
      refine ⟨?_, by rw [peer.outgoing]; exact silent, by rw [proc]; exact last,
        by rw [proc]; exact quiet⟩
      rcases grown with rfl | ⟨_, _, _, busy⟩
      · rw [incoming, ← empty]
      · exact absurd place busy
  | call call =>
      cases call with
      | data =>
          obtain ⟨below, taken, done, quiet, silent⟩ := here
          exact ⟨below, received taken, results done, by rw [proc]; exact quiet,
            by rw [peer.outgoing]; exact silent⟩
      | fin => exact ⟨here.1.peer peer, by rw [proc]; exact here.2⟩
  | amWait call =>
      cases call with
      | data =>
          obtain ⟨kind, below, taken, done, quiet, unset, silent⟩ := here
          exact ⟨kind, below, received taken, results done, by rw [proc]; exact quiet,
            by rw [proc]; exact unset, by rw [peer.outgoing]; exact silent⟩
      | fin => exact here
  | requestWait call =>
      cases call with
      | data =>
          obtain ⟨below, receiving, done, silent⟩ := here
          refine ⟨below, ?_, results done, by rw [peer.outgoing]; exact silent⟩
          unfold Receiving Received at *
          rwa [incoming, proc]
      | fin => exact ⟨here.1.peer peer, by rw [proc]; exact here.2⟩
  | register => exact here
  | waitClose => exact ⟨here.1.peer peer, by rw [proc]; exact here.2⟩
  | returned ret =>
      refine ⟨by rw [proc]; exact here.1, fun done => (here.2 ?_).peer peer⟩
      rwa [← peer.outgoing]

theorem Server.peer (server : side.Server cfg base) (lawful : side.incoming.Lawful cfg)
    (peer : Peer cfg base side next) : next.Server cfg base := by
  have proc := peer.proc
  have here := server.here.peer peer
  obtain ⟨log, incoming, grown⟩ := peer.incoming
  refine ⟨by rw [proc]; exact server.role, by rw [proc]; exact server.handler,
    by rw [proc, incoming]; exact server.counted, by rw [proc, incoming]; exact server.ordered,
    ?_, by rw [proc]; exact here⟩
  rw [proc, incoming]
  intro kind index message ends found
  have old : side.incoming.log[index]? = some message := by
    rcases grown with rfl | ⟨added, rfl, _⟩
    · exact found
    · have := lawful.bound
      rwa [List.getElem?_append_left (by simp only at ends; omega)] at found
  exact server.latest kind index message ends old

end Steps

end Side

end UcxPlayground.ClientServer
