import UcxPlayground.ClientServer.Session

/-!
# The contents of active messages

The global `am_data_desc` is a mailbox with one place. The server's receives
get the right messages as long as nothing arrives while the place is taken, and
no eager message arrives outside the wait loop of `send_recv_am`.
-/

set_option autoImplicit false

namespace UcxPlayground.ClientServer

open Transition

namespace Proc

/-- What the mailbox holds: nothing, a rendezvous message that the server has
still to receive, or an eager one that is in the buffers of the current call. -/
inductive Mailbox (cfg : Config) (proc : Proc) : Prop where
  | empty :
      proc.last = proc.amDataDesc.complete →
      (proc.descTaken = true ∨ proc.amDataDesc.desc = none) → Mailbox cfg proc
  | announced :
      proc.amDataDesc.complete = proc.last + 1 → proc.amDataDesc.isRndv = true →
      proc.amDataDesc.desc = some proc.last → Mailbox cfg proc
  | copied {k} :
      proc.amDataDesc.complete = proc.last + 1 → proc.amDataDesc.isRndv = false →
      (proc.descTaken = true ∨ proc.amDataDesc.desc = none) →
      proc.pc = .amWait (.data k) → proc.iov = cfg.fillBuffer proc.client k → Mailbox cfg proc

def Genuine (cfg : Config) (finished : Finished) : Prop :=
  ∀ k, finished.call = .data k → finished.ret = 0 →
    finished.iov = cfg.fillBuffer finished.client k

structure Delivering (cfg : Config) (base : Nat) (proc : Proc) : Prop where
  genuine : ∀ finished ∈ proc.finished, Genuine cfg finished
  stray : proc.stray = []
  overwritten : proc.overwritten = []
  mailbox : proc.Mailbox cfg
  buffer : ∀ call, proc.pc = .amWait call → proc.amDataDesc.recvBuf = some proc.serial
  receiving : ∀ k, proc.pc = .requestWait (.data k) →
    proc.request = some (.recvAm (base + k)) ∧
      (proc.ctx = some .ok → proc.iov = cfg.fillBuffer proc.client k)

variable {cfg : Config} {base : Nat} {proc next : Proc}

theorem Mailbox.keep (mailbox : proc.Mailbox cfg) (last : next.last = proc.last)
    (complete : next.amDataDesc.complete = proc.amDataDesc.complete)
    (isRndv : next.amDataDesc.isRndv = proc.amDataDesc.isRndv)
    (desc : next.amDataDesc.desc = proc.amDataDesc.desc)
    (taken : next.descTaken = proc.descTaken)
    (copied : ∀ k, proc.pc = .amWait (.data k) →
      next.pc = proc.pc ∧ next.iov = proc.iov ∧ next.client = proc.client) :
    next.Mailbox cfg := by
  cases mailbox with
  | empty none free =>
      apply Mailbox.empty
      · rw [last, complete, none]
      · rw [taken, desc]
        exact free
  | announced one rndv held =>
      apply Mailbox.announced
      · rw [last, complete, one]
      · rw [isRndv, rndv]
      · rw [last, desc, held]
  | @copied k one eager free place filled =>
      obtain ⟨pc, iov, client⟩ := copied k place
      apply Mailbox.copied
      · rw [last, complete, one]
      · rw [isRndv, eager]
      · rw [taken, desc]
        exact free
      · rw [pc, place]
      · rw [iov, client, filled]

theorem afterCall_not_waiting (isServer : Bool) (call other : Call) (ret : Int) :
    afterCall cfg isServer call ret ≠ .amWait other ∧
      afterCall cfg isServer call ret ≠ .requestWait other := by
  rcases afterCall_cases cfg isServer call ret with ⟨_, next⟩ | next | next | ⟨_, next⟩ <;>
    simp [next]

/-- A call returns: the mailbox must not hold an eager message any more. -/
theorem Delivering.finish {call : Call} {ret : Int}
    (genuine : ∀ finished ∈ proc.finished, Genuine cfg finished) (stray : proc.stray = [])
    (overwritten : proc.overwritten = []) (mailbox : proc.Mailbox cfg)
    (elsewhere : ∀ k, proc.pc = .amWait (.data k) → proc.last = proc.amDataDesc.complete)
    (result : ∀ k, call = .data k → ret = 0 → proc.iov = cfg.fillBuffer proc.client k) :
    (proc.finish cfg call ret).Delivering cfg base where
  genuine := by
    intro finished member
    rcases List.mem_cons.mp member with rfl | earlier
    · exact result
    · exact genuine finished earlier
  stray := stray
  overwritten := overwritten
  mailbox := by
    cases mailbox with
    | empty none free => exact .empty none free
    | announced one rndv held => exact .announced one rndv held
    | copied one _ _ place =>
        -- leaving the wait loop counted the message
        have := elsewhere _ place
        omega
  buffer := fun other place => absurd place (afterCall_not_waiting _ call other ret).1
  receiving := fun k place => absurd place (afterCall_not_waiting _ call (.data k) ret).2

end Proc

def Pc.inAmWait : Pc → Bool
  | .amWait _ => true
  | _ => false

theorem Pc.inAmWait_iff {pc : Pc} : pc.inAmWait = true ↔ ∃ call, pc = .amWait call := by
  cases pc <;> simp [inAmWait]

namespace Side

variable {cfg : Config} {base : Nat} {side next : Side} {action : Step}

/-- The next active message finds the mailbox empty and, if it is eager, the
server in the loop that waits for it. -/
def InTurn (side : Side) : Prop :=
  side.proc.last = side.proc.amDataDesc.complete ∧
    ∀ message ∈ side.incoming.log[side.incoming.next]?,
      message.rndv = false → side.proc.pc.inAmWait = true

instance (side : Side) : Decidable side.InTurn :=
  inferInstanceAs (Decidable (_ ∧ _))

def Authentic (cfg : Config) (base : Nat) (side : Side) : Prop :=
  ∀ k message, side.incoming.log[base + k]? = some message →
    message.data = (cfg.fillBuffer side.proc.client k).flatten

theorem scatter_authentic {k : Nat} {message : Message} (authentic : side.Authentic cfg base)
    (found : side.incoming.log[base + k]? = some message) :
    scatter cfg.testStringLength cfg.iovCnt message.data = cfg.fillBuffer side.proc.client k := by
  rw [authentic k message found, scatter_fillBuffer]

theorem delivering_handled {message : Message} (delivering : side.proc.Delivering cfg base)
    (server : side.Server cfg base) (authentic : side.Authentic cfg base)
    (lawful : side.incoming.Lawful cfg) (kind : cfg.sendRecvType = .am)
    (found : side.incoming.log[side.incoming.next]? = some message) (inTurn : side.InTurn) :
    (side.proc.ucpAmDataCb cfg side.incoming.next message).Delivering cfg base := by
  obtain ⟨level, awaited⟩ := inTurn
  have agreed := lawful.sized _ (List.mem_of_getElem? found)
  have counted := server.counted kind
  have position : side.incoming.next = side.proc.last := by omega
  have free : side.proc.descTaken = true ∨ side.proc.amDataDesc.desc = none := by
    cases delivering.mailbox with
    | empty _ free => exact free
    | announced one => omega
    | copied one => omega
  cases rndv : message.rndv with
  | true =>
      rw [Proc.ucpAmDataCb_rndv agreed rndv]
      refine ⟨delivering.genuine, delivering.stray, ?_, ?_, delivering.buffer,
        delivering.receiving⟩
      · simp only [delivering.overwritten, List.append_nil]
        rcases free with taken | empty
        · simp [taken]
        · simp [empty]
      · refine .announced ?_ rfl ?_
        · simp only [level]
        · simp only [position]
  | false =>
      obtain ⟨call, place⟩ := Pc.inAmWait_iff.mp (awaited message found rndv)
      have here := server.here
      rw [place] at here
      cases call with
      | fin => exact here.elim
      | data k =>
          obtain ⟨_, _, received, _⟩ := here
          simp only [Received, kind] at received
          have inCall : side.proc.inCall = true := by simp [Proc.inCall, place]
          rw [Proc.ucpAmDataCb_eager agreed rndv (delivering.buffer _ place) inCall]
          rw [position, received] at found
          refine ⟨delivering.genuine, delivering.stray, delivering.overwritten, ?_,
            delivering.buffer, ?_⟩
          · refine .copied ?_ rfl free place (scatter_authentic authentic found)
            simp only [level]
          · intro other elsewhere
            simp [place] at elsewhere

theorem delivering_step (delivering : side.proc.Delivering cfg base)
    (server : side.Server cfg base) (authentic : side.Authentic cfg base)
    (lawful : side.incoming.Lawful cfg) (kind : cfg.sendRecvType = .am)
    (move : Move cfg side action next) (inTurn : action = .arrive → side.InTurn) :
    next.proc.Delivering cfg base := by
  have role := server.role
  have place {pc : Pc} (here : side.proc.pc = pc) : side.ServerAt cfg base pc :=
    here ▸ server.here
  have mailbox := delivering.mailbox
  cases move with
  | @callFailed _ call _ here filled =>
      rcases filled with rfl | rfl
      · exact .finish delivering.genuine delivering.stray delivering.overwritten mailbox
          (by simp [here]) (by simp)
      · refine .finish delivering.genuine delivering.stray delivering.overwritten ?_ ?_ (by simp)
        · exact mailbox.keep rfl rfl rfl rfl rfl (by simp [here])
        · intro k elsewhere
          simp [Proc.fillRequestParam, here] at elsewhere
  | @sent call _ _ here sends =>
      cases call with
      | data => simp [Proc.receives, role] at sends
      | fin =>
          refine .finish delivering.genuine delivering.stray delivering.overwritten ?_ ?_ (by simp)
          · exact mailbox.keep rfl rfl rfl rfl rfl (by simp [here])
          · intro k elsewhere
            simp [Proc.fillRequestParam, here] at elsewhere
  | @posted call _ _ here sends =>
      cases call with
      | data => simp [Proc.receives, role] at sends
      | fin =>
          exact ⟨delivering.genuine, delivering.stray, delivering.overwritten,
            mailbox.keep rfl rfl rfl rfl rfl (by simp [here]), by simp, by simp⟩
  | awaiting here =>
      exact ⟨delivering.genuine, delivering.stray, delivering.overwritten,
        mailbox.keep rfl rfl rfl rfl rfl (by simp [here]), fun _ _ => rfl, by simp⟩
  | received _ _ receives | receiving _ _ receives =>
      rcases receives with ⟨other, _⟩ | ⟨other, _⟩ <;> simp [kind] at other
  | polled | progressed | closed =>
      exact ⟨delivering.genuine, delivering.stray, delivering.overwritten,
        mailbox.keep rfl rfl rfl rfl rfl fun _ _ => ⟨rfl, rfl, rfl⟩, delivering.buffer,
        delivering.receiving⟩
  | failed =>
      refine ⟨delivering.genuine, delivering.stray, delivering.overwritten,
        mailbox.keep rfl rfl rfl rfl rfl fun _ _ => ⟨rfl, rfl, rfl⟩, delivering.buffer, ?_⟩
      intro k waits
      exact ⟨(delivering.receiving k waits).1, by simp⟩
  | sendDone sends =>
      refine ⟨delivering.genuine, delivering.stray, delivering.overwritten,
        mailbox.keep rfl rfl rfl rfl rfl fun _ _ => ⟨rfl, rfl, rfl⟩, delivering.buffer, ?_⟩
      intro k waits
      have receives := (delivering.receiving k waits).1
      simp [sends] at receives
  | @receiveDone request incoming data holds _ supply =>
      obtain ⟨call, here⟩ := server.here.waits holds
      refine ⟨delivering.genuine, delivering.stray, delivering.overwritten,
        mailbox.keep rfl rfl rfl rfl rfl (by simp [here]), delivering.buffer, ?_⟩
      intro k waits
      obtain ⟨receives, _⟩ := delivering.receiving k waits
      refine ⟨receives, fun _ => ?_⟩
      obtain rfl := Option.some.inj (holds.symm.trans receives)
      cases Channel.supplied supply with
      | am found => exact scatter_authentic authentic found
  | handled _ _ found =>
      exact delivering_handled delivering server authentic lawful kind found (inTurn rfl)
  | discarded _ _ _ unhandled => simp [server.handler kind] at unhandled
  | @leftRndv call desc here _ differs rndv held =>
      cases call with
      | fin => exact (place here).elim
      | data k =>
          obtain ⟨_, _, received, _, _, unset, _⟩ := place here
          simp only [Received, kind] at received
          cases mailbox with
          | empty level => exact absurd level differs
          | copied _ eager => simp [rndv] at eager
          | announced one _ latest =>
              obtain rfl : desc = side.proc.last := Option.some.inj (held.symm.trans latest)
              refine ⟨delivering.genuine, delivering.stray, delivering.overwritten,
                .empty one.symm (.inl rfl), by simp, ?_⟩
              intro other waits
              simp only [Pc.requestWait.injEq, Call.data.injEq] at waits
              subst other
              exact ⟨by simp only [received], by simp [unset]⟩
  | leftRndvFailed here _ differs rndv =>
      cases mailbox with
      | empty level => exact absurd level differs
      | copied _ eager => simp [rndv] at eager
      | announced one =>
          exact .finish delivering.genuine delivering.stray delivering.overwritten
            (.empty one.symm (.inl rfl)) (fun _ _ => one.symm) (by simp)
  | @leftEager call _ here _ differs eager =>
      cases mailbox with
      | empty level => exact absurd level differs
      | announced _ rndv => simp [eager] at rndv
      | @copied k one _ free copied filled =>
          refine .finish delivering.genuine delivering.stray delivering.overwritten
            (.empty one.symm free) (fun _ _ => one.symm) ?_
          intro other same _
          subst same
          rw [copied] at here
          cases here
          exact filled
  | waited here _ done =>
      refine .finish delivering.genuine delivering.stray delivering.overwritten mailbox
        (by simp [here]) ?_
      intro k same _
      subst same
      exact (delivering.receiving k here).2 done
  | waitFailed here =>
      exact .finish delivering.genuine delivering.stray delivering.overwritten mailbox
        (by simp [here]) (by simp)
  | leftClose here =>
      exact ⟨delivering.genuine, delivering.stray, delivering.overwritten,
        mailbox.keep rfl rfl rfl rfl rfl (by simp [here]), by simp, by simp⟩
  | registered here | registerFailed here => exact (place here).elim

end Side

namespace State

variable {cfg : Config} {state next : State} {action : Action}

/-- Every receive that returned 0 had the message of its iteration in its
buffers. No message went to other buffers than those of the current call, and
no descriptor was overwritten before it was received. -/
structure Delivered (cfg : Config) (state : State) : Prop where
  genuine : ∀ finished ∈ state.server.finished, ∀ k, finished.call = .data k →
    finished.ret = 0 → finished.iov = cfg.fillBuffer finished.client k
  stray : state.server.stray = []
  overwritten : state.server.overwritten = []

/-- The server's worker handles active messages one at a time, each in the
iteration that waits for it. -/
def ArrivesInTurn (state : State) : Action → Prop
  | .server .arrive => state.serverSide.InTurn
  | _ => True

instance (state : State) : ∀ action, Decidable (ArrivesInTurn state action)
  | .server .arrive => inferInstanceAs (Decidable state.serverSide.InTurn)
  | .connect | .client _ | .server (.communicate ..) | .server .outOfMemory | .server .poll
  | .server (.complete _) | .server .peerError | .server .progressed | .server (.leave _)
  | .server (.register _) => .isTrue trivial

theorem delivering_initial (cfg : Config) : (State.initial cfg).server.Delivering cfg 0 where
  genuine := by simp [State.initial, Proc.fresh]
  stray := rfl
  overwritten := rfl
  mailbox := .empty rfl (.inr rfl)
  buffer := by simp [State.initial, Proc.fresh]
  receiving := by simp [State.initial, Proc.fresh]

theorem delivering_connect (delivering : state.server.Delivering cfg state.base)
    (ready : state.server.pc = .idle ∨ state.server.pc = .returned 0) :
    (state.connect cfg).server.Delivering cfg (state.connect cfg).base := by
  have started : (∃ call, (state.connect cfg).server.pc = .call call) ∨
      (state.connect cfg).server.pc = .register := loop_cases cfg _ 0
  refine ⟨delivering.genuine, delivering.stray, delivering.overwritten, ?_, ?_, ?_⟩
  · refine delivering.mailbox.keep rfl rfl rfl rfl rfl ?_
    intro k waits
    rcases ready with place | place <;> simp [place] at waits
  · intro call waits
    rcases started with ⟨_, place⟩ | place <;> simp [place] at waits
  · intro k waits
    rcases started with ⟨_, place⟩ | place <;> simp [place] at waits

theorem Session.authentic (session : state.Session cfg) :
    state.serverSide.Authentic cfg state.base := by
  intro k message found
  rw [show state.serverSide.proc.client = state.client.client from session.together]
  exact session.client.contents k message found

theorem delivering_step (kind : cfg.sendRecvType = .am) (session : state.Session cfg)
    (delivering : state.server.Delivering cfg state.base) (inTurn : ArrivesInTurn state action)
    (stepped : ClientServer.step cfg state action = some next) :
    next.server.Delivering cfg next.base := by
  cases step_move stepped with
  | connected ready => exact delivering_connect delivering ready
  | server move =>
      have before : state.serverSide.proc.Delivering cfg state.base := delivering
      refine Side.delivering_step before session.server session.authentic session.toServer kind
        move ?_
      intro arrives
      subst arrives
      exact inTurn
  | client move => exact delivering

/-- In every run with active messages, with any number of clients and eager and
rendezvous messages mixed in any way, in which they arrive in turn, every
receive that returned 0 delivered the message of its iteration. -/
theorem delivered_of_inTurn (kind : cfg.sendRecvType = .am) {actions : List Action}
    (reached : run (step cfg) (State.initial cfg) actions = some state)
    (inTurn : Along (step cfg) ArrivesInTurn (State.initial cfg) actions) :
    state.Delivered cfg := by
  have sized : cfg.Sized := fun other => by simp [kind] at other
  have always := along_always
    (fun state => state.Session cfg ∧ state.server.Delivering cfg state.base)
    (fun _ _ _ held condition stepped =>
      ⟨held.1.step sized stepped, delivering_step kind held.1 held.2 condition stepped⟩)
    ⟨Session.initial cfg, delivering_initial cfg⟩ inTurn
  obtain ⟨_, delivering⟩ := always.last reached
  exact ⟨delivering.genuine, delivering.stray, delivering.overwritten⟩

def twoBytes : Config where
  sendRecvType := .am
  numIterations := 2
  testStringLength := 1
  iovCnt := 1
  iovCnt_pos := Nat.one_pos
  testString _ currentIter _ := BitVec.ofNat 8 currentIter

/-- Both messages arrive in one call of `ucp_worker_progress`. -/
def batched : List Action :=
  [.connect, .client (.communicate (.null 1) false), .client (.communicate (.null 1) false),
    .server (.communicate .request false), .server .poll, .server .arrive, .server .arrive,
    .server .progressed, .server (.leave .request)]

theorem batched_delivers_wrong_bytes :
    ∃ state, run (step twoBytes) (State.initial twoBytes) batched = some state ∧
      ¬ state.Delivered twoBytes :=
  ⟨_, rfl, fun delivered =>
    absurd (delivered.genuine _ List.mem_cons_self 0 rfl rfl) (by decide)⟩

/-- An eager message and then a rendezvous message, each in a call of its own. -/
def oneByOne : List Action :=
  [.connect, .client (.communicate (.null 1) false), .client (.communicate .request true),
    .server (.communicate .request false), .server .poll, .server .arrive, .server .progressed,
    .server (.leave .request), .server (.communicate .request false), .server .poll,
    .server .arrive, .server .progressed, .server (.leave .request), .server .poll,
    .server (.complete .ok), .server .progressed, .server (.leave .request)]

theorem oneByOne_delivers :
    ∃ state, run (step twoBytes) (State.initial twoBytes) oneByOne = some state ∧
      state.server.finished.length = 2 ∧ state.Delivered twoBytes :=
  ⟨_, rfl, rfl, delivered_of_inTurn rfl
    (show run (step twoBytes) _ oneByOne = _ from rfl) (by decide)⟩

end State

end UcxPlayground.ClientServer
