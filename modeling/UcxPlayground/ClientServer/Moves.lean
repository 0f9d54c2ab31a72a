import Mathlib.Tactic.SplitIfs
import UcxPlayground.ClientServer.Model

/-!
# The steps of a process

`Move` lists what a process can do, with the guards that later proofs need, so
that none of them unfolds `Side.step`. The lemmas behind it say where
`client_server_do_work` goes after a call.
-/

set_option autoImplicit false

namespace UcxPlayground.ClientServer

/-- The request that a receive of the stream or tag type waits for. -/
def Receives (cfg : Config) (request : Request) : Prop :=
  (cfg.sendRecvType = .stream ∧ request = .recvStream) ∨
    (cfg.sendRecvType = .tag ∧ request = .recvTag)

namespace Proc

section Frame

variable (cfg : Config) (proc : Proc) (index : Nat) (message : Message)

@[simp] theorem ucpAmDataCb_isServer :
    (proc.ucpAmDataCb cfg index message).isServer = proc.isServer := by
  simp only [ucpAmDataCb]
  split_ifs <;> rfl

@[simp] theorem ucpAmDataCb_client :
    (proc.ucpAmDataCb cfg index message).client = proc.client := by
  simp only [ucpAmDataCb]
  split_ifs <;> rfl

@[simp] theorem ucpAmDataCb_pc : (proc.ucpAmDataCb cfg index message).pc = proc.pc := by
  simp only [ucpAmDataCb]
  split_ifs <;> rfl

@[simp] theorem ucpAmDataCb_inProgress :
    (proc.ucpAmDataCb cfg index message).inProgress = proc.inProgress := by
  simp only [ucpAmDataCb]
  split_ifs <;> rfl

@[simp] theorem ucpAmDataCb_request :
    (proc.ucpAmDataCb cfg index message).request = proc.request := by
  simp only [ucpAmDataCb]
  split_ifs <;> rfl

@[simp] theorem ucpAmDataCb_ctx : (proc.ucpAmDataCb cfg index message).ctx = proc.ctx := by
  simp only [ucpAmDataCb]
  split_ifs <;> rfl

@[simp] theorem ucpAmDataCb_last : (proc.ucpAmDataCb cfg index message).last = proc.last := by
  simp only [ucpAmDataCb]
  split_ifs <;> rfl

@[simp] theorem ucpAmDataCb_handler :
    (proc.ucpAmDataCb cfg index message).handler = proc.handler := by
  simp only [ucpAmDataCb]
  split_ifs <;> rfl

@[simp] theorem ucpAmDataCb_finished :
    (proc.ucpAmDataCb cfg index message).finished = proc.finished := by
  simp only [ucpAmDataCb]
  split_ifs <;> rfl

@[simp] theorem ucpAmDataCb_discarded :
    (proc.ucpAmDataCb cfg index message).discarded = proc.discarded := by
  simp only [ucpAmDataCb]
  split_ifs <;> rfl

end Frame

section Sized

variable {cfg : Config} {proc : Proc} {index : Nat} {message : Message}

theorem ucpAmDataCb_complete (sized : message.data.length = cfg.messageLength) :
    (proc.ucpAmDataCb cfg index message).amDataDesc.complete =
      proc.amDataDesc.complete + 1 := by
  simp only [ucpAmDataCb, sized, ne_eq, not_true_eq_false, if_false]
  split_ifs <;> rfl

theorem ucpAmDataCb_isRndv (sized : message.data.length = cfg.messageLength) :
    (proc.ucpAmDataCb cfg index message).amDataDesc.isRndv = message.rndv := by
  simp only [ucpAmDataCb, sized, ne_eq, not_true_eq_false, if_false]
  split_ifs with rndv
  · exact rndv.symm
  all_goals simp [rndv]

theorem ucpAmDataCb_rndv (sized : message.data.length = cfg.messageLength)
    (rndv : message.rndv = true) :
    proc.ucpAmDataCb cfg index message =
      { proc with
        amDataDesc := { proc.amDataDesc with
          complete := proc.amDataDesc.complete + 1
          isRndv := true
          desc := some index }
        descTaken := false
        overwritten :=
          (if proc.descTaken then [] else proc.amDataDesc.desc.toList) ++ proc.overwritten } := by
  simp [ucpAmDataCb, sized, rndv]

theorem ucpAmDataCb_eager (sized : message.data.length = cfg.messageLength)
    (eager : message.rndv = false) (current : proc.amDataDesc.recvBuf = some proc.serial)
    (inCall : proc.inCall = true) :
    proc.ucpAmDataCb cfg index message =
      { proc with
        amDataDesc := { proc.amDataDesc with
          complete := proc.amDataDesc.complete + 1
          isRndv := false }
        iov := scatter cfg.testStringLength cfg.iovCnt message.data } := by
  have inCall' (desc : AmDataDesc) : ({ proc with amDataDesc := desc } : Proc).inCall = true :=
    inCall
  simp [ucpAmDataCb, sized, eager, current, inCall']

end Sized

end Proc

namespace Side

def message (cfg : Config) (side : Side) (call : Call) (rndv : Bool) : Message :=
  ⟨(cfg.fillBuffer side.proc.client (call.currentIter cfg)).flatten, rndv⟩

inductive Move (cfg : Config) (side : Side) : Step → Side → Prop where
  | callFailed {action call proc} :
      side.proc.pc = .call call →
      (proc = side.proc ∨ proc = side.proc.fillRequestParam cfg call) →
      (action = .outOfMemory ∨ ∃ result rndv, action = .communicate result rndv) →
      Move cfg side action { side with proc := proc.finish cfg call (-1) }
  | sent {call result rndv} :
      side.proc.pc = .call call → side.proc.receives call = false →
      Move cfg side (.communicate result rndv)
        { side with
          outgoing := side.outgoing.post (side.message cfg call false)
          proc := (side.proc.fillRequestParam cfg call).finish cfg call 0 }
  | posted {call given rndv} :
      side.proc.pc = .call call → side.proc.receives call = false →
      (rndv = true → cfg.sendRecvType = .am) →
      Move cfg side (.communicate .request given)
        { side with
          outgoing := side.outgoing.post (side.message cfg call rndv)
          proc := { side.proc.fillRequestParam cfg call with
            pc := .requestWait call
            request := some (.send side.outgoing.log.length) } }
  | awaiting {call result rndv} :
      side.proc.pc = .call call → side.proc.receives call = true → cfg.sendRecvType = .am →
      Move cfg side (.communicate result rndv)
        { side with
          proc := { side.proc.fillRequestParam cfg call with
            amDataDesc := { side.proc.amDataDesc with recvBuf := some (side.proc.serial + 1) }
            pc := .amWait call } }
  | received {call length rndv request incoming data} :
      side.proc.pc = .call call → side.proc.receives call = true → Receives cfg request →
      side.incoming.supply cfg request = some (incoming, data) →
      Move cfg side (.communicate (.null length) rndv)
        { side with
          incoming := incoming
          proc := { side.proc.fillRequestParam cfg call with
            iov := scatter cfg.testStringLength cfg.iovCnt data }.finish cfg call 0 }
  | receiving {call rndv request} :
      side.proc.pc = .call call → side.proc.receives call = true → Receives cfg request →
      Move cfg side (.communicate .request rndv)
        { side with
          proc := { side.proc.fillRequestParam cfg call with
            pc := .requestWait call
            request := some request } }
  | polled :
      side.proc.inProgress = false → side.proc.waiting = true →
      Move cfg side .poll { side with proc := { side.proc with inProgress := true } }
  | progressed :
      Move cfg side .progressed { side with proc := { side.proc with inProgress := false } }
  | closed :
      Move cfg side .peerError { side with proc := { side.proc with connectionClosed := true } }
  | failed {request code} :
      side.proc.request = some request → side.proc.ctx = none →
      Move cfg side (.complete (.error code))
        { side with proc := { side.proc with ctx := some (.error code) } }
  | sendDone {index} :
      side.proc.request = some (.send index) → side.proc.ctx = none →
      (∀ message, side.outgoing.log[index]? = some message → message.rndv = true →
        index ∈ side.outgoing.fetched) →
      Move cfg side (.complete .ok) { side with proc := { side.proc with ctx := some .ok } }
  | receiveDone {request incoming data} :
      side.proc.request = some request → side.proc.ctx = none →
      side.incoming.supply cfg request = some (incoming, data) →
      Move cfg side (.complete .ok)
        { side with
          incoming := incoming
          proc := { side.proc with
            iov := scatter cfg.testStringLength cfg.iovCnt data
            ctx := some .ok } }
  | handled {message} :
      side.proc.inProgress = true → cfg.sendRecvType = .am →
      side.incoming.log[side.incoming.next]? = some message → side.proc.handler = true →
      Move cfg side .arrive
        { side with
          incoming := { side.incoming with next := side.incoming.next + 1 }
          proc := side.proc.ucpAmDataCb cfg side.incoming.next message }
  | discarded {message} :
      side.proc.inProgress = true → cfg.sendRecvType = .am →
      side.incoming.log[side.incoming.next]? = some message → side.proc.handler = false →
      Move cfg side .arrive
        { side with
          incoming := { side.incoming with next := side.incoming.next + 1 }
          proc := { side.proc with discarded := side.incoming.next :: side.proc.discarded } }
  | leftRndv {call desc} :
      side.proc.pc = .amWait call → side.proc.inProgress = false →
      side.proc.last ≠ side.proc.amDataDesc.complete → side.proc.amDataDesc.isRndv = true →
      side.proc.amDataDesc.desc = some desc →
      Move cfg side (.leave .request)
        { side with
          proc := { side.proc with
            last := side.proc.last + 1
            descTaken := true
            pc := .requestWait call
            request := some (.recvAm desc) } }
  | leftRndvFailed {call code} :
      side.proc.pc = .amWait call → side.proc.inProgress = false →
      side.proc.last ≠ side.proc.amDataDesc.complete → side.proc.amDataDesc.isRndv = true →
      Move cfg side (.leave (.error code))
        { side with
          proc := { side.proc with
            last := side.proc.last + 1
            descTaken := true }.finish cfg call (-1) }
  | leftEager {call result} :
      side.proc.pc = .amWait call → side.proc.inProgress = false →
      side.proc.last ≠ side.proc.amDataDesc.complete → side.proc.amDataDesc.isRndv = false →
      Move cfg side (.leave result)
        { side with proc := { side.proc with last := side.proc.last + 1 }.finish cfg call 0 }
  | waited {call result} :
      side.proc.pc = .requestWait call → side.proc.inProgress = false →
      side.proc.ctx = some .ok →
      Move cfg side (.leave result) { side with proc := side.proc.finish cfg call 0 }
  | waitFailed {call code result} :
      side.proc.pc = .requestWait call → side.proc.inProgress = false →
      side.proc.ctx = some (.error code) →
      Move cfg side (.leave result) { side with proc := side.proc.finish cfg call (-1) }
  | leftClose {result} :
      side.proc.pc = .waitClose → side.proc.inProgress = false →
      Move cfg side (.leave result) { side with proc := { side.proc with pc := .returned 0 } }
  | registered :
      side.proc.pc = .register →
      Move cfg side (.register .ok)
        { side with proc := { side.proc with handler := true, pc := .call .fin } }
  | registerFailed {code} :
      side.proc.pc = .register →
      Move cfg side (.register (.error code))
        { side with proc := { side.proc with pc := .returned (-1) } }

section StepMove

variable {cfg : Config} {side next : Side}

theorem message_of_fill {call : Call} (rndv : Bool)
    (sends : side.proc.receives call = false) :
    (⟨(side.proc.fillRequestParam cfg call).iov.flatten, rndv⟩ : Message) =
      side.message cfg call rndv := by
  simp [Proc.fillRequestParam, sends, message]

theorem send_move {call : Call} {result : StatusPtr} {rndv given : Bool}
    (here : side.proc.pc = .call call) (sends : side.proc.receives call = false)
    (allowed : rndv = true → cfg.sendRecvType = .am)
    (stepped : ({ side with proc := side.proc.fillRequestParam cfg call } : Side).send cfg call
      rndv result = some next) : Move cfg side (.communicate result given) next := by
  cases result with
  | null length =>
      cases rndv with
      | true => simp [send] at stepped
      | false =>
          simp only [send, Bool.false_eq_true, if_false, Option.some.injEq,
            message_of_fill false sends] at stepped
          subst next
          exact .sent here sends
  | request =>
      simp only [send, Option.some.injEq, message_of_fill rndv sends] at stepped
      subst next
      exact .posted here sends allowed
  | error code =>
      simp only [send, Option.some.injEq] at stepped
      subst next
      exact .callFailed here (.inr rfl) (.inr ⟨_, _, rfl⟩)

theorem receive_move {call : Call} {request : Request} {result : StatusPtr} {given : Bool}
    (here : side.proc.pc = .call call) (receives : side.proc.receives call = true)
    (kind : Receives cfg request)
    (stepped : ({ side with proc := side.proc.fillRequestParam cfg call } : Side).receive cfg call
      request result = some next) : Move cfg side (.communicate result given) next := by
  cases result with
  | null length =>
      simp only [receive, deliver, Option.map_map, Option.map_eq_some_iff] at stepped
      obtain ⟨⟨incoming, data⟩, supplied, rfl⟩ := stepped
      exact .received here receives kind supplied
  | request =>
      simp only [receive, Option.some.injEq] at stepped
      subst next
      exact .receiving here receives kind
  | error code =>
      simp only [receive, Option.some.injEq] at stepped
      subst next
      exact .callFailed here (.inr rfl) (.inr ⟨_, _, rfl⟩)

theorem communicate_move {call : Call} {result : StatusPtr} {rndv : Bool}
    (here : side.proc.pc = .call call)
    (stepped : side.clientServerCommunication cfg call result rndv = some next) :
    Move cfg side (.communicate result rndv) next := by
  have filled : (side.proc.fillRequestParam cfg call).receives call =
      side.proc.receives call := by
    cases call <;> rfl
  unfold clientServerCommunication at stepped
  split at stepped
  · rename_i kind
    cases receives : side.proc.receives call with
    | true =>
        simp only [sendRecvStream, filled, receives, if_true] at stepped
        exact receive_move here receives (.inl ⟨kind, rfl⟩) stepped
    | false =>
        simp only [sendRecvStream, filled, receives, Bool.false_eq_true, if_false] at stepped
        exact send_move here receives (by simp) stepped
  · rename_i kind
    cases receives : side.proc.receives call with
    | true =>
        simp only [sendRecvTag, filled, receives, if_true] at stepped
        exact receive_move here receives (.inr ⟨kind, rfl⟩) stepped
    | false =>
        simp only [sendRecvTag, filled, receives, Bool.false_eq_true, if_false] at stepped
        exact send_move here receives (by simp) stepped
  · rename_i kind
    cases receives : side.proc.receives call with
    | true =>
        simp only [sendRecvAm, filled, receives, if_true, Option.some.injEq] at stepped
        subst next
        exact .awaiting here receives kind
    | false =>
        simp only [sendRecvAm, filled, receives, Bool.false_eq_true, if_false] at stepped
        exact send_move here receives (fun _ => kind) stepped

theorem complete_move {request : Request} {status : UcsStatus}
    (waits : side.proc.request = some request) (open_ : side.proc.ctx = none)
    (stepped : side.completeRequest cfg request status = some next) :
    Move cfg side (.complete status) next := by
  cases status with
  | error code =>
      simp only [completeRequest, Option.some.injEq] at stepped
      subst next
      exact .failed waits open_
  | ok =>
      have delivered (stepped : (side.deliver cfg request).map (fun side =>
          { side with proc := { side.proc with ctx := some UcsStatus.ok } }) = some next) :
          Move cfg side (.complete .ok) next := by
        simp only [deliver, Option.map_map, Option.map_eq_some_iff] at stepped
        obtain ⟨⟨incoming, data⟩, supplied, rfl⟩ := stepped
        exact .receiveDone waits open_ supplied
      cases request with
      | send index =>
          simp only [completeRequest, Option.ite_none_right_eq_some, Option.some.injEq] at stepped
          obtain ⟨fetched, rfl⟩ := stepped
          exact .sendDone waits open_ fetched
      | recvStream | recvTag | recvAm => exact delivered stepped

theorem leave_move {result : StatusPtr} (outside : side.proc.inProgress = false)
    (ready : side.proc.waiting = false) (stepped : side.leave cfg result = some next) :
    Move cfg side (.leave result) next := by
  unfold leave at stepped
  split at stepped
  · rename_i call here
    have differs : side.proc.last ≠ side.proc.amDataDesc.complete := by
      simpa [Proc.waiting, here] using ready
    unfold afterAmWait at stepped
    simp only at stepped
    split at stepped
    · rename_i rndv
      split at stepped
      · rename_i desc held
        cases stepped
        exact .leftRndv here outside differs rndv held
      · cases stepped
        exact .leftRndvFailed here outside differs rndv
      · cases stepped
    · rename_i eager
      cases stepped
      exact .leftEager here outside differs (by simpa using eager)
  · rename_i call here
    split at stepped
    · cases stepped
      exact .waited here outside ‹_›
    · cases stepped
      exact .waitFailed here outside ‹_›
    · cases stepped
  · rename_i here
    cases stepped
    exact .leftClose here outside
  · cases stepped

theorem step_move {action : Step} (stepped : side.step cfg action = some next) :
    Move cfg side action next := by
  cases action with
  | communicate result rndv =>
      simp only [step] at stepped
      split at stepped
      · exact communicate_move ‹_› stepped
      · cases stepped
  | outOfMemory =>
      simp only [step] at stepped
      split at stepped
      · cases stepped
        exact .callFailed ‹_› (.inl rfl) (.inl rfl)
      · cases stepped
  | poll =>
      simp only [step, Option.ite_none_right_eq_some, Option.some.injEq] at stepped
      obtain ⟨⟨outside, waiting⟩, rfl⟩ := stepped
      exact .polled outside waiting
  | complete status =>
      simp only [step] at stepped
      split at stepped
      · simp only [Option.ite_none_right_eq_some] at stepped
        exact complete_move ‹_› stepped.1.2 stepped.2
      · cases stepped
  | arrive =>
      simp only [step, Option.ite_none_right_eq_some, arrive, Option.map_eq_some_iff] at stepped
      obtain ⟨⟨inside, kind⟩, message, found, rfl⟩ := stepped
      cases registered : side.proc.handler with
      | true => simpa [registered] using Move.handled inside kind found registered
      | false => simpa [registered] using Move.discarded inside kind found registered
  | peerError =>
      simp only [step, Option.ite_none_right_eq_some, Option.some.injEq] at stepped
      obtain ⟨_, rfl⟩ := stepped
      exact .closed
  | progressed =>
      simp only [step, Option.ite_none_right_eq_some, Option.some.injEq] at stepped
      obtain ⟨_, rfl⟩ := stepped
      exact .progressed
  | leave result =>
      simp only [step, Option.ite_none_right_eq_some] at stepped
      exact leave_move stepped.1.1 stepped.1.2 stepped.2
  | register status =>
      simp only [step, Option.ite_none_right_eq_some] at stepped
      obtain ⟨here, stepped⟩ := stepped
      cases status with
      | ok =>
          cases stepped
          exact .registered here
      | error code =>
          cases stepped
          exact .registerFailed here

end StepMove

end Side

inductive State.Move (cfg : Config) (state : State) : Action → State → Prop where
  | connected :
      state.server.pc = .idle ∨ state.server.pc = .returned 0 →
      Move cfg state .connect (state.connect cfg)
  | server {action side} :
      Side.Move cfg state.serverSide action side →
      Move cfg state (.server action) (state.withServer side)
  | client {action side} :
      Side.Move cfg state.clientSide action side →
      Move cfg state (.client action) (state.withClient side)

theorem State.step_move {cfg : Config} {state next : State} {action : Action}
    (stepped : step cfg state action = some next) : State.Move cfg state action next := by
  cases action with
  | connect =>
      simp only [step, Option.ite_none_right_eq_some, Option.some.injEq] at stepped
      obtain ⟨⟨_, ready⟩, rfl⟩ := stepped
      exact .connected ready
  | server action =>
      simp only [step, Option.map_eq_some_iff] at stepped
      obtain ⟨side, stepped, rfl⟩ := stepped
      exact .server (Side.step_move stepped)
  | client action =>
      simp only [step, Option.map_eq_some_iff] at stepped
      obtain ⟨side, stepped, rfl⟩ := stepped
      exact .client (Side.step_move stepped)

end UcxPlayground.ClientServer
