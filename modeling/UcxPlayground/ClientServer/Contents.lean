import UcxPlayground.ClientServer.Delivery

/-!
# The contents of the buffers

A call of `client_server_communication` that returns 0 leaves in its buffers what
the sending side has filled in, whichever side it runs on and whatever the type of
the communication. Of active messages that is only sure of those that arrive in turn.
-/

set_option autoImplicit false

namespace UcxPlayground.ClientServer

open Transition

/-- What the sending side of a call fills in. -/
def Config.content (cfg : Config) (client : Nat) (call : Call) : Iov :=
  cfg.fillBuffer client (call.currentIter cfg)

def Finished.Exact (cfg : Config) (finished : Finished) : Prop :=
  finished.ret = 0 → finished.iov = cfg.content finished.client finished.call

theorem scatter_content (cfg : Config) (client : Nat) (call : Call) :
    scatter cfg.testStringLength cfg.iovCnt (cfg.content client call).flatten =
      cfg.content client call :=
  scatter_fillBuffer cfg client _

namespace Proc

/-- The calls in `scope` that returned 0 had the right contents, and the one that the
process is in will have them. -/
structure Exact (cfg : Config) (scope : Call → Prop) (proc : Proc) : Prop where
  genuine : ∀ finished ∈ proc.finished, scope finished.call → finished.Exact cfg
  loaded : ∀ call, scope call → proc.pc = .requestWait call →
    (proc.receives call = false ∨ proc.ctx = some .ok) → proc.iov = cfg.content proc.client call
  unset : ∀ call, proc.pc = .amWait call → proc.ctx = none
  behind : ∀ buffer, proc.amDataDesc.recvBuf = some buffer → buffer ≤ proc.serial
  sending : ∀ call, proc.pc = .requestWait call → proc.receives call = false →
    proc.amDataDesc.recvBuf ≠ some proc.serial
  copied : ∀ call, scope call → proc.pc = .amWait call →
    proc.amDataDesc.recvBuf = some proc.serial ∧
      (proc.last ≠ proc.amDataDesc.complete → proc.amDataDesc.isRndv = false →
        proc.iov = cfg.content proc.client call)

section Calls

variable {cfg : Config} {scope : Call → Prop} {proc : Proc} {call : Call}

theorem fillRequestParam_iov (sends : proc.receives call = false) :
    (proc.fillRequestParam cfg call).iov = cfg.content proc.client call := by
  simp [fillRequestParam, sends, Config.content]

theorem Exact.finish {ret : Int}
    (genuine : ∀ finished ∈ proc.finished, scope finished.call → finished.Exact cfg)
    (behind : ∀ buffer, proc.amDataDesc.recvBuf = some buffer → buffer ≤ proc.serial)
    (result : ret = 0 → scope call → proc.iov = cfg.content proc.client call) :
    (proc.finish cfg call ret).Exact cfg scope where
  genuine := by
    intro finished member inside
    rcases List.mem_cons.mp member with rfl | earlier
    · exact fun success => result success inside
    · exact genuine finished earlier inside
  loaded other _ here := absurd here (afterCall_not_waiting _ call other ret).2
  unset other here := absurd here (afterCall_not_waiting _ call other ret).1
  behind := behind
  sending other here := absurd here (afterCall_not_waiting _ call other ret).2
  copied other _ here := absurd here (afterCall_not_waiting _ call other ret).1

/-- Where a process waits for nothing, only what it has finished matters. -/
theorem Exact.elsewhere {next : Proc} (exact : proc.Exact cfg scope)
    (finished : next.finished = proc.finished)
    (recvBuf : next.amDataDesc.recvBuf = proc.amDataDesc.recvBuf)
    (serial : next.serial = proc.serial)
    (here : ∀ call, next.pc ≠ .requestWait call ∧ next.pc ≠ .amWait call) :
    next.Exact cfg scope where
  genuine := by
    rw [finished]
    exact exact.genuine
  loaded other _ waits := absurd waits (here other).1
  unset other waits := absurd waits (here other).2
  behind := by
    rw [recvBuf, serial]
    exact exact.behind
  sending other waits := absurd waits (here other).1
  copied other _ waits := absurd waits (here other).2

theorem ucpAmDataCb_stray {index : Nat} {message : Message}
    (sized : message.data.length = cfg.messageLength) (eager : message.rndv = false)
    (other : ¬ (proc.amDataDesc.recvBuf = some proc.serial ∧ proc.inCall = true)) :
    proc.ucpAmDataCb cfg index message =
      { proc with
        amDataDesc := { proc.amDataDesc with
          complete := proc.amDataDesc.complete + 1
          isRndv := false }
        stray := index :: proc.stray } := by
  simp only [ucpAmDataCb, sized, ne_eq, not_true_eq_false, if_false, eager, Bool.false_eq_true]
  exact if_neg other

end Calls

end Proc

namespace Side

/-- What is needed of the session: the requests are those of the calls, and what is
received for a call in `scope` is what was filled in for it. -/
structure Faithful (cfg : Config) (scope : Call → Prop) (side : Side) : Prop where
  waits : ∀ request, side.proc.request = some request → ∃ call, side.proc.pc = .requestWait call
  sends : ∀ call, side.proc.pc = .requestWait call →
    (side.proc.receives call = false ↔ ∃ index, side.proc.request = some (.send index))
  awaits : ∀ call, side.proc.pc = .amWait call → side.proc.receives call = true
  supplied : ∀ call request incoming data, scope call → side.proc.receives call = true →
    side.incoming.supply cfg request = some (incoming, data) →
    (side.proc.pc = .call call ∧ Receives cfg request ∨
      side.proc.pc = .requestWait call ∧ side.proc.request = some request ∧
        side.proc.ctx = none) →
    scatter cfg.testStringLength cfg.iovCnt data = cfg.content side.proc.client call
  arrived : ∀ call message, scope call → side.proc.receives call = true →
    cfg.sendRecvType = .am → side.incoming.log[side.incoming.next]? = some message →
    scatter cfg.testStringLength cfg.iovCnt message.data = cfg.content side.proc.client call
  level : ∀ call, scope call → side.proc.receives call = true → cfg.sendRecvType = .am →
    side.proc.pc = .call call → side.proc.last = side.proc.amDataDesc.complete

section Steps

variable {cfg : Config} {scope : Call → Prop} {side next : Side} {action : Step}

/-- An active message that is handled goes to the buffers of the call that waits for it,
or to none. -/
theorem exact_handled {message : Message} (exact : side.proc.Exact cfg scope)
    (faithful : side.Faithful cfg scope) (kind : cfg.sendRecvType = .am)
    (found : side.incoming.log[side.incoming.next]? = some message)
    (agreed : message.data.length = cfg.messageLength) :
    (side.proc.ucpAmDataCb cfg side.incoming.next message).Exact cfg scope := by
  cases rndv : message.rndv with
  | true =>
      rw [Proc.ucpAmDataCb_rndv agreed rndv]
      exact ⟨exact.genuine, exact.loaded, exact.unset, exact.behind, exact.sending,
        fun call inside waits => ⟨(exact.copied call inside waits).1, by simp⟩⟩
  | false =>
      by_cases current : side.proc.amDataDesc.recvBuf = some side.proc.serial ∧
          side.proc.inCall = true
      · rw [Proc.ucpAmDataCb_eager agreed rndv current.1 current.2]
        refine ⟨exact.genuine, ?_, exact.unset, exact.behind, exact.sending, ?_⟩
        · intro call inside waits _
          have receives : side.proc.receives call = true :=
            Bool.not_eq_false _ ▸ fun sends => exact.sending call waits sends current.1
          exact faithful.arrived call message inside receives kind found
        · intro call inside waits
          exact ⟨current.1, fun _ _ =>
            faithful.arrived call message inside (faithful.awaits call waits) kind found⟩
      · rw [Proc.ucpAmDataCb_stray agreed rndv current]
        refine ⟨exact.genuine, exact.loaded, exact.unset, exact.behind, exact.sending, ?_⟩
        intro call inside waits
        have waits : side.proc.pc = .amWait call := waits
        exact absurd ⟨(exact.copied call inside waits).1, by simp [Proc.inCall, waits]⟩ current

theorem exact_step (exact : side.proc.Exact cfg scope) (faithful : side.Faithful cfg scope)
    (lawful : side.incoming.Lawful cfg) (move : Move cfg side action next) :
    next.proc.Exact cfg scope := by
  have later : ∀ buffer, side.proc.amDataDesc.recvBuf = some buffer →
      buffer ≤ side.proc.serial + 1 :=
    fun buffer held => Nat.le_succ_of_le (exact.behind buffer held)
  cases move with
  | callFailed here filled =>
      rcases filled with rfl | rfl
      · exact .finish exact.genuine exact.behind (by simp)
      · exact .finish exact.genuine later (by simp)
  | sent here sends =>
      exact .finish exact.genuine later fun _ _ => Proc.fillRequestParam_iov sends
  | @posted call given rndv here sends =>
      refine ⟨exact.genuine, ?_, by simp, later, ?_, by simp⟩
      · intro other _ waits _
        obtain rfl : call = other := by simpa using waits
        exact Proc.fillRequestParam_iov sends
      · intro _ _ _ held
        exact Nat.not_succ_le_self _ (exact.behind _ held)
  | @awaiting call result rndv here receives kind =>
      refine ⟨exact.genuine, by simp, fun _ _ => rfl, ?_, by simp, ?_⟩
      · intro buffer held
        exact Nat.le_of_eq (Option.some.inj held).symm
      · intro other inside waits
        obtain rfl : call = other := by simpa using waits
        exact ⟨rfl, fun differs => absurd (faithful.level call inside receives kind here) differs⟩
  | received here receives kind supply =>
      exact .finish exact.genuine later fun _ inside =>
        faithful.supplied _ _ _ _ inside receives supply (.inl ⟨here, kind⟩)
  | @receiving call rndv request here receives kind =>
      refine ⟨exact.genuine, ?_, by simp, later, ?_, by simp⟩
      · intro other _ waits given
        obtain rfl : call = other := by simpa using waits
        rcases given with sends | done
        · cases receives.symm.trans sends
        · cases done
      · intro other waits sends
        obtain rfl : call = other := by simpa using waits
        cases receives.symm.trans sends
  | polled | progressed | closed | discarded =>
      exact ⟨exact.genuine, exact.loaded, exact.unset, exact.behind, exact.sending, exact.copied⟩
  | failed pending =>
      obtain ⟨call, here⟩ := faithful.waits _ pending
      refine ⟨exact.genuine, ?_, by simp [here], exact.behind, exact.sending, by simp [here]⟩
      intro other inside waits given
      exact exact.loaded other inside waits (.inl (given.resolve_right (by simp)))
  | sendDone pending =>
      obtain ⟨call, here⟩ := faithful.waits _ pending
      refine ⟨exact.genuine, ?_, by simp [here], exact.behind, exact.sending, by simp [here]⟩
      intro other inside waits _
      exact exact.loaded other inside waits (.inl ((faithful.sends other waits).mpr ⟨_, pending⟩))
  | @receiveDone request incoming data pending fresh supply =>
      obtain ⟨call, here⟩ := faithful.waits _ pending
      refine ⟨exact.genuine, ?_, by simp [here], exact.behind, exact.sending, by simp [here]⟩
      intro other inside waits _
      have receives : side.proc.receives other = true := by
        refine Bool.not_eq_false _ ▸ fun sends => ?_
        obtain ⟨index, sent⟩ := (faithful.sends other waits).mp sends
        obtain rfl := Option.some.inj (pending.symm.trans sent)
        cases supply
      exact faithful.supplied _ _ _ _ inside receives supply (.inr ⟨waits, pending, fresh⟩)
  | handled inside kind found registered =>
      exact exact_handled exact faithful kind found (lawful.sized _ (List.mem_of_getElem? found))
  | @leftRndv call desc here =>
      have receives := faithful.awaits call here
      refine ⟨exact.genuine, ?_, by simp, exact.behind, ?_, by simp⟩
      · intro other _ waits given
        obtain rfl : call = other := by simpa using waits
        rcases given with sends | done
        · cases receives.symm.trans sends
        · cases (exact.unset call here).symm.trans done
      · intro other waits sends
        obtain rfl : call = other := by simpa using waits
        cases receives.symm.trans sends
  | leftRndvFailed => exact .finish exact.genuine exact.behind (by simp)
  | leftEager here _ differs eager =>
      exact .finish exact.genuine exact.behind fun _ inside =>
        (exact.copied _ inside here).2 differs eager
  | waited here _ done =>
      exact .finish exact.genuine exact.behind fun _ inside =>
        exact.loaded _ inside here (.inr done)
  | waitFailed => exact .finish exact.genuine exact.behind (by simp)
  | leftClose | registered | registerFailed => exact exact.elsewhere rfl rfl rfl (by simp)

end Steps

section Slices

variable {cfg : Config}

theorem take_drop_flatten {length : Nat} {buffers : Iov}
    (uniform : ∀ buffer ∈ buffers, buffer.length = length) {count : Nat} {buffer : List Bytes.Byte}
    (found : buffers[count]? = some buffer) :
    (buffers.flatten.drop (count * length)).take length = buffer := by
  induction count generalizing buffers with
  | zero =>
      cases buffers with
      | nil => simp at found
      | cons first rest =>
          obtain rfl : first = buffer := by simpa using found
          rw [Nat.zero_mul, List.drop_zero, List.flatten_cons]
          exact List.take_left' (uniform first List.mem_cons_self)
  | succ count ih =>
      cases buffers with
      | nil => simp at found
      | cons first rest =>
          have later := fun other member => uniform other (List.mem_cons_of_mem first member)
          have head := uniform first List.mem_cons_self
          rw [Nat.succ_mul, Nat.add_comm, ← List.drop_drop, List.flatten_cons,
            List.drop_left' head]
          exact ih later (by simpa using found)

/-- A stream receive that begins between two messages gets the next message. -/
theorem stream_slice {channel : Channel} (lawful : channel.Lawful cfg) {count : Nat}
    {message : Message} (found : channel.log[count]? = some message) :
    (channel.stream.drop (count * cfg.messageLength)).take cfg.messageLength = message.data := by
  have uniform : ∀ buffer ∈ channel.log.map Message.data, buffer.length = cfg.messageLength := by
    intro buffer member
    obtain ⟨message, present, rfl⟩ := List.mem_map.mp member
    exact lawful.sized message present
  exact take_drop_flatten uniform (by rw [List.getElem?_map, found]; rfl)

theorem exists_of_enough {channel : Channel} (lawful : channel.Lawful cfg)
    (positive : 0 < cfg.messageLength) {count : Nat}
    (enough : count * cfg.messageLength + cfg.messageLength ≤ channel.stream.length) :
    ∃ message, channel.log[count]? = some message := by
  rw [lawful.length_stream, ← Nat.succ_mul] at enough
  have inside : count < channel.log.length := Nat.le_of_mul_le_mul_right enough positive
  exact ⟨_, List.getElem?_eq_getElem inside⟩

end Slices

section Sessions

variable {cfg : Config} {base : Nat} {side : Side}

/-- The calls of the server that are sure to get the right data: with active messages only
its own FIN message. -/
def SureAtServer (cfg : Config) (call : Call) : Prop :=
  cfg.sendRecvType = .am → call = .fin

theorem Received.content {k : Nat} {request : Request} {incoming : Channel}
    {data : List Bytes.Byte} (received : side.Received cfg (base + k)) (sized : cfg.Sized)
    (lawful : side.incoming.Lawful cfg) (authentic : side.Authentic cfg base)
    (kind : Receives cfg request)
    (supply : side.incoming.supply cfg request = some (incoming, data)) :
    scatter cfg.testStringLength cfg.iovCnt data = cfg.content side.proc.client (.data k) := by
  rcases kind with ⟨kind, rfl⟩ | ⟨kind, rfl⟩ <;> simp only [Received, kind] at received
  · cases Channel.supplied supply with
    | stream enough =>
        rw [received] at enough ⊢
        obtain ⟨message, found⟩ := exists_of_enough lawful (sized kind) enough
        rw [stream_slice lawful found]
        exact scatter_authentic authentic found
  · cases Channel.supplied supply with
    | tag found =>
        rw [received] at found
        exact scatter_authentic authentic found

theorem Server.faithful (server : side.Server cfg base) (sized : cfg.Sized)
    (lawful : side.incoming.Lawful cfg) (authentic : side.Authentic cfg base) :
    side.Faithful cfg (SureAtServer cfg) where
  waits request holds := server.here.waits holds
  sends := by
    intro call here
    have place := server.here
    rw [here] at place
    cases call with
    | data k =>
        obtain ⟨_, receiving, _⟩ := place
        refine iff_of_false (by simp [Proc.receives, server.role]) ?_
        rintro ⟨index, sends⟩
        unfold Receiving at receiving
        split at receiving <;> simp [sends] at receiving
    | fin =>
        exact iff_of_true (by simp [Proc.receives, server.role]) place.2
  awaits := by
    intro call here
    have place := server.here
    rw [here] at place
    cases call with
    | data k => exact server.role
    | fin => exact place.elim
  supplied := by
    intro call request incoming data sure receives supply here
    cases call with
    | fin => simp [Proc.receives, server.role] at receives
    | data k =>
        have place := server.here
        rcases here with ⟨here, kind⟩ | ⟨here, pending, fresh⟩
        · rw [here] at place
          exact place.2.1.content sized lawful authentic kind supply
        · rw [here] at place
          obtain ⟨_, receiving, _⟩ := place
          unfold Receiving at receiving
          rw [fresh] at receiving
          split at receiving
          next kind =>
            obtain rfl := Option.some.inj (pending.symm.trans receiving.1)
            exact Received.content receiving.2 sized lawful authentic (.inl ⟨kind, rfl⟩) supply
          next kind =>
            obtain rfl := Option.some.inj (pending.symm.trans receiving.1)
            exact Received.content receiving.2 sized lawful authentic (.inr ⟨kind, rfl⟩) supply
          next kind => cases sure kind
  arrived := by
    intro call message sure receives kind
    obtain rfl := sure kind
    simp [Proc.receives, server.role] at receives
  level := by
    intro call sure receives kind
    obtain rfl := sure kind
    simp [Proc.receives, server.role] at receives

/-- All that comes to the client is the FIN message, and nothing of it was taken in part. -/
structure Answers (cfg : Config) (side : Side) : Prop where
  data : ∀ message ∈ side.incoming.log,
    message.data = (cfg.content side.proc.client .fin).flatten
  taken : ∃ count, side.incoming.taken = count * cfg.messageLength

theorem Answers.content (answers : side.Answers cfg) (sized : cfg.Sized)
    (lawful : side.incoming.Lawful cfg) {request : Request} {incoming : Channel}
    {data : List Bytes.Byte} (kind : request = .recvStream → cfg.sendRecvType = .stream)
    (supply : side.incoming.supply cfg request = some (incoming, data)) :
    scatter cfg.testStringLength cfg.iovCnt data = cfg.content side.proc.client .fin := by
  have same : ∃ message ∈ side.incoming.log, data = message.data := by
    cases Channel.supplied supply with
    | stream enough =>
        obtain ⟨count, taken⟩ := answers.taken
        rw [taken] at enough ⊢
        obtain ⟨message, found⟩ := exists_of_enough lawful (sized (kind rfl)) enough
        exact ⟨message, List.mem_of_getElem? found, stream_slice lawful found⟩
    | tag found | am found => exact ⟨_, List.mem_of_getElem? found, rfl⟩
  obtain ⟨message, member, rfl⟩ := same
  rw [answers.data message member, scatter_content]

theorem Client.faithful (client : side.Client cfg base) (sized : cfg.Sized)
    (lawful : side.incoming.Lawful cfg) (answers : side.Answers cfg)
    (quiet : cfg.sendRecvType = .am → side.proc.handler = false ∨ side.proc.pc = .call .fin →
      side.proc.amDataDesc.complete = 0) : side.Faithful cfg fun _ => True where
  waits request holds := client.here.waits holds
  sends := by
    intro call here
    have place := client.here
    rw [here] at place
    cases call with
    | data k => exact iff_of_true (by simp [Proc.receives, client.role]) ⟨_, place.2.2.1⟩
    | fin =>
        obtain ⟨_, _, ⟨request, pending, kind⟩, _⟩ := place
        refine iff_of_false (by simp [Proc.receives, client.role]) ?_
        rintro ⟨index, sends⟩
        obtain rfl := Option.some.inj (pending.symm.trans sends)
        rcases kind with receives | ⟨_, _, other⟩
        · rcases receives with ⟨_, other⟩ | ⟨_, other⟩ <;> cases other
        · cases other
  awaits := by
    intro call here
    have place := client.here
    rw [here] at place
    cases call with
    | data k => exact place.elim
    | fin => simp [Proc.receives, client.role]
  supplied := by
    intro call request incoming data _ receives supply here
    cases call with
    | data k => simp [Proc.receives, client.role] at receives
    | fin =>
        refine answers.content sized lawful ?_ supply
        rintro rfl
        rcases here with ⟨_, kind⟩ | ⟨here, pending, _⟩
        · rcases kind with ⟨kind, _⟩ | ⟨_, other⟩
          · exact kind
          · cases other
        · have place := client.here
          rw [here] at place
          obtain ⟨_, _, ⟨request, other, kind⟩, _⟩ := place
          obtain rfl := Option.some.inj (pending.symm.trans other)
          rcases kind with receives | ⟨_, _, other⟩
          · rcases receives with ⟨kind, _⟩ | ⟨_, other⟩
            · exact kind
            · cases other
          · cases other
  arrived := by
    intro call message _ receives _ found
    cases call with
    | data k => simp [Proc.receives, client.role] at receives
    | fin => rw [answers.data message (List.mem_of_getElem? found), scatter_content]
  level := by
    intro call _ receives kind here
    cases call with
    | data k => simp [Proc.receives, client.role] at receives
    | fin =>
        have place := client.here
        rw [here] at place
        rw [place.2.2.1, quiet kind (.inr here)]

/-- A client that exchanges active messages registers its handler before it waits for the FIN
message. -/
theorem afterCall_client_am (kind : cfg.sendRecvType = .am) (call : Call) (ret : Int) :
    afterCall cfg false call ret ≠ .call .fin := by
  unfold afterCall
  split
  · simp
  · cases call with
    | fin => simp
    | data i =>
        simp only [loop_eq]
        split
        · simp
        · simp [afterLoop, kind]

/-- No message reaches the handler of the client before the client waits for one. -/
theorem quiet_step {next : Side} {action : Step} (client : side.Client cfg base)
    (kind : cfg.sendRecvType = .am)
    (quiet : side.proc.handler = false ∨ side.proc.pc = .call .fin →
      side.proc.amDataDesc.complete = 0)
    (move : Move cfg side action next)
    (silent : next.proc.handler = false ∨ next.proc.pc = .call .fin) :
    next.proc.amDataDesc.complete = 0 := by
  have finish (proc : Proc) (role : proc.isServer = false) (call : Call) (ret : Int) :
      (proc.finish cfg call ret).pc ≠ .call .fin := by
    change afterCall cfg proc.isServer call ret ≠ _
    rw [role]
    exact afterCall_client_am kind call ret
  cases move with
  | callFailed here filled =>
      rcases filled with rfl | rfl <;>
        exact quiet (.inl (silent.resolve_right (finish _ client.role _ _)))
  | sent | received | leftRndvFailed | leftEager | waited | waitFailed =>
      exact quiet (.inl (silent.resolve_right (finish _ client.role _ _)))
  | posted | awaiting | receiving | leftRndv | leftClose | registerFailed =>
      exact quiet (.inl (silent.resolve_right nofun))
  | polled | progressed | closed | failed | sendDone | receiveDone | discarded =>
      exact quiet silent
  | handled inside _ _ registered =>
      rcases silent with unregistered | here
      · simp [registered] at unregistered
      · obtain ⟨call, waits | waits⟩ := client.waits inside <;> simp [waits] at here
  | registered here =>
      have place := client.here
      rw [here] at place
      exact quiet (.inl place.2.2.1)

theorem Move.taken {next : Side} {action : Step} (move : Move cfg side action next) :
    next.incoming.taken = side.incoming.taken ∨
      next.incoming.taken = side.incoming.taken + cfg.messageLength := by
  cases move with
  | received _ _ _ supply | receiveDone _ _ supply =>
      cases Channel.supplied supply with
      | stream => exact .inr rfl
      | tag | am => exact .inl rfl
  | _ => exact .inl rfl

end Sessions

end Side

namespace State

variable {cfg : Config} {state next : State} {action : Action}

structure Contents (cfg : Config) (state : State) : Prop where
  session : state.Session cfg
  server : state.server.Exact cfg (Side.SureAtServer cfg)
  client : state.client.Exact cfg fun _ => True
  answers : state.clientSide.Answers cfg
  quiet : cfg.sendRecvType = .am → state.client.handler = false ∨ state.client.pc = .call .fin →
    state.client.amDataDesc.complete = 0

theorem Contents.initial (cfg : Config) : (State.initial cfg).Contents cfg where
  session := Session.initial cfg
  server := by constructor <;> simp [State.initial, Proc.fresh]
  client := by constructor <;> simp [State.initial, Proc.fresh]
  answers := ⟨by simp [State.initial, clientSide, Channel.empty], 0, by
    simp [State.initial, clientSide, Channel.empty]⟩
  quiet := fun _ _ => rfl

theorem Contents.connect (contents : state.Contents cfg)
    (ready : state.server.pc = .idle ∨ state.server.pc = .returned 0) :
    (state.connect cfg).Contents cfg := by
  have started (isServer : Bool) (call : Call) :
      loop cfg isServer 0 ≠ .requestWait call ∧ loop cfg isServer 0 ≠ .amWait call := by
    rcases loop_cases cfg isServer 0 with ⟨_, here⟩ | here <;> simp [here]
  refine ⟨contents.session.connect ready, ?_, ?_, ⟨?_, 0, ?_⟩, fun _ _ => rfl⟩
  · exact contents.server.elsewhere rfl rfl rfl (started _)
  · have fresh : (Proc.fresh false false state.clients).Exact cfg fun _ => True := by
      constructor <;> simp [Proc.fresh]
    exact fresh.elsewhere rfl rfl rfl (started _)
  · simp [State.connect, clientSide, Channel.empty]
  · simp [State.connect, clientSide, Channel.empty]

theorem Contents.serverMoves (contents : state.Contents cfg) (sized : cfg.Sized) {step : Step}
    {side : Side} (move : Side.Move cfg state.serverSide step side) :
    (state.withServer side).Contents cfg := by
  have session := contents.session
  have faithful := session.server.faithful sized session.toServer session.authentic
  refine ⟨session.serverMoves sized move, ?_, contents.client, ⟨?_, ?_⟩, contents.quiet⟩
  · exact Side.exact_step contents.server faithful session.toServer move
  · intro message member
    rcases move.outgoing with same | ⟨call, posted, place, sends, data, _, after⟩
    · rw [show (state.withServer side).clientSide.incoming = _ from same] at member
      exact contents.answers.data message member
    · rw [show (state.withServer side).clientSide.incoming = _ from after] at member
      rcases List.mem_append.mp member with old | new
      · exact contents.answers.data message old
      · obtain rfl := List.mem_singleton.mp new
        cases call with
        | data k => simp [Proc.receives, session.server.role] at sends
        | fin =>
            have together : state.serverSide.proc.client = state.client.client := session.together
            rw [data, Side.message, together]
            rfl
  · rcases move.outgoing with same | ⟨_, _, _, _, _, _, after⟩
    · rw [show (state.withServer side).clientSide.incoming = _ from same]
      exact contents.answers.taken
    · rw [show (state.withServer side).clientSide.incoming = _ from after]
      exact contents.answers.taken

theorem Contents.clientMoves (contents : state.Contents cfg) (sized : cfg.Sized) {step : Step}
    {side : Side} (move : Side.Move cfg state.clientSide step side) :
    (state.withClient side).Contents cfg := by
  have session := contents.session
  have faithful := session.client.faithful sized session.toClient contents.answers contents.quiet
  refine ⟨session.clientMoves sized move, contents.server, ?_, ⟨?_, ?_⟩, fun kind silent => ?_⟩
  · exact Side.exact_step contents.client faithful session.toClient move
  · intro message member
    rw [show (state.withClient side).clientSide.proc.client = _ from move.identity.2]
    rw [show (state.withClient side).clientSide.incoming.log = _ from move.incoming.1] at member
    exact contents.answers.data message member
  · obtain ⟨count, taken⟩ := contents.answers.taken
    rcases move.taken with same | more
    · exact ⟨count, same.trans taken⟩
    · refine ⟨count + 1, more.trans ?_⟩
      rw [taken, Nat.succ_mul]
  · exact Side.quiet_step session.client kind (contents.quiet kind) move silent

theorem Contents.step (contents : state.Contents cfg) (sized : cfg.Sized)
    (stepped : ClientServer.step cfg state action = some next) : next.Contents cfg := by
  cases step_move stepped with
  | connected ready => exact contents.connect ready
  | server move => exact contents.serverMoves sized move
  | client move => exact contents.clientMoves sized move

theorem Contents.reached {actions : List Action} (sized : cfg.Sized)
    (reached : run (ClientServer.step cfg) (State.initial cfg) actions = some state) :
    state.Contents cfg :=
  run_preserves (State.Contents cfg) (fun _ _ _ contents stepped => contents.step sized stepped)
    (Contents.initial cfg) reached

/-- In every run, with active messages one in which they arrive in turn, every call that returned 0
on either side had in its buffers what its sender filled in: the data of its iteration at the
client and at the server, and the FIN message. -/
theorem contents_exact {actions : List Action} (positive : 0 < cfg.testStringLength)
    (reached : run (ClientServer.step cfg) (State.initial cfg) actions = some state)
    (inTurn : cfg.sendRecvType = .am →
      Along (ClientServer.step cfg) ArrivesInTurn (State.initial cfg) actions) :
    ∀ finished ∈ state.server.finished ++ state.client.finished, finished.Exact cfg := by
  have sized : cfg.Sized := fun _ => Nat.mul_pos cfg.iovCnt_pos positive
  have contents := Contents.reached sized reached
  intro finished member
  rcases List.mem_append.mp member with atServer | atClient
  · cases call : finished.call with
    | fin => exact contents.server.genuine finished atServer fun _ => call
    | data k =>
        by_cases kind : cfg.sendRecvType = .am
        · intro success
          have delivered := delivered_of_inTurn kind reached (inTurn kind)
          rw [call]
          exact delivered.genuine finished atServer k call success
        · exact contents.server.genuine finished atServer fun other => absurd other kind
  · exact contents.client.genuine finished atClient trivial

theorem oneByOne_exact :
    ∃ state, run (ClientServer.step twoBytes) (State.initial twoBytes) oneByOne = some state ∧
      state.server.finished.length = 2 ∧ state.client.finished.length = 1 ∧
      ∀ finished ∈ state.server.finished ++ state.client.finished, finished.Exact twoBytes :=
  ⟨_, rfl, rfl, rfl, contents_exact (by decide)
    (show run (ClientServer.step twoBytes) _ oneByOne = _ from rfl) fun _ => by decide⟩

end State

end UcxPlayground.ClientServer
