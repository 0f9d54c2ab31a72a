import UcxPlayground.HelloWorld.Course
import UcxPlayground.HelloWorld.Network

/-!
# Completion of two processes

The client waits for the server and the server for the client, each at several
places. While both are on their course one of them finds what it waits for, so
that both come to the end of `main`, and when one has left its course they do not.
-/

set_option autoImplicit false

namespace UcxPlayground.HelloWorld

open Bytes Transition

/-- The end of `main` with everything done. -/
structure Process.Complete (process : Process) : Prop where
  returned : process.pc = .returned
  ret : process.ret = 0
  data : process.DataDone
  barrier : .transfer .barrier true ∈ process.log

/-- No tag message is lost and none is found twice. -/
structure Network.Conserved (network : Network) : Prop where
  toServer : network.toServer + network.server.log.count .probed = network.client.log.count .posted
  toClient : network.toClient + network.client.log.count .probed = network.server.log.count .posted

section Counting

variable {options : Options} {process : Process} {action : Action}

/-- A process logs the message that it finds and the one that it posts. -/
structure Counts (process : Process) (action : Action) (next : Process) : Prop where
  probed : next.log.count .probed = process.log.count .probed + action.messagesTaken
  posted : next.log.count .posted = process.log.count .posted + action.messagesPosted

theorem runUcxClient_counts {pc : ClientPc} :
    ∀ next ∈ runUcxClient options process pc action, Counts process action next := by
  fun_cases runUcxClient options process pc action <;>
    simp only [Option.mem_def, Option.some.injEq, forall_eq', reduceCtorEq, false_imp_iff,
      implies_true]
  all_goals
    constructor <;>
      simp [Process.goTo, Process.record, Process.returnFrom, Action.messagesTaken,
        Action.messagesPosted]

theorem runUcxServer_counts {pc : ServerPc} :
    ∀ next ∈ runUcxServer options process pc action, Counts process action next := by
  fun_cases runUcxServer options process pc action <;>
    simp only [Option.mem_def, Option.some.injEq, forall_eq', reduceCtorEq, false_imp_iff,
      implies_true]
  all_goals
    constructor <;>
      simp [Process.goTo, Process.record, Process.returnFrom, Action.messagesTaken,
        Action.messagesPosted]

theorem barrier_counts {pc : BarrierPc} :
    ∀ next ∈ barrier process pc action, Counts process action next := by
  fun_cases barrier process pc action <;>
    simp only [Option.mem_def, Option.some.injEq, forall_eq', reduceCtorEq, false_imp_iff,
      implies_true]
  all_goals
    constructor <;>
      simp [Process.goTo, Process.record, Process.leave, Process.write, Process.consume,
        Action.messagesTaken, Action.messagesPosted]

theorem main_counts : ∀ next ∈ main options process action, Counts process action next := by
  fun_cases main options process action <;>
    simp only [Option.mem_def, Option.some.injEq, forall_eq', reduceCtorEq, false_imp_iff,
      implies_true]
  all_goals
    constructor <;>
      simp [Process.goTo, Process.exchange, Process.write, Process.consume, Action.messagesTaken,
        Action.messagesPosted]

theorem step_counts : ∀ next ∈ step options process action, Counts process action next := by
  fun_cases step options process action <;>
    simp only [Option.mem_def, Option.some.injEq, forall_eq', reduceCtorEq, false_imp_iff,
      implies_true]
  next => constructor <;> simp [Process.goTo, Action.messagesTaken, Action.messagesPosted]
  next => exact runUcxClient_counts
  next => exact runUcxServer_counts
  next => exact barrier_counts
  next => exact main_counts

end Counting

section Steps

variable {modes : Modes} {network next : Network} {action : Action}

theorem Network.step_client_inv (stepped : network.step modes (.client action) = some next) :
    ∃ process, Deliverable network.client network.server network.toClient action ∧
      HelloWorld.step ⟨.client, modes.client⟩ network.client action = some process ∧
      next = { network with
        client := process
        toClient := network.toClient - action.messagesTaken
        toServer := network.toServer + action.messagesPosted } := by
  simp only [Network.step] at stepped
  obtain ⟨deliverable, went⟩ := Option.ite_none_right_eq_some.mp stepped
  obtain ⟨process, went, same⟩ := Option.map_eq_some_iff.mp went
  exact ⟨process, deliverable, went, same.symm⟩

theorem Network.step_server_inv (stepped : network.step modes (.server action) = some next) :
    ∃ process, Deliverable network.server network.client network.toServer action ∧
      HelloWorld.step ⟨.server, modes.server⟩ network.server action = some process ∧
      next = { network with
        server := process
        toServer := network.toServer - action.messagesTaken
        toClient := network.toClient + action.messagesPosted } := by
  simp only [Network.step] at stepped
  obtain ⟨deliverable, went⟩ := Option.ite_none_right_eq_some.mp stepped
  obtain ⟨process, went, same⟩ := Option.map_eq_some_iff.mp went
  exact ⟨process, deliverable, went, same.symm⟩

theorem Deliverable.taken_le {reader writer : Process} {inFlight : Nat}
    (deliverable : Deliverable reader writer inFlight action) :
    action.messagesTaken ≤ inFlight := by
  unfold Action.messagesTaken
  split
  next message => exact deliverable.2 message
  next => exact Nat.zero_le _

/-- A call that returns no bytes reads nothing that was not sent. -/
theorem Deliverable.silent {reader writer : Process} {inFlight : Nat}
    (reads : reader.consumed <+: writer.written) (silent : action.data = [])
    (posted : action = .message → 0 < inFlight) : Deliverable reader writer inFlight action := by
  refine ⟨?_, posted⟩
  rw [silent, List.append_nil]
  exact reads

theorem Network.Conserved.step (conserved : network.Conserved) {side : NetworkAction}
    (stepped : network.step modes side = some next) : next.Conserved := by
  obtain ⟨toServer, toClient⟩ := conserved
  cases side with
  | client action =>
      obtain ⟨process, deliverable, went, rfl⟩ := Network.step_client_inv stepped
      have taken := deliverable.taken_le
      have ⟨probed, posted⟩ := step_counts process went
      constructor
      · simp only [posted]
        omega
      · simp only [probed]
        omega
  | server action =>
      obtain ⟨process, deliverable, went, rfl⟩ := Network.step_server_inv stepped
      have taken := deliverable.taken_le
      have ⟨probed, posted⟩ := step_counts process went
      constructor
      · simp only [probed]
        omega
      · simp only [posted]
        omega

end Steps

section Reading

variable {reader writer client server : Process}

/-- What the client has read when it has the whole address. -/
theorem Exchanged.consumed_length {clientMode serverMode : FailureMode}
    {clientSent token sent received : List Byte} {clientEarlier serverEarlier : List Event}
    (reads : Exchanged ⟨.client, clientMode⟩ client clientSent token clientEarlier)
    (writes : Exchanged ⟨.server, serverMode⟩ server sent received serverEarlier)
    (delivered : client.consumed <+: server.written) :
    client.consumed.length = server.tokenStart .server + token.length := by
  obtain ⟨count, required, passed, _, _, header, body, headerLength, announced, bodyLength,
    consumed⟩ := reads
  obtain ⟨_, _, _, _, _, rfl, fits, written⟩ := writes
  have sameHeader : header = bytesOf lengthSize server.localAddr.length := by
    rw [consumed, written, List.append_assoc, List.append_assoc] at delivered
    obtain ⟨rest, same⟩ := delivered
    rw [List.append_assoc] at same
    exact List.append_inj_left same (headerLength.trans (length_bytesOf _ _).symm)
  have sameLength : required = server.localAddr.length := by
    rw [announced, sameHeader, ofBytes_bytesOf (Nat.lt_trans fits (by decide))]
  rw [consumed, List.length_append, List.length_append, headerLength, bodyLength,
    passed.eq_passing, sameLength]
  rfl

/-- From the bytes that the other process has sent, the token can be read. -/
theorem exists_token (reads : reader.consumed <+: writer.written)
    (far : reader.consumed.length + tokenSize ≤ writer.written.length) :
    ∃ token : List Byte, token.length = tokenSize ∧
      reader.consumed ++ token <+: writer.written := by
  obtain ⟨rest, same⟩ := reads
  rw [← same, List.length_append] at far
  refine ⟨rest.take tokenSize, ?_, ?_⟩
  · rw [List.length_take]
    omega
  · rw [← same]
    exact (List.prefix_append_right_inj _).mpr (List.take_prefix _ _)

theorem ClientPc.reach_ge (pc : ClientPc) : 9 ≤ pc.reach := by
  cases pc <;> simp [ClientPc.reach]

theorem ServerPc.reach_ge (pc : ServerPc) : 9 ≤ pc.reach := by
  cases pc <;> simp [ServerPc.reach]

theorem Pc.reach_le (pc : Pc) : pc.reach ≤ 26 := by
  cases pc with
  | client pc => cases pc <;> simp [Pc.reach, ClientPc.reach]
  | server pc => cases pc <;> simp [Pc.reach, ServerPc.reach]
  | barrier pc => cases pc <;> simp [Pc.reach]
  | _ => simp [Pc.reach]

/-- The server has sent the length of its address before the address. -/
theorem PhaseAt.lengthSent (at' : PhaseAt ⟨.server, .none⟩ server server.pc)
    (course : server.OnCourse .server) (far : 7 ≤ server.pc.reach) :
    bytesOf lengthSize server.localAddr.length <+: server.written := by
  have later : 9 ≤ server.pc.reach →
      bytesOf lengthSize server.localAddr.length <+: server.written := by
    intro exchanges
    obtain ⟨_, _, _, exchanged⟩ := (at'.standing course rfl).exchanged exchanges
    obtain ⟨_, _, _, _, _, rfl, _, written⟩ := exchanged
    rw [written, List.append_assoc]
    exact List.prefix_append _ _
  cases position : server.pc with
  | sendingAddress =>
      rw [position] at at'
      exact at'.1.written ▸ List.prefix_rfl
  | allocatingAddress | receivingAddress =>
      rw [position] at at'
      simp [PhaseAt] at at'
  | client pc => exact later (position ▸ pc.reach_ge)
  | server pc => exact later (position ▸ pc.reach_ge)
  | barrier pc =>
      apply later
      cases pc <;> simp [position, Pc.reach]
  | destroying | cleaning | returned | killed => exact later (by simp [position, Pc.reach])
  | _ => simp [position, Pc.reach] at far

end Reading

theorem Pc.needs_le (pc : Pc) : pc.needs ≤ 26 := by
  cases pc with
  | client pc => cases pc <;> simp [Pc.needs]
  | server pc => cases pc <;> simp [Pc.needs]
  | barrier pc => cases pc <;> simp [Pc.needs]
  | _ => simp [Pc.needs]

/-- How many steps are left at most. -/
def Network.remaining (network : Network) : Nat :=
  (26 - network.client.pc.reach) + (26 - network.server.pc.reach)

/-- Both processes are on their course in a network that was reached. -/
structure Network.Going (network : Network) : Prop where
  invariant : network.Invariant ⟨.none, .none⟩
  conserved : network.Conserved
  client : network.client.OnCourse .client
  server : network.server.OnCourse .server

namespace Network.Going

variable {network : Network}

theorem clientAt (going : network.Going) :
    PhaseAt ⟨.client, .none⟩ network.client network.client.pc := by
  refine going.invariant.clientPhase.alive fun killed => ?_
  have course := going.client
  rwa [Process.OnCourse, killed] at course

theorem serverAt (going : network.Going) :
    PhaseAt ⟨.server, .none⟩ network.server network.server.pc := by
  refine going.invariant.serverPhase.alive fun killed => ?_
  have course := going.server
  rwa [Process.OnCourse, killed] at course

theorem receives_length (going : network.Going) (position : network.client.pc = .receivingLength)
    (far : 7 ≤ network.server.pc.reach) :
    ∃ action, Deliverable network.client network.server network.toClient action ∧
      Advances ⟨.client, .none⟩ network.client action := by
  have at' := going.clientAt
  rw [position] at at'
  have sent := going.serverAt.lengthSent going.server far
  refine ⟨.received (some (bytesOf lengthSize network.server.localAddr.length)), ⟨?_, nofun⟩,
    advances_length position (length_bytesOf _ _)⟩
  rw [at'.1.consumed]
  exact sent

theorem receives_address (going : network.Going) (position : network.client.pc = .receivingAddress)
    (far : 9 ≤ network.server.pc.reach) :
    ∃ action, Deliverable network.client network.server network.toClient action ∧
      Advances ⟨.client, .none⟩ network.client action := by
  have at' := going.clientAt
  rw [position] at at'
  obtain ⟨_, _, _, exchanged⟩ := (going.serverAt.standing going.server rfl).exchanged far
  obtain ⟨count, _, passed, _, _, rfl, fits, written⟩ := exchanged
  have header : network.client.consumed = bytesOf lengthSize network.server.localAddr.length := by
    obtain ⟨rest, same⟩ := going.invariant.clientReads
    rw [written, List.append_assoc] at same
    exact List.append_inj_left same (at'.1.header.trans (length_bytesOf _ _).symm)
  have announced : network.client.peerAddrLen = network.server.localAddr.length := by
    rw [at'.1.announced, header, ofBytes_bytesOf (Nat.lt_trans fits (by decide))]
  have counted : (count.map network.server.localAddr.take).map List.length = count := by
    cases count with
    | none => rfl
    | some count => simp [(passed.possible count rfl).1]
  have bytes : (count.map network.server.localAddr.take).getD [] =
      network.server.localAddr.take (count.getD 0) := by
    cases count <;> simp
  refine ⟨.received (count.map network.server.localAddr.take), ⟨?_, nofun⟩,
    advances_address position (by rwa [counted, announced])⟩
  rw [written, Action.data, bytes, header]
  exact List.prefix_append _ _

theorem client_finds (going : network.Going) (position : network.client.pc = .client .receiving)
    (far : 17 ≤ network.server.pc.reach) :
    ∃ action, Deliverable network.client network.server network.toClient action ∧
      Advances ⟨.client, .none⟩ network.client action := by
  have at' := going.clientAt
  rw [position] at at'
  obtain ⟨_, ⟨_, _, exchanged, log⟩, rfl⟩ := at'
  obtain ⟨_, _, _, rfl⟩ := exchanged.log
  have unfound : network.client.log.count .probed = 0 := by
    simp [log]
  have posted := (going.serverAt.standing going.server rfl).posted far
  have sent := List.count_pos_iff.mpr posted
  have balance := going.conserved.toClient
  exact ⟨.message, .silent going.invariant.clientReads rfl fun _ => by omega,
    advances_message rfl (.inl position)⟩

theorem server_finds (going : network.Going) (position : network.server.pc = .server .probing)
    (far : 12 ≤ network.client.pc.reach) :
    ∃ action, Deliverable network.server network.client network.toServer action ∧
      Advances ⟨.server, .none⟩ network.server action := by
  have at' := going.serverAt
  rw [position] at at'
  obtain ⟨_, ⟨_, _, exchanged, log⟩, rfl⟩ := at'
  obtain ⟨_, _, _, rfl⟩ := exchanged.log
  have unfound : network.server.log.count .probed = 0 := by
    simp [log]
  have posted := (going.clientAt.standing going.client rfl).posted far
  have sent := List.count_pos_iff.mpr posted
  have balance := going.conserved.toServer
  exact ⟨.message, .silent going.invariant.serverReads rfl fun _ => by omega,
    advances_message rfl (.inr position)⟩

theorem client_meets (going : network.Going) (position : network.client.pc = .barrier .receiving)
    (far : 22 ≤ network.server.pc.reach) :
    ∃ action, Deliverable network.client network.server network.toClient action ∧
      Advances ⟨.client, .none⟩ network.client action := by
  have at' := going.clientAt
  rw [position] at at'
  obtain ⟨_, _, _, _, reads, _⟩ := at'
  have standing := going.serverAt.standing going.server rfl
  obtain ⟨_, _, _, writes⟩ := standing.exchanged (Nat.le_trans (by decide) far)
  have read := reads.consumed_length writes going.invariant.clientReads
  obtain ⟨token, length, delivered⟩ := exists_token going.invariant.clientReads
    (read ▸ standing.token far)
  exact ⟨.received (some token), ⟨delivered, nofun⟩, advances_token going.client position length⟩

theorem server_meets (going : network.Going) (position : network.server.pc = .barrier .receiving)
    (far : 22 ≤ network.client.pc.reach) :
    ∃ action, Deliverable network.server network.client network.toServer action ∧
      Advances ⟨.server, .none⟩ network.server action := by
  have at' := going.serverAt
  rw [position] at at'
  obtain ⟨_, _, _, _, ⟨_, _, _, _, read, _⟩, _⟩ := at'
  have standing := going.clientAt.standing going.client rfl
  obtain ⟨token, length, delivered⟩ := exists_token going.invariant.serverReads
    (by rw [read]; exact standing.token far)
  exact ⟨.received (some token), ⟨delivered, nofun⟩, advances_token going.server position length⟩

/-- The client goes on when the server is far enough. -/
theorem client_advances (going : network.Going) (unfinished : network.client.pc ≠ .returned)
    (far : network.client.pc.needs ≤ network.server.pc.reach) :
    ∃ action, Deliverable network.client network.server network.toClient action ∧
      Advances ⟨.client, .none⟩ network.client action := by
  have alone : network.client.pc.needs = 0 →
      ∃ action, Deliverable network.client network.server network.toClient action ∧
        Advances ⟨.client, .none⟩ network.client action := by
    intro free
    obtain ⟨action, silent, other, advances⟩ :=
      advances_alone going.clientAt going.client rfl unfinished free
    exact ⟨action, .silent going.invariant.clientReads silent fun message => absurd message other,
      advances⟩
  cases position : network.client.pc with
  | receivingLength => exact going.receives_length position (by rwa [position] at far)
  | receivingAddress => exact going.receives_address position (by rwa [position] at far)
  | client pc =>
      cases pc with
      | receiving => exact going.client_finds position (by rwa [position] at far)
      | _ => exact alone (by rw [position]; rfl)
  | server pc =>
      have at' := going.clientAt
      rw [position] at at'
      obtain ⟨_, ⟨role, _⟩, _⟩ := at'
      exact absurd role (by decide)
  | barrier pc =>
      cases pc with
      | receiving => exact going.client_meets position (by rwa [position] at far)
      | _ => exact alone (by rw [position]; rfl)
  | _ => exact alone (by rw [position]; rfl)

/-- The server goes on when the client is far enough. -/
theorem server_advances (going : network.Going) (unfinished : network.server.pc ≠ .returned)
    (far : network.server.pc.needs ≤ network.client.pc.reach) :
    ∃ action, Deliverable network.server network.client network.toServer action ∧
      Advances ⟨.server, .none⟩ network.server action := by
  have at' := going.serverAt
  have alone : network.server.pc.needs = 0 →
      ∃ action, Deliverable network.server network.client network.toServer action ∧
        Advances ⟨.server, .none⟩ network.server action := by
    intro free
    obtain ⟨action, silent, other, advances⟩ :=
      advances_alone going.serverAt going.server rfl unfinished free
    exact ⟨action, .silent going.invariant.serverReads silent fun message => absurd message other,
      advances⟩
  cases position : network.server.pc with
  | receivingLength | receivingAddress =>
      rw [position] at at'
      exact absurd at'.2 (by decide)
  | client pc =>
      rw [position] at at'
      obtain ⟨_, ⟨role, _⟩, _⟩ := at'
      exact absurd role (by decide)
  | server pc =>
      cases pc with
      | probing => exact going.server_finds position (by rwa [position] at far)
      | _ => exact alone (by rw [position]; rfl)
  | barrier pc =>
      cases pc with
      | receiving => exact going.server_meets position (by rwa [position] at far)
      | _ => exact alone (by rw [position]; rfl)
  | _ => exact alone (by rw [position]; rfl)

/-- What the client waits for comes before its second tag message, or it is past that. -/
theorem client_needs (going : network.Going) :
    network.client.pc.needs ≤ 9 ∨
      network.client.pc.needs ≤ 22 ∧ 13 ≤ network.client.pc.reach := by
  have at' := going.clientAt
  cases position : network.client.pc with
  | client pc => cases pc <;> simp [Pc.needs, Pc.reach, ClientPc.reach]
  | server pc =>
      rw [position] at at'
      obtain ⟨_, ⟨role, _⟩, _⟩ := at'
      exact absurd role (by decide)
  | barrier pc => cases pc <;> simp [Pc.needs, Pc.reach]
  | _ => simp [Pc.needs]

theorem server_needs (going : network.Going) :
    network.server.pc.needs = 0 ∨
      network.server.pc.needs ≤ 12 ∧ 9 ≤ network.server.pc.reach ∨
      network.server.pc.needs ≤ 22 ∧ 22 ≤ network.server.pc.reach := by
  have at' := going.serverAt
  cases position : network.server.pc with
  | receivingLength | receivingAddress =>
      rw [position] at at'
      exact absurd at'.2 (by decide)
  | client pc =>
      rw [position] at at'
      obtain ⟨_, ⟨role, _⟩, _⟩ := at'
      exact absurd role (by decide)
  | server pc => cases pc <;> simp [Pc.needs, Pc.reach, ServerPc.reach]
  | barrier pc => cases pc <;> simp [Pc.needs, Pc.reach]
  | _ => simp [Pc.needs]

/-- The two do not wait for each other. -/
theorem no_deadlock (going : network.Going) :
    network.client.pc.needs ≤ network.server.pc.reach ∨
      network.server.pc.needs ≤ network.client.pc.reach := by
  rcases going.client_needs with early | ⟨late, past⟩ <;>
    rcases going.server_needs with free | ⟨early', past'⟩ | ⟨late', past'⟩ <;> omega

theorem client_step (going : network.Going) {action : Action}
    (deliverable : Deliverable network.client network.server network.toClient action)
    (advances : Advances ⟨.client, .none⟩ network.client action) :
    ∃ next, network.step ⟨.none, .none⟩ (.client action) = some next ∧ next.Going ∧
      next.remaining < network.remaining := by
  obtain ⟨process, went, course, ahead⟩ := advances
  have stepped : network.step ⟨.none, .none⟩ (.client action) = some { network with
      client := process
      toClient := network.toClient - action.messagesTaken
      toServer := network.toServer + action.messagesPosted } := by
    simp only [Network.step, if_pos deliverable, went, Option.map_some]
  refine ⟨_, stepped, ⟨going.invariant.client stepped, going.conserved.step stepped, course,
    going.server⟩, ?_⟩
  have bounded := process.pc.reach_le
  simp only [Network.remaining]
  omega

theorem server_step (going : network.Going) {action : Action}
    (deliverable : Deliverable network.server network.client network.toServer action)
    (advances : Advances ⟨.server, .none⟩ network.server action) :
    ∃ next, network.step ⟨.none, .none⟩ (.server action) = some next ∧ next.Going ∧
      next.remaining < network.remaining := by
  obtain ⟨process, went, course, ahead⟩ := advances
  have stepped : network.step ⟨.none, .none⟩ (.server action) = some { network with
      server := process
      toServer := network.toServer - action.messagesTaken
      toClient := network.toClient + action.messagesPosted } := by
    simp only [Network.step, if_pos deliverable, went, Option.map_some]
  refine ⟨_, stepped, ⟨going.invariant.server stepped, going.conserved.step stepped, going.client,
    course⟩, ?_⟩
  have bounded := process.pc.reach_le
  simp only [Network.remaining]
  omega

/-- Until both processes have returned, some step keeps both on their course. -/
theorem progress (going : network.Going)
    (unfinished : ¬ (network.client.pc = .returned ∧ network.server.pc = .returned)) :
    ∃ side next, network.step ⟨.none, .none⟩ side = some next ∧ next.Going ∧
      next.remaining < network.remaining := by
  have client : network.client.pc ≠ .returned →
      network.client.pc.needs ≤ network.server.pc.reach → ∃ side next,
        network.step ⟨.none, .none⟩ side = some next ∧ next.Going ∧
          next.remaining < network.remaining := by
    intro runs far
    obtain ⟨action, deliverable, advances⟩ := going.client_advances runs far
    exact ⟨.client action, going.client_step deliverable advances⟩
  have server : network.server.pc ≠ .returned →
      network.server.pc.needs ≤ network.client.pc.reach → ∃ side next,
        network.step ⟨.none, .none⟩ side = some next ∧ next.Going ∧
          next.remaining < network.remaining := by
    intro runs far
    obtain ⟨action, deliverable, advances⟩ := going.server_advances runs far
    exact ⟨.server action, going.server_step deliverable advances⟩
  by_cases clientDone : network.client.pc = .returned
  · refine server (fun serverDone => unfinished ⟨clientDone, serverDone⟩) ?_
    rw [clientDone]
    exact network.server.pc.needs_le
  · by_cases serverDone : network.server.pc = .returned
    · refine client clientDone ?_
      rw [serverDone]
      exact network.client.pc.needs_le
    · exact going.no_deadlock.elim (client clientDone) (server serverDone)

theorem completes (going : network.Going) :
    ∃ final, Leads (Network.step ⟨.none, .none⟩) (fun _ => True) network final ∧
      final.client.Complete ∧ final.server.Complete := by
  obtain ⟨final, leads, holds, clientDone, serverDone⟩ :=
    Leads.of_rank Network.remaining Network.Going
      (fun network => network.client.pc = .returned ∧ network.server.pc = .returned)
      (fun network going unfinished => by
        obtain ⟨side, next, went⟩ := going.progress unfinished
        exact ⟨side, next, trivial, went⟩) going
  have client := holds.client
  have server := holds.server
  rw [Process.OnCourse, clientDone] at client
  rw [Process.OnCourse, serverDone] at server
  exact ⟨final, leads, ⟨clientDone, client.1, client.2.1, client.2.2.1⟩,
    ⟨serverDone, server.1, server.2.1, server.2.2.1⟩⟩

end Network.Going

section Straying

variable {network next : Network}

/-- When both have met, the whole token of each has been sent. -/
theorem Network.Invariant.onCourse (invariant : network.Invariant ⟨.none, .none⟩)
    (client : network.client.Complete) (server : network.server.Complete) :
    network.client.OnCourse .client ∧ network.server.OnCourse .server := by
  have clientAt := invariant.clientPhase.alive (by rw [client.returned]; decide)
  have serverAt := invariant.serverPhase.alive (by rw [server.returned]; decide)
  rw [client.returned] at clientAt
  rw [server.returned] at serverAt
  obtain ⟨_, _, _, _, reads, fromServer, _⟩ := Leaving.standing clientAt client.barrier
  obtain ⟨_, _, _, _, writes, fromClient, _⟩ := Leaving.standing serverAt server.barrier
  have clientSent : network.client.TokenSent .client := by
    obtain ⟨_, _, _, _, read, _⟩ := writes
    have delivered := invariant.serverReads.length_le
    rw [read, fromClient] at delivered
    simpa [Process.TokenSent, Process.tokenStart] using delivered
  have serverSent : network.server.TokenSent .server := by
    have delivered := invariant.clientReads.length_le
    rw [reads.consumed_length writes invariant.clientReads, fromServer] at delivered
    exact delivered
  unfold Process.OnCourse
  rw [client.returned, server.returned]
  exact ⟨⟨client.ret, client.data, client.barrier, clientSent⟩,
    ⟨server.ret, server.data, server.barrier, serverSent⟩⟩

theorem Network.Invariant.course_before (invariant : network.Invariant ⟨.none, .none⟩)
    {side : NetworkAction} (stepped : network.step ⟨.none, .none⟩ side = some next)
    (client : next.client.OnCourse .client) (server : next.server.OnCourse .server) :
    network.client.OnCourse .client ∧ network.server.OnCourse .server := by
  cases side with
  | client action =>
      obtain ⟨process, _, went, rfl⟩ := Network.step_client_inv stepped
      exact ⟨step_course invariant.clientPhase process went client, server⟩
  | server action =>
      obtain ⟨process, _, went, rfl⟩ := Network.step_server_inv stepped
      exact ⟨client, step_course invariant.serverPhase process went server⟩

theorem Network.Invariant.step {modes : Modes} (invariant : network.Invariant modes)
    {side : NetworkAction} (stepped : network.step modes side = some next) :
    next.Invariant modes := by
  cases side with
  | client action => exact invariant.client stepped
  | server action => exact invariant.server stepped

end Straying

/-- Started without a failure mode, the two processes can still both come to the end of `main` with
the message transferred and the barrier passed exactly when neither has left its course. They never
wait for each other. -/
theorem Network.both_complete_iff {network : Network} {actions : List NetworkAction}
    (reached : run (Network.step ⟨.none, .none⟩) .initial actions = some network) :
    (∃ final, Leads (Network.step ⟨.none, .none⟩) (fun _ => True) network final ∧
      final.client.Complete ∧ final.server.Complete) ↔
      network.client.OnCourse .client ∧ network.server.OnCourse .server := by
  have invariant := Network.run_invariant reached
  have conserved : network.Conserved :=
    run_preserves Network.Conserved (fun _ _ _ conserved stepped => conserved.step stepped)
      ⟨rfl, rfl⟩ reached
  constructor
  · rintro ⟨final, leads, client, server⟩
    have kept : ∀ before side after, Network.Invariant ⟨.none, .none⟩ before → True →
        Network.step ⟨.none, .none⟩ before side = some after →
        Network.Invariant ⟨.none, .none⟩ after :=
      fun _ _ _ kept _ stepped => kept.step stepped
    have ends := (leads.preserves _ kept invariant).onCourse client server
    exact leads.held_before _
      (fun network => network.client.OnCourse .client ∧ network.server.OnCourse .server) kept
      (fun _ _ _ kept _ stepped course => kept.course_before stepped course.1 course.2) invariant
      ends
  · rintro ⟨client, server⟩
    exact Network.Going.completes ⟨invariant, conserved, client, server⟩

/-- The client has sent three bytes of its token, the server its tag message. -/
def shortToken : Network where
  client :=
    { pc := .barrier .polling
      ret := 0
      localAddr := [7]
      peerAddrLen := 2
      peerAddr := [8, 9]
      written := [0, 0, 0]
      consumed := [2, 0, 0, 0, 0, 0, 0, 0, 8, 9]
      log := [.barrierSent, .ran 0, .transfer .dataMessage true, .probed,
        .transfer .addressMessage true, .posted, .exchanged .address (some 2) 2,
        .exchanged .length (some 8) 8] }
  server :=
    { pc := .server .waitingSend
      ret := 2
      localAddr := [8, 9]
      peerAddrLen := 0
      peerAddr := []
      written := [2, 0, 0, 0, 0, 0, 0, 0, 8, 9]
      consumed := []
      log := [.posted, .transfer .addressMessage true, .probed, .exchanged .address (some 2) 2,
        .exchanged .length (some 8) 8] }
  toClient := 0
  toServer := 0

/-- `barrier` goes on after a short `send`, and the server then cannot pass its own. -/
theorem shortToken_never_completes :
    ¬ ∃ final, Leads (Network.step ⟨.none, .none⟩) (fun _ => True) shortToken final ∧
      final.client.Complete ∧ final.server.Complete := by
  rw [@Network.both_complete_iff shortToken
    [.server (.status .ok), .server (.status .ok), .server (.status .ok), .server (.status .ok),
      .server (.queried [8, 9]), .client (.status .ok), .client (.status .ok),
      .client (.status .ok), .client (.status .ok), .client (.queried [7]),
      .server (.connected true), .client (.connected true), .server (.sent (some 8)),
      .client (.received (some [2, 0, 0, 0, 0, 0, 0, 0])), .server (.sent (some 2)),
      .client (.allocated true), .client (.received (some [8, 9])), .client (.status .ok),
      .client (.allocated true), .client .posted, .server .message, .server (.allocated true),
      .server (.status .ok), .server (.allocated true), .server (.status .ok),
      .server (.allocated true), .server (.allocated true), .server .posted, .client (.status .ok),
      .client .message, .client (.allocated true), .client (.status .ok),
      .client (.allocated true), .client .done, .client (.sent (some 3))] (by decide)]
  rintro ⟨⟨-, short⟩, -⟩
  exact absurd short (by unfold Process.TokenSent; decide)

end UcxPlayground.HelloWorld
