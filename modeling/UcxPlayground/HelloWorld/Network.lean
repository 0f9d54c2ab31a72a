import UcxPlayground.HelloWorld.History

/-!
# Two processes

A client and a server of `ucp_hello_world` with the connection between them. The
connection delivers what was sent, in order and in any portions, and a tag message
is found by a process only after the other one has posted it. Either process may
be killed at any time. A barrier that succeeds has read the bytes of the other
barrier, since the transfers before it have read exactly what was sent before.
-/

set_option autoImplicit false

namespace UcxPlayground.HelloWorld

open Bytes Transition

/-- `toClient` and `toServer` are the tag messages posted and not found yet. -/
structure Network where
  client : Process
  server : Process
  toClient : Nat
  toServer : Nat
  deriving DecidableEq, Repr

/-- The failure modes that the two processes were started with. -/
structure Modes where
  client : FailureMode
  server : FailureMode
  deriving DecidableEq, Repr

inductive NetworkAction where
  | client (action : Action)
  | server (action : Action)
  deriving DecidableEq, Repr

/-- A call of `reader` returns only what the other process has sent. -/
def Deliverable (reader writer : Process) (inFlight : Nat) (action : Action) : Prop :=
  reader.consumed ++ action.data <+: writer.written ∧ (action = .message → 0 < inFlight)

instance (reader writer : Process) (inFlight : Nat) (action : Action) :
    Decidable (Deliverable reader writer inFlight action) :=
  inferInstanceAs (Decidable (_ ∧ _))

def Action.messagesTaken (action : Action) : Nat :=
  if action = .message then 1 else 0

def Action.messagesPosted (action : Action) : Nat :=
  if action = .posted then 1 else 0

namespace Network

def initial : Network where
  client := .initial
  server := .initial
  toClient := 0
  toServer := 0

def step (modes : Modes) (network : Network) : NetworkAction → Option Network
  | .client action =>
      if Deliverable network.client network.server network.toClient action then
        (HelloWorld.step ⟨.client, modes.client⟩ network.client action).map fun next =>
          { network with
            client := next
            toClient := network.toClient - action.messagesTaken
            toServer := network.toServer + action.messagesPosted }
      else none
  | .server action =>
      if Deliverable network.server network.client network.toServer action then
        (HelloWorld.step ⟨.server, modes.server⟩ network.server action).map fun next =>
          { network with
            server := next
            toServer := network.toServer - action.messagesTaken
            toClient := network.toClient + action.messagesPosted }
      else none

end Network

/-- The process has returned 0 from `run_ucx_client` or `run_ucx_server`, has made
the send of its barrier, and is not inside the first again. -/
structure Process.Met (process : Process) : Prop where
  ran : .ran 0 ∈ process.log
  sent : .barrierSent ∈ process.log
  outside : ¬ process.InRun

/-- The labels of `main` behind the call of `barrier`. -/
def Pc.behindBarrier : Pc → Bool
  | .destroying => true
  | .cleaning => true
  | .returned => true
  | _ => false

/-- `main` has called `barrier`, which it does without a failure mode when
`run_ucx_client` or `run_ucx_server` has returned 0, and is behind the call with its
result in `ret`, which is 0. -/
structure Process.BarrierReturnedZero (mode : FailureMode) (process : Process) : Prop where
  mode : mode = .none
  ran : .ran 0 ∈ process.log
  behind : process.pc.behindBarrier = true
  ret : process.ret = 0

/-- When `barrier` has returned 0 in a process, which then destroys its worker, the other
one has got that far. -/
structure Network.Synchronised (modes : Modes) (network : Network) : Prop where
  client : network.client.BarrierReturnedZero modes.client → network.server.Met
  server : network.server.BarrierReturnedZero modes.server → network.client.Met

structure Network.Invariant (modes : Modes) (network : Network) : Prop where
  clientPhase : Phase ⟨.client, modes.client⟩ network.client
  serverPhase : Phase ⟨.server, modes.server⟩ network.server
  clientReads : network.client.consumed <+: network.server.written
  serverReads : network.server.consumed <+: network.client.written
  posted : 0 < network.toClient ∨ .probed ∈ network.client.log → .posted ∈ network.server.log

section Steps

variable {modes : Modes} {network next : Network} {action : Action}

theorem Network.Invariant.initial : Network.Invariant modes .initial where
  clientPhase := Phase.initial
  serverPhase := Phase.initial
  clientReads := List.prefix_rfl
  serverReads := List.prefix_rfl
  posted := by simp [Network.initial, Process.initial]

theorem Network.Invariant.client (invariant : network.Invariant modes)
    (stepped : network.step modes (.client action) = some next) : next.Invariant modes := by
  by_cases deliverable : Deliverable network.client network.server network.toClient action
  · simp only [Network.step, if_pos deliverable] at stepped
    obtain ⟨process, went, rfl⟩ := Option.map_eq_some_iff.mp stepped
    have grows := step_grows process went
    refine ⟨invariant.clientPhase.step process went, invariant.serverPhase, ?_, ?_, ?_⟩
    · exact grows.consumed ▸ deliverable.1
    · exact invariant.serverReads.trans grows.written
    · intro given
      rcases given with inFlight | probed
      · exact invariant.posted (.inl (Nat.lt_of_lt_of_le inFlight (Nat.sub_le ..)))
      · rcases grows.probed probed with before | message
        · exact invariant.posted (.inr before)
        · exact invariant.posted (.inl (deliverable.2 message))
  · simp only [Network.step, if_neg deliverable, reduceCtorEq] at stepped

theorem Network.Invariant.server (invariant : network.Invariant modes)
    (stepped : network.step modes (.server action) = some next) : next.Invariant modes := by
  by_cases deliverable : Deliverable network.server network.client network.toServer action
  · simp only [Network.step, if_pos deliverable] at stepped
    obtain ⟨process, went, rfl⟩ := Option.map_eq_some_iff.mp stepped
    have grows := step_grows process went
    refine ⟨invariant.clientPhase, invariant.serverPhase.step process went, ?_, ?_, ?_⟩
    · exact invariant.clientReads.trans grows.written
    · exact grows.consumed ▸ deliverable.1
    · intro given
      by_cases posts : action = .posted
      · exact grows.posted (.inr posts)
      · have none : action.messagesPosted = 0 := if_neg posts
        simp only [none, Nat.add_zero] at given
        exact grows.posted (.inl (invariant.posted given))
  · simp only [Network.step, if_neg deliverable, reduceCtorEq] at stepped

theorem Network.run_invariant {actions : List NetworkAction}
    (reached : run (Network.step modes) .initial actions = some network) :
    network.Invariant modes := by
  refine run_preserves (Network.Invariant modes) (fun before action after invariant stepped => ?_)
    Network.Invariant.initial reached
  cases action with
  | client action => exact invariant.client stepped
  | server action => exact invariant.server stepped

end Steps

section Alignment

variable {options : Options} {process : Process} {outer inner earlier : List Event}
  {sent received : List Byte}

theorem ssize_inj {first second : Option Nat} (same : ssize first = ssize second) :
    first = second := by
  cases first <;> cases second <;> simp only [ssize] at same
  · rfl
  · omega
  · omega
  · rw [Int.ofNat_inj.mp same]

theorem toInt_ssize {count : Option Nat} {required : Nat} (possible : Possible required count) :
    toInt (ssize count) = ssize count := by
  cases count with
  | none => exact toInt_of_small (by decide) (by decide)
  | some count =>
      have bounded := (possible count rfl).2
      simp only [maxTransfer] at bounded
      exact toInt_of_small (by simp only [ssize]; omega) (by simp only [ssize]; omega)

/-- Both ends agree on what one transfer of a given length moved. -/
theorem Passed.count_eq {first second : Option Nat} {required : Nat}
    (passed : Passed first required) (other : Passed second required) : first = second := by
  have same := passed.checked.trans other.checked.symm
  rw [toInt_ssize passed.possible, toInt_ssize other.possible] at same
  exact ssize_inj same

/-- A process that has sent something after the exchange is at its barrier. -/
theorem Exchange.met (exchange : Exchange options process outer inner earlier sent received)
    (nonempty : sent ≠ []) : process.Met := by
  have log := exchange.log
  have left := exchange.left
  cases exchange.stage with
  | running | ran _ | unsent => exact absurd rfl nonempty
  | barrierSent _ => exact ⟨by simp [log], by simp [log], left (by simp)⟩
  | synchronised _ _ _ _ => exact ⟨by simp [log], by simp [log], left (by simp)⟩

/-- Behind the call of `barrier`, `ret` is 0 only when the token was received. -/
theorem Leaving.barrier_succeeded (leaving : Leaving options process)
    (mode : options.mode = .none) (ran : .ran 0 ∈ process.log) (ret : process.ret = 0) :
    .transfer .barrier true ∈ process.log := by
  cases leaving with
  | unprepared log | lengthFailed _ log | unallocated log | addressFailed _ _ log =>
      simp [log] at ran
  | ran inner earlier exchanged log ended done =>
      rcases done with done | requested
      · exact absurd ret done
      · exact absurd mode requested
  | unsent _ _ _ _ _ _ failed => exact absurd (failed.symm.trans ret) (by decide)
  | synchronised sent received token inner earlier exchanged whole log ended _ result =>
      cases token with
      | true => simp [log]
      | false => exact absurd (result.symm.trans ret) (by decide)

theorem Process.BarrierReturnedZero.succeeded
    (zero : process.BarrierReturnedZero options.mode) (phase : Phase options process) :
    .transfer .barrier true ∈ process.log := by
  have behind := zero.behind
  have at' := phase.alive (fun killed => by simp [killed, Pc.behindBarrier] at behind)
  cases position : process.pc with
  | destroying | cleaning | returned =>
      rw [position] at at'
      exact Leaving.barrier_succeeded at' zero.mode zero.ran zero.ret
  | _ => simp [position, Pc.behindBarrier] at behind

/-- A process whose barrier succeeded has received a whole token. -/
theorem History.synchronised (history : History options process)
    (succeeded : .transfer .barrier true ∈ process.log) :
    ∃ outer inner earlier sent received,
      Exchange options process outer inner earlier sent received ∧ received.length = tokenSize ∧
        .barrierSent ∈ outer := by
  cases history with
  | early log =>
      obtain ⟨_, _, _, same⟩ := log _ succeeded
      cases same
  | exchanged outer inner earlier sent received exchange =>
      have member := exchange.exchanged.barrier_mem outer exchange.inRun exchange.log succeeded
      refine ⟨outer, inner, earlier, sent, received, exchange, ?_⟩
      cases exchange.stage with
      | running | ran _ | unsent | barrierSent _ => simp at member
      | synchronised _ _ token whole =>
          have token : true = token := by simpa using member
          exact ⟨whole token.symm, by simp⟩

theorem History.exchange_of_posted (history : History options process)
    (posted : .posted ∈ process.log) :
    ∃ outer inner earlier sent received,
      Exchange options process outer inner earlier sent received := by
  cases history with
  | early log =>
      obtain ⟨_, _, _, same⟩ := log _ posted
      cases same
  | exchanged outer inner earlier sent received exchange =>
      exact ⟨outer, inner, earlier, sent, received, exchange⟩

/-- The client has read the address exactly as the server has sent it, so what it
reads next was sent after that. -/
theorem Exchanged.sent_nonempty {clientMode serverMode : FailureMode} {client server : Process}
    {clientEarlier serverEarlier : List Event} {clientSent token sent serverReceived : List Byte}
    (reads : Exchanged ⟨.client, clientMode⟩ client clientSent token clientEarlier)
    (writes : Exchanged ⟨.server, serverMode⟩ server sent serverReceived serverEarlier)
    (delivered : client.consumed <+: server.written) (whole : token.length = tokenSize) :
    sent ≠ [] := by
  obtain ⟨count, required, passed, _, _, header, body, headerLength, announced, bodyLength,
    consumed⟩ := reads
  obtain ⟨sentCount, sentLength, sentPassed, _, _, own, fits, written⟩ := writes
  rw [consumed, written, List.append_assoc, List.append_assoc] at delivered
  have sameHeader : header = bytesOf lengthSize sentLength := by
    obtain ⟨rest, same⟩ := delivered
    rw [List.append_assoc] at same
    exact List.append_inj_left same (headerLength.trans (length_bytesOf _ _).symm)
  have sameLength : required = sentLength := by
    rw [announced, sameHeader, ofBytes_bytesOf (Nat.lt_trans fits (by decide))]
  subst sameLength
  have sameCount := passed.count_eq sentPassed
  subst sameCount
  have bounded : count.getD 0 ≤ required := by
    cases count with
    | none => exact Nat.zero_le _
    | some count => exact (passed.possible count rfl).1
  have lengths := delivered.length_le
  simp only [List.length_append, List.length_take, length_bytesOf] at lengths
  intro nothing
  simp only [nothing, List.length_nil, whole, tokenSize] at lengths
  omega

end Alignment

section Barrier

variable {modes : Modes} {network : Network}

theorem Network.Invariant.client_synchronised (invariant : network.Invariant modes)
    (succeeded : .transfer .barrier true ∈ network.client.log) : network.server.Met := by
  obtain ⟨_, inner, _, _, token, exchange, whole, sent⟩ :=
    invariant.clientPhase.history.synchronised succeeded
  obtain ⟨data, rfl⟩ := exchange.completed sent
  have probed : .probed ∈ network.client.log := by
    simp [exchange.log]
  obtain ⟨_, _, _, _, _, peer⟩ :=
    invariant.serverPhase.history.exchange_of_posted (invariant.posted (.inr probed))
  exact peer.met (exchange.exchanged.sent_nonempty peer.exchanged invariant.clientReads whole)

/-- The client sends nothing on the socket but the token of its barrier. -/
theorem Network.Invariant.server_synchronised (invariant : network.Invariant modes)
    (succeeded : .transfer .barrier true ∈ network.server.log) : network.client.Met := by
  obtain ⟨_, _, _, _, token, exchange, whole, _⟩ :=
    invariant.serverPhase.history.synchronised succeeded
  obtain ⟨_, _, _, _, consumed, _⟩ := exchange.exchanged
  have wrote : network.client.written ≠ [] := by
    intro nothing
    have read := invariant.serverReads
    rw [consumed, nothing, List.prefix_nil] at read
    simp [read, tokenSize] at whole
  cases invariant.clientPhase.history with
  | early _ silent => exact absurd (silent rfl) wrote
  | exchanged _ _ _ sent _ peer =>
      obtain ⟨_, _, _, _, written, _⟩ := peer.exchanged
      exact peer.met (written ▸ wrote)

/-- The barrier synchronises: when it has returned 0 in one process, the other
one has returned 0 from its part and made the send of its own barrier. -/
theorem barrier_synchronises {actions : List NetworkAction}
    (reached : run (Network.step modes) .initial actions = some network) :
    network.Synchronised modes := by
  have invariant := Network.run_invariant reached
  constructor
  · intro zero
    exact invariant.client_synchronised (zero.succeeded invariant.clientPhase)
  · intro zero
    exact invariant.server_synchronised (zero.succeeded invariant.serverPhase)

end Barrier

/-- A client and a server that have met, at the end of `main`. -/
def metProcesses : Network where
  client :=
    { pc := .returned
      ret := 0
      localAddr := [7]
      peerAddrLen := 2
      peerAddr := [8, 9]
      written := [0, 0, 0, 0]
      consumed := [2, 0, 0, 0, 0, 0, 0, 0, 8, 9, 0, 0, 0, 0]
      log := [.transfer .barrier true, .barrierSent, .ran 0, .transfer .dataMessage true, .probed,
        .transfer .addressMessage true, .posted, .exchanged .address (some 2) 2,
        .exchanged .length (some 8) 8] }
  server :=
    { pc := .returned
      ret := 0
      localAddr := [8, 9]
      peerAddrLen := 0
      peerAddr := []
      written := [2, 0, 0, 0, 0, 0, 0, 0, 8, 9, 0, 0, 0, 0]
      consumed := [0, 0, 0, 0]
      log := [.transfer .barrier true, .barrierSent, .ran 0, .transfer .dataMessage true, .posted,
        .transfer .addressMessage true, .probed, .exchanged .address (some 2) 2,
        .exchanged .length (some 8) 8] }
  toClient := 0
  toServer := 0

/-- A run of both, from the start to the end of `main`. -/
def meeting : List NetworkAction :=
  [.server (.status .ok), .server (.status .ok), .server (.status .ok), .server (.status .ok),
    .server (.queried [8, 9]), .client (.status .ok), .client (.status .ok),
    .client (.status .ok), .client (.status .ok), .client (.queried [7]),
    .server (.connected true), .client (.connected true), .server (.sent (some 8)),
    .client (.received (some [2, 0, 0, 0, 0, 0, 0, 0])), .server (.sent (some 2)),
    .client (.allocated true), .client (.received (some [8, 9])), .client (.status .ok),
    .client (.allocated true), .client .posted, .server .message, .server (.allocated true),
    .server (.status .ok), .server (.allocated true), .server (.status .ok),
    .server (.allocated true), .server (.allocated true), .server .posted, .client (.status .ok),
    .client .message, .client (.allocated true), .client (.status .ok),
    .client (.allocated true), .client .done, .client (.sent (some 4)), .server (.status .ok),
    .server (.status .ok), .server .done, .server (.sent (some 4)), .server .ready,
    .server (.received (some [0, 0, 0, 0])), .client .ready,
    .client (.received (some [0, 0, 0, 0])), .client .done, .server .done, .server .done,
    .client .done]

theorem meeting_synchronised :
    run (Network.step ⟨.none, .none⟩) .initial meeting = some metProcesses ∧
      metProcesses.client.BarrierReturnedZero .none ∧ metProcesses.server.Met := by
  have zero : metProcesses.client.BarrierReturnedZero .none := ⟨rfl, by decide, rfl, rfl⟩
  refine ⟨by decide, zero, ?_⟩
  exact (@barrier_synchronises ⟨.none, .none⟩ metProcesses meeting (by decide)).client zero

end UcxPlayground.HelloWorld
