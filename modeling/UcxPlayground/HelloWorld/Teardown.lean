import UcxPlayground.HelloWorld.Objects
import UcxPlayground.HelloWorld.Phases
import UcxPlayground.Resource.Pool

/-!
# Teardown of `ucp_hello_world`

Which objects are open at each place of the program, and exactly what is left when
`main` returns.
-/

set_option autoImplicit false

namespace UcxPlayground.HelloWorld

open Resource Transition

/-- The objects of `main` while `run_ucx_client` or `run_ucx_server` runs. -/
def Role.objects : Role → List Handle
  | .client => [.peerAddress, .socket, .localAddress, .worker, .context]
  | .server => [.socket, .localAddress, .worker, .context]

/-- The objects of `run_ucx_client`. -/
def ClientPc.owned (request : Bool) : ClientPc → List Handle
  | .creatingEp => []
  | .allocatingMessage => [.endpoint]
  | .posting => [.addressMessage, .endpoint]
  | .waitingSend =>
      if request then [.addressRequest, .addressMessage, .endpoint]
      else [.addressMessage, .endpoint]
  | .receiving => [.endpoint]
  | .allocatingBuffer => [.tagMessage, .endpoint]
  | .waitingReceive => [.dataMessage, .tagMessage, .endpoint]
  | .allocatingString => [.dataMessage, .endpoint]
  | .closing _ => [.endpoint]

/-- The objects of `run_ucx_server`, without the address of the client. -/
def ServerPc.owned (request : Bool) : ServerPc → List Handle
  | .probing => []
  | .allocatingMessage => [.tagMessage]
  | .waitingReceive => [.addressMessage, .tagMessage]
  | .allocatingAddress => [.addressMessage]
  | .creatingEp => []
  | .allocatingText => [.endpoint]
  | .waitingSend =>
      if request then [.dataRequest, .dataMessage, .endpoint] else [.dataMessage, .endpoint]
  | .generating | .posting | .waitingFailure | .waitingKeepalive | .flushing =>
      [.dataMessage, .endpoint]
  | .closing _ => [.endpoint]

def Pc.owned (role : Role) (request : Bool) : Pc → List Handle
  | .parsing | .readingConfig => []
  | .initialising => [.config]
  | .creatingWorker => [.context]
  | .querying => [.worker, .context]
  | .connecting => [.localAddress, .worker, .context]
  | .receivingLength | .allocatingAddress | .sendingLength | .sendingAddress =>
      [.socket, .localAddress, .worker, .context]
  | .receivingAddress => [.peerAddress, .socket, .localAddress, .worker, .context]
  | .client pc => pc.owned request ++ role.objects
  | .server pc => pc.owned request ++ role.objects
  | .barrier _ => role.objects
  | .destroying => [.worker, .context]
  | .cleaning => [.context]
  | .returned | .killed => []

/-- What `run_ucx_client` has not created yet. -/
def ClientPc.fresh : ClientPc → List Handle
  | .creatingEp => [.endpoint, .addressMessage, .addressRequest, .tagMessage, .dataMessage,
      .dataRequest, .string, .closeRequest]
  | .allocatingMessage => [.addressMessage, .addressRequest, .tagMessage, .dataMessage,
      .dataRequest, .string, .closeRequest]
  | .posting => [.addressRequest, .tagMessage, .dataMessage, .dataRequest, .string, .closeRequest]
  | .waitingSend | .receiving =>
      [.tagMessage, .dataMessage, .dataRequest, .string, .closeRequest]
  | .allocatingBuffer => [.dataMessage, .dataRequest, .string, .closeRequest]
  | .waitingReceive => [.dataRequest, .string, .closeRequest]
  | .allocatingString => [.string, .closeRequest]
  | .closing _ => [.closeRequest]

/-- What `run_ucx_server` has not created yet. -/
def ServerPc.fresh : ServerPc → List Handle
  | .probing => [.tagMessage, .addressMessage, .addressRequest, .clientAddress, .endpoint,
      .dataMessage, .dataRequest, .flushRequest, .closeRequest]
  | .allocatingMessage => [.addressMessage, .addressRequest, .clientAddress, .endpoint,
      .dataMessage, .dataRequest, .flushRequest, .closeRequest]
  | .waitingReceive => [.addressRequest, .clientAddress, .endpoint, .dataMessage, .dataRequest,
      .flushRequest, .closeRequest]
  | .allocatingAddress => [.clientAddress, .endpoint, .dataMessage, .dataRequest, .flushRequest,
      .closeRequest]
  | .creatingEp => [.endpoint, .dataMessage, .dataRequest, .flushRequest, .closeRequest]
  | .allocatingText => [.dataMessage, .dataRequest, .flushRequest, .closeRequest]
  | .generating | .posting => [.dataRequest, .flushRequest, .closeRequest]
  | .waitingSend | .waitingFailure | .waitingKeepalive | .flushing =>
      [.flushRequest, .closeRequest]
  | .closing _ => [.closeRequest]

/-- What only `run_ucx_client` or `run_ucx_server` creates. -/
def communicating : List Handle :=
  [.endpoint, .tagMessage, .addressMessage, .addressRequest, .dataMessage, .dataRequest, .string,
    .clientAddress, .flushRequest, .closeRequest]

def Pc.fresh : Pc → List Handle
  | .parsing | .readingConfig =>
      [.config, .context, .worker, .localAddress, .socket, .peerAddress] ++ communicating
  | .initialising => [.context, .worker, .localAddress, .socket, .peerAddress] ++ communicating
  | .creatingWorker => [.worker, .localAddress, .socket, .peerAddress] ++ communicating
  | .querying => [.localAddress, .socket, .peerAddress] ++ communicating
  | .connecting => [.socket, .peerAddress] ++ communicating
  | .receivingLength | .allocatingAddress => .peerAddress :: communicating
  | .receivingAddress | .sendingLength | .sendingAddress => communicating
  | .client pc => pc.fresh
  | .server pc => pc.fresh
  | _ => []

/-- `run_ucx_client` or `run_ucx_server` has returned. -/
def Event.isRan : Event → Bool
  | .ran _ => true
  | _ => false

/-- `main` jumped behind `close(oob_sock)`. -/
def lostSocket (log : List Event) (ledger : Ledger Handle) : List Handle :=
  if .socket ∈ acquired ledger ∧ log.any Event.isRan = false then [.socket] else []

/-- `run_ucx_server` frees its `peer_addr` nowhere. -/
def lostAddress (ledger : Ledger Handle) : List Handle :=
  if .clientAddress ∈ acquired ledger then [.clientAddress] else []

/-- There was no memory to receive the message into. -/
def lostMessage (role : Role) (ledger : Ledger Handle) : List Handle :=
  if .tagMessage ∈ acquired ledger ∧ role.buffer ∉ acquired ledger then [.tagMessage] else []

/-- What a process that returned did not release. -/
def lost (role : Role) (log : List Event) (ledger : Ledger Handle) : List Handle :=
  lostSocket log ledger ++ (lostAddress ledger ++ lostMessage role ledger)

/-- Whether the probed message still waits for its buffer, and whether the process is at
the cleanup labels. -/
inductive Stage where
  | working
  | probed
  | leaving
  deriving DecidableEq, Repr

def Pc.stage : Pc → Stage
  | .client .allocatingBuffer | .server .allocatingMessage => .probed
  | .destroying | .cleaning | .returned => .leaving
  | _ => .working

/-- What will not be released any more. -/
def Tracked.lost (role : Role) (tracked : Tracked) : List Handle :=
  match tracked.process.pc.stage with
  | .working => lostAddress tracked.ledger ++ lostMessage role tracked.ledger
  | .probed => lostAddress tracked.ledger
  | .leaving => HelloWorld.lost role tracked.process.log tracked.ledger

section Lost

variable {role : Role} {tracked : Tracked}

theorem Tracked.lost_working (stage : tracked.process.pc.stage = .working) :
    tracked.lost role = lostAddress tracked.ledger ++ lostMessage role tracked.ledger := by
  rw [Tracked.lost, stage]

theorem Tracked.lost_probed (stage : tracked.process.pc.stage = .probed) :
    tracked.lost role = lostAddress tracked.ledger := by
  rw [Tracked.lost, stage]

theorem Tracked.lost_leaving (stage : tracked.process.pc.stage = .leaving) :
    tracked.lost role = lostSocket tracked.process.log tracked.ledger ++
      (lostAddress tracked.ledger ++ lostMessage role tracked.ledger) := by
  rw [Tracked.lost, stage, HelloWorld.lost]

end Lost

structure Owns (options : Options) (tracked : Tracked) : Prop where
  holds : Holds (Handle.needs options.role)
    (tracked.process.pc.owned options.role tracked.request ++ tracked.lost options.role)
    tracked.ledger
  fresh : ∀ handle ∈ tracked.process.pc.fresh, handle ∉ acquired tracked.ledger

/-- A call at `pc` can do `events` and go on to `next`, after which `extra` is not released
any more. -/
def Fits (role : Role) (request : Bool) (pc : Pc) (events : Ledger Handle) (extra : List Handle)
    (answered : Bool) (next : Pc) : Prop :=
  (∃ after ∈ performed (Handle.needs role) events (pc.owned role request),
    after.Perm (next.owned role answered ++ extra)) ∧
  (acquired events).Nodup ∧ (∀ handle ∈ acquired events, handle ∈ pc.fresh) ∧
  ∀ handle ∈ next.fresh, handle ∈ pc.fresh ∧ handle ∉ acquired events

instance (role : Role) (request : Bool) (pc : Pc) (events : Ledger Handle) (extra : List Handle)
    (answered : Bool) (next : Pc) :
    Decidable (Fits role request pc events extra answered next) :=
  inferInstanceAs (Decidable (_ ∧ _))

section Steps

variable {options : Options} {tracked : Tracked} {reply : Reply} {next : Process}
  {events : Ledger Handle} {extra : List Handle}

theorem lost_needs (role : Role) (tracked : Tracked) :
    ∀ handle ∈ tracked.lost role, handle.needs role = [] := by
  have socket : ∀ log ledger, ∀ handle ∈ lostSocket log ledger, handle.needs role = [] := by
    intro log ledger handle member
    simp only [lostSocket] at member
    split at member <;> simp_all [Handle.needs]
  have address : ∀ ledger, ∀ handle ∈ lostAddress ledger, handle.needs role = [] := by
    intro ledger handle member
    simp only [lostAddress] at member
    split at member <;> simp_all [Handle.needs]
  have message : ∀ ledger, ∀ handle ∈ lostMessage role ledger, handle.needs role = [] := by
    intro ledger handle member
    simp only [lostMessage] at member
    split at member <;> simp_all [Handle.needs]
  intro handle member
  unfold Tracked.lost at member
  split at member
  · exact (List.mem_append.mp member).elim (address _ _) (message _ _)
  · exact address _ _ member
  · rcases List.mem_append.mp member with first | rest
    · exact socket _ _ _ first
    · exact (List.mem_append.mp rest).elim (address _ _) (message _ _)

theorem Owns.advance (owns : Owns options tracked)
    (ledger : (tracked.advance options reply next).ledger = events ++ tracked.ledger)
    (fits : Fits options.role tracked.request tracked.process.pc events extra
      (tracked.advance options reply next).request next.pc)
    (lost : (extra ++ tracked.lost options.role).Perm
      ((tracked.advance options reply next).lost options.role)) :
    Owns options (tracked.advance options reply next) := by
  obtain ⟨⟨after, done, settled⟩, once, created, fresh⟩ := fits
  constructor
  · have performs := owns.holds.perform done
      (fun handle member => owns.fresh handle (created handle member)) once (lost_needs _ _)
    rw [ledger]
    refine performs.reorder ((settled.append_right _).trans ?_)
    rw [List.append_assoc]
    exact lost.append_left _
  · intro handle member
    obtain ⟨earlier, absent⟩ := fresh handle member
    rw [ledger, mem_acquired_append, not_or]
    exact ⟨absent, owns.fresh handle earlier⟩

/-- Events that create neither an address of a client, nor a probed message, nor the buffer
for one. -/
def Safe (role : Role) (events : Ledger Handle) : Prop :=
  ∀ handle ∈ acquired events,
    handle ≠ .clientAddress ∧ handle ≠ .tagMessage ∧ handle ≠ role.buffer

instance (role : Role) (events : Ledger Handle) : Decidable (Safe role events) :=
  inferInstanceAs (Decidable (∀ _ ∈ _, _))

theorem lostMessage_append {role : Role} (message : .tagMessage ∉ acquired events)
    (buffer : role.buffer ∉ acquired events) (ledger : Ledger Handle) :
    lostMessage role (events ++ ledger) = lostMessage role ledger := by
  simp only [lostMessage, mem_acquired_append, message, buffer, false_or]

theorem Safe.address {role : Role} (safe : Safe role events) (ledger : Ledger Handle) :
    lostAddress (events ++ ledger) = lostAddress ledger := by
  have address : .clientAddress ∉ acquired events := fun member => (safe _ member).1 rfl
  simp only [lostAddress, mem_acquired_append, address, false_or]

theorem Safe.message {role : Role} (safe : Safe role events) (ledger : Ledger Handle) :
    lostMessage role (events ++ ledger) = lostMessage role ledger :=
  lostMessage_append (fun member => (safe _ member).2.1 rfl) (fun member => (safe _ member).2.2 rfl)
    ledger

/-- A call that creates nothing that can be lost. -/
theorem Owns.work (owns : Owns options tracked)
    (ledger : (tracked.advance options reply next).ledger = events ++ tracked.ledger)
    (fits : Fits options.role tracked.request tracked.process.pc events []
      (tracked.advance options reply next).request next.pc)
    (here : tracked.process.pc.stage = .working) (there : next.pc.stage = .working)
    (safe : Safe options.role events) : Owns options (tracked.advance options reply next) := by
  refine owns.advance ledger fits (.of_eq ?_)
  rw [Tracked.lost_working here, Tracked.lost_working there, ledger, safe.address, safe.message]
  rfl

theorem lostMessage_unprobed {role : Role} {ledger : Ledger Handle}
    (unprobed : .tagMessage ∉ acquired ledger) : lostMessage role ledger = [] :=
  if_neg fun both => unprobed both.1

theorem lostMessage_buffered {role : Role} {ledger : Ledger Handle}
    (buffered : role.buffer ∈ acquired ledger) : lostMessage role ledger = [] :=
  if_neg fun both => both.2 buffered

theorem lostMessage_unbuffered {role : Role} {ledger : Ledger Handle}
    (probed : .tagMessage ∈ acquired ledger) (unbuffered : role.buffer ∉ acquired ledger) :
    lostMessage role ledger = [.tagMessage] :=
  if_pos ⟨probed, unbuffered⟩

/-- `ucp_tag_probe_nb` finds the message. -/
theorem Owns.probe (owns : Owns options tracked)
    (ledger : (tracked.advance options reply next).ledger = .acquire .tagMessage :: tracked.ledger)
    (fits : Fits options.role tracked.request tracked.process.pc [.acquire .tagMessage] []
      (tracked.advance options reply next).request next.pc)
    (here : tracked.process.pc.stage = .working) (there : next.pc.stage = .probed) :
    Owns options (tracked.advance options reply next) := by
  refine owns.advance ledger fits (.of_eq ?_)
  have unprobed : .tagMessage ∉ acquired tracked.ledger :=
    owns.fresh _ (fits.2.2.1 _ List.mem_cons_self)
  rw [Tracked.lost_working here, Tracked.lost_probed there, ledger, lostMessage_unprobed unprobed]
  simp [lostAddress]

/-- The buffer of the message is allocated. -/
theorem Owns.buffer (owns : Owns options tracked)
    (ledger : (tracked.advance options reply next).ledger =
      .acquire options.role.buffer :: tracked.ledger)
    (fits : Fits options.role tracked.request tracked.process.pc [.acquire options.role.buffer] []
      (tracked.advance options reply next).request next.pc)
    (here : tracked.process.pc.stage = .probed) (there : next.pc.stage = .working) :
    Owns options (tracked.advance options reply next) := by
  refine owns.advance ledger fits (.of_eq ?_)
  have buffered : options.role.buffer ∈ acquired (.acquire options.role.buffer :: tracked.ledger) :=
    List.mem_cons_self
  have other : Handle.clientAddress ≠ options.role.buffer := by cases options.role <;> decide
  rw [Tracked.lost_probed here, Tracked.lost_working there, ledger, lostMessage_buffered buffered]
  simp [lostAddress, other]

/-- There is no memory for the buffer. -/
theorem Owns.unbuffered (owns : Owns options tracked)
    (probed : .tagMessage ∈ tracked.process.pc.owned options.role tracked.request)
    (unbuffered : options.role.buffer ∈ tracked.process.pc.fresh) :
    lostMessage options.role tracked.ledger = [.tagMessage] :=
  lostMessage_unbuffered (owns.holds.was_acquired (List.mem_append_left _ probed))
    (owns.fresh _ unbuffered)

theorem lostSocket_ran {log : List Event} (ran : log.any Event.isRan = true)
    (ledger : Ledger Handle) : lostSocket log ledger = [] :=
  if_neg fun both => by simp [ran] at both

theorem safe_closeSocket (role : Role) : Safe role (closeSocket role) := by
  cases role <;> decide

/-- `run_ucx_client` or `run_ucx_server` returns, and `main` goes on to the barrier or jumps
behind it. -/
theorem Owns.returnFrom {process : Process} {ret : Int} (owns : Owns options tracked)
    (extra : List Handle)
    (unwinds : unwinding options tracked.process.pc = closeSocket options.role)
    (unposted : reply.action ≠ .posted)
    (stays : Fits options.role tracked.request tracked.process.pc (mainLedger options tracked reply)
      extra false (.barrier .sending))
    (leaves : Fits options.role tracked.request tracked.process.pc
      (closeSocket options.role ++ mainLedger options tracked reply) extra false .destroying)
    (lost : (extra ++ tracked.lost options.role).Perm
      (lostAddress (mainLedger options tracked reply ++ tracked.ledger) ++
        lostMessage options.role (mainLedger options tracked reply ++ tracked.ledger))) :
    Owns options (tracked.advance options reply (process.returnFrom options ret)) := by
  have unanswered : (tracked.advance options reply (process.returnFrom options ret)).request =
      false := by simp [Tracked.advance, unposted]
  rw [← unanswered] at stays leaves
  by_cases goes : ret = 0 ∧ options.mode = .none
  · have there : (process.returnFrom options ret).pc = .barrier .sending := if_pos goes
    have ledger : (tracked.advance options reply (process.returnFrom options ret)).ledger =
        mainLedger options tracked reply ++ tracked.ledger := by
      simp [Tracked.advance, there]
    rw [← there] at stays
    refine owns.advance ledger stays ?_
    have stage : (tracked.advance options reply
        (process.returnFrom options ret)).process.pc.stage = .working := congrArg Pc.stage there
    rw [Tracked.lost_working stage, ledger]
    exact lost
  · have there : (process.returnFrom options ret).pc = .destroying := if_neg goes
    have ledger : (tracked.advance options reply (process.returnFrom options ret)).ledger =
        closeSocket options.role ++ (mainLedger options tracked reply ++ tracked.ledger) := by
      simp [Tracked.advance, there, unwinds]
    rw [← there] at leaves
    refine owns.advance (ledger.trans (List.append_assoc _ _ _).symm) leaves ?_
    have stage : (tracked.advance options reply
        (process.returnFrom options ret)).process.pc.stage = .leaving := congrArg Pc.stage there
    have ran : (tracked.advance options reply
        (process.returnFrom options ret)).process.log.any Event.isRan = true := rfl
    have safe := safe_closeSocket options.role
    rw [Tracked.lost_leaving stage, lostSocket_ran ran, ledger, safe.address, safe.message]
    exact lost

theorem Owns.ran {process : Process} {ret : Int} (owns : Owns options tracked)
    (unwinds : unwinding options tracked.process.pc = closeSocket options.role)
    (unposted : reply.action ≠ .posted)
    (stays : Fits options.role tracked.request tracked.process.pc (mainLedger options tracked reply)
      [] false (.barrier .sending))
    (leaves : Fits options.role tracked.request tracked.process.pc
      (closeSocket options.role ++ mainLedger options tracked reply) [] false .destroying)
    (here : tracked.process.pc.stage = .working)
    (safe : Safe options.role (mainLedger options tracked reply)) :
    Owns options (tracked.advance options reply (process.returnFrom options ret)) := by
  refine owns.returnFrom [] unwinds unposted stays leaves (.of_eq ?_)
  rw [safe.address, safe.message, Tracked.lost_working here]
  rfl

theorem client_owns {pc : ClientPc} {action : Action} {given : Bool}
    (owns : Owns options tracked) (position : tracked.process.pc = .client pc)
    (role : options.role = .client) :
    ∀ next ∈ runUcxClient options tracked.process pc action, next.pc ≠ .killed →
      Owns options (tracked.advance options ⟨action, given⟩ next) := by
  obtain ⟨process, request, ledger⟩ := tracked
  obtain ⟨place, ret, localAddr, peerAddrLen, peerAddr, written, consumed, log⟩ := process
  obtain ⟨role, mode⟩ := options
  cases position
  cases role
  fun_cases runUcxClient _ _ pc action <;>
    simp only [Option.mem_def, Option.some.injEq, forall_eq', reduceCtorEq, false_imp_iff,
      implies_true] <;> intro alive
  case case2 =>
    exact owns.ran rfl (by simp) (of_decide_eq_true rfl) (of_decide_eq_true rfl) rfl
      (of_decide_eq_true rfl)
  case case5 | case12 | case13 =>
    cases given <;> exact owns.work rfl (of_decide_eq_true rfl) rfl rfl (of_decide_eq_true rfl)
  case case6 =>
    by_cases stops : mode = .recv
    · exact absurd (if_pos stops) alive
    · rw [if_neg stops]
      cases request <;>
        exact owns.work rfl (of_decide_eq_true rfl) rfl rfl (of_decide_eq_true rfl)
  case case7 =>
    cases request <;> exact owns.work rfl (of_decide_eq_true rfl) rfl rfl (of_decide_eq_true rfl)
  case case8 =>
    by_cases stops : mode = .keepalive
    · exact absurd (if_pos stops) alive
    · rw [if_neg stops]
      exact owns.probe rfl (of_decide_eq_true rfl) rfl rfl
  case case10 => exact owns.buffer rfl (of_decide_eq_true rfl) rfl rfl
  case case11 =>
    have fits : Fits .client request (.client .allocatingBuffer) [] [.tagMessage] false
      (.client (.closing (-1))) := of_decide_eq_true rfl
    refine owns.advance rfl fits ?_
    have unbuffered := owns.unbuffered (of_decide_eq_true rfl) (of_decide_eq_true rfl)
    show ([Handle.tagMessage] ++ lostAddress ledger).Perm
      (lostAddress ledger ++ lostMessage .client ledger)
    rw [show lostMessage .client ledger = [.tagMessage] from unbuffered]
    exact List.perm_append_comm
  case case16 =>
    cases given <;>
      exact owns.ran rfl (by simp) (of_decide_eq_true rfl) (of_decide_eq_true rfl) rfl
        (of_decide_eq_true rfl)
  all_goals
    exact owns.work rfl (of_decide_eq_true rfl) rfl rfl (of_decide_eq_true rfl)

theorem server_owns {pc : ServerPc} {action : Action} {given : Bool}
    (owns : Owns options tracked) (position : tracked.process.pc = .server pc)
    (role : options.role = .server) :
    ∀ next ∈ runUcxServer options tracked.process pc action, next.pc ≠ .killed →
      Owns options (tracked.advance options ⟨action, given⟩ next) := by
  obtain ⟨process, request, ledger⟩ := tracked
  obtain ⟨place, ret, localAddr, peerAddrLen, peerAddr, written, consumed, log⟩ := process
  obtain ⟨role, mode⟩ := options
  cases position
  cases role
  fun_cases runUcxServer _ _ pc action <;>
    simp only [Option.mem_def, Option.some.injEq, forall_eq', reduceCtorEq, false_imp_iff,
      implies_true] <;> intro alive
  case case1 => exact owns.probe rfl (of_decide_eq_true rfl) rfl rfl
  case case2 => exact owns.buffer rfl (of_decide_eq_true rfl) rfl rfl
  case case3 =>
    refine owns.returnFrom [.tagMessage] rfl (by simp) (of_decide_eq_true rfl)
      (of_decide_eq_true rfl) ?_
    have unbuffered := owns.unbuffered (of_decide_eq_true rfl) (of_decide_eq_true rfl)
    show ([Handle.tagMessage] ++ lostAddress ledger).Perm
      (lostAddress ledger ++ lostMessage .server ledger)
    rw [show lostMessage .server ledger = [.tagMessage] from unbuffered]
    exact List.perm_append_comm
  case case4 =>
    cases mode with
    | send => exact absurd rfl alive
    | none | recv | keepalive =>
        cases given <;> exact owns.work rfl (of_decide_eq_true rfl) rfl rfl (of_decide_eq_true rfl)
  case case5 | case20 =>
    cases given <;>
      exact owns.ran rfl (by simp) (of_decide_eq_true rfl) (of_decide_eq_true rfl) rfl
        (of_decide_eq_true rfl)
  case case6 =>
    have fits : Fits .server request (.server .allocatingAddress)
      [.release .addressMessage, .acquire .clientAddress] [.clientAddress] false
      (.server .creatingEp) := of_decide_eq_true rfl
    refine owns.advance rfl fits (.of_eq ?_)
    have unkept : .clientAddress ∉ acquired ledger := owns.fresh _ (of_decide_eq_true rfl)
    have message := @lostMessage_append [.release .addressMessage, .acquire .clientAddress] .server
      (of_decide_eq_true rfl) (of_decide_eq_true rfl) ledger
    rw [Tracked.lost_working rfl, Tracked.lost_working rfl]
    refine Eq.trans ?_ (congrArg _ message.symm)
    show [Handle.clientAddress] ++ (lostAddress ledger ++ _) =
      lostAddress (.release .addressMessage :: .acquire .clientAddress :: ledger) ++ _
    simp [lostAddress, unkept]
  case case7 | case9 =>
    exact owns.ran rfl (by simp) (of_decide_eq_true rfl) (of_decide_eq_true rfl) rfl
      (of_decide_eq_true rfl)
  case case14 | case19 =>
    cases given <;> exact owns.work rfl (of_decide_eq_true rfl) rfl rfl (of_decide_eq_true rfl)
  case case15 =>
    cases request <;> cases mode <;>
      exact owns.work rfl (of_decide_eq_true rfl) rfl rfl (of_decide_eq_true rfl)
  case case16 =>
    cases request <;> cases mode <;>
      exact owns.work rfl (of_decide_eq_true rfl) rfl rfl (of_decide_eq_true rfl)
  all_goals
    exact owns.work rfl (of_decide_eq_true rfl) rfl rfl (of_decide_eq_true rfl)

/-- A jump to the cleanup labels from the exchange of the addresses. -/
theorem Owns.jump (owns : Owns options tracked)
    (ledger : (tracked.advance options reply next).ledger = events ++ tracked.ledger)
    (fits : Fits options.role tracked.request tracked.process.pc events [.socket]
      (tracked.advance options reply next).request next.pc)
    (connected : .socket ∈ tracked.process.pc.owned options.role tracked.request)
    (log : next.log.any Event.isRan = false)
    (here : tracked.process.pc.stage = .working) (there : next.pc.stage = .leaving)
    (safe : Safe options.role events) : Owns options (tracked.advance options reply next) := by
  refine owns.advance ledger fits (.of_eq ?_)
  have open' : .socket ∈ acquired (events ++ tracked.ledger) :=
    mem_acquired_append.mpr (.inr (owns.holds.was_acquired (List.mem_append_left _ connected)))
  have socket : lostSocket next.log (events ++ tracked.ledger) = [.socket] := if_pos ⟨open', log⟩
  rw [Tracked.lost_working here, Tracked.lost_leaving there, ledger, safe.address, safe.message]
  exact congrArg (· ++ _) socket.symm

/-- A jump to the cleanup labels before there is a socket. -/
theorem Owns.unconnected (owns : Owns options tracked)
    (ledger : (tracked.advance options reply next).ledger = events ++ tracked.ledger)
    (fits : Fits options.role tracked.request tracked.process.pc events []
      (tracked.advance options reply next).request next.pc)
    (unconnected : .socket ∈ tracked.process.pc.fresh) (closed : .socket ∉ acquired events)
    (here : tracked.process.pc.stage = .working) (there : next.pc.stage = .leaving)
    (safe : Safe options.role events) : Owns options (tracked.advance options reply next) := by
  refine owns.advance ledger fits (.of_eq ?_)
  have shut : .socket ∉ acquired (events ++ tracked.ledger) := by
    rw [mem_acquired_append, not_or]
    exact ⟨closed, owns.fresh _ unconnected⟩
  have socket : lostSocket next.log (events ++ tracked.ledger) = [] :=
    if_neg fun both => shut both.1
  rw [Tracked.lost_working here, Tracked.lost_leaving there, ledger, safe.address, safe.message]
  exact congrArg (· ++ _) socket.symm

/-- A step from one cleanup label to the next. -/
theorem Owns.unwind (owns : Owns options tracked)
    (ledger : (tracked.advance options reply next).ledger = events ++ tracked.ledger)
    (fits : Fits options.role tracked.request tracked.process.pc events []
      (tracked.advance options reply next).request next.pc)
    (nothing : acquired events = []) (log : next.log = tracked.process.log)
    (here : tracked.process.pc.stage = .leaving) (there : next.pc.stage = .leaving) :
    Owns options (tracked.advance options reply next) := by
  refine owns.advance ledger fits (.of_eq ?_)
  rw [Tracked.lost_leaving here, Tracked.lost_leaving there, ledger]
  show _ = lostSocket next.log _ ++ _
  simp only [lostSocket, lostAddress, lostMessage, mem_acquired_append, nothing, List.not_mem_nil,
    false_or, log, List.nil_append]

theorem exchange_owns {transfer : Transfer} {count : Option Nat} {required : Nat} {pc : Pc}
    {process : Process} (owns : Owns options tracked)
    (ledger : mainLedger options tracked reply = []) (unposted : reply.action ≠ .posted)
    (fits : Fits options.role tracked.request tracked.process.pc [] [] false pc)
    (leaves : Fits options.role tracked.request tracked.process.pc
      (unwinding options tracked.process.pc) [.socket] false .destroying)
    (connected : .socket ∈ tracked.process.pc.owned options.role tracked.request)
    (log : process.log.any Event.isRan = false)
    (here : tracked.process.pc.stage = .working) (there : pc.stage = .working)
    (alive : pc ≠ .destroying)
    (safe : Safe options.role (unwinding options tracked.process.pc)) :
    Owns options
      (tracked.advance options reply (process.exchange transfer count required pc)) := by
  have unanswered : (tracked.advance options reply
      (process.exchange transfer count required pc)).request = false := by
    simp [Tracked.advance, unposted]
  rw [← unanswered] at fits leaves
  by_cases checked : toInt (ssize count) = toInt required
  · have place : (process.exchange transfer count required pc).pc = pc :=
      if_neg (not_not.mpr checked)
    rw [← place] at fits there
    refine owns.work ?_ fits here there (by simp [Safe])
    simp [Tracked.advance, place, ledger, alive]
  · have place : (process.exchange transfer count required pc).pc = .destroying := if_pos checked
    rw [← place] at leaves
    refine owns.jump ?_ leaves connected ?_ here ?_ safe
    · simp [Tracked.advance, place, ledger]
    · simp [Process.exchange, Event.isRan, log]
    · rw [place]
      rfl

theorem main_owns {action : Action} {given : Bool} (owns : Owns options tracked)
    (at' : PhaseAt options tracked.process tracked.process.pc) :
    ∀ next ∈ main options tracked.process action,
      Owns options (tracked.advance options ⟨action, given⟩ next) := by
  obtain ⟨process, request, ledger⟩ := tracked
  obtain ⟨place, ret, localAddr, peerAddrLen, peerAddr, written, consumed, log⟩ := process
  obtain ⟨role, mode⟩ := options
  fun_cases main _ _ action <;>
    simp only [Option.mem_def, Option.some.injEq, forall_eq', reduceCtorEq, false_imp_iff,
      implies_true]
  case case1 pc | case3 pc | case5 pc | case7 pc | case9 pc _ =>
    cases pc
    cases role <;> exact owns.work rfl (of_decide_eq_true rfl) rfl rfl (of_decide_eq_true rfl)
  case case2 pc | case4 pc | case6 pc | case8 pc | case11 pc =>
    cases pc
    cases role <;>
      exact owns.unconnected rfl (of_decide_eq_true rfl) (of_decide_eq_true rfl)
        (of_decide_eq_true rfl) rfl rfl (of_decide_eq_true rfl)
  case case12 pc role' | case13 pc role' =>
    cases pc
    cases role'
    exact owns.work rfl (of_decide_eq_true rfl) rfl rfl (of_decide_eq_true rfl)
  case case14 pc =>
    cases pc
    cases role <;>
      exact owns.unconnected rfl (of_decide_eq_true rfl) (of_decide_eq_true rfl)
        (of_decide_eq_true rfl) rfl rfl (of_decide_eq_true rfl)
  case case17 pc =>
    cases pc
    cases at'.2.1
    exact owns.work rfl (of_decide_eq_true rfl) rfl rfl (of_decide_eq_true rfl)
  case case18 pc =>
    cases pc
    cases at'.2.1
    exact owns.jump rfl (of_decide_eq_true rfl) (of_decide_eq_true rfl)
      (congrArg (List.any · Event.isRan) at'.1.log) rfl rfl (of_decide_eq_true rfl)
  case case15 data pc _ | case19 data pc _ | case21 count pc _ | case23 count pc _ =>
    cases pc
    cases at'.2
    exact exchange_owns owns rfl (by simp) (of_decide_eq_true rfl) (of_decide_eq_true rfl)
      (of_decide_eq_true rfl) (congrArg (List.any · Event.isRan) at'.1.log) rfl rfl (by simp)
      (of_decide_eq_true rfl)
  case case25 pc | case26 pc =>
    cases pc
    cases role <;> exact owns.unwind rfl (of_decide_eq_true rfl) rfl rfl rfl rfl

/-- `barrier` returns. -/
theorem Owns.leave {process : Process} {pc : BarrierPc} {ret : Int} (owns : Owns options tracked)
    (position : tracked.process.pc = .barrier pc) (unposted : reply.action ≠ .posted)
    (ran : process.log.any Event.isRan = true) :
    Owns options (tracked.advance options reply (process.leave ret)) := by
  have ledger : (tracked.advance options reply (process.leave ret)).ledger =
      closeSocket options.role ++ tracked.ledger := by
    simp [Tracked.advance, Process.leave, position, unwinding, mainLedger]
  have unanswered : (tracked.advance options reply (process.leave ret)).request = false := by
    simp [Tracked.advance, unposted]
  have fits : Fits options.role tracked.request tracked.process.pc (closeSocket options.role) []
      (tracked.advance options reply (process.leave ret)).request .destroying := by
    rw [position, unanswered]
    cases options.role <;> exact of_decide_eq_true rfl
  have here : tracked.process.pc.stage = .working := by rw [position]; rfl
  have safe := safe_closeSocket options.role
  refine owns.advance ledger fits (.of_eq ?_)
  rw [Tracked.lost_working here, Tracked.lost_leaving rfl, ledger, safe.address, safe.message]
  exact (congrArg (· ++ _) (lostSocket_ran ran _)).symm

theorem barrier_owns {pc : BarrierPc} {action : Action} {given : Bool}
    (owns : Owns options tracked) (position : tracked.process.pc = .barrier pc)
    (ran : tracked.process.log.any Event.isRan = true) :
    ∀ next ∈ barrier tracked.process pc action,
      Owns options (tracked.advance options ⟨action, given⟩ next) := by
  obtain ⟨process, request, ledger⟩ := tracked
  obtain ⟨place, ret, localAddr, peerAddrLen, peerAddr, written, consumed, log⟩ := process
  obtain ⟨role, mode⟩ := options
  cases position
  fun_cases barrier _ pc action <;>
    simp only [Option.mem_def, Option.some.injEq, forall_eq', reduceCtorEq, false_imp_iff,
      implies_true]
  case case1 | case5 => exact owns.leave rfl (by simp) ran
  all_goals
    cases role <;> exact owns.work rfl (of_decide_eq_true rfl) rfl rfl (of_decide_eq_true rfl)

theorem Phase.ran {process : Process} {pc : BarrierPc} (phase : Phase options process)
    (position : process.pc = .barrier pc) : process.log.any Event.isRan = true := by
  have at' := phase.alive (by simp [position])
  rw [position] at at'
  obtain ⟨_, _, _, _, _, _, log, _⟩ := at'
  simp [log, Event.isRan]

theorem Owns.step (owns : Owns options tracked) (phase : Phase options tracked.process)
    {later : Tracked} (stepped : tracked.step options reply = some later)
    (alive : later.process.pc ≠ .killed) : Owns options later := by
  obtain ⟨next, moved, rfl⟩ := Option.map_eq_some_iff.mp stepped
  have alive : next.pc ≠ .killed := alive
  obtain ⟨action, given⟩ := reply
  have moved : HelloWorld.step options tracked.process action = some next := moved
  have at' (running : tracked.process.pc ≠ .killed) := phase.alive running
  revert moved alive
  fun_cases HelloWorld.step options tracked.process action <;> intro alive moved
  next => cases moved
  next => cases moved
  next =>
    cases moved
    exact absurd rfl alive
  next pc position _ =>
    have here := at' (by simp [position])
    rw [position] at here
    obtain ⟨inner, ⟨role, _⟩, _⟩ := here
    exact client_owns owns position role next moved alive
  next pc position _ =>
    have here := at' (by simp [position])
    rw [position] at here
    obtain ⟨inner, ⟨role, _⟩, _⟩ := here
    exact server_owns owns position role next moved alive
  next pc position _ => exact barrier_owns owns position (phase.ran position) next moved
  next => exact main_owns owns (at' ‹_›) next moved

theorem Owns.initial : Owns options .initial where
  holds := by
    rw [Tracked.lost_working rfl]
    exact .nothing
  fresh := by simp [Tracked.initial]

theorem Tracked.step_alive {later : Tracked} (stepped : tracked.step options reply = some later) :
    tracked.process.pc ≠ .killed := by
  intro dead
  simp [Tracked.step, HelloWorld.step, dead] at stepped

theorem run_owns {replies : List Reply}
    (reached : run (Tracked.step options) .initial replies = some tracked) :
    Phase options tracked.process ∧ (tracked.process.pc ≠ .killed → Owns options tracked) := by
  refine run_preserves
    (fun tracked => Phase options tracked.process ∧
      (tracked.process.pc ≠ .killed → Owns options tracked))
    (fun before reply later both stepped => ?_) ⟨Phase.initial, fun _ => Owns.initial⟩ reached
  obtain ⟨phase, owns⟩ := both
  obtain ⟨next, moved, same⟩ := Option.map_eq_some_iff.mp stepped
  refine ⟨?_, (owns (Tracked.step_alive stepped)).step phase stepped⟩
  rw [← same]
  exact phase.step next moved

end Steps

section Returned

variable {options : Options} {tracked : Tracked} {replies : List Reply}

/-- When `main` returns, every object it created was released once and in a safe order, but
for the socket of an exchange that failed, the address of the client at a server, and a
message for which there was no memory. -/
theorem main_leaves (reached : run (Tracked.step options) .initial replies = some tracked)
    (returned : tracked.process.pc = .returned) :
    Leaves (Handle.needs options.role)
      (lost options.role tracked.process.log tracked.ledger) tracked.ledger := by
  have owns := (run_owns reached).2 (by simp [returned])
  have holds := owns.holds
  rw [Tracked.lost_leaving (by rw [returned]; rfl), returned] at holds
  exact holds.leaves

/-- A client that receives the length of the address but not the address. -/
def addressLost : List Reply :=
  [⟨.status .ok, false⟩, ⟨.status .ok, false⟩, ⟨.status .ok, false⟩, ⟨.status .ok, false⟩,
    ⟨.queried [], false⟩, ⟨.connected true, false⟩,
    ⟨.received (some (Bytes.bytesOf 8 3)), false⟩, ⟨.allocated true, false⟩,
    ⟨.received (some []), false⟩, ⟨.done, false⟩, ⟨.done, false⟩]

theorem main_leaves_socket :
    ∃ tracked, run (Tracked.step ⟨.client, .none⟩) .initial addressLost = some tracked ∧
      Leaves (Handle.needs .client) [.socket] tracked.ledger :=
  ⟨_, rfl, @main_leaves ⟨.client, .none⟩ _ addressLost rfl rfl⟩

end Returned

end UcxPlayground.HelloWorld
