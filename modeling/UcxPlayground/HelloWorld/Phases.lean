import Mathlib.Logic.Basic
import UcxPlayground.HelloWorld.Process
import UcxPlayground.Transition.Run

/-!
# Phases of a process

Where a process is decides what it has done so far: which transfers are behind
it, what it has sent and received on the socket, and what `ret` can be.
-/

set_option autoImplicit false

namespace UcxPlayground.HelloWorld

open Bytes Transition

/-- The result of a transfer that its caller goes on after. -/
structure Passed (count : Option Nat) (required : Nat) : Prop where
  possible : Possible required count
  checked : toInt (ssize count) = toInt required

/-- Both transfers of `main` passed their checks, which is the `earlier` part of
the log; afterwards `sent` and `received` went over the socket. -/
def Exchanged (options : Options) (process : Process) (sent received : List Byte)
    (earlier : List Event) : Prop :=
  ∃ count required, Passed count required ∧
    earlier = [.exchanged .address count required,
      .exchanged .length (some lengthSize) lengthSize] ∧
    match options.role with
    | .client => process.written = sent ∧ ∃ header body, header.length = lengthSize ∧
        required = ofBytes header ∧ body.length = count.getD 0 ∧
        process.consumed = header ++ body ++ received
    | .server => process.consumed = received ∧ required = process.localAddr.length ∧
        required < maxObject ∧ process.written =
          bytesOf lengthSize required ++ process.localAddr.take (count.getD 0) ++ sent

/-- The events of `run_ucx_client` or `run_ucx_server` when all transfers were made. -/
def completeLog (role : Role) (dataSucceeded : Bool) : List Event :=
  match role with
  | .client => [.transfer .dataMessage dataSucceeded, .probed, .transfer .addressMessage true,
      .posted]
  | .server => [.transfer .dataMessage dataSucceeded, .posted, .transfer .addressMessage true,
      .probed]

@[simp] theorem dataMessage_mem_completeLog {role : Role} {succeeded dataSucceeded : Bool} :
    .transfer .dataMessage succeeded ∈ completeLog role dataSucceeded ↔
      succeeded = dataSucceeded := by
  cases role <;> simp [completeLog]

@[simp] theorem addressMessage_mem_completeLog (role : Role) (dataSucceeded : Bool) :
    .transfer .addressMessage true ∈ completeLog role dataSucceeded := by
  cases role <;> simp [completeLog]

@[simp] theorem probed_mem_completeLog (role : Role) (dataSucceeded : Bool) :
    .probed ∈ completeLog role dataSucceeded := by
  cases role <;> simp [completeLog]

@[simp] theorem exchanged_not_mem_completeLog (role : Role) (dataSucceeded : Bool)
    (transfer : Transfer) (count : Option Nat) (required : Nat) :
    .exchanged transfer count required ∉ completeLog role dataSucceeded := by
  cases role <;> simp [completeLog]

def Event.inRun : Event → Bool
  | .transfer .addressMessage _ => true
  | .transfer .dataMessage _ => true
  | .probed => true
  | .posted => true
  | _ => false

/-- What `run_ucx_client` or `run_ucx_server` can return after the events `log`. -/
structure Ended (options : Options) (ret : Int) (log : List Event) : Prop where
  inRun : ∀ event ∈ log, event.inRun
  completed : ret = 0 → options.mode = .none →
    ∃ succeeded, log = completeLog options.role succeeded
  provoked : options.role = .server → options.mode ≠ .none →
    .transfer .dataMessage false ∈ log → ret = -1

def ClientLog (options : Options) (log : List Event) : ClientPc → Prop
  | .creatingEp | .allocatingMessage | .posting => log = []
  | .waitingSend => log = [.posted]
  | .receiving => log = [.transfer .addressMessage true, .posted]
  | .allocatingBuffer | .waitingReceive => log = [.probed, .transfer .addressMessage true, .posted]
  | .allocatingString => log = completeLog .client true
  | .closing ret => Ended options ret log

def ServerLog (options : Options) (log : List Event) : ServerPc → Prop
  | .probing => log = []
  | .allocatingMessage | .waitingReceive => log = [.probed]
  | .allocatingAddress | .creatingEp | .allocatingText | .generating | .posting =>
      log = [.transfer .addressMessage true, .probed]
  | .waitingSend => log = [.posted, .transfer .addressMessage true, .probed]
  | .waitingFailure => options.mode = .none ∧ log = completeLog .server false
  | .waitingKeepalive | .flushing => log = completeLog .server true
  | .closing ret => Ended options ret log

def barrierLog : BarrierPc → List Event
  | .sending => []
  | .polling | .receiving => [.barrierSent]

/-- How the process got to the cleanup labels of `main`. -/
inductive Leaving (options : Options) (process : Process) : Prop where
  | unprepared (log : process.log = []) (ret : process.ret = -1) (silent : process.written = [])
  | lengthFailed (count : Option Nat) (log : process.log = [.exchanged .length count lengthSize])
      (ret : process.ret = toInt (ssize count)) (failed : process.ret ≠ toInt lengthSize)
      (silent : options.role = .client → process.written = [])
  | unallocated (log : process.log = [.exchanged .length (some lengthSize) lengthSize])
      (ret : process.ret = lengthSize) (silent : process.written = [])
  | addressFailed (count : Option Nat) (required : Nat)
      (log : process.log = [.exchanged .address count required,
        .exchanged .length (some lengthSize) lengthSize])
      (ret : process.ret = toInt (ssize count)) (failed : process.ret ≠ toInt required)
      (silent : options.role = .client → process.written = [])
  | ran (inner earlier : List Event) (exchanged : Exchanged options process [] [] earlier)
      (log : process.log = .ran process.ret :: inner ++ earlier)
      (ended : Ended options process.ret inner)
      (done : process.ret ≠ 0 ∨ options.mode ≠ .none)
  | unsent (inner earlier : List Event) (exchanged : Exchanged options process [] [] earlier)
      (log : process.log = .transfer .barrier false :: .ran 0 :: inner ++ earlier)
      (ended : Ended options 0 inner) (mode : options.mode = .none) (ret : process.ret = -1)
  | synchronised (sent received : List Byte) (token : Bool) (inner earlier : List Event)
      (exchanged : Exchanged options process sent received earlier)
      (whole : token = true → received.length = tokenSize)
      (log : process.log =
        .transfer .barrier token :: .barrierSent :: .ran 0 :: inner ++ earlier)
      (ended : Ended options 0 inner) (mode : options.mode = .none)
      (ret : process.ret = if token then 0 else 1)

/-- Before the socket is used. -/
structure Untouched (process : Process) : Prop where
  fits : process.localAddr.length < maxObject
  log : process.log = []
  written : process.written = []
  consumed : process.consumed = []

structure LengthReceived (process : Process) : Prop where
  header : process.consumed.length = lengthSize
  announced : process.peerAddrLen = ofBytes process.consumed
  written : process.written = []
  log : process.log = [.exchanged .length (some lengthSize) lengthSize]

structure LengthSent (process : Process) : Prop where
  fits : process.localAddr.length < maxObject
  written : process.written = bytesOf lengthSize process.localAddr.length
  consumed : process.consumed = []
  log : process.log = [.exchanged .length (some lengthSize) lengthSize]

/-- Inside `run_ucx_client` or `run_ucx_server`, which have logged `inner`. -/
structure Running (options : Options) (process : Process) (role : Role) (inner : List Event) :
    Prop where
  role : options.role = role
  exchanged : ∃ earlier, Exchanged options process [] [] earlier ∧ process.log = inner ++ earlier

structure Synchronising (options : Options) (process : Process) (pc : BarrierPc) : Prop where
  mode : options.mode = .none
  exchanged : ∃ sent inner earlier, Exchanged options process sent [] earlier ∧
    (pc = .sending → sent = []) ∧ process.log = barrierLog pc ++ .ran 0 :: inner ++ earlier ∧
    Ended options 0 inner

/-- What is known of a process at each place of the program. -/
def PhaseAt (options : Options) (process : Process) : Pc → Prop
  | .parsing | .readingConfig | .initialising | .creatingWorker | .querying | .connecting =>
      Untouched process ∧ process.ret = -1
  | .receivingLength => Untouched process ∧ options.role = .client
  | .sendingLength => Untouched process ∧ options.role = .server
  | .allocatingAddress =>
      LengthReceived process ∧ options.role = .client ∧ process.ret = lengthSize
  | .receivingAddress => LengthReceived process ∧ options.role = .client
  | .sendingAddress => LengthSent process ∧ options.role = .server
  | .client pc => ∃ inner, Running options process .client inner ∧ ClientLog options inner pc
  | .server pc => ∃ inner, Running options process .server inner ∧ ServerLog options inner pc
  | .barrier pc => Synchronising options process pc
  | .destroying | .cleaning | .returned => Leaving options process
  | .killed => False

/-- A process that was killed was somewhere before. -/
def Phase (options : Options) (process : Process) : Prop :=
  ∃ alive, PhaseAt options alive alive.pc ∧ (process = alive ∨ process = alive.goTo .killed)

section Run

variable {options : Options} {process next : Process} {action : Action}
  {inner earlier : List Event}

theorem Phase.of (alive : PhaseAt options process process.pc) : Phase options process :=
  ⟨process, alive, .inl rfl⟩

theorem Phase.initial : Phase options .initial :=
  .of ⟨⟨by decide, rfl, rfl, rfl⟩, rfl⟩

/-- `raise(SIGKILL)`, or a signal from outside. -/
theorem Phase.raise {pc : Pc} (phase : Phase options (process.goTo pc)) :
    Phase options (process.goTo .killed) := by
  obtain ⟨alive, at', here | gone⟩ := phase
  · have stopped := congrArg (fun place : Process => place.goTo .killed) here
    exact ⟨alive, at', .inr stopped⟩
  · have stopped := congrArg (fun place : Process => place.goTo .killed) gone
    exact ⟨alive, at', .inr stopped⟩

theorem Phase.alive (phase : Phase options process) (running : process.pc ≠ .killed) :
    PhaseAt options process process.pc := by
  obtain ⟨alive, at', rfl | rfl⟩ := phase
  · exact at'
  · exact absurd rfl running

theorem Passed.length {count : Option Nat} (passed : Passed count lengthSize) :
    count = some lengthSize := by
  have checked := passed.checked
  cases count with
  | none => simp [ssize, lengthSize] at checked; exact absurd checked (by decide)
  | some count =>
      have bounded := (passed.possible count rfl).1
      have size : lengthSize = 8 := rfl
      rw [ssize, toInt_of_small (by omega) (by omega),
        toInt_of_small (by omega) (by omega)] at checked
      rw [Int.ofNat_inj.mp checked]

/-- A return from `run_ucx_client` or `run_ucx_server`. -/
theorem returnFrom_phase {ret : Int} (exchanged : Exchanged options process [] [] earlier)
    (log : process.log = inner ++ earlier) (ended : Ended options ret inner) :
    Phase options (process.returnFrom options ret) := by
  by_cases synchronises : ret = 0 ∧ options.mode = .none
  · obtain ⟨rfl, mode⟩ := synchronises
    have position : (process.returnFrom options 0).pc = .barrier .sending := if_pos ⟨rfl, mode⟩
    refine .of ?_
    rw [position]
    exact ⟨mode, [], inner, earlier, exchanged, fun _ => rfl, congrArg (List.cons _) log, ended⟩
  · have position : (process.returnFrom options ret).pc = .destroying := if_neg synchronises
    have done : ret ≠ 0 ∨ options.mode ≠ .none := by
      by_cases zero : ret = 0
      · exact .inr fun mode => synchronises ⟨zero, mode⟩
      · exact .inl zero
    refine .of ?_
    rw [position]
    exact .ran inner earlier exchanged (congrArg (List.cons _) log) ended done

theorem Ended.failed (inRun : ∀ event ∈ inner, event.inRun) : Ended options (-1) inner where
  inRun := inRun
  completed zero := absurd zero (by decide)
  provoked _ _ _ := rfl

theorem runUcxClient_phase {pc : ClientPc} (role : options.role = .client)
    (exchanged : Exchanged options process [] [] earlier) (log : process.log = inner ++ earlier)
    (reached : ClientLog options inner pc) :
    ∀ next ∈ runUcxClient options process pc action, Phase options next := by
  have goTo : ∀ next, ClientLog options inner next →
      Phase options (process.goTo (.client next)) :=
    fun _ reached => .of ⟨inner, ⟨role, earlier, exchanged, log⟩, reached⟩
  have record : ∀ event next, ClientLog options (event :: inner) next →
      Phase options ((process.record event).goTo (.client next)) :=
    fun event _ reached => .of ⟨event :: inner, ⟨role, earlier, exchanged,
      congrArg (List.cons event) log⟩, reached⟩
  -- One case for each arm of the definition.
  fun_cases runUcxClient options process pc action <;>
    simp only [Option.mem_def, Option.some.injEq, forall_eq', reduceCtorEq, false_imp_iff,
      implies_true]
  · exact goTo .allocatingMessage reached
  · obtain rfl : inner = [] := reached
    exact returnFrom_phase exchanged log (.failed (by decide))
  · exact goTo .posting reached
  · obtain rfl : inner = [] := reached
    exact goTo (.closing (-1)) (.failed (by decide))
  · obtain rfl : inner = [] := reached
    exact record .posted .waitingSend rfl
  · obtain rfl : inner = [.posted] := reached
    have sent := record (.transfer .addressMessage true) .receiving rfl
    by_cases raises : options.mode = .recv
    · rw [if_pos raises]
      exact sent.raise
    · rw [if_neg raises]
      exact sent
  · obtain rfl : inner = [.posted] := reached
    exact record (.transfer .addressMessage false) (.closing (-1)) (.failed (by decide))
  · obtain rfl : inner = [.transfer .addressMessage true, .posted] := reached
    have probed := record .probed .allocatingBuffer rfl
    by_cases raises : options.mode = .keepalive
    · rw [if_pos raises]
      exact probed.raise
    · rw [if_neg raises]
      exact probed
  · obtain rfl : inner = [.transfer .addressMessage true, .posted] := reached
    exact goTo (.closing (-1)) (.failed (by decide))
  · exact goTo .waitingReceive reached
  · obtain rfl : inner = [.probed, .transfer .addressMessage true, .posted] := reached
    exact goTo (.closing (-1)) (.failed (by decide))
  · obtain rfl : inner = [.probed, .transfer .addressMessage true, .posted] := reached
    exact record (.transfer .dataMessage true) .allocatingString rfl
  · obtain rfl : inner = [.probed, .transfer .addressMessage true, .posted] := reached
    exact record (.transfer .dataMessage false) (.closing (-1)) (.failed (by decide))
  · obtain rfl : inner = completeLog .client true := reached
    refine goTo (.closing 0) ⟨by decide, fun _ _ => ⟨true, by rw [role]⟩, fun server => ?_⟩
    exact absurd (role.symm.trans server) (by decide)
  · obtain rfl : inner = completeLog .client true := reached
    exact goTo (.closing (-1)) (.failed (by decide))
  · exact returnFrom_phase exchanged log reached

theorem runUcxServer_phase {pc : ServerPc} (role : options.role = .server)
    (exchanged : Exchanged options process [] [] earlier) (log : process.log = inner ++ earlier)
    (reached : ServerLog options inner pc) :
    ∀ next ∈ runUcxServer options process pc action, Phase options next := by
  have goTo : ∀ next, ServerLog options inner next →
      Phase options (process.goTo (.server next)) :=
    fun _ reached => .of ⟨inner, ⟨role, earlier, exchanged, log⟩, reached⟩
  have record : ∀ event next, ServerLog options (event :: inner) next →
      Phase options ((process.record event).goTo (.server next)) :=
    fun event _ reached => .of ⟨event :: inner, ⟨role, earlier, exchanged,
      congrArg (List.cons event) log⟩, reached⟩
  fun_cases runUcxServer options process pc action <;>
    simp only [Option.mem_def, Option.some.injEq, forall_eq', reduceCtorEq, false_imp_iff,
      implies_true]
  · obtain rfl : inner = [] := reached
    exact record .probed .allocatingMessage rfl
  · exact goTo .waitingReceive reached
  · obtain rfl : inner = [.probed] := reached
    exact returnFrom_phase exchanged log (.failed (by decide))
  · obtain rfl : inner = [.probed] := reached
    have received := record (.transfer .addressMessage true) .allocatingAddress rfl
    by_cases raises : options.mode = .send
    · rw [if_pos raises]
      exact received.raise
    · rw [if_neg raises]
      exact received
  · obtain rfl : inner = [.probed] := reached
    exact @returnFrom_phase options (process.record (.transfer .addressMessage false))
      [.transfer .addressMessage false, .probed] earlier (-1) exchanged
      (congrArg (List.cons _) log) (.failed (by decide))
  · exact goTo .creatingEp reached
  · obtain rfl : inner = [.transfer .addressMessage true, .probed] := reached
    exact returnFrom_phase exchanged log (.failed (by decide))
  · exact goTo .allocatingText reached
  · obtain rfl : inner = [.transfer .addressMessage true, .probed] := reached
    refine returnFrom_phase exchanged log ⟨by decide, fun zero mode => ?_, fun _ _ => by simp⟩
    rw [if_neg (not_not.mpr mode)] at zero
    exact absurd zero (by decide)
  · exact goTo .generating reached
  · obtain rfl : inner = [.transfer .addressMessage true, .probed] := reached
    exact goTo (.closing (-1)) (.failed (by decide))
  · exact goTo .posting reached
  · obtain rfl : inner = [.transfer .addressMessage true, .probed] := reached
    exact goTo (.closing (-1)) (.failed (by decide))
  · obtain rfl : inner = [.transfer .addressMessage true, .probed] := reached
    exact record .posted .waitingSend rfl
  · obtain rfl : inner = [.posted, .transfer .addressMessage true, .probed] := reached
    by_cases waits : options.mode = .keepalive
    · rw [if_pos waits]
      exact record (.transfer .dataMessage true) .waitingKeepalive rfl
    · rw [if_neg waits]
      exact record (.transfer .dataMessage true) .flushing rfl
  · obtain rfl : inner = [.posted, .transfer .addressMessage true, .probed] := reached
    by_cases none : options.mode = .none
    · rw [if_neg (not_not.mpr none)]
      exact record (.transfer .dataMessage false) .waitingFailure ⟨none, rfl⟩
    · rw [if_pos none]
      exact record (.transfer .dataMessage false) (.closing (-1)) (.failed (by decide))
  · obtain ⟨none, rfl⟩ := reached
    exact goTo (.closing 0) ⟨by decide, fun _ _ => ⟨false, by rw [role]⟩, fun _ requested =>
      absurd none requested⟩
  · exact goTo .flushing reached
  · obtain rfl : inner = completeLog .server true := reached
    exact goTo (.closing 0) ⟨by decide, fun _ _ => ⟨true, by rw [role]⟩, fun _ _ => by
      simp [completeLog]⟩
  · exact returnFrom_phase exchanged log reached

theorem Exchanged.write {sent received bytes : List Byte} {count : Option Nat}
    (exchanged : Exchanged options process sent received earlier) :
    Exchanged options (process.write bytes count) (sent ++ bytes.take (count.getD 0)) received
      earlier := by
  obtain ⟨result, required, passed, rfl, went⟩ := exchanged
  refine ⟨result, required, passed, rfl, ?_⟩
  cases role : options.role with
  | client =>
      simp only [role] at went ⊢
      exact ⟨by simp [Process.write, went.1], went.2⟩
  | server =>
      simp only [role] at went ⊢
      obtain ⟨consumed, announced, fits, written⟩ := went
      exact ⟨consumed, announced, fits, by simp [Process.write, written]⟩

theorem Exchanged.consume {sent received : List Byte} {data : Option (List Byte)}
    (exchanged : Exchanged options process sent received earlier) :
    Exchanged options (process.consume data) sent (received ++ data.getD []) earlier := by
  obtain ⟨result, required, passed, rfl, went⟩ := exchanged
  refine ⟨result, required, passed, rfl, ?_⟩
  cases role : options.role with
  | client =>
      simp only [role] at went ⊢
      obtain ⟨written, header, body, length, announced, bodyLength, consumed⟩ := went
      exact ⟨written, header, body, length, announced, bodyLength,
        by simp [Process.consume, consumed]⟩
  | server =>
      simp only [role] at went ⊢
      exact ⟨by simp [Process.consume, went.1], went.2⟩

theorem Exchanged.log {sent received : List Byte}
    (exchanged : Exchanged options process sent received earlier) :
    ∃ count required, Passed count required ∧ earlier = [.exchanged .address count required,
      .exchanged .length (some lengthSize) lengthSize] := by
  obtain ⟨count, required, passed, same, _⟩ := exchanged
  exact ⟨count, required, passed, same⟩

/-- No event of a run is a transfer of `main` or of `barrier`. -/
theorem not_mem_of_inRun {event : Event} (inRun : ∀ event ∈ inner, event.inRun)
    (outside : event.inRun = false) : event ∉ inner := by
  intro member
  have inside := inRun event member
  simp [outside] at inside

/-- A transfer of `main` in the log of a process that went on is one that passed
its check. -/
theorem Exchanged.checked {sent received : List Byte} {transfer : Transfer}
    {count : Option Nat} {required : Nat}
    (exchanged : Exchanged options process sent received earlier) (outer : List Event)
    (inRun : ∀ event ∈ inner, event.inRun) (log : process.log = outer ++ inner ++ earlier)
    (outside : .exchanged transfer count required ∉ outer)
    (member : .exchanged transfer count required ∈ process.log) :
    toInt (ssize count) = toInt required := by
  have inside : .exchanged transfer count required ∉ inner := not_mem_of_inRun inRun rfl
  obtain ⟨result, announced, passed, rfl⟩ := exchanged.log
  simp only [log, List.mem_append, outside, inside, false_or, List.mem_cons,
    Event.exchanged.injEq, List.not_mem_nil, or_false] at member
  rcases member with ⟨_, rfl, rfl⟩ | ⟨_, rfl, rfl⟩
  · exact passed.checked
  · rfl

theorem Exchanged.barrier_mem {sent received : List Byte} {succeeded : Bool}
    (exchanged : Exchanged options process sent received earlier) (outer : List Event)
    (inRun : ∀ event ∈ inner, event.inRun) (log : process.log = outer ++ inner ++ earlier)
    (member : .transfer .barrier succeeded ∈ process.log) :
    .transfer .barrier succeeded ∈ outer := by
  have inside : .transfer .barrier succeeded ∉ inner := not_mem_of_inRun inRun rfl
  obtain ⟨_, _, _, rfl⟩ := exchanged.log
  simpa [log, inside] using member

theorem barrier_phase {pc : BarrierPc} {sent : List Byte} (mode : options.mode = .none)
    (exchanged : Exchanged options process sent [] earlier) (unsent : pc = .sending → sent = [])
    (log : process.log = barrierLog pc ++ .ran 0 :: inner ++ earlier)
    (ended : Ended options 0 inner) :
    ∀ next ∈ barrier process pc action, Phase options next := by
  fun_cases barrier process pc action <;>
    simp only [Option.mem_def, Option.some.injEq, forall_eq', reduceCtorEq, false_imp_iff,
      implies_true]
  · obtain rfl := unsent rfl
    exact .of (.unsent inner earlier exchanged (congrArg (List.cons _) log) ended mode rfl)
  · exact .of ⟨mode, _, inner, earlier, exchanged.write, by simp, congrArg (List.cons _) log, ended⟩
  · exact .of ⟨mode, sent, inner, earlier, exchanged, by simp, log, ended⟩
  · refine .of (.synchronised sent _ _ inner earlier exchanged.consume (fun whole => ?_)
      (congrArg (List.cons _) log) ended mode rfl)
    obtain ⟨token, rfl, length⟩ := Option.map_eq_some_iff.mp (of_decide_eq_true whole)
    exact length

theorem Untouched.goTo (untouched : Untouched process) (pc : Pc) : Untouched (process.goTo pc) :=
  ⟨untouched.fits, untouched.log, untouched.written, untouched.consumed⟩

theorem Untouched.leaving (untouched : Untouched process) (ret : process.ret = -1) (pc : Pc) :
    Leaving options (process.goTo pc) :=
  .unprepared untouched.log ret untouched.written

theorem LengthReceived.goTo (received : LengthReceived process) (pc : Pc) :
    LengthReceived (process.goTo pc) :=
  ⟨received.header, received.announced, received.written, received.log⟩

theorem Leaving.goTo (leaving : Leaving options process) (pc : Pc) :
    Leaving options (process.goTo pc) := by
  cases leaving with
  | unprepared log ret silent => exact .unprepared log ret silent
  | lengthFailed count log ret failed silent => exact .lengthFailed count log ret failed silent
  | unallocated log ret silent => exact .unallocated log ret silent
  | addressFailed count required log ret failed silent =>
      exact .addressFailed count required log ret failed silent
  | ran inner earlier exchanged log ended done => exact .ran inner earlier exchanged log ended done
  | unsent inner earlier exchanged log ended mode ret =>
      exact .unsent inner earlier exchanged log ended mode ret
  | synchronised sent received token inner earlier exchanged whole log ended mode ret =>
      exact .synchronised sent received token inner earlier exchanged whole log ended mode ret

/-- A transfer of `main` fails its check, or the process goes on. -/
theorem exchange_phase {transfer : Transfer} {count : Option Nat} {required : Nat} {pc : Pc}
    (possible : Possible required count)
    (failed : toInt (ssize count) ≠ toInt required →
      Leaving options (process.exchange transfer count required pc))
    (passed : Passed count required →
      PhaseAt options (process.exchange transfer count required pc) pc) :
    Phase options (process.exchange transfer count required pc) := by
  refine .of ?_
  by_cases checked : toInt (ssize count) = toInt required
  · have position : (process.exchange transfer count required pc).pc = pc :=
      if_neg (not_not.mpr checked)
    rw [position]
    exact passed ⟨possible, checked⟩
  · have position : (process.exchange transfer count required pc).pc = .destroying :=
      if_pos checked
    rw [position]
    exact failed checked

theorem receivingLength_phase {data : Option (List Byte)} (untouched : Untouched process)
    (role : options.role = .client) (possible : Possible lengthSize (data.map List.length)) :
    Phase options (({ process with peerAddrLen := ofBytes (data.getD []) }.consume data).exchange
      .length (data.map List.length) lengthSize .allocatingAddress) := by
  have log := congrArg (List.cons (.exchanged .length (data.map List.length) lengthSize))
    untouched.log
  refine exchange_phase possible
    (fun failed => .lengthFailed _ log rfl failed fun _ => untouched.written) fun passed => ?_
  obtain ⟨header, rfl, length⟩ := Option.map_eq_some_iff.mp passed.length
  have consumed : process.consumed ++ header = header := by rw [untouched.consumed, List.nil_append]
  refine ⟨⟨?_, ?_, untouched.written, ?_⟩, role, ?_⟩
  · exact (congrArg List.length consumed).trans length
  · exact (congrArg ofBytes consumed).symm
  · show Event.exchanged .length (some header.length) lengthSize :: process.log = _
    rw [length, untouched.log]
  · exact passed.checked.trans (toInt_of_small (by decide) (by decide))

theorem sendingLength_phase {count : Option Nat} (untouched : Untouched process)
    (role : options.role = .server) (possible : Possible lengthSize count) :
    Phase options ((process.write (bytesOf lengthSize process.localAddr.length) count).exchange
      .length count lengthSize .sendingAddress) := by
  have log := congrArg (List.cons (.exchanged .length count lengthSize)) untouched.log
  refine exchange_phase possible
    (fun failed => .lengthFailed _ log rfl failed fun client => ?_) fun passed => ?_
  · exact absurd (role.symm.trans client) (by decide)
  · have whole := passed.length
    subst whole
    refine ⟨⟨untouched.fits, ?_, untouched.consumed, log⟩, role⟩
    have header := length_bytesOf lengthSize process.localAddr.length
    simp [Process.exchange, Process.write, untouched.written, List.take_of_length_le, header]

theorem receivingAddress_phase {data : Option (List Byte)} (received : LengthReceived process)
    (role : options.role = .client)
    (possible : Possible process.peerAddrLen (data.map List.length)) :
    Phase options (({ process with peerAddr := data.getD [] }.consume data).exchange .address
      (data.map List.length) process.peerAddrLen (.client .creatingEp)) := by
  have log := congrArg
    (List.cons (.exchanged .address (data.map List.length) process.peerAddrLen)) received.log
  refine exchange_phase possible
    (fun failed => .addressFailed _ _ log rfl failed fun _ => received.written) fun passed => ?_
  refine ⟨[], ⟨role, _, ⟨_, _, passed, rfl, ?_⟩, log⟩, rfl⟩
  rw [role]
  refine ⟨received.written, process.consumed, data.getD [], received.header, received.announced,
    ?_, (List.append_nil _).symm⟩
  cases data <;> rfl

theorem sendingAddress_phase {count : Option Nat} (sent : LengthSent process)
    (role : options.role = .server) (possible : Possible process.localAddr.length count) :
    Phase options ((process.write process.localAddr count).exchange .address count
      process.localAddr.length (.server .probing)) := by
  have log := congrArg (List.cons (.exchanged .address count process.localAddr.length)) sent.log
  refine exchange_phase possible
    (fun failed => .addressFailed _ _ log rfl failed fun client => ?_) fun passed => ?_
  · exact absurd (role.symm.trans client) (by decide)
  · refine ⟨[], ⟨role, _, ⟨_, _, passed, rfl, ?_⟩, log⟩, rfl⟩
    rw [role]
    refine ⟨sent.consumed, rfl, sent.fits, ?_⟩
    simp [Process.exchange, Process.write, sent.written]

theorem main_phase (at' : PhaseAt options process process.pc) :
    ∀ next ∈ main options process action, Phase options next := by
  fun_cases main options process action <;>
    simp only [Option.mem_def, Option.some.injEq, forall_eq', reduceCtorEq, false_imp_iff,
      implies_true]
  -- The calls in front of the connection, when they succeed and when they fail.
  case case1 pc | case3 pc | case5 pc | case7 pc =>
    rw [pc] at at'
    exact .of ⟨at'.1.goTo _, at'.2⟩
  case case2 pc | case4 pc | case6 pc | case8 pc | case11 pc =>
    rw [pc] at at'
    exact .of (at'.1.leaving at'.2 _)
  next address pc fits =>
    rw [pc] at at'
    obtain ⟨⟨_, log, written, consumed⟩, ret⟩ := at'
    exact .of ⟨⟨fits, log, written, consumed⟩, ret⟩
  case case12 pc role | case13 pc role =>
    rw [pc] at at'
    exact .of ⟨at'.1.goTo _, role⟩
  next pc =>
    rw [pc] at at'
    exact .of (at'.1.leaving at'.2 _)
  next data pc possible =>
    rw [pc] at at'
    exact receivingLength_phase at'.1 at'.2 possible
  next pc =>
    rw [pc] at at'
    exact .of ⟨at'.1.goTo _, at'.2.1⟩
  next pc =>
    rw [pc] at at'
    obtain ⟨received, _, ret⟩ := at'
    exact .of (.unallocated received.log ret received.written)
  next data pc possible =>
    rw [pc] at at'
    exact receivingAddress_phase at'.1 at'.2 possible
  next count pc possible =>
    rw [pc] at at'
    exact sendingLength_phase at'.1 at'.2 possible
  next count pc possible =>
    rw [pc] at at'
    exact sendingAddress_phase at'.1 at'.2 possible
  all_goals
    next pc =>
      rw [pc] at at'
      exact .of (Leaving.goTo at' _)

theorem Phase.step (phase : Phase options process) :
    ∀ next ∈ step options process action, Phase options next := by
  fun_cases HelloWorld.step options process action <;>
    simp only [Option.mem_def, Option.some.injEq, forall_eq', reduceCtorEq, false_imp_iff,
      implies_true]
  next _ alive => exact @Phase.raise options process process.pc phase
  next pc position _ =>
    have at' := phase.alive (by simp [position])
    rw [position] at at'
    obtain ⟨inner, ⟨role, earlier, exchanged, log⟩, reached⟩ := at'
    exact runUcxClient_phase role exchanged log reached
  next pc position _ =>
    have at' := phase.alive (by simp [position])
    rw [position] at at'
    obtain ⟨inner, ⟨role, earlier, exchanged, log⟩, reached⟩ := at'
    exact runUcxServer_phase role exchanged log reached
  next pc position _ =>
    have at' := phase.alive (by simp [position])
    rw [position] at at'
    obtain ⟨mode, sent, inner, earlier, exchanged, unsent, log, ended⟩ := at'
    exact barrier_phase mode exchanged unsent log ended
  next _ alive _ _ _ _ => exact main_phase (phase.alive alive)

theorem run_phase {actions : List Action}
    (reached : run (step options) .initial actions = some process) : Phase options process :=
  run_preserves (Phase options) (fun _ _ next phase stepped => phase.step next stepped)
    Phase.initial reached

end Run

end UcxPlayground.HelloWorld
