import UcxPlayground.HelloWorld.History
import UcxPlayground.HelloWorld.OobAddress

/-!
# The course of a process

While no call has failed, a process goes on by itself except where it waits for
the other one: for the address, for a tag message and for the token of the barrier.
A step that leaves the course is never made up for.
-/

set_option autoImplicit false

namespace UcxPlayground.HelloWorld

open Bytes Transition

/-- What a call must return for `length` bytes to pass the comparison as `int`. -/
def passing (length : Nat) : Option Nat :=
  if length % 2 ^ 32 = 2 ^ 32 - 1 then none else some (length % 2 ^ 32)

/-- Some result of one call passes. -/
def Passable (length : Nat) : Prop :=
  length % 2 ^ 32 = 2 ^ 32 - 1 ∨ length % 2 ^ 32 ≤ maxTransfer

instance (length : Nat) : Decidable (Passable length) :=
  inferInstanceAs (Decidable (_ ∨ _))

def ClientPc.reach : ClientPc → Nat
  | .creatingEp => 9
  | .allocatingMessage => 10
  | .posting => 11
  | .waitingSend => 12
  | .receiving => 13
  | .allocatingBuffer => 14
  | .waitingReceive => 15
  | .allocatingString => 16
  | .closing _ => 20

def ServerPc.reach : ServerPc → Nat
  | .probing => 9
  | .allocatingMessage => 10
  | .waitingReceive => 11
  | .allocatingAddress => 12
  | .creatingEp => 13
  | .allocatingText => 14
  | .generating => 15
  | .posting => 16
  | .waitingSend => 17
  | .waitingFailure => 17
  | .waitingKeepalive => 18
  | .flushing => 19
  | .closing _ => 20

/-- How far a process has come. From 9 on it has exchanged the address, from 22 on
it has sent the token of its barrier. -/
def Pc.reach : Pc → Nat
  | .parsing => 0
  | .readingConfig => 1
  | .initialising => 2
  | .creatingWorker => 3
  | .querying => 4
  | .connecting => 5
  | .receivingLength => 6
  | .sendingLength => 6
  | .allocatingAddress => 7
  | .sendingAddress => 7
  | .receivingAddress => 8
  | .client pc => pc.reach
  | .server pc => pc.reach
  | .barrier .sending => 21
  | .barrier .polling => 22
  | .barrier .receiving => 23
  | .destroying => 24
  | .cleaning => 25
  | .returned => 26
  | .killed => 26

namespace Process

/-- Where the token of its barrier begins in what a process sends on the socket. -/
def tokenStart (role : Role) (process : Process) : Nat :=
  match role with
  | .client => 0
  | .server => lengthSize + (passing process.localAddr.length).getD 0

/-- The whole token went over the socket. -/
def TokenSent (role : Role) (process : Process) : Prop :=
  process.tokenStart role + tokenSize ≤ process.written.length

/-- The data message was sent or received. -/
def DataDone (process : Process) : Prop :=
  .transfer .dataMessage true ∈ process.log

/-- No call has failed whose failure keeps the process from its own part. -/
def OnCourse (role : Role) (process : Process) : Prop :=
  match process.pc with
  | .connecting => role = .server → Passable process.localAddr.length
  | .sendingLength => Passable process.localAddr.length
  | .sendingAddress => Passable process.localAddr.length
  | .client (.closing ret) => ret = 0 ∧ process.DataDone
  | .server .waitingFailure => False
  | .server (.closing ret) => ret = 0 ∧ process.DataDone
  | .barrier .sending => process.DataDone
  | .barrier .polling => process.DataDone ∧ process.TokenSent role
  | .barrier .receiving => process.DataDone ∧ process.TokenSent role
  | .destroying | .cleaning | .returned =>
      process.ret = 0 ∧ process.DataDone ∧ .transfer .barrier true ∈ process.log ∧
        process.TokenSent role
  | .killed => False
  | _ => True

end Process

section Passing

theorem passed_passing {length : Nat} (passable : Passable length) :
    Passed (passing length) length := by
  by_cases fails : length % 2 ^ 32 = 2 ^ 32 - 1
  · have possible : Possible length none := by simp [Possible]
    rw [show passing length = none from if_pos fails]
    exact ⟨possible, (toInt_ssize_eq_iff possible).mpr fails⟩
  · have possible : Possible length (some (length % 2 ^ 32)) := by
      intro count member
      obtain rfl := Option.mem_some_iff.mp member
      exact ⟨Nat.mod_le _ _, passable.resolve_left fails⟩
    rw [show passing length = some _ from if_neg fails]
    exact ⟨possible, (toInt_ssize_eq_iff possible).mpr rfl⟩

theorem Passed.eq_passing {count : Option Nat} {length : Nat} (passed : Passed count length) :
    count = passing length := by
  have same := (toInt_ssize_eq_iff passed.possible).mp passed.checked
  unfold passing
  cases count with
  | none => exact (if_pos same).symm
  | some count =>
      have bounded := (passed.possible count rfl).2
      have other : length % 2 ^ 32 ≠ 2 ^ 32 - 1 := by
        simp only [maxTransfer] at bounded
        omega
      rw [if_neg other, same]

theorem Passed.passable {count : Option Nat} {length : Nat} (passed : Passed count length) :
    Passable length := by
  have same := (toInt_ssize_eq_iff passed.possible).mp passed.checked
  cases count with
  | none => exact .inl same
  | some count => exact .inr (by rw [same]; exact (passed.possible count rfl).2)

end Passing

section Standing

variable {options : Options} {process : Process}

/-- The stage from which on a process has posted its tag message. -/
def postedReach : Role → Nat
  | .client => 12
  | .server => 17

theorem Ended.posted {inner earlier outer : List Event} (ended : Ended options 0 inner)
    (mode : options.mode = .none) (log : process.log = outer ++ inner ++ earlier) :
    .posted ∈ process.log := by
  obtain ⟨succeeded, rfl⟩ := ended.completed rfl mode
  rw [log]
  cases options.role <;> simp [completeLog]

/-- What a process on course has done when it has come far enough. -/
structure Standing (options : Options) (process : Process) : Prop where
  exchanged : 9 ≤ process.pc.reach →
    ∃ sent received earlier, Exchanged options process sent received earlier
  posted : postedReach options.role ≤ process.pc.reach → .posted ∈ process.log
  token : 22 ≤ process.pc.reach → process.TokenSent options.role

theorem Leaving.standing (leaving : Leaving options process)
    (succeeded : .transfer .barrier true ∈ process.log) :
    ∃ sent received inner earlier, Exchanged options process sent received earlier ∧
      received.length = tokenSize ∧ Ended options 0 inner ∧
        process.log = [.transfer .barrier true, .barrierSent, .ran 0] ++ inner ++ earlier := by
  cases leaving with
  | unprepared log | lengthFailed _ log | unallocated log | addressFailed _ _ log =>
      simp [log] at succeeded
  | ran inner earlier exchanged log ended =>
      have member := exchanged.barrier_mem [.ran process.ret] ended.inRun log succeeded
      simp at member
  | unsent inner earlier exchanged log ended =>
      have member := exchanged.barrier_mem [.transfer .barrier false, .ran 0] ended.inRun log
        succeeded
      simp at member
  | synchronised sent received token inner earlier exchanged whole log ended =>
      have member := exchanged.barrier_mem [.transfer .barrier token, .barrierSent, .ran 0]
        ended.inRun log succeeded
      obtain rfl : true = token := by simpa using member
      exact ⟨sent, received, inner, earlier, exchanged, whole rfl, ended, log⟩

theorem PhaseAt.standing (at' : PhaseAt options process process.pc)
    (course : process.OnCourse options.role) (mode : options.mode = .none) :
    Standing options process := by
  unfold Process.OnCourse at course
  cases position : process.pc with
  | parsing | readingConfig | initialising | creatingWorker | querying | connecting
  | receivingLength | sendingLength | allocatingAddress | sendingAddress | receivingAddress =>
      have early : ¬ postedReach options.role ≤ process.pc.reach := by
        rw [position]
        cases options.role <;> decide
      exact ⟨by simp [position, Pc.reach], fun late => absurd late early,
        by simp [position, Pc.reach]⟩
  | client pc =>
      rw [position] at at' course
      obtain ⟨inner, ⟨role, earlier, exchanged, log⟩, reached⟩ := at'
      refine ⟨fun _ => ⟨_, _, _, exchanged⟩, fun late => ?_, fun late => ?_⟩
      · cases pc with
        | creatingEp | allocatingMessage | posting =>
            simp [position, role, postedReach, Pc.reach, ClientPc.reach] at late
        | closing ret =>
            obtain rfl : ret = 0 := course.1
            exact Ended.posted reached mode (@List.nil_append _ inner ▸ log)
        | _ =>
            obtain rfl := reached
            simp [log, completeLog]
      · rw [position] at late
        cases pc <;> simp [Pc.reach, ClientPc.reach] at late
  | server pc =>
      rw [position] at at' course
      obtain ⟨inner, ⟨role, earlier, exchanged, log⟩, reached⟩ := at'
      refine ⟨fun _ => ⟨_, _, _, exchanged⟩, fun late => ?_, fun late => ?_⟩
      · cases pc with
        | probing | allocatingMessage | waitingReceive | allocatingAddress | creatingEp
        | allocatingText | generating | posting =>
            simp [position, role, postedReach, Pc.reach, ServerPc.reach] at late
        | waitingFailure => exact course.elim
        | closing ret =>
            obtain rfl : ret = 0 := course.1
            exact Ended.posted reached mode (@List.nil_append _ inner ▸ log)
        | _ =>
            obtain rfl := reached
            simp [log, completeLog]
      · rw [position] at late
        cases pc <;> simp [Pc.reach, ServerPc.reach] at late
  | barrier pc =>
      rw [position] at at'
      obtain ⟨_, sent, inner, earlier, exchanged, _, log, ended⟩ := at'
      have posted : .posted ∈ process.log :=
        @Ended.posted options process inner earlier (barrierLog pc ++ [.ran 0]) ended mode
          (by simpa using log)
      refine ⟨fun _ => ⟨_, _, _, exchanged⟩, fun _ => posted, fun late => ?_⟩
      rw [position] at course
      cases pc with
      | sending => simp [position, Pc.reach] at late
      | polling | receiving => exact course.2
  | destroying | cleaning | returned =>
      rw [position] at at' course
      obtain ⟨_, _, succeeded, token⟩ := course
      obtain ⟨sent, received, inner, earlier, exchanged, _, ended, log⟩ :=
        Leaving.standing at' succeeded
      exact ⟨fun _ => ⟨_, _, _, exchanged⟩, fun _ => ended.posted mode log, fun _ => token⟩
  | killed =>
      rw [position] at course
      exact course.elim

end Standing

/-- The process takes a step on its course. -/
def Advances (options : Options) (process : Process) (action : Action) : Prop :=
  ∃ next, step options process action = some next ∧ next.OnCourse options.role ∧
    process.pc.reach < next.pc.reach

/-- How far the other process has to be where a process needs something of it. -/
def Pc.needs : Pc → Nat
  | .receivingLength => 7
  | .receivingAddress => 9
  | .client .receiving => 17
  | .server .probing => 12
  | .barrier .receiving => 22
  | _ => 0

section Advancing

variable {options : Options} {process : Process}

/-- In front of the token, the server has sent its address and nothing else. -/
theorem Exchanged.tokenStart_le {sent received : List Byte} {earlier : List Event}
    (exchanged : Exchanged options process sent received earlier) :
    process.tokenStart options.role + sent.length = process.written.length := by
  obtain ⟨count, required, passed, _, went⟩ := exchanged
  unfold Process.tokenStart
  cases role : options.role with
  | client =>
      simp only [role] at went
      rw [went.1, Nat.zero_add]
  | server =>
      simp only [role] at went
      obtain ⟨_, rfl, _, written⟩ := went
      have counted := passed.eq_passing
      subst counted
      have bounded : (passing process.localAddr.length).getD 0 ≤ process.localAddr.length := by
        cases result : passing process.localAddr.length with
        | none => exact Nat.zero_le _
        | some count => exact (passed.possible count result).1
      rw [written]
      simp only [List.length_append, length_bytesOf, List.length_take, Nat.min_eq_left bounded]

theorem Advances.goTo {action : Action} (before : Process) (pc : Pc)
    (stepped : step options process action = some (before.goTo pc))
    (ahead : process.pc.reach < pc.reach) (kept : (before.goTo pc).OnCourse options.role) :
    Advances options process action :=
  ⟨before.goTo pc, stepped, kept, ahead⟩

/-- `run_ucx_client` or `run_ucx_server` returns 0. -/
theorem Advances.returnFrom (mode : options.mode = .none) (done : process.DataDone)
    (stepped : step options process .done = some (process.returnFrom options 0))
    (ahead : process.pc.reach < 21) : Advances options process .done := by
  have returns : (process.returnFrom options 0).pc = .barrier .sending := if_pos ⟨rfl, mode⟩
  refine ⟨process.returnFrom options 0, stepped, ?_, by rwa [returns]⟩
  rw [Process.OnCourse, returns]
  exact List.mem_cons_of_mem _ done

/-- Some step of the process needs nothing of the other one. -/
def AdvancesAlone (options : Options) (process : Process) : Prop :=
  ∃ action : Action, action.data = [] ∧ action ≠ .message ∧ Advances options process action

theorem client_advances {pc : ClientPc} (at' : PhaseAt options process process.pc)
    (course : process.OnCourse options.role) (mode : options.mode = .none)
    (position : process.pc = .client pc) (free : process.pc.needs = 0) :
    AdvancesAlone options process := by
  rw [position] at at'
  obtain ⟨inner, ⟨role, earlier, exchanged, log⟩, reached⟩ := at'
  cases pc with
  | creatingEp =>
      refine ⟨.status .ok, rfl, by simp, .goTo process (.client .allocatingMessage) ?_ ?_ trivial⟩
      · simp [step, position, runUcxClient]
      · simp [position, Pc.reach, ClientPc.reach]
  | allocatingMessage =>
      refine ⟨.allocated true, rfl, by simp, .goTo process (.client .posting) ?_ ?_ trivial⟩
      · simp [step, position, runUcxClient]
      · simp [position, Pc.reach, ClientPc.reach]
  | posting =>
      refine ⟨.posted, rfl, by simp,
        .goTo (process.record .posted) (.client .waitingSend) ?_ ?_ trivial⟩
      · simp [step, position, runUcxClient]
      · simp [position, Pc.reach, ClientPc.reach]
  | waitingSend =>
      refine ⟨.status .ok, rfl, by simp, .goTo
        (process.record (.transfer .addressMessage true)) (.client .receiving) ?_ ?_ trivial⟩
      · simp [step, position, runUcxClient, mode]
      · simp [position, Pc.reach, ClientPc.reach]
  | receiving => simp [position, Pc.needs] at free
  | allocatingBuffer =>
      refine ⟨.allocated true, rfl, by simp, .goTo process (.client .waitingReceive) ?_ ?_ trivial⟩
      · simp [step, position, runUcxClient]
      · simp [position, Pc.reach, ClientPc.reach]
  | waitingReceive =>
      refine ⟨.status .ok, rfl, by simp, .goTo
        (process.record (.transfer .dataMessage true)) (.client .allocatingString) ?_ ?_ trivial⟩
      · simp [step, position, runUcxClient]
      · simp [position, Pc.reach, ClientPc.reach]
  | allocatingString =>
      obtain rfl : inner = completeLog .client true := reached
      refine ⟨.allocated true, rfl, by simp, .goTo process (.client (.closing 0)) ?_ ?_ ⟨rfl, ?_⟩⟩
      · simp [step, position, runUcxClient]
      · simp [position, Pc.reach, ClientPc.reach]
      · simp [Process.DataDone, Process.goTo, log]
  | closing ret =>
      rw [Process.OnCourse, position] at course
      obtain ⟨rfl, done⟩ := course
      refine ⟨.done, rfl, by simp, .returnFrom mode done ?_ ?_⟩
      · simp [step, position, runUcxClient]
      · simp [position, Pc.reach, ClientPc.reach]

theorem server_advances {pc : ServerPc} (at' : PhaseAt options process process.pc)
    (course : process.OnCourse options.role) (mode : options.mode = .none)
    (position : process.pc = .server pc) (free : process.pc.needs = 0) :
    AdvancesAlone options process := by
  rw [position] at at'
  obtain ⟨inner, ⟨role, earlier, exchanged, log⟩, reached⟩ := at'
  cases pc with
  | probing => simp [position, Pc.needs] at free
  | allocatingMessage =>
      refine ⟨.allocated true, rfl, by simp, .goTo process (.server .waitingReceive) ?_ ?_ trivial⟩
      · simp [step, position, runUcxServer]
      · simp [position, Pc.reach, ServerPc.reach]
  | waitingReceive =>
      refine ⟨.status .ok, rfl, by simp, .goTo
        (process.record (.transfer .addressMessage true)) (.server .allocatingAddress) ?_ ?_
        trivial⟩
      · simp [step, position, runUcxServer, mode]
      · simp [position, Pc.reach, ServerPc.reach]
  | allocatingAddress =>
      refine ⟨.allocated true, rfl, by simp, .goTo process (.server .creatingEp) ?_ ?_ trivial⟩
      · simp [step, position, runUcxServer]
      · simp [position, Pc.reach, ServerPc.reach]
  | creatingEp =>
      refine ⟨.status .ok, rfl, by simp, .goTo process (.server .allocatingText) ?_ ?_ trivial⟩
      · simp [step, position, runUcxServer]
      · simp [position, Pc.reach, ServerPc.reach]
  | allocatingText =>
      refine ⟨.allocated true, rfl, by simp, .goTo process (.server .generating) ?_ ?_ trivial⟩
      · simp [step, position, runUcxServer]
      · simp [position, Pc.reach, ServerPc.reach]
  | generating =>
      refine ⟨.allocated true, rfl, by simp, .goTo process (.server .posting) ?_ ?_ trivial⟩
      · simp [step, position, runUcxServer]
      · simp [position, Pc.reach, ServerPc.reach]
  | posting =>
      refine ⟨.posted, rfl, by simp,
        .goTo (process.record .posted) (.server .waitingSend) ?_ ?_ trivial⟩
      · simp [step, position, runUcxServer]
      · simp [position, Pc.reach, ServerPc.reach]
  | waitingSend =>
      refine ⟨.status .ok, rfl, by simp, .goTo
        (process.record (.transfer .dataMessage true)) (.server .flushing) ?_ ?_ trivial⟩
      · simp [step, position, runUcxServer, mode]
      · simp [position, Pc.reach, ServerPc.reach]
  | waitingFailure =>
      rw [Process.OnCourse, position] at course
      exact course.elim
  | waitingKeepalive =>
      refine ⟨.reported, rfl, by simp, .goTo process (.server .flushing) ?_ ?_ trivial⟩
      · simp [step, position, runUcxServer]
      · simp [position, Pc.reach, ServerPc.reach]
  | flushing =>
      obtain rfl : inner = completeLog .server true := reached
      refine ⟨.status .ok, rfl, by simp, .goTo process (.server (.closing 0)) ?_ ?_ ⟨rfl, ?_⟩⟩
      · simp [step, position, runUcxServer]
      · simp [position, Pc.reach, ServerPc.reach]
      · simp [Process.DataDone, Process.goTo, log]
  | closing ret =>
      rw [Process.OnCourse, position] at course
      obtain ⟨rfl, done⟩ := course
      refine ⟨.done, rfl, by simp, .returnFrom mode done ?_ ?_⟩
      · simp [step, position, runUcxServer]
      · simp [position, Pc.reach, ServerPc.reach]

theorem barrier_advances {pc : BarrierPc} (at' : PhaseAt options process process.pc)
    (course : process.OnCourse options.role) (position : process.pc = .barrier pc)
    (free : process.pc.needs = 0) : AdvancesAlone options process := by
  rw [position] at at'
  obtain ⟨_, sent, inner, earlier, exchanged, unsent, _⟩ := at'
  rw [Process.OnCourse, position] at course
  cases pc with
  | sending =>
      obtain rfl := unsent rfl
      have start := exchanged.tokenStart_le
      refine ⟨.sent (some tokenSize), rfl, by simp, .goTo
        ((process.write (bytesOf tokenSize 0) (some tokenSize)).record .barrierSent)
        (.barrier .polling) ?_ ?_ ⟨List.mem_cons_of_mem _ course, ?_⟩⟩
      · simp [step, position, barrier, Possible, tokenSize, maxTransfer]
      · simp [position, Pc.reach]
      · show process.tokenStart options.role + tokenSize ≤
          (process.written ++ (bytesOf tokenSize 0).take tokenSize).length
        rw [List.length_append, List.length_take, length_bytesOf, Nat.min_self, ← start]
        exact Nat.le_refl _
  | polling =>
      refine ⟨.ready, rfl, by simp, .goTo process (.barrier .receiving) ?_ ?_ course⟩
      · simp [step, position, barrier]
      · simp [position, Pc.reach]
  | receiving => simp [position, Pc.needs] at free

/-- A transfer of `main` that passes its check. -/
theorem Advances.exchange {action : Action} {count : Option Nat} {required : Nat}
    (before : Process) (transfer : Transfer) (pc : Pc)
    (stepped : step options process action = some (before.exchange transfer count required pc))
    (passed : Passed count required) (ahead : process.pc.reach < pc.reach)
    (kept : ∀ next : Process, next.pc = pc → next.localAddr = before.localAddr →
      next.OnCourse options.role) : Advances options process action := by
  have position : (before.exchange transfer count required pc).pc = pc :=
    if_neg (not_not.mpr passed.checked)
  exact ⟨_, stepped, kept _ position rfl, by rwa [position]⟩

theorem passed_lengthSize : Passed (some lengthSize) lengthSize :=
  ⟨by simp [Possible, lengthSize, maxTransfer], rfl⟩

theorem main_advances (course : process.OnCourse options.role)
    (outside : ¬ process.InRun) (before : ∀ pc, process.pc ≠ .barrier pc)
    (unfinished : process.pc ≠ .returned) (free : process.pc.needs = 0) :
    AdvancesAlone options process := by
  unfold Process.OnCourse at course
  cases position : process.pc with
  | parsing =>
      refine ⟨.status .ok, rfl, by simp, .goTo process .readingConfig ?_ ?_ trivial⟩
      · simp [step, position, main]
      · simp [position, Pc.reach]
  | readingConfig =>
      refine ⟨.status .ok, rfl, by simp, .goTo process .initialising ?_ ?_ trivial⟩
      · simp [step, position, main]
      · simp [position, Pc.reach]
  | initialising =>
      refine ⟨.status .ok, rfl, by simp, .goTo process .creatingWorker ?_ ?_ trivial⟩
      · simp [step, position, main]
      · simp [position, Pc.reach]
  | creatingWorker =>
      refine ⟨.status .ok, rfl, by simp, .goTo process .querying ?_ ?_ trivial⟩
      · simp [step, position, main]
      · simp [position, Pc.reach]
  | querying =>
      refine ⟨.queried [], rfl, by simp, { process with pc := .connecting, localAddr := [] },
        ?_, fun _ => .inr (Nat.zero_le _), ?_⟩
      · simp [step, position, main, maxObject]
      · simp [position, Pc.reach]
  | connecting =>
      rw [position] at course
      cases role : options.role with
      | client =>
          refine ⟨.connected true, rfl, by simp, .goTo process .receivingLength ?_ ?_ trivial⟩
          · simp [step, position, main, role]
          · simp [position, Pc.reach]
      | server =>
          refine ⟨.connected true, rfl, by simp, .goTo process .sendingLength ?_ ?_ (course role)⟩
          · simp [step, position, main, role]
          · simp [position, Pc.reach]
  | sendingLength =>
      rw [position] at course
      refine ⟨.sent (some lengthSize), rfl, by simp, .exchange
        (process.write (bytesOf lengthSize process.localAddr.length) (some lengthSize)) .length
        .sendingAddress ?_ passed_lengthSize ?_ fun next at' same => ?_⟩
      · simp [step, position, main, passed_lengthSize.possible]
      · simp [position, Pc.reach]
      · rw [Process.OnCourse, at', same]
        exact course
  | allocatingAddress =>
      refine ⟨.allocated true, rfl, by simp, .goTo process .receivingAddress ?_ ?_ trivial⟩
      · simp [step, position, main]
      · simp [position, Pc.reach]
  | sendingAddress =>
      rw [position] at course
      have passed := passed_passing course
      refine ⟨.sent (passing process.localAddr.length), rfl, by simp, .exchange
        (process.write process.localAddr (passing process.localAddr.length)) .address
        (.server .probing) ?_ passed ?_ fun next at' _ => ?_⟩
      · simp [step, position, main, passed.possible]
      · simp [position, Pc.reach, ServerPc.reach]
      · rw [Process.OnCourse, at']
        trivial
  | destroying =>
      rw [position] at course
      refine ⟨.done, rfl, by simp, .goTo process .cleaning ?_ ?_ course⟩
      · simp [step, position, main]
      · simp [position, Pc.reach]
  | cleaning =>
      rw [position] at course
      refine ⟨.done, rfl, by simp, .goTo process .returned ?_ ?_ course⟩
      · simp [step, position, main]
      · simp [position, Pc.reach]
  | client pc => exact absurd (.inl ⟨pc, position⟩) outside
  | server pc => exact absurd (.inr ⟨pc, position⟩) outside
  | barrier pc => exact absurd position (before pc)
  | receivingLength | receivingAddress => simp [position, Pc.needs] at free
  | returned => exact absurd position unfinished
  | killed =>
      rw [position] at course
      exact course.elim

/-- A process that does not wait for the other one goes on by itself. -/
theorem advances_alone (at' : PhaseAt options process process.pc)
    (course : process.OnCourse options.role) (mode : options.mode = .none)
    (unfinished : process.pc ≠ .returned) (free : process.pc.needs = 0) :
    AdvancesAlone options process := by
  cases position : process.pc with
  | client pc => exact client_advances at' course mode position free
  | server pc => exact server_advances at' course mode position free
  | barrier pc => exact barrier_advances at' course position free
  | _ =>
      exact main_advances course (by simp [Process.InRun, position]) (by simp [position])
        unfinished free

theorem advances_length {header : List Byte} (position : process.pc = .receivingLength)
    (length : header.length = lengthSize) : Advances options process (.received (some header)) := by
  have counted : (some header).map List.length = some lengthSize := by simp [length]
  refine .exchange ({ process with peerAddrLen := ofBytes header }.consume (some header)) .length
    .allocatingAddress ?_ passed_lengthSize ?_ fun next at' _ => ?_
  · simp [step, position, main, length, passed_lengthSize.possible]
  · simp [position, Pc.reach]
  · rw [Process.OnCourse, at']
    trivial

theorem advances_address {data : Option (List Byte)} (position : process.pc = .receivingAddress)
    (passed : Passed (data.map List.length) process.peerAddrLen) :
    Advances options process (.received data) := by
  refine .exchange ({ process with peerAddr := data.getD [] }.consume data) .address
    (.client .creatingEp) ?_ passed ?_ fun next at' _ => ?_
  · simp [step, position, main, passed.possible]
  · simp [position, Pc.reach, ClientPc.reach]
  · rw [Process.OnCourse, at']
    trivial

theorem advances_message (mode : options.mode = .none)
    (position : process.pc = .client .receiving ∨ process.pc = .server .probing) :
    Advances options process .message := by
  rcases position with position | position
  · refine .goTo (process.record .probed) (.client .allocatingBuffer) ?_ ?_ trivial
    · simp [step, position, runUcxClient, mode]
    · simp [position, Pc.reach, ClientPc.reach]
  · refine .goTo (process.record .probed) (.server .allocatingMessage) ?_ ?_ trivial
    · simp [step, position, runUcxServer]
    · simp [position, Pc.reach, ServerPc.reach]

theorem advances_token {token : List Byte} (course : process.OnCourse options.role)
    (position : process.pc = .barrier .receiving) (length : token.length = tokenSize) :
    Advances options process (.received (some token)) := by
  rw [Process.OnCourse, position] at course
  refine ⟨((process.consume (some token)).record (.transfer .barrier true)).leave 0, ?_,
    ⟨rfl, List.mem_cons_of_mem _ course.1, List.mem_cons_self, course.2⟩, ?_⟩
  · simp [step, position, barrier, length, Possible, tokenSize, maxTransfer]
  · simp [position, Pc.reach, Process.leave]

end Advancing

section Straying

variable {options : Options} {process : Process} {action : Action}

theorem returnFrom_course {ret : Int}
    (course : (process.returnFrom options ret).OnCourse options.role) :
    ret = 0 ∧ process.DataDone := by
  by_cases synchronises : ret = 0 ∧ options.mode = .none
  · have returns : (process.returnFrom options ret).pc = .barrier .sending := if_pos synchronises
    rw [Process.OnCourse, returns] at course
    exact ⟨synchronises.1, by simpa [Process.DataDone, Process.returnFrom] using course⟩
  · have returns : (process.returnFrom options ret).pc = .destroying := if_neg synchronises
    rw [Process.OnCourse, returns] at course
    exact ⟨course.1, by simpa [Process.DataDone, Process.returnFrom] using course.2.1⟩

theorem runUcxClient_course {pc : ClientPc} (position : process.pc = .client pc) :
    ∀ next ∈ runUcxClient options process pc action,
      next.OnCourse options.role → process.OnCourse options.role := by
  intro next member course
  rw [Process.OnCourse, position]
  cases pc with
  | closing ret =>
      cases action <;> simp only [runUcxClient, Option.mem_def, Option.some.injEq, reduceCtorEq]
        at member
      subst member
      exact returnFrom_course course
  | _ => trivial

theorem runUcxServer_course {pc : ServerPc} (at' : PhaseAt options process process.pc)
    (position : process.pc = .server pc) :
    ∀ next ∈ runUcxServer options process pc action,
      next.OnCourse options.role → process.OnCourse options.role := by
  intro next member course
  rw [position] at at'
  obtain ⟨inner, ⟨_, earlier, exchanged, log⟩, reached⟩ := at'
  rw [Process.OnCourse, position]
  cases pc with
  | closing ret =>
      cases action <;> simp only [runUcxServer, Option.mem_def, Option.some.injEq, reduceCtorEq]
        at member
      subst member
      exact returnFrom_course course
  | waitingFailure =>
      -- It returns 0 without having sent the message.
      obtain ⟨_, rfl⟩ := reached
      obtain ⟨_, _, _, rfl⟩ := exchanged.log
      cases action <;> simp only [runUcxServer, Option.mem_def, Option.some.injEq, reduceCtorEq]
        at member
      subst member
      have done : process.DataDone := course.2
      simp [Process.DataDone, log] at done
  | _ => trivial

theorem barrier_course {pc : BarrierPc} (position : process.pc = .barrier pc) :
    ∀ next ∈ barrier process pc action,
      next.OnCourse options.role → process.OnCourse options.role := by
  rw [Process.OnCourse, position]
  fun_cases barrier process pc action <;>
    simp only [Option.mem_def, Option.some.injEq, forall_eq', reduceCtorEq, false_imp_iff,
      implies_true]
  · intro course
    exact absurd course.1 (by simp [Process.leave])
  · intro course
    simpa [Process.DataDone, Process.goTo, Process.record, Process.write] using course.1
  · exact id
  · intro course
    refine ⟨?_, course.2.2.2⟩
    simpa [Process.DataDone, Process.leave, Process.record, Process.consume] using course.2.1

/-- A process that leaves before its barrier does not come to its end. -/
theorem leaving_course {next : Process} (course : next.OnCourse options.role)
    (leaves : next.pc = .destroying) : .transfer .barrier true ∈ next.log := by
  rw [Process.OnCourse, leaves] at course
  exact course.2.2.1

theorem exchange_course {transfer : Transfer} {count : Option Nat} {required : Nat} {pc : Pc}
    (course : (process.exchange transfer count required pc).OnCourse options.role)
    (early : .transfer .barrier true ∉ process.log) : toInt (ssize count) = toInt required := by
  refine Decidable.of_not_not fun failed => early ?_
  simpa [Process.exchange] using leaving_course course (if_pos failed)

theorem main_course (at' : PhaseAt options process process.pc) :
    ∀ next ∈ main options process action,
      next.OnCourse options.role → process.OnCourse options.role := by
  intro next member course
  simp only [main] at member
  unfold Process.OnCourse
  cases position : process.pc with
  | connecting =>
      rw [position] at at' member
      intro role
      cases action with
      | connected succeeded =>
          cases succeeded with
          | true =>
              simp only [role, Option.mem_def, Option.some.injEq] at member
              subst member
              exact course
          | false =>
              obtain rfl := Option.mem_some_iff.mp member
              have done := leaving_course course rfl
              simp [Process.goTo, at'.1.log] at done
      | _ => simp at member
  | sendingLength =>
      rw [position] at at' member
      cases action with
      | sent count =>
          obtain ⟨possible, went⟩ := Option.mem_ite_none_right.mp member
          obtain rfl := Option.mem_some_iff.mp went
          have checked := exchange_course course (by simp [Process.write, at'.1.log])
          unfold Process.OnCourse Process.exchange at course
          rw [if_neg (not_not.mpr checked)] at course
          exact course
      | _ => simp at member
  | sendingAddress =>
      rw [position] at at' member
      cases action with
      | sent count =>
          obtain ⟨possible, went⟩ := Option.mem_ite_none_right.mp member
          obtain rfl := Option.mem_some_iff.mp went
          have checked := exchange_course course (by simp [Process.write, at'.1.log])
          exact Passed.passable ⟨possible, checked⟩
      | _ => simp at member
  | destroying | cleaning =>
      rw [position] at member
      cases action with
      | done =>
          obtain rfl := Option.mem_some_iff.mp member
          exact course
      | _ => simp at member
  | client pc | server pc | barrier pc | returned | killed => simp [position] at member
  | _ => trivial

theorem step_course (phase : Phase options process) :
    ∀ next ∈ step options process action,
      next.OnCourse options.role → process.OnCourse options.role := by
  fun_cases HelloWorld.step options process action <;>
    simp only [Option.mem_def, Option.some.injEq, forall_eq', reduceCtorEq, false_imp_iff,
      implies_true]
  next => exact False.elim
  next pc position _ => exact runUcxClient_course position
  next pc position _ => exact runUcxServer_course (phase.alive (by simp [position])) position
  next pc position _ => exact barrier_course position
  next _ alive _ _ _ _ => exact main_course (phase.alive alive)

end Straying

end UcxPlayground.HelloWorld
