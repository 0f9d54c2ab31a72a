import UcxPlayground.HelloWorld.Phases

/-!
# What a process has done

What a step adds to what was sent, received and logged, and what the log says
about the socket whatever has become of the process since.
-/

set_option autoImplicit false

namespace UcxPlayground.HelloWorld

open Bytes

def Action.data : Action → List Byte
  | .received data => data.getD []
  | _ => []

/-- One step adds to what was sent, received and logged. -/
structure Grows (process : Process) (action : Action) (next : Process) : Prop where
  written : process.written <+: next.written
  consumed : next.consumed = process.consumed ++ action.data
  probed : .probed ∈ next.log → .probed ∈ process.log ∨ action = .message
  posted : .posted ∈ process.log ∨ action = .posted → .posted ∈ next.log

section Steps

variable {options : Options} {process : Process} {action : Action}

theorem runUcxClient_grows {pc : ClientPc} :
    ∀ next ∈ runUcxClient options process pc action, Grows process action next := by
  fun_cases runUcxClient options process pc action <;>
    simp only [Option.mem_def, Option.some.injEq, forall_eq', reduceCtorEq, false_imp_iff,
      implies_true]
  all_goals
    constructor <;> simp [Process.goTo, Process.record, Process.returnFrom, Action.data]

theorem runUcxServer_grows {pc : ServerPc} :
    ∀ next ∈ runUcxServer options process pc action, Grows process action next := by
  fun_cases runUcxServer options process pc action <;>
    simp only [Option.mem_def, Option.some.injEq, forall_eq', reduceCtorEq, false_imp_iff,
      implies_true]
  all_goals
    constructor <;> simp [Process.goTo, Process.record, Process.returnFrom, Action.data]

theorem barrier_grows {pc : BarrierPc} :
    ∀ next ∈ barrier process pc action, Grows process action next := by
  fun_cases barrier process pc action <;>
    simp only [Option.mem_def, Option.some.injEq, forall_eq', reduceCtorEq, false_imp_iff,
      implies_true]
  all_goals
    constructor <;>
      simp [Process.goTo, Process.record, Process.leave, Process.write, Process.consume,
        Action.data]

theorem main_grows :
    ∀ next ∈ main options process action, Grows process action next := by
  fun_cases main options process action <;>
    simp only [Option.mem_def, Option.some.injEq, forall_eq', reduceCtorEq, false_imp_iff,
      implies_true]
  all_goals
    constructor <;>
      simp [Process.goTo, Process.exchange, Process.write, Process.consume, Action.data]

theorem step_grows : ∀ next ∈ step options process action, Grows process action next := by
  fun_cases step options process action <;>
    simp only [Option.mem_def, Option.some.injEq, forall_eq', reduceCtorEq, false_imp_iff,
      implies_true]
  next => constructor <;> simp [Process.goTo, Action.data]
  next => exact runUcxClient_grows
  next => exact runUcxServer_grows
  next => exact barrier_grows
  next => exact main_grows

end Steps

/-- The events after `run_ucx_client` or `run_ucx_server`, with what `barrier` sent
and received. -/
inductive Outer : List Event → List Byte → List Byte → Prop where
  | running : Outer [] [] []
  | ran (ret : Int) : Outer [.ran ret] [] []
  | unsent : Outer [.transfer .barrier false, .ran 0] [] []
  | barrierSent (sent : List Byte) : Outer [.barrierSent, .ran 0] sent []
  | synchronised (sent received : List Byte) (token : Bool)
      (whole : token = true → received.length = tokenSize) :
      Outer [.transfer .barrier token, .barrierSent, .ran 0] sent received

/-- Inside `run_ucx_client` or `run_ucx_server`. -/
def Process.InRun (process : Process) : Prop :=
  (∃ pc, process.pc = .client pc) ∨ ∃ pc, process.pc = .server pc

/-- The log of a process that passed the exchange of the addresses. -/
structure Exchange (options : Options) (process : Process) (outer inner earlier : List Event)
    (sent received : List Byte) : Prop where
  exchanged : Exchanged options process sent received earlier
  log : process.log = outer ++ inner ++ earlier
  stage : Outer outer sent received
  inRun : ∀ event ∈ inner, event.inRun
  completed : .barrierSent ∈ outer → ∃ succeeded, inner = completeLog options.role succeeded
  left : outer ≠ [] → ¬ process.InRun

/-- A process has not got through the exchange, or its log tells how far it got. -/
inductive History (options : Options) (process : Process) : Prop where
  | early (log : ∀ event ∈ process.log, ∃ transfer count required,
        event = .exchanged transfer count required)
      (silent : options.role = .client → process.written = [])
  | exchanged (outer inner earlier : List Event) (sent received : List Byte)
      (exchange : Exchange options process outer inner earlier sent received)

section Histories

variable {options : Options} {process : Process} {inner : List Event}

theorem ClientLog.inRun {pc : ClientPc} (reached : ClientLog options inner pc) :
    ∀ event ∈ inner, event.inRun := by
  cases pc with
  | closing ret => exact Ended.inRun reached
  | _ =>
      obtain rfl := reached
      decide

theorem ServerLog.inRun {pc : ServerPc} (reached : ServerLog options inner pc) :
    ∀ event ∈ inner, event.inRun := by
  cases pc with
  | closing ret => exact Ended.inRun reached
  | waitingFailure =>
      obtain ⟨_, rfl⟩ := reached
      decide
  | _ =>
      obtain rfl := reached
      decide

theorem Leaving.history (leaving : Leaving options process) (outside : ¬ process.InRun) :
    History options process := by
  cases leaving with
  | unprepared log ret silent => exact .early (by simp [log]) fun _ => silent
  | lengthFailed count log ret failed silent => exact .early (by simp [log]) silent
  | unallocated log ret silent => exact .early (by simp [log]) fun _ => silent
  | addressFailed count required log ret failed silent => exact .early (by simp [log]) silent
  | ran inner earlier exchanged log ended done =>
      exact .exchanged [.ran process.ret] inner earlier _ _
        ⟨exchanged, log, .ran process.ret, ended.inRun, by simp, fun _ => outside⟩
  | unsent inner earlier exchanged log ended mode ret =>
      exact .exchanged [.transfer .barrier false, .ran 0] inner earlier _ _
        ⟨exchanged, log, .unsent, ended.inRun, by simp, fun _ => outside⟩
  | synchronised sent received token inner earlier exchanged whole log ended mode ret =>
      exact .exchanged [.transfer .barrier token, .barrierSent, .ran 0] inner earlier _ _
        ⟨exchanged, log, .synchronised sent received token whole, ended.inRun,
          fun _ => ended.completed rfl mode, fun _ => outside⟩

theorem PhaseAt.history (at' : PhaseAt options process process.pc) : History options process := by
  cases position : process.pc with
  | parsing | readingConfig | initialising | creatingWorker | querying | connecting
  | receivingLength | sendingLength | allocatingAddress | receivingAddress =>
      rw [position] at at'
      exact .early (by simp [at'.1.log]) fun _ => at'.1.written
  | sendingAddress =>
      rw [position] at at'
      exact .early (by simp [at'.1.log]) fun client => absurd (at'.2.symm.trans client) (by decide)
  | client pc | server pc =>
      rw [position] at at'
      obtain ⟨inner, ⟨role, earlier, exchanged, log⟩, reached⟩ := at'
      exact .exchanged [] inner earlier _ _
        ⟨exchanged, log, .running, reached.inRun, by simp, absurd rfl⟩
  | barrier pc =>
      have outside : ¬ process.InRun := by simp [Process.InRun, position]
      rw [position] at at'
      obtain ⟨mode, sent, inner, earlier, exchanged, unsent, log, ended⟩ := at'
      cases pc with
      | sending =>
          obtain rfl := unsent rfl
          exact .exchanged [.ran 0] inner earlier _ _
            ⟨exchanged, log, .ran 0, ended.inRun, by simp, fun _ => outside⟩
      | polling | receiving =>
          exact .exchanged [.barrierSent, .ran 0] inner earlier _ _ ⟨exchanged, log,
            .barrierSent sent, ended.inRun, fun _ => ended.completed rfl mode, fun _ => outside⟩
  | destroying | cleaning | returned =>
      rw [position] at at'
      exact Leaving.history at' (by simp [Process.InRun, position])
  | killed =>
      rw [position] at at'
      exact at'.elim

theorem Phase.history (phase : Phase options process) : History options process := by
  obtain ⟨alive, at', rfl | rfl⟩ := phase
  · exact at'.history
  · cases at'.history with
    | early log silent => exact .early log silent
    | exchanged outer inner earlier sent received exchange =>
        obtain ⟨exchanged, log, stage, inRun, completed, _⟩ := exchange
        exact .exchanged outer inner earlier sent received ⟨exchanged, log, stage, inRun, completed,
          fun _ => by simp [Process.InRun, Process.goTo]⟩

end Histories

end UcxPlayground.HelloWorld
