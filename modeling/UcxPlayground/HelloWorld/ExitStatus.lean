import UcxPlayground.HelloWorld.Phases

/-!
# What `main` returns

`main` returns what `ret` held last. A transfer on the socket that returns 0
leaves 0 there on its way to the cleanup labels, and `run_ucx_server` reports
success for a failed send exactly when no failure was asked for.
-/

set_option autoImplicit false

namespace UcxPlayground.HelloWorld

open Bytes Transition

def Succeeded (log : List Event) : Transfer → Prop
  | .length => ∃ required, .exchanged .length (some required) required ∈ log
  | .address => ∃ required, .exchanged .address (some required) required ∈ log
  | .addressMessage => .transfer .addressMessage true ∈ log
  | .dataMessage => .transfer .dataMessage true ∈ log
  | .barrier => .transfer .barrier true ∈ log

/-- `main` returns 0 only if every transfer succeeded, and where a failure
was asked for `run_ucx_server` returns 0 after the send failed. -/
structure Truthful (options : Options) (process : Process) : Prop where
  succeeded : options.mode = .none → process.pc = .returned → process.ret = 0 →
    ∀ transfer, Succeeded process.log transfer
  provoked : options.role = .server → options.mode ≠ .none →
    .transfer .dataMessage false ∈ process.log → ∀ ret, .ran ret ∈ process.log → ret = 0

/-- What the calls of a run returned. No transfer on the socket returns 0 in place
of its count, and none is cut short by a count that is the same `int`; where no
failure was asked for, no send fails that the barrier then succeeds after, and
where one was, none fails at all. -/
structure Trustworthy (options : Options) (log : List Event) : Prop where
  reported : options.mode = .none → ∀ transfer count (required : Nat),
    .exchanged transfer count required ∈ log → toInt (ssize count) ≠ toInt required →
      toInt (ssize count) ≠ 0
  whole : options.mode = .none → .transfer .barrier true ∈ log →
    (∀ count required, .exchanged .address count required ∈ log → count = some required) ∧
      .transfer .dataMessage false ∉ log
  delivered : options.role = .server → options.mode ≠ .none → .transfer .dataMessage false ∉ log

section Returned

variable {options : Options} {process : Process} {inner earlier : List Event}

theorem Leaving.succeeded (leaving : Leaving options process)
    (trustworthy : Trustworthy options process.log) (mode : options.mode = .none)
    (zero : process.ret = 0) (transfer : Transfer) : Succeeded process.log transfer := by
  cases leaving with
  | unprepared log ret => exact absurd (ret.symm.trans zero) (by decide)
  | lengthFailed count log ret failed =>
      refine absurd (ret.symm.trans zero) (trustworthy.reported mode .length count lengthSize ?_ ?_)
      · simp [log]
      · exact ret ▸ failed
  | unallocated log ret => exact absurd (ret.symm.trans zero) (by decide)
  | addressFailed count required log ret failed =>
      refine absurd (ret.symm.trans zero) (trustworthy.reported mode .address count required ?_ ?_)
      · simp [log]
      · exact ret ▸ failed
  | ran inner earlier exchanged log ended done =>
      rcases done with done | requested
      · exact absurd zero done
      · exact absurd mode requested
  | unsent inner earlier exchanged log ended _ ret =>
      exact absurd (ret.symm.trans zero) (by decide)
  | synchronised sent received token inner earlier exchanged _ log ended _ ret =>
      have synchronised : token = true := by
        cases token with
        | true => rfl
        | false => exact absurd (ret.symm.trans zero) (by decide)
      obtain ⟨succeeded, rfl⟩ := ended.completed rfl mode
      obtain ⟨count, required, _, rfl⟩ := exchanged.log
      have whole := trustworthy.whole mode (by simp [log, synchronised])
      have address : count = some required := whole.1 count required (by simp [log])
      have data : succeeded = true := by
        cases succeeded with
        | true => rfl
        | false => exact absurd (by simp [log]) whole.2
      subst address data synchronised
      cases transfer <;> simp [Succeeded, log]

theorem Truthful.of_trustworthy (phase : Phase options process)
    (trustworthy : Trustworthy options process.log) : Truthful options process where
  succeeded mode returned zero transfer := by
    have at' := phase.alive (by simp [returned])
    rw [returned] at at'
    exact Leaving.succeeded at' trustworthy mode zero transfer
  provoked server requested failed :=
    absurd failed (trustworthy.delivered server requested)

theorem Leaving.reported (leaving : Leaving options process)
    (honest : process.ret = 0 → ∀ transfer, Succeeded process.log transfer) {transfer : Transfer}
    {count : Option Nat} {required : Nat}
    (member : .exchanged transfer count required ∈ process.log)
    (failed : toInt (ssize count) ≠ toInt required) : toInt (ssize count) ≠ 0 := by
  intro zero
  cases leaving with
  | unprepared log => simp [log] at member
  | lengthFailed _ log ret =>
      simp only [log, List.mem_singleton, Event.exchanged.injEq] at member
      obtain ⟨_, rfl, _⟩ := member
      simpa [Succeeded, log] using honest (ret.trans zero) .barrier
  | unallocated log =>
      simp only [log, List.mem_singleton, Event.exchanged.injEq] at member
      obtain ⟨_, rfl, rfl⟩ := member
      exact failed rfl
  | addressFailed _ _ log ret =>
      simp only [log, List.mem_cons, Event.exchanged.injEq, List.not_mem_nil, or_false] at member
      rcases member with ⟨_, rfl, _⟩ | ⟨_, rfl, rfl⟩
      · simpa [Succeeded, log] using honest (ret.trans zero) .barrier
      · exact failed rfl
  | ran inner earlier exchanged log ended =>
      exact failed (exchanged.checked [.ran process.ret] ended.inRun log (by simp) member)
  | unsent inner earlier exchanged log ended =>
      exact failed (exchanged.checked [.transfer .barrier false, .ran 0] ended.inRun log (by simp)
        member)
  | synchronised sent received token inner earlier exchanged _ log ended =>
      exact failed (exchanged.checked [.transfer .barrier token, .barrierSent, .ran 0]
        ended.inRun log (by simp) member)

theorem Leaving.whole (leaving : Leaving options process)
    (honest : process.ret = 0 → ∀ transfer, Succeeded process.log transfer)
    (synchronised : .transfer .barrier true ∈ process.log) :
    (∀ count required, .exchanged .address count required ∈ process.log →
      count = some required) ∧ .transfer .dataMessage false ∉ process.log := by
  cases leaving with
  | unprepared log | lengthFailed _ log | unallocated log | addressFailed _ _ log =>
      simp [log] at synchronised
  | ran inner earlier exchanged log ended =>
      simpa using exchanged.barrier_mem [.ran process.ret] ended.inRun log synchronised
  | unsent inner earlier exchanged log ended =>
      simpa using exchanged.barrier_mem [.transfer .barrier false, .ran 0] ended.inRun log
        synchronised
  | synchronised sent received token inner earlier exchanged _ log ended mode ret =>
      obtain ⟨succeeded, rfl⟩ := ended.completed rfl mode
      obtain ⟨count, required, _, rfl⟩ := exchanged.log
      have token : true = token := by
        simpa using exchanged.barrier_mem [.transfer .barrier token, .barrierSent, .ran 0]
          ended.inRun log synchronised
      subst token
      have all := honest ret
      have address : some required = count := by
        simpa [Succeeded, log] using all .address
      have data : succeeded = true := by
        simpa [Succeeded, log] using all .dataMessage
      subst address data
      refine ⟨fun other announced member => ?_, by simp [log]⟩
      simp only [log, List.cons_append, List.mem_cons, reduceCtorEq, List.mem_append, false_or,
        exchanged_not_mem_completeLog, Event.exchanged.injEq, List.not_mem_nil, or_false,
        false_and] at member
      rw [member.2.1, member.2.2]

theorem Leaving.delivered (leaving : Leaving options process)
    (provoked : .transfer .dataMessage false ∈ process.log →
      ∀ ret, .ran ret ∈ process.log → ret = 0)
    (server : options.role = .server) (requested : options.mode ≠ .none) :
    .transfer .dataMessage false ∉ process.log := by
  intro failed
  have reports := provoked failed
  cases leaving with
  | unprepared log | lengthFailed _ log | unallocated log | addressFailed _ _ log =>
      simp [log] at failed
  | ran inner earlier exchanged log ended =>
      obtain ⟨_, _, _, rfl⟩ := exchanged.log
      have inside : .transfer .dataMessage false ∈ inner := by simpa [log] using failed
      have failure := ended.provoked server requested inside
      have success := reports process.ret (by simp [log])
      exact absurd (failure.symm.trans success) (by decide)
  | unsent _ _ _ _ _ mode => exact requested mode
  | synchronised _ _ _ _ _ _ _ _ _ mode => exact requested mode

end Returned

/-- The result of `main` is right in the runs whose calls return what it can be right
about, and in no others that end. -/
theorem truthful_iff_trustworthy {options : Options} {process : Process} {actions : List Action}
    (reached : run (step options) .initial actions = some process) :
    (Trustworthy options process.log → Truthful options process) ∧
      (process.pc = .returned → (Truthful options process ↔ Trustworthy options process.log)) := by
  have phase := run_phase reached
  refine ⟨Truthful.of_trustworthy phase, fun returned => ?_⟩
  refine ⟨fun truthful => ?_, Truthful.of_trustworthy phase⟩
  have leaving := phase.alive (by simp [returned])
  rw [returned] at leaving
  refine ⟨fun mode transfer count required member => ?_, fun mode => ?_, fun server requested => ?_⟩
  · exact Leaving.reported leaving (truthful.succeeded mode returned) member
  · exact Leaving.whole leaving (truthful.succeeded mode returned)
  · exact Leaving.delivered leaving (truthful.provoked server requested) server requested

/-- A client that met its server and has returned. -/
def servedClient : Process where
  pc := .returned
  ret := 0
  localAddr := [7]
  peerAddrLen := 2
  peerAddr := [8, 9]
  written := [0, 0, 0, 0]
  consumed := [2, 0, 0, 0, 0, 0, 0, 0, 8, 9, 0, 0, 0, 0]
  log := .transfer .barrier true :: .barrierSent :: .ran 0 :: completeLog .client true ++
    [.exchanged .address (some 2) 2, .exchanged .length (some 8) 8]

theorem servedClient_trustworthy : Trustworthy ⟨.client, .none⟩ servedClient.log where
  reported _ transfer count required member failed := by
    simp [servedClient] at member
    rcases member with ⟨_, rfl, rfl⟩ | ⟨_, rfl, rfl⟩ <;> exact absurd rfl failed
  whole _ _ := by simp [servedClient]
  delivered _ requested := absurd rfl requested

theorem servedClient_truthful : Truthful ⟨.client, .none⟩ servedClient :=
  (@truthful_iff_trustworthy ⟨.client, .none⟩ servedClient [.status .ok, .status .ok, .status .ok,
    .status .ok, .queried [7], .connected true, .received (some [2, 0, 0, 0, 0, 0, 0, 0]),
    .allocated true, .received (some [8, 9]), .status .ok, .allocated true, .posted, .status .ok,
    .message, .allocated true, .status .ok, .allocated true, .done, .sent (some 4), .ready,
    .received (some [0, 0, 0, 0]), .done, .done] (by decide)).1 servedClient_trustworthy

/-- A client whose server had closed the connection before it sent its length. -/
def refusedClient : Process :=
  { Process.initial with
    pc := .returned
    ret := 0
    localAddr := [7]
    log := [.exchanged .length (some 0) 8] }

theorem refusedClient_not_truthful :
    run (step ⟨.client, .none⟩) .initial [.status .ok, .status .ok, .status .ok, .status .ok,
        .queried [7], .connected true, .received (some []), .done, .done] = some refusedClient ∧
      ¬ Truthful ⟨.client, .none⟩ refusedClient := by
  refine ⟨by decide, fun truthful => ?_⟩
  have synchronised := truthful.succeeded rfl rfl rfl .barrier
  simp [Succeeded, refusedClient] at synchronised

end UcxPlayground.HelloWorld
