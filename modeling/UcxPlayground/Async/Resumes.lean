import UcxPlayground.Async.SingleUse

/-!
# Resumes of single-use objects

`set` and `register_callback` resume the stored handle and keep it. So the first
completion after a suspension finds its coroutine suspended, and the next one
finds it doing something else.
-/

set_option autoImplicit false

namespace UcxPlayground.Async.Awaitable

open Transition

/-- What the object's handle refers to, by what the object did last. -/
def Refers (waiter : Option CoroutineHandle) (status : CoroutineHandle → Status Place) :
    List Observation → Prop
  | [] => waiter = none
  | .suspended coroutine :: _ => waiter = some coroutine ∧ status coroutine = .suspended .here
  | .resumed coroutine _ :: _ => waiter = some coroutine ∧ status coroutine ≠ .suspended .here

variable {Object T : Type} {awaitable : Awaitable Object T} {state next : State Object}

/-- While every `resume()` was on a suspended coroutine. -/
structure Good (awaitable : Awaitable Object T) (state : State Object) : Prop where
  safe : ∀ coroutine status, .resumed coroutine status ∈ state.trace →
    status = .suspended .here
  balance : ∀ coroutine, suspensions state.trace coroutine =
    resumes state.trace coroutine + if state.status coroutine = .suspended .here then 1 else 0
  running : ∀ coroutine ∈ state.stack, state.status coroutine = .running
  nodup : state.stack.Nodup
  refers : Refers (awaitable.waiter state.object) state.status state.trace

def Bad (state : State Object) : Prop :=
  ∃ coroutine status, .resumed coroutine status ∈ state.trace ∧ status ≠ .suspended .here

theorem Refers.update {waiter : Option CoroutineHandle} {status : CoroutineHandle → Status Place}
    {trace : List Observation} {coroutine : CoroutineHandle} {changed : Status Place}
    (refers : Refers waiter status trace) (before : status coroutine ≠ .suspended .here)
    (after : changed ≠ .suspended .here) :
    Refers waiter (Function.update status coroutine changed) trace := by
  cases trace with
  | nil => exact refers
  | cons latest earlier =>
      cases latest with
      | suspended other =>
          have ⟨named, waits⟩ := refers
          have differs : other ≠ coroutine := fun same => before (same ▸ waits)
          exact ⟨named, by rwa [Function.update_of_ne differs]⟩
      | resumed other then' =>
          have ⟨named, passed⟩ := refers
          refine ⟨named, ?_⟩
          by_cases same : other = coroutine
          · rwa [same, Function.update_self]
          · rwa [Function.update_of_ne same]

namespace Good

theorem initial {object : Object} (fresh : awaitable.waiter object = none) :
    Good awaitable (.initial object) where
  safe := by simp [State.initial]
  balance := by simp [State.initial, suspensions, resumes]
  running := by simp [State.initial]
  nodup := List.nodup_nil
  refers := fresh

theorem head_running {coroutine : CoroutineHandle} (good : Good awaitable state)
    (top : state.stack.head? = some coroutine) : state.status coroutine = .running :=
  good.running coroutine (List.mem_of_mem_head? top)

/-- The frames below the running coroutine are of other coroutines. -/
theorem below {coroutine : CoroutineHandle} (good : Good awaitable state)
    (top : state.stack.head? = some coroutine) : coroutine ∉ state.stack.tail := by
  have nodup := good.nodup
  rw [List.eq_cons_of_mem_head? top] at nodup
  exact (List.nodup_cons.mp nodup).1

theorem balance_update {coroutine : CoroutineHandle} {changed : Status Place}
    (good : Good awaitable state) (before : state.status coroutine ≠ .suspended .here)
    (after : changed ≠ .suspended .here) (other : CoroutineHandle) :
    suspensions state.trace other = resumes state.trace other +
      if Function.update state.status coroutine changed other = .suspended .here then 1 else 0 := by
  rw [good.balance other]
  by_cases same : other = coroutine
  · subst same
    simp [before, after]
  · rw [Function.update_of_ne same]

theorem enter {coroutine : CoroutineHandle} (good : Good awaitable state)
    (idle : state.status coroutine ≠ .running)
    (away : state.status coroutine ≠ .suspended .here) :
    Good awaitable (state.enter coroutine) where
  safe := good.safe
  balance := good.balance_update away (by simp)
  running other member := by
    by_cases same : other = coroutine
    · simp [State.enter, same]
    · have earlier : other ∈ state.stack := by simpa [State.enter, same] using member
      simpa [State.enter, Function.update_of_ne same] using good.running other earlier
  nodup := List.nodup_cons.mpr
    ⟨fun member => idle (good.running coroutine member), good.nodup⟩
  refers := good.refers.update away (by simp)

theorem leave {coroutine : CoroutineHandle} {changed : Status Place}
    (good : Good awaitable state) (top : state.stack.head? = some coroutine)
    (after : changed ≠ .suspended .here) : Good awaitable (state.leave coroutine changed) := by
  have before : state.status coroutine ≠ .suspended .here := by simp [good.head_running top]
  refine ⟨good.safe, good.balance_update before after, fun other member => ?_,
    good.nodup.tail, good.refers.update before after⟩
  have differs : other ≠ coroutine := fun same => good.below top (same ▸ member)
  simpa [State.leave, Function.update_of_ne differs] using
    good.running other (List.mem_of_mem_tail member)

theorem suspend {coroutine : CoroutineHandle} {recorded : Object}
    (good : Good awaitable state) (top : state.stack.head? = some coroutine)
    (named : awaitable.waiter recorded = some coroutine) :
    Good awaitable ({ state with
      object := recorded
      trace := .suspended coroutine :: state.trace }.leave coroutine (.suspended .here)) where
  safe other status member := good.safe other status (by simpa [State.leave] using member)
  balance other := by
    have settled := good.balance other
    by_cases same : other = coroutine
    · subst same
      rw [good.head_running top] at settled
      simpa [State.leave, suspensions, resumes] using settled
    · simpa [State.leave, suspensions, resumes, Function.update_of_ne same, Ne.symm same]
        using settled
  running other member := by
    have differs : other ≠ coroutine := fun same => good.below top (same ▸ member)
    simpa [State.leave, Function.update_of_ne differs] using
      good.running other (List.mem_of_mem_tail member)
  nodup := good.nodup.tail
  refers := ⟨named, by simp [State.leave]⟩

/-- The first completion after a suspension. -/
theorem resume {waiter : CoroutineHandle} {stored : Object}
    (good : Good awaitable state) (named : awaitable.waiter stored = some waiter)
    (waits : state.status waiter = .suspended .here) :
    Good awaitable ({ state with object := stored }.resume waiter) where
  safe other status member := by
    simp only [State.resume, State.enter, List.mem_cons, Observation.resumed.injEq] at member
    rcases member with ⟨rfl, rfl⟩ | earlier
    · exact waits
    · exact good.safe other status earlier
  balance other := by
    have settled := good.balance other
    by_cases same : other = waiter
    · subst same
      simpa [State.resume, State.enter, suspensions, resumes, waits] using settled
    · simpa [State.resume, State.enter, suspensions, resumes, Function.update_of_ne same,
        Ne.symm same] using settled
  running other member := by
    by_cases same : other = waiter
    · simp [State.resume, State.enter, same]
    · have earlier : other ∈ state.stack := by
        simpa [State.resume, State.enter, same] using member
      simpa [State.resume, State.enter, Function.update_of_ne same] using
        good.running other earlier
  nodup := by
    refine List.nodup_cons.mpr ⟨fun member => ?_, good.nodup⟩
    simpa [waits] using good.running waiter member
  refers := ⟨named, by simp [State.resume, State.enter]⟩

theorem with_object {object : Object} (good : Good awaitable state)
    (same : awaitable.waiter object = awaitable.waiter state.object) :
    Good awaitable { state with object := object } :=
  ⟨good.safe, good.balance, good.running, good.nodup, by rw [same]; exact good.refers⟩

theorem coAwait {coroutine : CoroutineHandle} (good : Good awaitable state)
    (top : state.stack.head? = some coroutine) :
    Good awaitable (coAwait awaitable state coroutine) := by
  unfold Awaitable.coAwait
  cases ready : awaitable.awaitReady state.object with
  | true => exact good
  | false =>
      have ⟨kept, named⟩ := awaitable.suspend_waiter state.object coroutine ready
      cases result : awaitable.awaitSuspend state.object coroutine with
      | mk suspended recorded =>
          rw [result] at kept named
          subst kept
          exact good.suspend top named

/-- Who a completion resumes, and whether it is suspended on the object. -/
theorem complete (good : Good awaitable state) (value : T) :
    (state.trace = [] ∧ Good awaitable (complete awaitable state value)) ∨
      ∃ waiter stored, awaitable.waiter stored = some waiter ∧
        Awaitable.complete awaitable state value = { state with object := stored }.resume waiter ∧
        (state.status waiter = .suspended .here ↔ ¬ Spent state.trace) := by
  have resumes := awaitable.set_resumes state.object value
  have keeps := awaitable.set_waiter state.object value
  have refers := good.refers
  unfold Awaitable.complete
  cases result : awaitable.set state.object value with
  | mk stored waiter =>
      rw [result] at resumes keeps
      simp only at resumes keeps
      rw [← resumes] at keeps
      rw [← resumes] at refers
      cases latest : state.trace with
      | nil =>
          rw [latest] at refers
          subst refers
          have kept := good.with_object (keeps.trans resumes)
          simp only [latest] at kept
          exact .inl ⟨rfl, kept⟩
      | cons observation earlier =>
          rw [latest] at refers
          right
          cases observation with
          | suspended coroutine =>
              have ⟨named, waits⟩ := refers
              subst named
              exact ⟨coroutine, stored, keeps, rfl, iff_of_true waits not_false⟩
          | resumed coroutine status =>
              have ⟨named, passed⟩ := refers
              subst named
              exact ⟨coroutine, stored, keeps, rfl, iff_of_false passed (not_not.mpr trivial)⟩

theorem step {action : Action T} (good : Good awaitable state)
    (condition : FirstCompletion state action)
    (stepped : step awaitable state action = some next) : Good awaitable next := by
  cases action with
  | start coroutine =>
      by_cases unstarted : state.status coroutine = .unstarted
      · simp only [Awaitable.step, unstarted, if_true, Option.some.injEq] at stepped
        exact stepped ▸ good.enter (by simp [unstarted]) (by simp [unstarted])
      · simp only [Awaitable.step, unstarted, if_false, reduceCtorEq] at stepped
  | coAwait =>
      obtain ⟨coroutine, top, moved⟩ := Option.map_eq_some_iff.mp stepped
      exact moved ▸ good.coAwait top
  | set value =>
      cases stepped
      rcases good.complete value with ⟨_, kept⟩ | ⟨waiter, stored, named, resumed, waits⟩
      · exact kept
      · rw [resumed]
        exact good.resume named (waits.mpr condition)
  | reset =>
      obtain ⟨resets, provided, moved⟩ := Option.map_eq_some_iff.mp stepped
      exact moved ▸ good.with_object (awaitable.reset_waiter resets provided state.object)
  | suspendElsewhere =>
      obtain ⟨coroutine, top, moved⟩ := Option.map_eq_some_iff.mp stepped
      exact moved ▸ good.leave top (by simp)
  | wake coroutine =>
      by_cases away : state.status coroutine = .suspended .elsewhere
      · simp only [Awaitable.step, away, if_true, Option.some.injEq] at stepped
        exact stepped ▸ good.enter (by simp [away]) (by simp [away])
      · simp only [Awaitable.step, away, if_false, reduceCtorEq] at stepped
  | finish =>
      obtain ⟨coroutine, top, moved⟩ := Option.map_eq_some_iff.mp stepped
      exact moved ▸ good.leave top (by simp)

theorem breaks {action : Action T} (good : Good awaitable state)
    (condition : ¬ FirstCompletion state action)
    (stepped : Awaitable.step awaitable state action = some next) : Bad next := by
  cases action with
  | set value =>
      cases stepped
      have spent : Spent state.trace := not_not.mp condition
      rcases good.complete value with ⟨nothing, _⟩ | ⟨waiter, stored, named, resumed, waits⟩
      · rw [nothing] at spent
        exact False.elim spent
      · rw [resumed]
        exact ⟨waiter, state.status waiter, List.mem_cons_self, fun here => waits.mp here spent⟩
  | _ => exact absurd trivial condition

theorem safe_trace (good : Good awaitable state) : Safe state.trace :=
  ⟨good.safe, fun coroutine => by rw [good.balance coroutine]; exact Nat.le_add_right _ _⟩

end Good

theorem step_trace {action : Action T} (stepped : step awaitable state action = some next) :
    ∀ observation ∈ state.trace, observation ∈ next.trace := by
  intro observation member
  cases action with
  | coAwait =>
      obtain ⟨coroutine, top, moved⟩ := Option.map_eq_some_iff.mp stepped
      subst moved
      unfold coAwait
      split
      · exact member
      · split
        · exact List.mem_cons_of_mem _ member
        · exact member
  | set value =>
      cases stepped
      unfold complete
      split
      · exact List.mem_cons_of_mem _ member
      · exact member
  | start coroutine | wake coroutine =>
      simp only [step] at stepped
      split at stepped
      · cases stepped
        exact member
      · cases stepped
  | reset | suspendElsewhere | finish =>
      obtain ⟨_, _, moved⟩ := Option.map_eq_some_iff.mp stepped
      exact moved ▸ member

theorem Bad.step {action : Action T} (bad : Bad state)
    (stepped : step awaitable state action = some next) : Bad next := by
  obtain ⟨coroutine, status, member, astray⟩ := bad
  exact ⟨coroutine, status, step_trace stepped _ member, astray⟩

/-- Exact condition for every object that keeps its waiter. -/
theorem safe_iff_along {object : Object} {actions : List (Action T)}
    (fresh : awaitable.waiter object = none)
    (reached : run (step awaitable) (.initial object) actions = some state) :
    Safe state.trace ↔ Along (step awaitable) FirstCompletion (.initial object) actions :=
  property_iff_along (Good awaitable) Bad
    (fun _ _ _ good condition stepped => good.step condition stepped)
    (fun _ _ _ good condition stepped => good.breaks condition stepped)
    (fun _ _ _ bad stepped => bad.step stepped)
    (fun _ good => good.safe_trace)
    (fun state bad safe => by
      obtain ⟨coroutine, status, member, astray⟩ := bad
      exact astray (safe.1 coroutine status member))
    (Good.initial fresh) reached

/-- The resumes of an object are safe exactly when each `set`, or each
`register_callback`, is the first one since a coroutine last suspended on the
object. -/
theorem resumes_safe_iff_along {T : Type} (actions : List (Action T)) :
    (∀ initialSignaled state,
      run (step (singleUseEvent T)) (.initial (.make initialSignaled)) actions = some state →
        (Safe state.trace ↔
          Along (step (singleUseEvent T)) FirstCompletion (.initial (.make initialSignaled))
            actions)) ∧
      ∀ state, run (step (ucpTask T)) (.initial .make) actions = some state →
        (Safe state.trace ↔
          Along (step (ucpTask T)) FirstCompletion (.initial .make) actions) :=
  ⟨fun _ _ reached => safe_iff_along rfl reached, fun _ reached => safe_iff_along rfl reached⟩

/-- A coroutine awaits, is completed, and finishes. -/
def awaitedOnce : List (Action Nat) := [.start 0, .coAwait, .set 7, .finish]

theorem awaitedOnce_safe :
    (∃ state, run (step (singleUseEvent Nat)) (.initial (.make false)) awaitedOnce = some state ∧
      Safe state.trace) ∧
      ∃ state, run (step (ucpTask Nat)) (.initial .make) awaitedOnce = some state ∧
        Safe state.trace :=
  have conditions := resumes_safe_iff_along awaitedOnce
  ⟨⟨_, rfl, (conditions.1 false _ rfl).mpr (by decide)⟩,
    ⟨_, rfl, (conditions.2 _ rfl).mpr (by decide)⟩⟩

/-- A second completion resumes a coroutine that has finished. -/
theorem completedTwice_resumes_finished :
    (∃ state,
      run (step (singleUseEvent Nat)) (.initial (.make false)) (awaitedOnce ++ [.set 8]) =
        some state ∧ ¬ Safe state.trace) ∧
      ∃ state, run (step (ucpTask Nat)) (.initial .make) (awaitedOnce ++ [.set 8]) = some state ∧
        ¬ Safe state.trace :=
  ⟨⟨_, rfl, fun safe => by simpa using safe.1 0 .finished (by decide)⟩,
    ⟨_, rfl, fun safe => by simpa using safe.1 0 .finished (by decide)⟩⟩

end UcxPlayground.Async.Awaitable
