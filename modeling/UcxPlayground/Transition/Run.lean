import Mathlib.Logic.Basic

/-!
# Runs of a partial step function

A system is a step function that rejects the actions it cannot take. A run is
a finite list of actions, and every notion below is defined by recursion on
that list, so concrete runs can be evaluated. Nothing here mentions a
particular system.
-/

set_option autoImplicit false

namespace UcxPlayground.Transition

variable {State Action : Type*}

/-- Perform the actions in order; `none` when one of them is rejected. -/
def run (step : State → Action → Option State) : State → List Action → Option State
  | state, [] => some state
  | state, action :: rest =>
      match step state action with
      | some next => run step next rest
      | none => none

/-- Every action performed from `state` meets `condition` in the state it is
taken in. -/
def Along (step : State → Action → Option State) (condition : State → Action → Prop) :
    State → List Action → Prop
  | _, [] => True
  | state, action :: rest =>
      condition state action ∧
        match step state action with
        | some next => Along step condition next rest
        | none => True

/-- Every state reached from `state`, the first and the last included, has the
property. -/
def Always (step : State → Action → Option State) (property : State → Prop) :
    State → List Action → Prop
  | state, [] => property state
  | state, action :: rest =>
      property state ∧
        match step state action with
        | some next => Always step property next rest
        | none => True

instance Along.decidable (step : State → Action → Option State)
    (condition : State → Action → Prop) [∀ state action, Decidable (condition state action)] :
    ∀ (state : State) (actions : List Action), Decidable (Along step condition state actions)
  | _, [] => .isTrue trivial
  | state, action :: rest =>
      match result : step state action with
      | some next =>
          have := Along.decidable step condition next rest
          decidable_of_iff (condition state action ∧ Along step condition next rest)
            (by simp only [Along, result])
      | none => decidable_of_iff (condition state action) (by simp only [Along, result, and_true])

section Unfolding

variable {step : State → Action → Option State} {state next final : State}
  {action : Action} {rest : List Action}

@[simp] theorem run_nil : run step state [] = some state := rfl

theorem run_cons (stepped : step state action = some next) :
    run step state (action :: rest) = run step next rest := by
  simp only [run, stepped]

theorem run_cons_inv (reached : run step state (action :: rest) = some final) :
    ∃ next, step state action = some next ∧ run step next rest = some final := by
  cases stepped : step state action with
  | none => simp only [run, stepped, reduceCtorEq] at reached
  | some next => exact ⟨next, rfl, by simpa only [run, stepped] using reached⟩

theorem along_cons {condition : State → Action → Prop} (stepped : step state action = some next) :
    Along step condition state (action :: rest) ↔
      condition state action ∧ Along step condition next rest := by
  simp only [Along, stepped]

theorem always_cons {property : State → Prop} (stepped : step state action = some next) :
    Always step property state (action :: rest) ↔
      property state ∧ Always step property next rest := by
  simp only [Always, stepped]

theorem Always.last {property : State → Prop} {actions : List Action}
    (always : Always step property state actions)
    (reached : run step state actions = some final) : property final := by
  induction actions generalizing state with
  | nil =>
      cases reached
      exact always
  | cons action rest ih =>
      obtain ⟨next, stepped, remaining⟩ := run_cons_inv reached
      exact ih ((always_cons stepped).mp always).2 remaining

end Unfolding

section Splitting

variable {step : State → Action → Option State} {start final : State} {first second : List Action}

theorem run_append_inv (reached : run step start (first ++ second) = some final) :
    ∃ middle, run step start first = some middle ∧ run step middle second = some final := by
  induction first generalizing start with
  | nil => exact ⟨start, rfl, reached⟩
  | cons action rest ih =>
      obtain ⟨next, stepped, remaining⟩ := run_cons_inv reached
      obtain ⟨middle, before, after⟩ := ih remaining
      exact ⟨middle, by rwa [run_cons stepped], after⟩

theorem along_append {condition : State → Action → Prop} {middle : State}
    (reached : run step start first = some middle) :
    Along step condition start (first ++ second) ↔
      Along step condition start first ∧ Along step condition middle second := by
  induction first generalizing start with
  | nil =>
      cases reached
      exact ⟨fun along => ⟨trivial, along⟩, And.right⟩
  | cons action rest ih =>
      obtain ⟨next, stepped, remaining⟩ := run_cons_inv reached
      rw [List.cons_append, along_cons stepped, along_cons stepped, ih remaining, and_assoc]

/-- A condition on the actions alone may be checked on the list. -/
theorem Along.and_forall {condition : State → Action → Prop} {allowed : Action → Prop}
    {actions : List Action} (along : Along step condition start actions)
    (every : ∀ action ∈ actions, allowed action) :
    Along step (fun state action => condition state action ∧ allowed action) start actions := by
  induction actions generalizing start with
  | nil => trivial
  | cons action rest ih =>
      have allows := every action List.mem_cons_self
      have later := fun action member => every action (List.mem_cons_of_mem _ member)
      cases stepped : step start action with
      | none =>
          simp only [Along, stepped] at along ⊢
          exact ⟨⟨along.1, allows⟩, trivial⟩
      | some next =>
          obtain ⟨meets, remaining⟩ := (along_cons stepped).mp along
          exact (along_cons stepped).mpr ⟨⟨meets, allows⟩, ih remaining later⟩

end Splitting

section Invariants

variable {step : State → Action → Option State}

/-- An invariant of every step holds after every run. -/
theorem run_preserves (invariant : State → Prop) {start final : State} {actions : List Action}
    (preserved : ∀ state action next,
      invariant state → step state action = some next → invariant next)
    (initially : invariant start) (reached : run step start actions = some final) :
    invariant final := by
  induction actions generalizing start with
  | nil =>
      cases reached
      exact initially
  | cons action rest ih =>
      obtain ⟨next, stepped, remaining⟩ := run_cons_inv reached
      exact ih (preserved start action next initially stepped) remaining

/-- An invariant of the steps that meet a condition holds in every state of a
run that meets the condition throughout. -/
theorem along_always (invariant : State → Prop) {condition : State → Action → Prop}
    {start : State} {actions : List Action}
    (preserved : ∀ state action next, invariant state → condition state action →
      step state action = some next → invariant next)
    (initially : invariant start) (along : Along step condition start actions) :
    Always step invariant start actions := by
  induction actions generalizing start with
  | nil => exact initially
  | cons action rest ih =>
      refine ⟨initially, ?_⟩
      cases stepped : step start action with
      | none => trivial
      | some next =>
          have ⟨meets, remaining⟩ := (along_cons stepped).mp along
          exact ih (preserved start action next initially meets stepped) remaining

/-- An invariant that follows what the actions of a run add up to. -/
theorem run_collects {Item : Type*} (collect : Action → List Item)
    (invariant : List Item → State → Prop) {condition : State → Action → Prop}
    (preserved : ∀ gathered state action next, invariant gathered state →
      condition state action → step state action = some next →
      invariant (gathered ++ collect action) next)
    {start final : State} {actions : List Action} {gathered : List Item}
    (initially : invariant gathered start) (along : Along step condition start actions)
    (reached : run step start actions = some final) :
    invariant (gathered ++ actions.flatMap collect) final := by
  induction actions generalizing start gathered with
  | nil =>
      cases reached
      simpa using initially
  | cons action rest ih =>
      obtain ⟨next, stepped, remaining⟩ := run_cons_inv reached
      obtain ⟨meets, later⟩ := (along_cons stepped).mp along
      have holds := ih (preserved gathered start action next initially meets stepped) later remaining
      simpa only [List.flatMap_cons, List.append_assoc] using holds

/-- An invariant of the state and of the actions so far. -/
theorem run_records (invariant : List Action → State → Prop)
    (preserved : ∀ past state action next, invariant past state →
      step state action = some next → invariant (past ++ [action]) next)
    {start final : State} {past actions : List Action} (initially : invariant past start)
    (reached : run step start actions = some final) : invariant (past ++ actions) final := by
  induction actions generalizing start past with
  | nil =>
      cases reached
      rwa [List.append_nil]
  | cons action rest ih =>
      obtain ⟨next, stepped, remaining⟩ := run_cons_inv reached
      have holds := ih (preserved past start action next initially stepped) remaining
      rwa [List.append_assoc] at holds

end Invariants

section ExactCondition

variable {step : State → Action → Option State} {good bad : State → Prop}
  {condition : State → Action → Prop}

theorem bad_persists {start final : State} {actions : List Action}
    (persists : ∀ state action next, bad state → step state action = some next → bad next)
    (violated : bad start) (reached : run step start actions = some final) : bad final :=
  run_preserves bad persists violated reached

/-- Exact condition of a run. The steps that meet `condition` keep `good`, a
step that does not meet it leads from `good` to `bad`, and `bad` is never
repaired. Then a run ends in `good` when all its steps meet the condition, and
in `bad` when one of them does not. -/
theorem along_good_or_bad (good bad : State → Prop) {start final : State} {actions : List Action}
    (kept : ∀ state action next, good state → condition state action →
      step state action = some next → good next)
    (broken : ∀ state action next, good state → ¬ condition state action →
      step state action = some next → bad next)
    (persists : ∀ state action next, bad state → step state action = some next → bad next)
    (initially : good start) (reached : run step start actions = some final) :
    (Along step condition start actions ∧ good final) ∨
      (¬ Along step condition start actions ∧ bad final) := by
  induction actions generalizing start with
  | nil =>
      cases reached
      exact .inl ⟨trivial, initially⟩
  | cons action rest ih =>
      obtain ⟨next, stepped, remaining⟩ := run_cons_inv reached
      rw [along_cons stepped]
      by_cases meets : condition start action
      · rcases ih (kept start action next initially meets stepped) remaining with
          ⟨along, ends⟩ | ⟨strays, ends⟩
        · exact .inl ⟨⟨meets, along⟩, ends⟩
        · exact .inr ⟨fun both => strays both.2, ends⟩
      · have violated := broken start action next initially meets stepped
        exact .inr ⟨fun both => meets both.1, bad_persists persists violated remaining⟩

/-- The form in which the exact condition is used: a property that `good`
implies and `bad` excludes holds at the end exactly when every step of the run
met the condition. -/
theorem property_iff_along (good bad : State → Prop) {property : State → Prop} {start final : State}
    {actions : List Action}
    (kept : ∀ state action next, good state → condition state action →
      step state action = some next → good next)
    (broken : ∀ state action next, good state → ¬ condition state action →
      step state action = some next → bad next)
    (persists : ∀ state action next, bad state → step state action = some next → bad next)
    (sound : ∀ state, good state → property state)
    (excluded : ∀ state, bad state → ¬ property state)
    (initially : good start) (reached : run step start actions = some final) :
    property final ↔ Along step condition start actions := by
  rcases along_good_or_bad good bad kept broken persists initially reached with
    ⟨along, ends⟩ | ⟨strays, ends⟩
  · exact iff_of_true (sound final ends) along
  · exact iff_of_false (excluded final ends) strays

end ExactCondition

/-- Some run of allowed actions leads from one state to the other. -/
def Leads (step : State → Action → Option State) (allowed : Action → Prop)
    (start final : State) : Prop :=
  ∃ actions, (∀ action ∈ actions, allowed action) ∧ run step start actions = some final

section Leading

variable {step : State → Action → Option State} {allowed : Action → Prop}
  {start middle final : State}

theorem run_append {first second : List Action} (reached : run step start first = some middle) :
    run step start (first ++ second) = run step middle second := by
  induction first generalizing start with
  | nil =>
      cases reached
      rfl
  | cons action rest ih =>
      obtain ⟨next, stepped, remaining⟩ := run_cons_inv reached
      rw [List.cons_append, run_cons stepped, ih remaining]

theorem Leads.refl (state : State) : Leads step allowed state state :=
  ⟨[], nofun, rfl⟩

theorem Leads.trans (first : Leads step allowed start middle)
    (second : Leads step allowed middle final) : Leads step allowed start final := by
  obtain ⟨earlier, meets, before⟩ := first
  obtain ⟨later, meets', after⟩ := second
  refine ⟨earlier ++ later, fun action member => ?_, by rw [run_append before, after]⟩
  exact (List.mem_append.mp member).elim (meets action) (meets' action)

theorem Leads.of_step {action : Action} (meets : allowed action)
    (stepped : step start action = some final) : Leads step allowed start final :=
  ⟨[action], by simpa using meets, by simp [run, stepped]⟩

/-- An invariant of every step holds where a run leads. -/
theorem Leads.preserves (invariant : State → Prop)
    (preserved : ∀ state action next, invariant state → allowed action →
      step state action = some next → invariant next)
    (initially : invariant start) (leads : Leads step allowed start final) : invariant final := by
  obtain ⟨actions, meets, reached⟩ := leads
  induction actions generalizing start with
  | nil =>
      cases reached
      exact initially
  | cons action rest ih =>
      obtain ⟨next, stepped, remaining⟩ := run_cons_inv reached
      have now := preserved start action next initially (meets action List.mem_cons_self) stepped
      exact ih now (fun other member => meets other (List.mem_cons_of_mem _ member)) remaining

/-- A property that holds before a step when it holds after it, held where the run began. -/
theorem Leads.held_before (invariant property : State → Prop)
    (preserved : ∀ state action next, invariant state → allowed action →
      step state action = some next → invariant next)
    (before : ∀ state action next, invariant state → allowed action →
      step state action = some next → property next → property state)
    (initially : invariant start) (leads : Leads step allowed start final)
    (ends : property final) : property start := by
  obtain ⟨actions, meets, reached⟩ := leads
  induction actions generalizing start with
  | nil =>
      cases reached
      exact ends
  | cons action rest ih =>
      obtain ⟨next, stepped, remaining⟩ := run_cons_inv reached
      have allows := meets action List.mem_cons_self
      refine before start action next initially allows stepped ?_
      exact ih (preserved start action next initially allows stepped)
        (fun other member => meets other (List.mem_cons_of_mem _ member)) remaining

/-- Progress: while the goal is not met some step keeps the invariant and lowers the rank,
so some run comes to the goal. -/
theorem Leads.of_rank (rank : State → Nat) (invariant goal : State → Prop)
    (progress : ∀ state, invariant state → ¬ goal state → ∃ action next, allowed action ∧
      step state action = some next ∧ invariant next ∧ rank next < rank state)
    (initially : invariant start) :
    ∃ final, Leads step allowed start final ∧ invariant final ∧ goal final := by
  induction left : rank start using Nat.strongRecOn generalizing start with
  | ind left ih =>
      by_cases met : goal start
      · exact ⟨start, .refl start, initially, met⟩
      · obtain ⟨action, next, allows, stepped, kept, lower⟩ := progress start initially met
        obtain ⟨final, leads, holds, met⟩ := ih (rank next) (left ▸ lower) kept rfl
        exact ⟨final, (Leads.of_step allows stepped).trans leads, holds, met⟩

end Leading

/-- A component whose steps are steps of the system leads the system along. -/
theorem Leads.lift {Part PartAction : Type*} {step : State → Action → Option State}
    {allowed : Action → Prop} {part : Part → PartAction → Option Part}
    (name : PartAction → Action) (embed : State → Part → State)
    (stepped : ∀ state side action next, part side action = some next →
      step (embed state side) (name action) = some (embed state next))
    (meets : ∀ action, allowed (name action)) (state : State) {side next : Part}
    (leads : Leads part (fun _ => True) side next) :
    Leads step allowed (embed state side) (embed state next) := by
  obtain ⟨actions, -, reached⟩ := leads
  induction actions generalizing side with
  | nil =>
      cases reached
      exact .refl _
  | cons action rest ih =>
      obtain ⟨middle, first, remaining⟩ := run_cons_inv reached
      exact (Leads.of_step (meets action) (stepped state side action middle first)).trans
        (ih remaining)

/-- A system whose steps are paths of another one, as far as `view` shows them, follows a
path of that one. -/
theorem run_explained {Abstract AbstractAction : Type*}
    {step : State → Action → Option State}
    {abstract : Abstract → AbstractAction → Option Abstract} (view : State → Abstract)
    (explained : ∀ state action next, step state action = some next →
      Leads abstract (fun _ => True) (view state) (view next))
    {start final : State} {actions : List Action} (reached : run step start actions = some final) :
    Leads abstract (fun _ => True) (view start) (view final) :=
  run_preserves (fun state => Leads abstract (fun _ => True) (view start) (view state))
    (fun state action next leads stepped => leads.trans (explained state action next stepped))
    (.refl (view start)) reached

end UcxPlayground.Transition
