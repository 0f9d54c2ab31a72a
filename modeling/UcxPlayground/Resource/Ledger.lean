import Mathlib.Data.List.Count
import Mathlib.Data.List.Nodup

/-!
# Ledgers of acquired and released handles

A ledger records the handles a program acquired and released, latest first.
`held` replays it: a handle is acquired at most once and while the handle it
needs is held, and only the handle acquired last among those held is released.
Handles are arbitrary names, and nothing here mentions a particular program.
-/

set_option autoImplicit false

namespace UcxPlayground.Resource

variable {Handle : Type*}

inductive Event (Handle : Type*) where
  | acquire (handle : Handle)
  | release (handle : Handle)
  deriving DecidableEq, Repr

/-- The latest event comes first. -/
abbrev Ledger (Handle : Type*) := List (Event Handle)

def Event.handle : Event Handle → Handle
  | .acquire handle => handle
  | .release handle => handle

def Event.acquired? : Event Handle → Option Handle
  | .acquire handle => some handle
  | .release _ => none

def acquired (ledger : Ledger Handle) : List Handle :=
  ledger.filterMap Event.acquired?

@[simp] theorem acquired_nil : acquired ([] : Ledger Handle) = [] := rfl

@[simp] theorem acquired_acquire (handle : Handle) (past : Ledger Handle) :
    acquired (.acquire handle :: past) = handle :: acquired past := rfl

@[simp] theorem acquired_release (handle : Handle) (past : Ledger Handle) :
    acquired (.release handle :: past) = acquired past := rfl

theorem mem_acquired {handle : Handle} {ledger : Ledger Handle} :
    handle ∈ acquired ledger ↔ .acquire handle ∈ ledger := by
  induction ledger with
  | nil => simp
  | cons event past ih => cases event <;> simp [ih]

theorem mem_acquired_append {handle : Handle} {later past : Ledger Handle} :
    handle ∈ acquired (later ++ past) ↔ handle ∈ acquired later ∨ handle ∈ acquired past := by
  simp [acquired]

theorem acquired_filter {keep : Event Handle → Bool} {handle : Handle} {ledger : Ledger Handle}
    (member : handle ∈ acquired (ledger.filter keep)) : handle ∈ acquired ledger :=
  mem_acquired.mpr (List.mem_of_mem_filter (mem_acquired.mp member))

variable [DecidableEq Handle]

/-- The handles that are held after the ledger, the last one first; `none` when
an event broke the discipline. -/
def held (needs : Handle → Option Handle) : Ledger Handle → Option (List Handle)
  | [] => some []
  | .acquire handle :: past =>
      match held needs past with
      | some stack =>
          if handle ∉ acquired past ∧ ∀ owner ∈ needs handle, owner ∈ stack then
            some (handle :: stack)
          else none
      | none => none
  | .release handle :: past =>
      match held needs past with
      | some (top :: rest) => if top = handle then some rest else none
      | _ => none

section Replay

variable {needs : Handle → Option Handle} {handle : Handle} {past : Ledger Handle}
  {stack : List Handle}

theorem held_acquire (before : held needs past = some stack) (fresh : handle ∉ acquired past)
    (supported : ∀ owner ∈ needs handle, owner ∈ stack) :
    held needs (.acquire handle :: past) = some (handle :: stack) := by
  simp only [held, before]
  exact if_pos ⟨fresh, supported⟩

theorem held_release (before : held needs past = some (handle :: stack)) :
    held needs (.release handle :: past) = some stack := by
  simp [held, before]

theorem held_acquire_inv (replayed : held needs (.acquire handle :: past) = some stack) :
    ∃ rest, held needs past = some rest ∧ stack = handle :: rest ∧ handle ∉ acquired past ∧
      ∀ owner ∈ needs handle, owner ∈ rest := by
  cases before : held needs past with
  | none => simp [held, before] at replayed
  | some rest =>
      by_cases disciplined : handle ∉ acquired past ∧ ∀ owner ∈ needs handle, owner ∈ rest
      · rw [held_acquire before disciplined.1 disciplined.2] at replayed
        cases replayed
        exact ⟨rest, rfl, rfl, disciplined⟩
      · simp only [held, before, disciplined, if_false, reduceCtorEq] at replayed

theorem held_release_inv (replayed : held needs (.release handle :: past) = some stack) :
    held needs past = some (handle :: stack) := by
  cases before : held needs past with
  | none => simp [held, before] at replayed
  | some rest =>
      cases rest with
      | nil => simp [held, before] at replayed
      | cons top rest =>
          by_cases same : top = handle
          · subst same
            rw [held_release before] at replayed
            rw [Option.some.inj replayed]
          · simp [held, before, same] at replayed

theorem held_of_append {later : Ledger Handle}
    (replayed : held needs (later ++ past) = some stack) :
    ∃ earlier, held needs past = some earlier := by
  induction later generalizing stack with
  | nil => exact ⟨stack, replayed⟩
  | cons event later ih =>
      cases event with
      | acquire handle =>
          obtain ⟨rest, before, _⟩ := held_acquire_inv replayed
          exact ih before
      | release handle => exact ih (held_release_inv replayed)

end Replay

section Parts

variable {needs : Handle → Option Handle} {keep : Event Handle → Bool} {event : Event Handle}
  {handle : Handle} {past : Ledger Handle} {stack : List Handle}

/-- The events of one kind are replayed as if there were no others. -/
theorem held_filter_acquire (before : held needs (past.filter keep) = some stack)
    (fresh : handle ∉ acquired past) (supported : ∀ owner ∈ needs handle, owner ∈ stack)
    (kept : keep (.acquire handle) = true) :
    held needs (List.filter keep (.acquire handle :: past)) = some (handle :: stack) := by
  rw [List.filter_cons_of_pos kept]
  exact held_acquire before (fun member => fresh (acquired_filter member)) supported

theorem held_filter_release (before : held needs (past.filter keep) = some (handle :: stack))
    (kept : keep (.release handle) = true) :
    held needs (List.filter keep (.release handle :: past)) = some stack := by
  rw [List.filter_cons_of_pos kept]
  exact held_release before

end Parts

section Laws

variable {needs : Handle → Option Handle} {ledger : Ledger Handle} {stack : List Handle}

theorem acquired_nodup (replayed : held needs ledger = some stack) : (acquired ledger).Nodup := by
  induction ledger generalizing stack with
  | nil => exact List.nodup_nil
  | cons event past ih =>
      cases event with
      | acquire handle =>
          obtain ⟨rest, before, _, fresh, _⟩ := held_acquire_inv replayed
          exact List.nodup_cons.mpr ⟨fresh, ih before⟩
      | release handle => exact ih (held_release_inv replayed)

/-- What was acquired is released already, or still held. -/
theorem acquire_count (replayed : held needs ledger = some stack) (handle : Handle) :
    ledger.count (.acquire handle) = ledger.count (.release handle) + stack.count handle := by
  induction ledger generalizing stack with
  | nil =>
      cases replayed
      rfl
  | cons event past ih =>
      cases event with
      | acquire other =>
          obtain ⟨rest, before, rfl, _⟩ := held_acquire_inv replayed
          have settled := ih before
          by_cases same : other = handle
          · subst same
            simp [settled, Nat.add_assoc]
          · simp [same, settled]
      | release other =>
          have settled := ih (held_release_inv replayed)
          by_cases same : other = handle
          · subst same
            simp only [List.count_cons_self] at settled
            simp
            omega
          · rw [List.count_cons_of_ne same] at settled
            simp [same, settled]

theorem acquire_count_of_nodup (nodup : (acquired ledger).Nodup) (handle : Handle) :
    ledger.count (.acquire handle) ≤ 1 := by
  induction ledger with
  | nil => simp
  | cons event past ih =>
      cases event with
      | release other => simpa using ih nodup
      | acquire other =>
          have ⟨fresh, remaining⟩ := List.nodup_cons.mp nodup
          by_cases same : other = handle
          · subst same
            have absent : past.count (.acquire other) = 0 :=
              List.count_eq_zero.mpr fun member => fresh (mem_acquired.mpr member)
            simp [absent]
          · simpa [same] using ih remaining

theorem acquire_count_le_one (replayed : held needs ledger = some stack) (handle : Handle) :
    ledger.count (.acquire handle) ≤ 1 :=
  acquire_count_of_nodup (acquired_nodup replayed) handle

theorem stack_nodup (replayed : held needs ledger = some stack) : stack.Nodup := by
  refine List.nodup_iff_count_le_one.mpr fun handle => ?_
  have settled := acquire_count replayed handle
  have once := acquire_count_le_one replayed handle
  omega

theorem not_released_of_held {handle : Handle} (replayed : held needs ledger = some stack)
    (member : handle ∈ stack) : .release handle ∉ ledger := by
  intro released
  have settled := acquire_count replayed handle
  have once := acquire_count_le_one replayed handle
  have there : 0 < stack.count handle := List.count_pos_iff.mpr member
  have gone : 0 < ledger.count (.release handle) := List.count_pos_iff.mpr released
  omega

theorem released_of_not_held {handle : Handle} (replayed : held needs ledger = some stack)
    (acquires : .acquire handle ∈ ledger) (absent : handle ∉ stack) :
    .release handle ∈ ledger := by
  have settled := acquire_count replayed handle
  rw [List.count_eq_zero.mpr absent] at settled
  have there : 0 < ledger.count (.acquire handle) := List.count_pos_iff.mpr acquires
  exact List.count_pos_iff.mp (by omega)

/-- On the stack, the handle that another one needs lies below it. -/
theorem owner_below {handle owner : Handle} {below : List Handle}
    (replayed : held needs ledger = some stack) (needed : needs handle = some owner)
    (lies : (handle :: below) <:+ stack) : owner ∈ below := by
  induction ledger generalizing stack with
  | nil =>
      cases replayed
      simp at lies
  | cons event past ih =>
      cases event with
      | release other =>
          exact ih (held_release_inv replayed) (lies.trans (List.suffix_cons _ _))
      | acquire other =>
          obtain ⟨rest, before, rfl, _, supported⟩ := held_acquire_inv replayed
          rcases List.suffix_cons_iff.mp lies with whole | inner
          · cases whole
            exact supported owner needed
          · exact ih before inner

/-- A handle is held, and so not yet released, when one that needs it is
acquired. -/
theorem owner_held {handle owner : Handle} {later past : Ledger Handle}
    (replayed : held needs (later ++ .acquire handle :: past) = some stack)
    (needed : needs handle = some owner) : .release owner ∉ past := by
  obtain ⟨_, acquiring⟩ := held_of_append replayed
  obtain ⟨rest, before, _, _, supported⟩ := held_acquire_inv acquiring
  exact not_released_of_held before (supported owner needed)

end Laws

/-- A ledger that is settled: every handle acquired once at most and released as
often as acquired, after it was acquired, and after everything that needs it. -/
structure Settled (needs : Handle → Option Handle) (ledger : Ledger Handle) : Prop where
  once : ∀ handle, ledger.count (.acquire handle) ≤ 1
  released : ∀ handle, ledger.count (.release handle) = ledger.count (.acquire handle)
  acquired : ∀ later past handle, ledger = later ++ .release handle :: past →
    .acquire handle ∈ past
  ordered : ∀ later past owner handle, ledger = later ++ .release owner :: past →
    needs handle = some owner → .acquire handle ∈ ledger → .release handle ∈ past

theorem settled_of_held {needs : Handle → Option Handle} {ledger : Ledger Handle}
    (replayed : held needs ledger = some []) : Settled needs ledger where
  once := acquire_count_le_one replayed
  released handle := by simpa using (acquire_count replayed handle).symm
  acquired later past handle split := by
    subst split
    obtain ⟨_, releasing⟩ := held_of_append replayed
    have before := held_release_inv releasing
    have settled := acquire_count before handle
    rw [List.count_cons_self] at settled
    exact List.count_pos_iff.mp (by omega)
  ordered later past owner handle split needed acquires := by
    subst split
    obtain ⟨rest, releasing⟩ := held_of_append replayed
    have before := held_release_inv releasing
    have nodup := List.nodup_cons.mp (stack_nodup before)
    have notLater : .acquire handle ∉ later := by
      intro member
      obtain ⟨front, back, rfl⟩ := List.append_of_mem member
      rw [List.append_assoc, List.cons_append] at replayed
      exact owner_held replayed needed (by simp)
    have inPast : .acquire handle ∈ past := by
      simpa [notLater] using acquires
    refine released_of_not_held before inPast fun member => ?_
    rcases List.mem_cons.mp member with top | inner
    · subst top
      exact nodup.1 (owner_below before needed (List.suffix_refl _))
    · obtain ⟨above, below, rfl⟩ := List.append_of_mem inner
      have lies : (handle :: below) <:+ owner :: (above ++ handle :: below) :=
        ⟨owner :: above, rfl⟩
      have buried := owner_below before needed lies
      exact nodup.1 (by simp [buried])

end UcxPlayground.Resource
