import UcxPlayground.Resource.Ledger

/-!
# Handles released in any order

`opened` replays a ledger without an order of release: a handle is acquired at
most once, while the handles it needs are open, and an open handle is released
when no open one needs it.
-/

set_option autoImplicit false

namespace UcxPlayground.Resource

variable {Handle : Type*} [DecidableEq Handle]

/-- The handles that are open after the ledger; `none` when an event broke the
discipline. -/
def opened (needs : Handle → List Handle) : Ledger Handle → Option (List Handle)
  | [] => some []
  | .acquire handle :: past =>
      match opened needs past with
      | some pool =>
          if handle ∉ acquired past ∧ ∀ owner ∈ needs handle, owner ∈ pool then
            some (handle :: pool)
          else none
      | none => none
  | .release handle :: past =>
      match opened needs past with
      | some pool =>
          if handle ∈ pool ∧ ∀ user ∈ pool, handle ∉ needs user then some (pool.erase handle)
          else none
      | none => none

section Replay

variable {needs : Handle → List Handle} {handle : Handle} {past : Ledger Handle}
  {pool : List Handle}

theorem opened_acquire (before : opened needs past = some pool) (fresh : handle ∉ acquired past)
    (supported : ∀ owner ∈ needs handle, owner ∈ pool) :
    opened needs (.acquire handle :: past) = some (handle :: pool) := by
  simp only [opened, before]
  exact if_pos ⟨fresh, supported⟩

theorem opened_release (before : opened needs past = some pool) (member : handle ∈ pool)
    (unused : ∀ user ∈ pool, handle ∉ needs user) :
    opened needs (.release handle :: past) = some (pool.erase handle) := by
  simp only [opened, before]
  exact if_pos ⟨member, unused⟩

theorem opened_acquire_inv (replayed : opened needs (.acquire handle :: past) = some pool) :
    ∃ rest, opened needs past = some rest ∧ pool = handle :: rest ∧ handle ∉ acquired past ∧
      ∀ owner ∈ needs handle, owner ∈ rest := by
  cases before : opened needs past with
  | none => simp [opened, before] at replayed
  | some rest =>
      by_cases disciplined : handle ∉ acquired past ∧ ∀ owner ∈ needs handle, owner ∈ rest
      · rw [opened_acquire before disciplined.1 disciplined.2] at replayed
        cases replayed
        exact ⟨rest, rfl, rfl, disciplined⟩
      · simp only [opened, before, disciplined, if_false, reduceCtorEq] at replayed

theorem opened_release_inv (replayed : opened needs (.release handle :: past) = some pool) :
    ∃ rest, opened needs past = some rest ∧ pool = rest.erase handle ∧ handle ∈ rest ∧
      ∀ user ∈ rest, handle ∉ needs user := by
  cases before : opened needs past with
  | none => simp [opened, before] at replayed
  | some rest =>
      by_cases disciplined : handle ∈ rest ∧ ∀ user ∈ rest, handle ∉ needs user
      · rw [opened_release before disciplined.1 disciplined.2] at replayed
        cases replayed
        exact ⟨rest, rfl, rfl, disciplined⟩
      · simp only [opened, before, disciplined, if_false, reduceCtorEq] at replayed

theorem opened_of_append {later : Ledger Handle}
    (replayed : opened needs (later ++ past) = some pool) :
    ∃ earlier, opened needs past = some earlier := by
  induction later generalizing pool with
  | nil => exact ⟨pool, replayed⟩
  | cons event later ih =>
      cases event with
      | acquire handle =>
          obtain ⟨rest, before, _⟩ := opened_acquire_inv replayed
          exact ih before
      | release handle =>
          obtain ⟨rest, before, _⟩ := opened_release_inv replayed
          exact ih before

end Replay

section Laws

variable {needs : Handle → List Handle} {ledger : Ledger Handle} {pool : List Handle}

theorem opened_acquired_nodup (replayed : opened needs ledger = some pool) :
    (acquired ledger).Nodup := by
  induction ledger generalizing pool with
  | nil => exact List.nodup_nil
  | cons event past ih =>
      cases event with
      | acquire handle =>
          obtain ⟨rest, before, _, fresh, _⟩ := opened_acquire_inv replayed
          exact List.nodup_cons.mpr ⟨fresh, ih before⟩
      | release handle =>
          obtain ⟨rest, before, _⟩ := opened_release_inv replayed
          exact ih before

/-- What was acquired is released already, or still open. -/
theorem opened_count (replayed : opened needs ledger = some pool) (handle : Handle) :
    ledger.count (.acquire handle) = ledger.count (.release handle) + pool.count handle := by
  induction ledger generalizing pool with
  | nil =>
      cases replayed
      rfl
  | cons event past ih =>
      cases event with
      | acquire other =>
          obtain ⟨rest, before, rfl, _⟩ := opened_acquire_inv replayed
          have settled := ih before
          by_cases same : other = handle
          · subst same
            simp [settled, Nat.add_assoc]
          · simp [same, settled]
      | release other =>
          obtain ⟨rest, before, rfl, member, _⟩ := opened_release_inv replayed
          have settled := ih before
          by_cases same : other = handle
          · subst same
            have there : 0 < rest.count other := List.count_pos_iff.mpr member
            simp only [List.count_cons_of_ne (by simp : Event.release other ≠ .acquire other),
              List.count_cons_self, List.count_erase_self, settled]
            omega
          · rw [List.count_erase_of_ne (Ne.symm same)]
            simp [same, settled]

theorem opened_once (replayed : opened needs ledger = some pool) (handle : Handle) :
    ledger.count (.acquire handle) ≤ 1 :=
  acquire_count_of_nodup (opened_acquired_nodup replayed) handle

theorem mem_opened_iff {handle : Handle} (replayed : opened needs ledger = some pool) :
    handle ∈ pool ↔ .acquire handle ∈ ledger ∧ .release handle ∉ ledger := by
  have settled := opened_count replayed handle
  have once := opened_once replayed handle
  rw [← List.count_pos_iff, ← List.count_pos_iff, ← List.count_eq_zero]
  omega

end Laws

/-- A ledger after which only the handles of `pool` are open: every handle was
acquired once at most, while those it needs were open, and each one outside the
pool was released exactly once, after it was acquired and after its users. -/
structure Leaves (needs : Handle → List Handle) (pool : List Handle) (ledger : Ledger Handle) :
    Prop where
  once : ∀ handle, ledger.count (.acquire handle) ≤ 1
  balance : ∀ handle,
    ledger.count (.acquire handle) = ledger.count (.release handle) + pool.count handle
  acquired : ∀ later past handle, ledger = later ++ .release handle :: past →
    .acquire handle ∈ past
  supported : ∀ later past owner user, ledger = later ++ .acquire user :: past →
    owner ∈ needs user → .acquire owner ∈ past ∧ .release owner ∉ past
  unused : ∀ later past owner user, ledger = later ++ .release owner :: past →
    owner ∈ needs user → .acquire user ∈ past → .release user ∈ past

theorem leaves_of_opened {needs : Handle → List Handle} {pool : List Handle}
    {ledger : Ledger Handle} (replayed : opened needs ledger = some pool) :
    Leaves needs pool ledger where
  once := opened_once replayed
  balance := opened_count replayed
  acquired later past handle split := by
    subst split
    obtain ⟨_, releasing⟩ := opened_of_append replayed
    obtain ⟨rest, before, _, member, _⟩ := opened_release_inv releasing
    exact ((mem_opened_iff before).mp member).1
  supported later past owner user split needed := by
    subst split
    obtain ⟨_, acquiring⟩ := opened_of_append replayed
    obtain ⟨rest, before, _, _, supported⟩ := opened_acquire_inv acquiring
    exact (mem_opened_iff before).mp (supported owner needed)
  unused later past owner user split needed acquires := by
    subst split
    obtain ⟨_, releasing⟩ := opened_of_append replayed
    obtain ⟨rest, before, _, _, unused⟩ := opened_release_inv releasing
    by_contra unreleased
    exact unused user ((mem_opened_iff before).mpr ⟨acquires, unreleased⟩) needed

namespace Leaves

variable {needs : Handle → List Handle} {pool : List Handle} {ledger : Ledger Handle}
  {handle : Handle}

/-- Every handle that was acquired and is not left open was released once. -/
theorem released_once (leaves : Leaves needs pool ledger) (acquires : .acquire handle ∈ ledger)
    (absent : handle ∉ pool) : ledger.count (.release handle) = 1 := by
  have balance := leaves.balance handle
  have once := leaves.once handle
  have there : 0 < ledger.count (.acquire handle) := List.count_pos_iff.mpr acquires
  rw [List.count_eq_zero.mpr absent] at balance
  omega

end Leaves

/-- The open handles, in any order. -/
def Holds (needs : Handle → List Handle) (handles : List Handle) (ledger : Ledger Handle) : Prop :=
  ∃ pool, opened needs ledger = some pool ∧ pool.Perm handles

namespace Holds

variable {needs : Handle → List Handle} {handles others : List Handle} {ledger : Ledger Handle}
  {handle : Handle}

theorem nothing : Holds needs [] [] :=
  ⟨[], rfl, .refl []⟩

theorem reorder (holds : Holds needs handles ledger) (order : handles.Perm others) :
    Holds needs others ledger := by
  obtain ⟨pool, replayed, same⟩ := holds
  exact ⟨pool, replayed, same.trans order⟩

theorem acquire (holds : Holds needs handles ledger) (fresh : handle ∉ acquired ledger)
    (supported : ∀ owner ∈ needs handle, owner ∈ handles) :
    Holds needs (handle :: handles) (.acquire handle :: ledger) := by
  obtain ⟨pool, replayed, same⟩ := holds
  have owned : ∀ owner ∈ needs handle, owner ∈ pool :=
    fun owner needed => same.mem_iff.mpr (supported owner needed)
  exact ⟨handle :: pool, opened_acquire replayed fresh owned, same.cons handle⟩

theorem release (holds : Holds needs (handle :: handles) ledger)
    (unused : ∀ user ∈ handle :: handles, handle ∉ needs user) :
    Holds needs handles (.release handle :: ledger) := by
  obtain ⟨pool, replayed, same⟩ := holds
  have member : handle ∈ pool := same.mem_iff.mpr List.mem_cons_self
  have left := same.erase handle
  rw [List.erase_cons_head] at left
  exact ⟨pool.erase handle, opened_release replayed member
    (fun user there => unused user (same.mem_iff.mp there)), left⟩

theorem was_acquired (holds : Holds needs handles ledger) (open' : handle ∈ handles) :
    handle ∈ acquired ledger := by
  obtain ⟨pool, replayed, same⟩ := holds
  exact mem_acquired.mpr ((mem_opened_iff replayed).mp (same.mem_iff.mpr open')).1

theorem leaves (holds : Holds needs handles ledger) : Leaves needs handles ledger := by
  obtain ⟨pool, replayed, same⟩ := holds
  have left := leaves_of_opened replayed
  refine ⟨left.once, fun handle => ?_, left.acquired, left.supported, left.unused⟩
  rw [← same.count_eq handle]
  exact left.balance handle

end Holds

/-- The open handles after `events`, when those of `pool` are open before them;
`none` when a handle is acquired without those it needs, or released while it is
not open or still needed. -/
def performed (needs : Handle → List Handle) : Ledger Handle → List Handle → Option (List Handle)
  | [], pool => some pool
  | .acquire handle :: past, pool =>
      match performed needs past pool with
      | some before =>
          if ∀ owner ∈ needs handle, owner ∈ before then some (handle :: before) else none
      | none => none
  | .release handle :: past, pool =>
      match performed needs past pool with
      | some before =>
          if handle ∈ before ∧ ∀ user ∈ before, handle ∉ needs user then some (before.erase handle)
          else none
      | none => none

section Performing

variable {needs : Handle → List Handle} {handle : Handle} {past events ledger : Ledger Handle}
  {handles after others rest : List Handle}

theorem performed_acquire_inv (done : performed needs (.acquire handle :: past) handles = some after) :
    ∃ before, performed needs past handles = some before ∧ after = handle :: before ∧
      ∀ owner ∈ needs handle, owner ∈ before := by
  cases earlier : performed needs past handles with
  | none => simp [performed, earlier] at done
  | some before =>
      by_cases supported : ∀ owner ∈ needs handle, owner ∈ before
      · simp only [performed, earlier, if_pos supported, Option.some.injEq] at done
        exact ⟨before, rfl, done.symm, supported⟩
      · simp only [performed, earlier, if_neg supported, reduceCtorEq] at done

theorem performed_release_inv (done : performed needs (.release handle :: past) handles = some after) :
    ∃ before, performed needs past handles = some before ∧ after = before.erase handle ∧
      handle ∈ before ∧ ∀ user ∈ before, handle ∉ needs user := by
  cases earlier : performed needs past handles with
  | none => simp [performed, earlier] at done
  | some before =>
      by_cases disciplined : handle ∈ before ∧ ∀ user ∈ before, handle ∉ needs user
      · simp only [performed, earlier, if_pos disciplined, Option.some.injEq] at done
        exact ⟨before, rfl, done.symm, disciplined⟩
      · simp only [performed, earlier, if_neg disciplined, reduceCtorEq] at done

/-- Frame rule: open handles that need nothing stay as they are. -/
theorem Holds.perform (holds : Holds needs (handles ++ rest) ledger)
    (done : performed needs events handles = some after)
    (fresh : ∀ handle ∈ acquired events, handle ∉ acquired ledger)
    (once : (acquired events).Nodup) (aside : ∀ user ∈ rest, needs user = []) :
    Holds needs (after ++ rest) (events ++ ledger) := by
  induction events generalizing after with
  | nil =>
      cases done
      exact holds
  | cons event past ih =>
      cases event with
      | acquire handle =>
          obtain ⟨before, earlier, rfl, supported⟩ := performed_acquire_inv done
          obtain ⟨unseen, distinct⟩ := List.nodup_cons.mp once
          have held := ih earlier (fun other member => fresh other (List.mem_cons_of_mem _ member))
            distinct
          refine held.acquire ?_ fun owner needed => List.mem_append_left _ (supported owner needed)
          intro member
          rcases mem_acquired_append.mp member with later | before
          · exact unseen later
          · exact fresh handle List.mem_cons_self before
      | release handle =>
          obtain ⟨before, earlier, rfl, member, unused⟩ := performed_release_inv done
          have held := ih earlier fresh once
          have split : (before ++ rest).Perm (handle :: (before.erase handle ++ rest)) :=
            (List.perm_cons_erase member).append_right rest
          refine (held.reorder split).release fun user there => ?_
          rcases List.mem_append.mp (split.mem_iff.mpr there) with inside | outside
          · exact unused user inside
          · simp [aside user outside]

end Performing

end UcxPlayground.Resource
