import UcxPlayground.Wrappers.Model

/-!
# Balance of the wrappers

The objects are released in reverse order of their acquisition, since a scope releases
what its declaration acquired and nothing else. A configuration lives inside the
constructor that reads it, and is released before the context that was made with it.
Where `cleanup()` gets a member that was never written, nothing is said.
-/

set_option autoImplicit false

namespace UcxPlayground.Wrappers

open Resource

/-- Nothing is needed here but the order of acquisition. -/
def unrelated (_ : Handle) : Option Handle := none

def isConfig (event : Event Handle) : Bool :=
  decide (event.handle.kind = .config)

def isObject (event : Event Handle) : Bool :=
  !isConfig event

/-- The acquisitions and releases of contexts, workers, listeners and endpoints. -/
def objects (ledger : Ledger Handle) : Ledger Handle :=
  ledger.filter isObject

/-- The calls after whose failure `cleanup()` releases a member that was never written. -/
def Call.cleansUp : Call → Bool
  | .init => true
  | .workerCreate => true
  | _ => false

/-- Every `ucp_init` and `ucp_worker_create` succeeded. -/
def Guarded (state : State) : Prop :=
  ∀ entry ∈ state.calls, entry.1.cleansUp = true → entry.2 = .ok

instance (state : State) : Decidable (Guarded state) :=
  inferInstanceAs (Decidable (∀ entry ∈ state.calls, _))

/-- So did every `ucp_config_read`. -/
structure Clean (state : State) : Prop where
  guarded : Guarded state
  read : ∀ entry ∈ state.calls, entry.1 = .configRead → entry.2 = .ok

/-- Nothing happens between the acquisition of a configuration and its release but the
acquisition of a context: the one of the constructor that reads the configuration. -/
inductive Bracketed : Ledger Handle → Prop where
  | nil : Bracketed []
  | object {event : Event Handle} {past : Ledger Handle} (object : isObject event = true)
      (before : Bracketed past) : Bracketed (event :: past)
  | construction {config context : Handle} {past : Ledger Handle} (kind : config.kind = .config)
      (made : context.kind = .context) (before : Bracketed past) :
      Bracketed (.release config :: .acquire context :: .acquire config :: past)

/-- The names of handles that were not acquired yet are free. -/
structure Fresh (state : State) : Prop where
  named : ∀ handle ∈ acquired state.ledger,
    ∃ serial < state.acquisitions, handle.serial = some serial
  once : (acquired state.ledger).Nodup

section Ledgers

variable {state : State} {kind : Kind} {ledger : Ledger Handle}

theorem Fresh.unused (fresh : Fresh state) :
    ⟨kind, some state.acquisitions⟩ ∉ acquired state.ledger := by
  intro member
  obtain ⟨serial, bound, named⟩ := fresh.named _ member
  have same : state.acquisitions = serial := Option.some.inj named
  omega

theorem Fresh.acquire (fresh : Fresh state) : Fresh (state.acquire kind) where
  named handle member := by
    simp only [State.acquire, acquired_acquire, List.mem_cons] at member
    rcases member with rfl | earlier
    · exact ⟨state.acquisitions, Nat.lt_succ_self _, rfl⟩
    · obtain ⟨serial, bound, named⟩ := fresh.named handle earlier
      exact ⟨serial, Nat.lt_succ_of_lt bound, named⟩
  once := List.nodup_cons.mpr ⟨fresh.unused, fresh.once⟩

theorem isObject_of_kind {event : Event Handle} (object : event.handle.kind ≠ .config) :
    isObject event = true := by
  simp [isObject, isConfig, object]

end Ledgers

section Calls

variable {env : Environment} {state : State} {call : Call} {kind : Kind}

theorem Guarded.earlier {entry : Call × UcsStatus}
    (guarded : Guarded { state with calls := entry :: state.calls }) : Guarded state :=
  fun other member => guarded other (List.mem_cons_of_mem _ member)

theorem Guarded.succeeded {entry : Call × UcsStatus}
    (guarded : Guarded { state with calls := entry :: state.calls })
    (cleansUp : entry.1.cleansUp = true) : entry.2 = .ok :=
  guarded entry (List.mem_cons_self ..) cleansUp

theorem Clean.earlier {entry : Call × UcsStatus}
    (clean : Clean { state with calls := entry :: state.calls }) : Clean state :=
  ⟨clean.guarded.earlier, fun other member => clean.read other (List.mem_cons_of_mem _ member)⟩

end Calls

/-- Between two statements of a program: `stack` are the objects that are held, the latest
first. -/
structure Balanced (stack : List Handle) (state : State) : Prop where
  fresh : Fresh state
  objects : Guarded state → held unrelated (objects state.ledger) = some stack
  bracketed : Clean state → Bracketed state.ledger

namespace Balanced

variable {stack : List Handle} {state : State} {handle : Handle}

theorem initial : Balanced [] State.initial where
  fresh := ⟨fun _ member => absurd member List.not_mem_nil, List.nodup_nil⟩
  objects _ := rfl
  bracketed _ := .nil

theorem call (balanced : Balanced stack state) (env : Environment) (call : Call) :
    Balanced stack (state.call env call).2 where
  fresh := ⟨balanced.fresh.named, balanced.fresh.once⟩
  objects guarded := balanced.objects guarded.earlier
  bracketed clean := balanced.bracketed clean.earlier

theorem acquire (balanced : Balanced stack state) (kind : Kind) (object : kind ≠ .config) :
    Balanced (⟨kind, some state.acquisitions⟩ :: stack) (state.acquire kind) where
  fresh := balanced.fresh.acquire
  objects guarded := held_filter_acquire (balanced.objects guarded) balanced.fresh.unused
    (by simp [unrelated]) (isObject_of_kind object)
  bracketed clean :=
    .object (isObject_of_kind object) (balanced.bracketed ⟨clean.guarded, clean.read⟩)

theorem release (balanced : Balanced (handle :: stack) state) (object : handle.kind ≠ .config) :
    Balanced stack (state.release handle) where
  fresh := ⟨balanced.fresh.named, balanced.fresh.once⟩
  objects guarded := held_filter_release (balanced.objects guarded) (isObject_of_kind object)
  bracketed clean :=
    .object (isObject_of_kind object) (balanced.bracketed ⟨clean.guarded, clean.read⟩)

/-- `cleanup()` on a member that was never written. -/
theorem cleanup {after : State} (fresh : Fresh after) (unguarded : ¬ Guarded after)
    (handle : Handle) : Balanced stack (after.release handle) where
  fresh := ⟨fresh.named, fresh.once⟩
  objects guarded := absurd guarded unguarded
  bracketed clean := absurd clean.guarded unguarded

end Balanced

section Constructors

variable {env : Environment} {stack : List Handle} {state : State}

end Constructors

end UcxPlayground.Wrappers
