import UcxPlayground.Endpoint.Invariants

/-!
# Event handles and requests are freed once

`delete event` and `ucp_request_free(request)` stand at the end of the
successful callback and nowhere else. What a send event passes on is the request
itself, and the event may stay signalled after the request was freed.
-/

set_option autoImplicit false

namespace UcxPlayground.Endpoint

open Transition

def State.deletions (state : State) (index : Nat) : Nat :=
  (Async.notes state.runtime.trace).count (.deleted index)

def State.releases (state : State) (index : Nat) : Nat :=
  (Async.notes state.runtime.trace).count (.released index)

def Operation.requests (operation : Operation) : Nat :=
  if operation.result = .request then 1 else 0

/-- Some `co_await` on the event of an operation returned a request that had
been freed before. -/
def ReturnsReleased : List (Async.Observation EventId Value Tag) → Prop
  | [] => False
  | .passed (.operation _) _ _ (some (.request request)) _ :: older =>
      .released request ∈ Async.notes older ∨ ReturnsReleased older
  | _ :: older => ReturnsReleased older

/-- Everything an operation that is over had allocated was freed once, and no
freed request is handed out. -/
def Clean (state : State) : Prop :=
  (∀ index operation, state.operations[index]? = some operation → operation.Over →
    state.deletions index = 1 ∧ state.releases index = operation.requests) ∧
    ¬ ReturnsReleased state.runtime.trace

/-- The event of a send that passes on its request although it was freed. -/
def PassesFreed (state : State) (index : Nat) : Prop :=
  match state.operations[index]? with
  | some operation =>
      operation.param.cb = .send ∧ operation.returned = true ∧
        (state.runtime.events (.operation index)).signaled = true
  | none => False

instance (state : State) (index : Nat) : Decidable (PassesFreed state index) := by
  unfold PassesFreed
  split <;> infer_instance

/-- Posts are left pending, completions are successful, and no `co_await` finds
a send event signalled once its callback has returned. -/
def Handled (state : State) : Action → Prop
  | .sendStream _ result => result = .request
  | .recvStream _ result => result = .request
  | .complete _ status _ => status = .ok
  | .code (.coAwait (.operation index)) => ¬ PassesFreed state index
  | _ => True

instance (state : State) (action : Action) : Decidable (Handled state action) := by
  unfold Handled
  split <;> infer_instance

def Operation.OnPath (operation : Operation) : Prop :=
  operation.result = .request ∧
    ∀ code length, operation.completion ≠ some (.error code, length)

/-- How often the operation was cleaned up: once, at the end of its successful
callback. -/
def cleanups : Option Operation → Nat
  | some operation =>
      match operation.completion, operation.returned with
      | some (.ok, _), true => 1
      | _, _ => 0
  | none => 0

def Tallied (state : State) : Prop :=
  ∀ index, state.deletions index = cleanups state.operations[index]? ∧
    state.releases index = cleanups state.operations[index]?

section Notes

variable {state : State} {index : Nat} {value : Value} {runtime : Async.State EventId Value Tag}

theorem notes_head
    (executed : run Async.step state.runtime (callbackHead index value) = some runtime) :
    Async.notes runtime.trace = Async.notes state.runtime.trace := by
  obtain ⟨called, entered, remaining⟩ := run_cons_inv executed
  obtain ⟨set, signalled, finished⟩ := run_cons_inv remaining
  cases finished
  have first := (Async.step_notes entered).resolve_right (by simp)
  have second := (Async.step_notes signalled).resolve_right (by simp)
  exact second.trans first

theorem notes_tail
    (executed : run Async.step state.runtime (callbackTail index) = some runtime) :
    Async.notes runtime.trace =
      .released index :: .deleted index :: Async.notes state.runtime.trace := by
  obtain ⟨deleted, first, remaining⟩ := run_cons_inv executed
  obtain ⟨released, second, last⟩ := run_cons_inv remaining
  obtain ⟨left, third, finished⟩ := run_cons_inv last
  cases finished
  cases first
  cases second
  exact (Async.step_notes third).resolve_right (by simp)

theorem counts_executed (index : Nat) {action : Async.Action EventId Value Tag}
    (permitted : Permitted state action)
    (executed : Async.step state.runtime action = some runtime) :
    (Async.notes runtime.trace).count (.deleted index) = state.deletions index ∧
      (Async.notes runtime.trace).count (.released index) = state.releases index := by
  rcases Async.step_notes executed with same | ⟨tag, rfl, added⟩
  · rw [same]
    exact ⟨rfl, rfl⟩
  · rw [added]
    cases tag with
    | user => exact ⟨by simp [State.deletions], by simp [State.releases]⟩
    | _ => exact False.elim permitted

end Notes

namespace Tallied

variable {state next : State} {action : Action}

theorem initial : Tallied State.initial :=
  fun _ => ⟨rfl, rfl⟩

theorem post (tallied : Tallied state) {param : Nat → RequestParam} {buffer : Buffer}
    {result : StatusPtr} : Tallied (state.post param buffer result) := by
  intro index
  by_cases new : index = state.operations.length
  · subst index
    have before := tallied state.operations.length
    rw [List.getElem?_eq_none (Nat.le_refl _)] at before
    rw [State.post_self]
    exact before
  · rw [State.post_other new]
    exact tallied index

theorem update (tallied : Tallied state) {index : Nat} {old operation : Operation}
    {runtime : Async.State EventId Value Tag}
    (present : state.operations[index]? = some old)
    (same : cleanups (some operation) = cleanups (some old))
    (deletions : ∀ other, (Async.notes runtime.trace).count (.deleted other) =
      state.deletions other)
    (releases : ∀ other, (Async.notes runtime.trace).count (.released other) =
      state.releases other) :
    Tallied (state.update index operation runtime) := by
  intro other
  show (Async.notes runtime.trace).count _ = _ ∧ (Async.notes runtime.trace).count _ = _
  rw [deletions, releases]
  by_cases this : other = index
  · subst other
    rw [State.update_self present, same, ← present]
    exact tallied index
  · rw [State.update_other this]
    exact tallied other

theorem step (tallied : Tallied state) (sound : Sound state)
    (stepped : Endpoint.step state action = some next) : Tallied next := by
  cases step_move stepped with
  | sent | received => exact tallied.post
  | @exited buffer code =>
      have posted : Tallied (state.post recvParam buffer (.error code)) := tallied.post
      exact posted
  | @signalled index length operation runtime ready present given open_ executed =>
      have unchanged := notes_head executed
      refine tallied.update present ?_ (fun other => by rw [unchanged]; rfl)
        (fun other => by rw [unchanged]; rfl)
      have unreturned : operation.returned = false := by
        cases returned : operation.returned with
        | false => rfl
        | true => exact absurd open_ ((sound.lawful present).completed returned)
      simp [cleanups, open_, unreturned]
  | @dropped index code length operation runtime ready present given open_ kind executed =>
      cases executed
      exact tallied.update present (by simp [cleanups, open_])
        (fun other => by simp [State.deletions]) (fun other => by simp [State.releases])
  | threw ready present given open_ kind =>
      exact tallied.update present (by simp [cleanups, open_]) (fun _ => rfl) (fun _ => rfl)
  | @returned index operation runtime running top present executed =>
      have tail := callbacks_tail top executed
      obtain ⟨found, looked, ⟨length, completed⟩, unreturned⟩ :=
        sound.frames index (by rw [tail]; exact List.mem_cons_self)
      cases present.symm.trans looked
      have added := notes_tail executed
      intro other
      have before := tallied other
      show (Async.notes runtime.trace).count _ = _ ∧ (Async.notes runtime.trace).count _ = _
      rw [added]
      by_cases same : other = index
      · subst other
        rw [present] at before
        rw [State.update_self present]
        simp only [State.deletions, State.releases, cleanups, completed, unreturned] at before
        simp [cleanups, completed, before.1, before.2]
      · rw [State.update_other same]
        simpa [Ne.symm same, State.deletions, State.releases] using before
  | @executed action runtime ready permitted executed =>
      intro index
      have counts := counts_executed index permitted executed
      exact ⟨counts.1.trans (tallied index).1, counts.2.trans (tallied index).2⟩

theorem released_iff (tallied : Tallied state) (index : Nat) :
    .released index ∈ Async.notes state.runtime.trace ↔
      cleanups state.operations[index]? = 1 := by
  have count := (tallied index).2
  rw [← List.count_pos_iff]
  change 0 < state.releases index ↔ _
  rw [count]
  unfold cleanups
  split
  · split <;> simp
  · simp

end Tallied

section HandingOut

variable {runtime next : Async.State EventId Value Tag}
  {action : Async.Action EventId Value Tag}

def Freed (runtime : Async.State EventId Value Tag) (value : Value) : Prop :=
  ∃ request, value = .request request ∧ .released request ∈ Async.notes runtime.trace

def HandsOut (runtime : Async.State EventId Value Tag) :
    Async.Action EventId Value Tag → Prop
  | .setOr (.operation index) value _ =>
      (runtime.events (.operation index)).signaled = false ∧
        (runtime.events (.operation index)).waiterHandle ≠ none ∧ Freed runtime value
  | .coAwait (.operation index) =>
      (runtime.events (.operation index)).signaled = true ∧
        ∃ value, (runtime.events (.operation index)).data = some value ∧ Freed runtime value
  | _ => False

theorem returnsReleased_passed {event : EventId} {coroutine : Async.CoroutineHandle}
    {serial : Nat} {value : Option Value} {immediate : Bool}
    {older : List (Async.Observation EventId Value Tag)} :
    ReturnsReleased (.passed event coroutine serial value immediate :: older) ↔
      (∃ index request, event = .operation index ∧ value = some (.request request) ∧
        .released request ∈ Async.notes older) ∨ ReturnsReleased older := by
  cases event with
  | user => simp [ReturnsReleased]
  | operation index =>
      cases value with
      | none => simp [ReturnsReleased]
      | some value => cases value <;> simp [ReturnsReleased]

theorem returnsReleased_step (executed : Async.step runtime action = some next) :
    ReturnsReleased next.trace ↔ ReturnsReleased runtime.trace ∨ HandsOut runtime action := by
  cases Async.step_move executed with
  | @refused event value fullCallback signaled =>
      cases event <;> simp [Async.State.refuse, ReturnsReleased, HandsOut, signaled]
  | @stored event value fullCallback clear alone =>
      cases event <;> simp [Async.State.accept, ReturnsReleased, HandsOut, alone]
  | @resumed event value fullCallback waiter clear recorded =>
      rw [Async.State.resume, Async.State.pass, returnsReleased_passed, or_comm]
      refine or_congr Iff.rfl ?_
      cases event with
      | user => simp [HandsOut]
      | operation index =>
          simp [HandsOut, Freed, clear, recorded, Async.State.accept, Async.notes,
            Async.Observation.tag?, Async.AutoResetEvent.awaitResume, List.filterMap_cons]
  | @passed event coroutine current signaled =>
      rw [Async.State.pass, returnsReleased_passed, or_comm]
      refine or_congr Iff.rfl ?_
      cases event with
      | user => simp [HandsOut]
      | operation index =>
          simp [HandsOut, Freed, signaled, Async.AutoResetEvent.awaitResume]
  | @suspended event coroutine current clear =>
      rw [Async.State.suspend_trace]
      cases event <;> simp [ReturnsReleased, HandsOut, clear]
  | finished =>
      rw [Async.State.finish_trace]
      simp [HandsOut]
  | started | called | returned => simp [HandsOut]
  | noted => simp [ReturnsReleased, HandsOut]

theorem returnsReleased_run {actions : List (Async.Action EventId Value Tag)}
    (harmless : Along Async.step (fun runtime action => ¬ HandsOut runtime action) runtime actions)
    (executed : run Async.step runtime actions = some next) :
    ReturnsReleased next.trace ↔ ReturnsReleased runtime.trace := by
  induction actions generalizing runtime with
  | nil =>
      cases executed
      exact Iff.rfl
  | cons action rest ih =>
      obtain ⟨middle, stepped, remaining⟩ := run_cons_inv executed
      obtain ⟨first, others⟩ := (along_cons stepped).mp harmless
      rw [ih others remaining, returnsReleased_step stepped]
      exact or_iff_left first

end HandingOut

section Operations

variable {state next : State} {index : Nat} {operation : Operation}

theorem signal_eq_request_iff {length request : Nat} :
    operation.signal index length = .request request ↔
      operation.param.cb = .send ∧ index = request := by
  unfold Operation.signal
  cases operation.param.cb <;> simp

theorem data_of_signaled (sound : Sound state)
    (signaled : (state.runtime.events (.operation index)).signaled = true) :
    ∃ operation length, state.operations[index]? = some operation ∧
      operation.completion = some (.ok, length) ∧
      (state.runtime.events (.operation index)).data = some (operation.signal index length) := by
  have slot := sound.slots index
  unfold SlotOf at slot
  split at slot
  · rename_i operation present
    split at slot
    · rename_i length completed
      obtain ⟨value, held, accepted⟩ := (sound.loaded index).held signaled
      exact ⟨operation, length, present, completed,
        held.trans (congrArg some (slot.only _ _ accepted))⟩
    · cases signaled.symm.trans slot.clear
  · cases signaled.symm.trans slot.clear

/-- What a `co_await` hands out is a freed request exactly when the event is that
of a send whose callback has returned. -/
theorem handsOut_iff_passesFreed (sound : Sound state) (tallied : Tallied state) :
    HandsOut state.runtime (.coAwait (.operation index)) ↔ PassesFreed state index := by
  constructor
  · intro handed
    obtain ⟨signaled, value, held, request, rfl, released⟩ := handed
    obtain ⟨operation, length, present, completed, data⟩ := data_of_signaled sound signaled
    obtain ⟨kind, rfl⟩ := signal_eq_request_iff.mp (Option.some.inj (data.symm.trans held))
    have cleaned := (tallied.released_iff index).mp released
    simp only [present, cleanups, completed] at cleaned
    simp only [PassesFreed, present]
    refine ⟨kind, ?_, signaled⟩
    cases returned : operation.returned with
    | true => rfl
    | false => simp [returned] at cleaned
  · intro passes
    unfold PassesFreed at passes
    split at passes
    · rename_i found looked
      obtain ⟨kind, returned, signaled⟩ := passes
      obtain ⟨operation, length, present, completed, data⟩ := data_of_signaled sound signaled
      cases looked.symm.trans present
      refine ⟨signaled, _, data, index, signal_eq_request_iff.mpr ⟨kind, rfl⟩, ?_⟩
      exact (tallied.released_iff index).mpr (by simp [present, cleanups, completed, returned])
    · exact False.elim passes

theorem head_harmless (sound : Sound state) (tallied : Tallied state)
    (present : state.operations[index]? = some operation) (open_ : operation.completion = none)
    (length : Nat) :
    Along Async.step (fun runtime action => ¬ HandsOut runtime action) state.runtime
      (callbackHead operation.param.userData (operation.signal index length)) := by
  have named := (sound.lawful present).named
  have unreleased : .released index ∉ Async.notes state.runtime.trace := fun member => by
    have cleaned := (tallied.released_iff index).mp member
    simp [present, cleanups, open_] at cleaned
  refine ⟨id, ?_, trivial⟩
  intro held
  obtain ⟨_, _, request, same, released⟩ := held
  obtain ⟨_, rfl⟩ := signal_eq_request_iff.mp same
  exact unreleased released

theorem tail_harmless (index : Nat) (runtime : Async.State EventId Value Tag)
    {final : Async.State EventId Value Tag}
    (executed : run Async.step runtime (callbackTail index) = some final) :
    ReturnsReleased final.trace ↔ ReturnsReleased runtime.trace := by
  refine returnsReleased_run ?_ executed
  obtain ⟨deleted, first, remaining⟩ := run_cons_inv executed
  obtain ⟨released, second, _⟩ := run_cons_inv remaining
  simp only [callbackTail, along_cons first, along_cons second]
  refine ⟨id, id, id, ?_⟩
  split <;> trivial

/-- One step hands a freed request out exactly when it is a `co_await` that
the condition rules out. -/
theorem returnsReleased_of_step {action : Action} (sound : Sound state) (tallied : Tallied state)
    (stepped : step state action = some next) :
    ReturnsReleased next.runtime.trace ↔ ReturnsReleased state.runtime.trace ∨
      ∃ index, action = .code (.coAwait (.operation index)) ∧ PassesFreed state index := by
  cases step_move stepped with
  | sent | received => exact (or_iff_left (by simp)).symm
  | exited => exact (or_iff_left (by simp)).symm
  | @signalled index length operation runtime ready present given open_ executed =>
      have harmless := head_harmless sound tallied present open_ length
      exact (returnsReleased_run harmless executed).trans (or_iff_left (by simp)).symm
  | dropped ready present given open_ kind executed =>
      exact (returnsReleased_step executed).trans (by simp [HandsOut])
  | threw => exact (or_iff_left (by simp)).symm
  | returned running top present executed =>
      exact (tail_harmless _ _ executed).trans (or_iff_left (by simp)).symm
  | @executed action runtime ready permitted executed =>
      rw [returnsReleased_step executed]
      refine or_congr Iff.rfl ?_
      cases action with
      | coAwait event =>
          cases event with
          | operation index => simp [handsOut_iff_passesFreed sound tallied]
          | user => simp [HandsOut]
      | setOr event value fullCallback =>
          cases event with
          | operation => exact False.elim permitted
          | user => simp [HandsOut]
      | _ => simp [HandsOut]

end Operations

section Paths

variable {state next : State} {action : Action}

def AllOnPath (state : State) : Prop :=
  ∀ (index : Nat) (operation : Operation),
    state.operations[index]? = some operation → operation.OnPath

theorem AllOnPath.post (onPath : AllOnPath state) {param : Nat → RequestParam} {buffer : Buffer} :
    AllOnPath (state.post param buffer .request) := by
  intro index operation present
  rcases State.post_cases present with ⟨rfl, rfl⟩ | ⟨_, earlier⟩
  · exact ⟨rfl, by simp⟩
  · exact onPath index operation earlier

theorem AllOnPath.update (onPath : AllOnPath state) {index : Nat} {old operation : Operation}
    {runtime : Async.State EventId Value Tag} (present : state.operations[index]? = some old)
    (updated : operation.OnPath) : AllOnPath (state.update index operation runtime) := by
  intro other found looked
  rcases State.update_cases present looked with ⟨rfl, rfl⟩ | ⟨_, earlier⟩
  · exact updated
  · exact onPath other found earlier

theorem AllOnPath.step (onPath : AllOnPath state) (handled : Handled state action)
    (stepped : Endpoint.step state action = some next) : AllOnPath next := by
  cases step_move stepped with
  | sent | received =>
      cases handled
      exact onPath.post
  | exited => cases handled
  | signalled ready present given => exact onPath.update present ⟨given, by simp⟩
  | dropped => cases handled
  | threw => cases handled
  | @returned index operation runtime running top present =>
      have before := onPath index operation present
      exact onPath.update present ⟨before.1, before.2⟩
  | executed => exact onPath

theorem offPath_step (off : ¬ AllOnPath state)
    (stepped : step state action = some next) : ¬ AllOnPath next := by
  intro onPath
  refine off fun index operation present => ?_
  cases step_move stepped with
  | sent | received | exited =>
      have old : index ≠ state.operations.length := by
        intro equal
        subst equal
        simp at present
      exact onPath index operation ((State.post_other old).trans present)
  | @signalled other length changed runtime ready looked given open_
  | @dropped other code length changed runtime ready looked given open_ =>
      by_cases same : index = other
      · subst other
        cases present.symm.trans looked
        exact ⟨given, by simp [open_]⟩
      · exact onPath index operation ((State.update_other same).trans present)
  | @threw other code length changed ready looked given open_ =>
      by_cases same : index = other
      · subst other
        cases present.symm.trans looked
        exact ⟨given, by simp [open_]⟩
      · exact onPath index operation
          ((@State.update_other state other index _ state.runtime same).trans present)
  | @returned other changed runtime running top looked =>
      by_cases same : index = other
      · subst other
        cases present.symm.trans looked
        have after := onPath index _ (State.update_self present)
        exact ⟨after.1, after.2⟩
      · exact onPath index operation ((State.update_other same).trans present)
  | executed => exact onPath index operation present

/-- An action outside the condition puts an operation off the path, or hands a
freed request out. -/
theorem unhandled_step (unhandled : ¬ Handled state action)
    (stepped : step state action = some next) :
    ¬ AllOnPath next ∨
      ∃ index, action = .code (.coAwait (.operation index)) ∧ PassesFreed state index := by
  cases step_move stepped with
  | sent | received => exact .inl fun onPath => unhandled (onPath _ _ State.post_self).1
  | @exited buffer code =>
      refine .inl fun onPath => ?_
      have posted := (onPath _ _ (@State.post_self state recvParam buffer (.error code))).1
      cases posted
  | signalled => exact False.elim (unhandled rfl)
  | dropped ready present =>
      exact .inl fun onPath => (onPath _ _ (State.update_self present)).2 _ _ rfl
  | threw ready present =>
      exact .inl fun onPath =>
        (onPath _ _ (@State.update_self state _ _ _ state.runtime present)).2 _ _ rfl
  | returned => exact False.elim (unhandled trivial)
  | @executed action =>
      cases action with
      | coAwait event =>
          cases event with
          | operation index => exact .inr ⟨index, rfl, not_not.mp unhandled⟩
          | user => exact False.elim (unhandled trivial)
      | _ => exact False.elim (unhandled trivial)

theorem clean_of_onPath (sound : Sound state) (tallied : Tallied state)
    (onPath : AllOnPath state) (unreleased : ¬ ReturnsReleased state.runtime.trace) :
    Clean state := by
  refine ⟨fun index operation present settled => ?_, unreleased⟩
  obtain ⟨given, successful⟩ := onPath index operation present
  have returned := settled given
  have counts := tallied index
  have cleaned : cleanups (some operation) = 1 := by
    cases completion : operation.completion with
    | none => exact absurd completion ((sound.lawful present).completed returned)
    | some reported =>
        obtain ⟨status, length⟩ := reported
        cases status with
        | ok => simp [cleanups, completion, returned]
        | error code => exact absurd completion (successful code length)
  rw [present, cleaned] at counts
  exact ⟨counts.1, by simp [counts.2, Operation.requests, given]⟩

theorem not_clean_of_offPath (sound : Sound state) (tallied : Tallied state)
    (off : ¬ AllOnPath state) : ¬ Clean state := by
  intro held
  obtain ⟨freed, _⟩ := held
  refine off fun index operation present => ?_
  have lawful := sound.lawful present
  by_contra left
  have failure : operation.result ≠ .request ∨
      ∃ code length, operation.completion = some (.error code, length) := by
    by_contra neither
    simp only [not_or, not_exists, not_not] at neither
    exact left neither
  have counts := (tallied index).1
  rw [present] at counts
  have uncleaned : cleanups (some operation) = 0 ∧ operation.Over := by
    rcases failure with ungiven | ⟨code, length, failed⟩
    · exact ⟨by simp [cleanups, lawful.pending ungiven], fun given => absurd given ungiven⟩
    · exact ⟨by simp [cleanups, failed], fun _ => lawful.failed code length failed⟩
  have once := (freed index operation present uncleaned.2).1
  rw [counts, uncleaned.1] at once
  cases once

end Paths

/-- Over any run, every operation that is over was cleaned up once and no freed
request was handed out exactly when every post was left pending, every
completion was successful, and no `co_await` found a send event signalled after
its callback had returned. -/
theorem clean_iff_along {actions : List Action} {state : State}
    (reached : run step .initial actions = some state) :
    Clean state ↔ Along step Handled .initial actions := by
  apply property_iff_along
    (fun state => (Sound state ∧ Tallied state) ∧ AllOnPath state ∧
      ¬ ReturnsReleased state.runtime.trace)
    (fun state => (Sound state ∧ Tallied state) ∧
      (¬ AllOnPath state ∨ ReturnsReleased state.runtime.trace)) _ _ _ _ _ _ reached
  · intro state action next held handled stepped
    obtain ⟨⟨sound, tallied⟩, onPath, unreleased⟩ := held
    refine ⟨⟨sound.step stepped, tallied.step sound stepped⟩, onPath.step handled stepped, ?_⟩
    rw [returnsReleased_of_step sound tallied stepped]
    intro either
    rcases either with earlier | ⟨index, rfl, passes⟩
    · exact unreleased earlier
    · exact handled passes
  · intro state action next held unhandled stepped
    obtain ⟨⟨sound, tallied⟩, onPath, _⟩ := held
    refine ⟨⟨sound.step stepped, tallied.step sound stepped⟩, ?_⟩
    rw [returnsReleased_of_step sound tallied stepped]
    exact (unhandled_step unhandled stepped).imp_right .inr
  · intro state action next held stepped
    obtain ⟨⟨sound, tallied⟩, violated⟩ := held
    refine ⟨⟨sound.step stepped, tallied.step sound stepped⟩, ?_⟩
    rw [returnsReleased_of_step sound tallied stepped]
    exact violated.imp (offPath_step · stepped) .inl
  · intro state held
    obtain ⟨⟨sound, tallied⟩, onPath, unreleased⟩ := held
    exact clean_of_onPath sound tallied onPath unreleased
  · intro state held
    obtain ⟨⟨sound, tallied⟩, either⟩ := held
    rcases either with off | released
    · exact not_clean_of_offPath sound tallied off
    · exact fun clean => clean.2 released
  · exact ⟨⟨.initial, .initial⟩, fun index operation present => by simp [State.initial] at present,
      id⟩

def lateAwait : List Action :=
  [.sendStream ⟨0, 8⟩ .request, .complete 0 .ok 0, .callbackReturn, .code (.start 0),
    .code (.coAwait (.operation 0))]

theorem lateAwait_returns_freed :
    ∃ state, run step State.initial lateAwait = some state ∧ ¬ Clean state :=
  ⟨_, rfl, fun clean => clean.2 (.inl List.mem_cons_self)⟩

def earlyAwait : List Action :=
  [.code (.start 0), .sendStream ⟨0, 8⟩ .request, .code (.coAwait (.operation 0)),
    .complete 0 .ok 0, .code .finish, .callbackReturn]

theorem earlyAwait_clean :
    ∃ state, run step State.initial earlyAwait = some state ∧ Clean state :=
  ⟨_, rfl, (clean_iff_along (show run step .initial earlyAwait = _ from rfl)).mpr (by decide)⟩

end UcxPlayground.Endpoint
