import UcxPlayground.Bytes.Representation
import UcxPlayground.Endpoint.Model
import UcxPlayground.Transition.Run

/-!
# Messages over a byte stream

A sender passes messages to `send_stream`, one after the other, and a receiver
awaits one `recv_stream` after the other, with buffers of the same sizes. The
transport keeps the bytes in order and decides how many have arrived when a
receive completes. Only the flags of a receive oblige it to fill the buffer.
-/

set_option autoImplicit false

namespace UcxPlayground.Endpoint.Framing

open Bytes Transition

/-- How many messages were sent, how many bytes arrived and were taken, the
receive that is awaited, and what each receive so far has written. -/
structure State where
  sent : Nat
  arrived : Nat
  taken : Nat
  posted : Option RequestParam
  written : List (List Byte)
  deriving DecidableEq, Repr

inductive Action where
  | sendStream
  | recvStream
  | arrive (bytes : Nat)
  | complete (length : Nat)
  deriving DecidableEq, Repr

/-- The lengths with which UCX may complete a receive into a buffer. -/
def MayComplete (param : RequestParam) (sizeBytes length : Nat) : Prop :=
  if param.hasFlag .waitAll then length = sizeBytes else 0 < length ∧ length ≤ sizeBytes

instance (param : RequestParam) (sizeBytes length : Nat) :
    Decidable (MayComplete param sizeBytes length) := by
  unfold MayComplete
  infer_instance

def State.stream (state : State) (messages : List (List Byte)) : List Byte :=
  (messages.take state.sent).flatten

def initial : State where
  sent := 0
  arrived := 0
  taken := 0
  posted := none
  written := []

/-- A run over given messages; `param` gives the parameters of each receive. -/
def step (param : Nat → RequestParam) (messages : List (List Byte)) (state : State) :
    Action → Option State
  | .sendStream =>
      if state.sent < messages.length then some { state with sent := state.sent + 1 } else none
  | .recvStream =>
      if state.posted = none ∧ state.written.length < messages.length then
        some { state with posted := some (param state.written.length) }
      else none
  | .arrive bytes =>
      if state.arrived + bytes ≤ (state.stream messages).length then
        some { state with arrived := state.arrived + bytes }
      else none
  | .complete length =>
      match state.posted, messages[state.written.length]? with
      | some posted, some message =>
          if state.taken + length ≤ state.arrived ∧ MayComplete posted message.length length then
            some { state with
              taken := state.taken + length
              posted := none
              written := state.written ++
                [((state.stream messages).drop state.taken).take length] }
          else none
      | _, _ => none

/-- A buffer after its receive: the bytes behind those written are as before. -/
def buffer (before : Nat → Byte) (sizeBytes : Nat) (written : List Byte) : List Byte :=
  written ++ ((List.range sizeBytes).drop written.length).map before

/-- Every receive that completed left the message of the same number in its
buffer, whatever the buffers held before. -/
def Framed (messages : List (List Byte)) (state : State) : Prop :=
  ∀ (before : Nat → Nat → Byte) (index : Nat) (written message : List Byte),
    state.written[index]? = some written → messages[index]? = some message →
    buffer (before index) message.length written = message

/-- A receive completes with its buffer full. -/
def CompletesFull (messages : List (List Byte)) (state : State) : Action → Prop
  | .complete length =>
      ∀ message, messages[state.written.length]? = some message → length = message.length
  | _ => True

instance (messages : List (List Byte)) (state : State) (action : Action) :
    Decidable (CompletesFull messages state action) := by
  cases action with
  | complete length =>
      cases found : messages[state.written.length]? with
      | none => exact .isTrue (by simp [CompletesFull, found])
      | some message =>
          exact decidable_of_iff (length = message.length) (by simp [CompletesFull, found])
  | _ => exact .isTrue trivial

inductive Move (param : Nat → RequestParam) (messages : List (List Byte)) (state : State) :
    Action → State → Prop where
  | sent : Move param messages state .sendStream { state with sent := state.sent + 1 }
  | posted :
      Move param messages state .recvStream
        { state with posted := some (param state.written.length) }
  | arrived {bytes} :
      state.arrived + bytes ≤ (state.stream messages).length →
      Move param messages state (.arrive bytes) { state with arrived := state.arrived + bytes }
  | completed {length posted message} :
      state.posted = some posted → messages[state.written.length]? = some message →
      state.taken + length ≤ state.arrived → MayComplete posted message.length length →
      Move param messages state (.complete length)
        { state with
          taken := state.taken + length
          posted := none
          written := state.written ++ [((state.stream messages).drop state.taken).take length] }

section Steps

variable {param : Nat → RequestParam} {messages : List (List Byte)} {state next : State}
  {action : Action}

theorem step_move (stepped : step param messages state action = some next) :
    Move param messages state action next := by
  cases action with
  | sendStream =>
      simp only [step, Option.ite_none_right_eq_some, Option.some.injEq] at stepped
      obtain ⟨_, rfl⟩ := stepped
      exact .sent
  | recvStream =>
      simp only [step, Option.ite_none_right_eq_some, Option.some.injEq] at stepped
      obtain ⟨_, rfl⟩ := stepped
      exact .posted
  | arrive bytes =>
      simp only [step, Option.ite_none_right_eq_some, Option.some.injEq] at stepped
      obtain ⟨bound, rfl⟩ := stepped
      exact .arrived bound
  | complete length =>
      simp only [step] at stepped
      split at stepped
      · rename_i posted message awaited found
        simp only [Option.ite_none_right_eq_some, Option.some.injEq] at stepped
        obtain ⟨⟨bound, may⟩, rfl⟩ := stepped
        exact .completed awaited found bound may
      · cases stepped

end Steps

section Windows

variable {Element : Type*} (parts : List (List Element))

theorem flatten_split (count : Nat) :
    parts.flatten = (parts.take count).flatten ++ (parts.drop count).flatten := by
  rw [← List.flatten_append, List.take_append_drop]

theorem flatten_window {index count : Nat} {part : List Element}
    (found : parts[index]? = some part)
    (inside : (parts.take index).flatten.length + part.length ≤
      (parts.take count).flatten.length) :
    ((parts.take count).flatten.drop (parts.take index).flatten.length).take part.length =
      part := by
  obtain ⟨bound, rfl⟩ := List.getElem?_eq_some_iff.mp found
  have whole : (parts.flatten.drop (parts.take index).flatten.length).take parts[index].length =
      parts[index] := by
    rw [flatten_split parts index, List.drop_left, List.drop_eq_getElem_cons bound,
      List.flatten_cons, List.take_left]
  rw [flatten_split parts count, List.drop_append_of_le_length (by omega),
    List.take_append_of_le_length (by rw [List.length_drop]; omega)] at whole
  exact whole

end Windows

section Buffers

variable {before : Nat → Byte} {message written : List Byte}

theorem buffer_full : buffer before message.length message = message := by
  simp [buffer]

theorem buffer_short (short : written.length < message.length) :
    (buffer before message.length written)[written.length]? = some (before written.length) := by
  rw [buffer, List.getElem?_append_right (Nat.le_refl _), Nat.sub_self, List.getElem?_map,
    List.getElem?_drop, Nat.add_zero, List.getElem?_range short, Option.map_some]

theorem exists_buffer_ne (short : written.length < message.length) :
    ∃ before, buffer before message.length written ≠ message := by
  refine ⟨fun index => message.getD index 0 + 1, fun same => ?_⟩
  have last := @buffer_short (fun index => message.getD index 0 + 1) _ _ short
  rw [same, List.getD_eq_getElem?_getD, List.getElem?_eq_getElem short, Option.getD_some,
    Option.some.injEq] at last
  bv_omega

end Buffers

section Runs

variable {param : Nat → RequestParam} {messages : List (List Byte)} {state next : State}
  {action : Action}

structure Bounded (messages : List (List Byte)) (state : State) : Prop where
  taken : state.taken ≤ state.arrived
  arrived : state.arrived ≤ (state.stream messages).length

structure Aligned (messages : List (List Byte)) (state : State) : Prop where
  written : state.written = messages.take state.written.length
  taken : state.taken = (messages.take state.written.length).flatten.length

def Short (messages : List (List Byte)) (state : State) : Prop :=
  ∃ (index : Nat) (written message : List Byte), state.written[index]? = some written ∧
    messages[index]? = some message ∧ written.length < message.length

theorem MayComplete.le {receive : RequestParam} {sizeBytes length : Nat}
    (may : MayComplete receive sizeBytes length) : length ≤ sizeBytes := by
  unfold MayComplete at may
  split at may
  · exact Nat.le_of_eq may
  · exact may.2

theorem Bounded.step (bounded : Bounded messages state)
    (stepped : Framing.step param messages state action = some next) : Bounded messages next := by
  cases step_move stepped with
  | sent =>
      refine ⟨bounded.taken, Nat.le_trans bounded.arrived ?_⟩
      simp only [State.stream, List.take_add_one, List.flatten_append, List.length_append]
      omega
  | posted => exact ⟨bounded.taken, bounded.arrived⟩
  | arrived bound => exact ⟨Nat.le_trans bounded.taken (Nat.le_add_right _ _), bound⟩
  | completed _ _ bound => exact ⟨bound, bounded.arrived⟩

theorem Aligned.step (aligned : Aligned messages state) (bounded : Bounded messages state)
    (full : CompletesFull messages state action)
    (stepped : Framing.step param messages state action = some next) : Aligned messages next := by
  cases step_move stepped with
  | sent | posted | arrived => exact ⟨aligned.written, aligned.taken⟩
  | @completed length posted message awaited found bound may =>
      cases full message found
      have inside := Nat.le_trans bound bounded.arrived
      rw [aligned.taken] at inside
      have window := flatten_window messages found inside
      have one : messages.take (state.written.length + 1) =
          messages.take state.written.length ++ [message] := by
        rw [List.take_add_one, found, Option.toList_some]
      have grown : (state.written ++
          [((state.stream messages).drop state.taken).take message.length]).length =
          state.written.length + 1 := by simp
      constructor
      · show _ ++ _ = _
        rw [grown, one, aligned.taken, State.stream, window, ← aligned.written]
      · show state.taken + message.length = _
        rw [grown, one, List.flatten_append, List.length_append, ← aligned.taken]
        simp

theorem short_of_partial (partly : ¬ CompletesFull messages state action)
    (stepped : step param messages state action = some next) : Short messages next := by
  cases step_move stepped with
  | sent | posted | arrived => exact False.elim (partly trivial)
  | @completed length posted message awaited found bound may =>
      have differs : length ≠ message.length := by
        intro equal
        subst equal
        exact partly fun other same => by cases found.symm.trans same; rfl
      have less := Nat.lt_of_le_of_ne may.le differs
      refine ⟨state.written.length, ((state.stream messages).drop state.taken).take length,
        message, by simp, found, ?_⟩
      exact Nat.lt_of_le_of_lt (List.length_take_le _ _) less

theorem short_step (short : Short messages state)
    (stepped : step param messages state action = some next) : Short messages next := by
  obtain ⟨index, written, message, wrote, found, less⟩ := short
  cases step_move stepped with
  | sent | posted | arrived => exact ⟨index, written, message, wrote, found, less⟩
  | completed =>
      obtain ⟨bound, _⟩ := List.getElem?_eq_some_iff.mp wrote
      exact ⟨index, written, message, (List.getElem?_append_left bound).trans wrote, found, less⟩

theorem Aligned.framed (aligned : Aligned messages state) : Framed messages state := by
  intro before index written message wrote found
  obtain ⟨bound, _⟩ := List.getElem?_eq_some_iff.mp wrote
  rw [aligned.written, List.getElem?_take_of_lt bound, found] at wrote
  cases wrote
  exact buffer_full

theorem Short.not_framed (short : Short messages state) : ¬ Framed messages state := by
  obtain ⟨index, written, message, wrote, found, less⟩ := short
  intro framed
  obtain ⟨before, differs⟩ := exists_buffer_ne less
  exact differs (framed (fun _ => before) index written message wrote found)

/-- Over any run and with any flags, the messages are framed exactly when every
receive completes with its buffer full. -/
theorem framed_iff_full {actions : List Action}
    (reached : run (step param messages) initial actions = some state) :
    Framed messages state ↔
      Along (step param messages) (CompletesFull messages) initial actions := by
  apply property_iff_along
    (fun state => Bounded messages state ∧ Aligned messages state)
    (Short messages) _ _ _ _ _ _ reached
  · intro state action next held full stepped
    obtain ⟨bounded, aligned⟩ := held
    exact ⟨bounded.step stepped, aligned.step bounded full stepped⟩
  · exact fun state action next _ partly stepped => short_of_partial partly stepped
  · exact fun state action next short stepped => short_step short stepped
  · exact fun state good => good.2.framed
  · exact fun state short => short.not_framed
  · exact ⟨⟨Nat.le_refl _, Nat.zero_le _⟩, rfl, rfl⟩

/-- With `UCP_STREAM_RECV_FLAG_WAITALL` every receive completes full. -/
theorem framed_of_waitAll {actions : List Action}
    (waitAll : ∀ index, (param index).hasFlag .waitAll = true)
    (reached : run (step param messages) initial actions = some state) : Framed messages state := by
  have held := run_preserves
    (fun state => (Bounded messages state ∧ Aligned messages state) ∧
      ∀ posted, state.posted = some posted → posted.hasFlag .waitAll = true) ?_
    ⟨⟨⟨Nat.le_refl _, Nat.zero_le _⟩, rfl, rfl⟩, by simp [initial]⟩ reached
  · exact held.1.2.framed
  · intro state action next held stepped
    obtain ⟨⟨bounded, aligned⟩, flagged⟩ := held
    have full : CompletesFull messages state action := by
      cases step_move stepped with
      | sent | posted | arrived => trivial
      | @completed length posted message awaited found bound may =>
          intro other same
          cases found.symm.trans same
          simpa [MayComplete, flagged posted awaited] using may
    refine ⟨⟨bounded.step stepped, aligned.step bounded full stepped⟩, ?_⟩
    cases step_move stepped with
    | sent | arrived => exact flagged
    | posted =>
        intro posted same
        cases same
        exact waitAll _
    | completed => simp

/-- Over any run of `recv_stream`, the messages are framed exactly when every
receive completes with its buffer full, which its flags do not ask for. -/
theorem recvStream_framed_iff {actions : List Action}
    (reached : run (step recvParam messages) initial actions = some state) :
    Framed messages state ↔
      Along (step recvParam messages) (CompletesFull messages) initial actions :=
  framed_iff_full reached

end Runs

def splitMessage : List (List Byte) :=
  [[5, 0, 0, 0, 0, 0, 0, 0]]

theorem splitMessage_not_framed :
    ∃ state, run (step recvParam splitMessage) initial
        [.recvStream, .sendStream, .arrive 1, .complete 1] = some state ∧
      ¬ Framed splitMessage state :=
  ⟨_, rfl, Short.not_framed ⟨0, [5], _, rfl, rfl, by decide⟩⟩

def wholeMessage : List Action :=
  [.recvStream, .sendStream, .arrive 1, .arrive 7, .complete 8]

theorem splitMessage_framed_whole :
    ∃ state, run (step recvParam splitMessage) initial wholeMessage = some state ∧
      Framed splitMessage state :=
  ⟨_, rfl, (recvStream_framed_iff
    (show run (step recvParam splitMessage) initial wholeMessage = _ from rfl)).mpr (by decide)⟩

end UcxPlayground.Endpoint.Framing
