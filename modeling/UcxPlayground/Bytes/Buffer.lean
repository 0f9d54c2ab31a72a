import UcxPlayground.Bytes.Representation

/-!
# Allocated buffers

The bytes at a pointer to allocated memory, and copies to its start. What nothing
was written to is as the allocation left it. Nothing here mentions a particular
program.
-/

set_option autoImplicit false

namespace UcxPlayground.Bytes

/-- `none` is a byte that was not written. -/
abbrev Buffer := List (Option Byte)

namespace Buffer

def fresh (length : Nat) : Buffer :=
  List.replicate length none

/-- `memcpy` to a buffer that has room for the bytes. -/
def copy (buffer : Buffer) (bytes : List Byte) : Buffer :=
  bytes.map some ++ buffer.drop bytes.length

/-- Every byte was written. -/
def Written (buffer : Buffer) : Prop :=
  none ∉ buffer

@[simp] theorem length_fresh (length : Nat) : (fresh length).length = length :=
  List.length_replicate

theorem length_copy {buffer : Buffer} {bytes : List Byte} (room : bytes.length ≤ buffer.length) :
    (buffer.copy bytes).length = buffer.length := by
  rw [copy, List.length_append, List.length_map, List.length_drop]
  omega

theorem copy_whole {buffer : Buffer} {bytes : List Byte} (whole : bytes.length = buffer.length) :
    buffer.copy bytes = bytes.map some := by
  rw [copy, whole, List.drop_length, List.append_nil]

theorem copy_fresh (length : Nat) (bytes : List Byte) :
    (fresh length).copy bytes = bytes.map some ++ fresh (length - bytes.length) := by
  rw [copy, fresh, List.drop_replicate, fresh]

/-- A buffer is written by one copy exactly when the copy fills it. -/
theorem written_copy_fresh_iff {length : Nat} {bytes : List Byte} :
    Written ((fresh length).copy bytes) ↔ length ≤ bytes.length := by
  rw [Written, copy_fresh, fresh, List.mem_append, not_or, List.mem_replicate]
  constructor
  · intro written
    apply Nat.le_of_not_lt
    intro short
    exact written.2 ⟨by omega, rfl⟩
  · intro whole
    exact ⟨by simp, fun left => left.1 (by omega)⟩

end Buffer

/-- Buffers of given lengths are determined by all their bytes. -/
theorem buffers_eq_of_flatten {first second : List Buffer}
    (shape : first.map List.length = second.map List.length)
    (bytes : first.flatten = second.flatten) : first = second :=
  List.eq_iff_flatten_eq.mpr ⟨bytes, shape⟩

end UcxPlayground.Bytes
