import Mathlib.Algebra.Group.Nat.Defs

/-!
# Object representations and memory

Unsigned values as little-endian bytes, and a memory of bytes that objects are
stored to and read from. Nothing here mentions a particular program.
-/

set_option autoImplicit false

namespace UcxPlayground.Bytes

abbrev Byte := BitVec 8

/-- The object representation of `value` in `width` bytes. -/
def bytesOf : (width : Nat) → (value : Nat) → List Byte
  | 0, _ => []
  | width + 1, value => BitVec.ofNat 8 value :: bytesOf width (value / 256)

def ofBytes : List Byte → Nat
  | [] => 0
  | byte :: rest => byte.toNat + 256 * ofBytes rest

@[simp] theorem length_bytesOf (width value : Nat) : (bytesOf width value).length = width := by
  induction width generalizing value with
  | zero => rfl
  | succ width ih => simp [bytesOf, ih]

/-- A representation determines the value that fits it. -/
theorem ofBytes_bytesOf {width value : Nat} (fits : value < 256 ^ width) :
    ofBytes (bytesOf width value) = value := by
  induction width generalizing value with
  | zero =>
      have : value = 0 := by simpa using fits
      simp [bytesOf, ofBytes, this]
  | succ width ih =>
      have smaller : value / 256 < 256 ^ width := by
        rw [Nat.div_lt_iff_lt_mul (by decide), ← Nat.pow_succ]
        exact fits
      simp only [bytesOf, ofBytes, ih smaller, BitVec.toNat_ofNat]
      omega

theorem ofBytes_lt (bytes : List Byte) : ofBytes bytes < 256 ^ bytes.length := by
  induction bytes with
  | nil => exact Nat.one_pos
  | cons byte rest ih =>
      have small := byte.isLt
      rw [ofBytes, List.length_cons, Nat.pow_succ]
      omega

/-- A value determines its representation. -/
theorem bytesOf_ofBytes (bytes : List Byte) : bytesOf bytes.length (ofBytes bytes) = bytes := by
  induction bytes with
  | nil => rfl
  | cons byte rest ih =>
      have small := byte.isLt
      have high : (byte.toNat + 256 * ofBytes rest) / 256 = ofBytes rest := by omega
      have low : BitVec.ofNat 8 (byte.toNat + 256 * ofBytes rest) = byte := by
        apply BitVec.eq_of_toNat_eq
        rw [BitVec.toNat_ofNat]
        omega
      rw [List.length_cons, ofBytes, bytesOf, low, high, ih]

theorem bytesOf_inj {width value other : Nat} (fits : value < 256 ^ width)
    (otherFits : other < 256 ^ width) :
    bytesOf width value = bytesOf width other ↔ value = other := by
  refine ⟨fun same => ?_, fun same => by rw [same]⟩
  rw [← ofBytes_bytesOf fits, same, ofBytes_bytesOf otherFits]

abbrev Memory := Nat → Byte

namespace Memory

def read (memory : Memory) (address : Nat) : (count : Nat) → List Byte
  | 0 => []
  | count + 1 => memory address :: read memory (address + 1) count

def write (memory : Memory) (address : Nat) (byte : Byte) : Memory :=
  fun other => if other = address then byte else memory other

def store (memory : Memory) (address : Nat) : List Byte → Memory
  | [] => memory
  | byte :: rest => store (memory.write address byte) (address + 1) rest

theorem store_below {memory : Memory} {address other : Nat} {bytes : List Byte}
    (below : other < address) : memory.store address bytes other = memory other := by
  induction bytes generalizing memory address with
  | nil => rfl
  | cons byte rest ih =>
      have different : other ≠ address := by omega
      rw [store, ih (by omega), write, if_neg different]

@[simp] theorem read_store (memory : Memory) (address : Nat) (bytes : List Byte) :
    (memory.store address bytes).read address bytes.length = bytes := by
  induction bytes generalizing memory address with
  | nil => rfl
  | cons byte rest ih =>
      rw [List.length_cons, read, store, ih, store_below (Nat.lt_succ_self address)]
      simp [write]

@[simp] theorem length_read (memory : Memory) (address count : Nat) :
    (memory.read address count).length = count := by
  induction count generalizing address with
  | zero => rfl
  | succ count ih => rw [read, List.length_cons, ih]

theorem read_add (memory : Memory) (address first second : Nat) :
    memory.read address (first + second) =
      memory.read address first ++ memory.read (address + first) second := by
  induction first generalizing address with
  | zero => simp [read]
  | succ first ih =>
      rw [Nat.succ_add, read, read, ih, List.cons_append, Nat.add_assoc, Nat.add_comm 1]

theorem store_apply (memory : Memory) (address : Nat) (bytes : List Byte) (i : Nat) :
    memory.store address bytes (address + i) = bytes[i]?.getD (memory (address + i)) := by
  induction bytes generalizing memory address i with
  | nil => rfl
  | cons byte rest ih =>
      cases i with
      | zero =>
          have kept : (memory.write address byte).store (address + 1) rest address = byte := by
            rw [store_below (Nat.lt_succ_self address), write, if_pos rfl]
          simpa [store] using kept
      | succ i =>
          have later : address + (i + 1) = address + 1 + i := by omega
          have different : address + 1 + i ≠ address := by omega
          rw [store, later, ih, write, if_neg different, List.getElem?_cons_succ]

theorem read_eq_map (memory : Memory) (address count : Nat) :
    memory.read address count = (List.range count).map fun i => memory (address + i) := by
  induction count with
  | zero => rfl
  | succ count ih => rw [read_add, ih, List.range_succ, List.map_append]; rfl

theorem read_store_below {memory : Memory} {address other count : Nat} {bytes : List Byte}
    (below : other + count ≤ address) :
    (memory.store address bytes).read other count = memory.read other count := by
  rw [read_eq_map, read_eq_map]
  refine List.map_congr_left fun i member => ?_
  have bounded := List.mem_range.mp member
  exact store_below (by omega)

/-- A read that stays inside the stored object. -/
theorem read_store_inside {memory : Memory} {address offset count : Nat} {bytes : List Byte}
    (inside : offset + count ≤ bytes.length) :
    (memory.store address bytes).read (address + offset) count =
      (bytes.drop offset).take count := by
  obtain ⟨remaining, total⟩ := Nat.le.dest inside
  have whole := memory.read_store address bytes
  rw [← total, read_add, read_add] at whole
  have cut := congrArg (fun bytes => (bytes.drop offset).take count) whole
  rwa [List.append_assoc, List.drop_left' (by simp), List.take_left' (by simp)] at cut

theorem store_append (memory : Memory) (address : Nat) (first second : List Byte) :
    memory.store address (first ++ second) =
      (memory.store address first).store (address + first.length) second := by
  induction first generalizing memory address with
  | nil => rfl
  | cons byte first ih =>
      rw [List.cons_append, store, store, ih, List.length_cons, Nat.add_assoc, Nat.add_comm 1]

def writes (memory : Memory) : List (Nat × Byte) → Memory
  | [] => memory
  | (address, byte) :: rest => writes (memory.write address byte) rest

end Memory

end UcxPlayground.Bytes
