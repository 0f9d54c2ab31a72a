import Mathlib.Data.Vector.Basic

/-!
# Blocks of memory

An object of a fixed number of cells. A write carries the proof that it stays inside
the block. Nothing here mentions a particular program.
-/

set_option autoImplicit false

namespace UcxPlayground.Bytes

abbrev Block := List.Vector

namespace Block

variable {Cell : Type*} {size : Nat}

def filled (size : Nat) (cell : Cell) : Block Cell size :=
  List.Vector.replicate size cell

def read (block : Block Cell size) (offset count : Nat) : List Cell :=
  (block.toList.drop offset).take count

def write (block : Block Cell size) (offset : Nat) (cells : List Cell)
    (inside : offset + cells.length ≤ size) : Block Cell size :=
  ⟨block.toList.take offset ++ cells ++ block.toList.drop (offset + cells.length), by
    simp only [List.length_append, List.length_take, List.length_drop, List.Vector.toList_length]
    omega⟩

/-- The first cells of the block, as `memcpy` to a smaller object takes them. -/
def leading (block : Block Cell size) (count : Nat) (inside : count ≤ size) : Block Cell count :=
  ⟨block.toList.take count, by
    rw [List.length_take, List.Vector.toList_length]
    omega⟩

variable {block : Block Cell size} {offset other count : Nat} {cells : List Cell}
  {inside : offset + cells.length ≤ size}

theorem read_write (length : cells.length = count) :
    (block.write offset cells inside).read offset count = cells := by
  subst length
  have before : (block.toList.take offset).length = offset := by
    rw [List.length_take, List.Vector.toList_length]
    omega
  show ((_ ++ _ ++ _ : List Cell).drop offset).take _ = _
  rw [List.append_assoc, List.drop_left' before, List.take_left' rfl]

/-- A read in front of the written cells. -/
theorem read_write_before (before : other + count ≤ offset) :
    (block.write offset cells inside).read other count = block.read other count := by
  have first : count + other ≤ (block.toList.take offset).length := by
    rw [List.length_take, List.Vector.toList_length]
    omega
  have enough : count + other ≤ offset := by omega
  show ((_ ++ _ ++ _ : List Cell).drop other).take count = (block.toList.drop other).take count
  rw [List.take_drop, List.take_drop, List.append_assoc, Nat.add_comm other,
    List.take_append_of_le_length first, List.take_take, Nat.min_eq_left enough]

/-- A read behind the written cells. -/
theorem read_write_behind (behind : offset + cells.length ≤ other) :
    (block.write offset cells inside).read other count = block.read other count := by
  have length : (block.toList.take offset ++ cells).length = offset + cells.length := by
    rw [List.length_append, List.length_take, List.Vector.toList_length]
    omega
  obtain ⟨rest, rfl⟩ := Nat.le.dest behind
  show ((_ ++ _ : List Cell).drop _).take count = _
  rw [← List.drop_drop, List.drop_left' length, List.drop_drop, read]

theorem read_leading {leadingCount : Nat} {fits : leadingCount ≤ size}
    (within : other + count ≤ leadingCount) :
    (block.leading leadingCount fits).read other count = block.read other count := by
  show ((block.toList.take leadingCount).drop other).take count = _
  rw [List.drop_take, List.take_take, Nat.min_eq_left (by omega), read]

theorem read_filled {cell : Cell} (within : other + count ≤ size) :
    (filled size cell).read other count = List.replicate count cell := by
  show ((List.replicate size cell).drop other).take count = _
  rw [List.drop_replicate, List.take_replicate, Nat.min_eq_left (by omega)]

end Block

end UcxPlayground.Bytes
