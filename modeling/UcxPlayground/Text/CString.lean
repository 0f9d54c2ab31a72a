import UcxPlayground.Bytes.Block

/-!
# Texts in character arrays

A C string ends at the first zero of the array it is in. Nothing here mentions a
particular program.
-/

set_option autoImplicit false

namespace UcxPlayground.Text

open Bytes

def nul : Char := Char.ofNat 0

/-- The text in front of the first zero; without a zero the array holds no string. -/
def cString (chars : List Char) : Option String :=
  if nul ∈ chars then some (String.ofList (chars.takeWhile (· ≠ nul))) else none

theorem cString_append {text rest : List Char} (plain : nul ∉ text) :
    cString (text ++ nul :: rest) = some (String.ofList text) := by
  have terminated : nul ∈ text ++ nul :: rest := by simp
  have before : ∀ char ∈ text, decide (char ≠ nul) = true := by
    intro char member
    exact decide_eq_true fun same => plain (same ▸ member)
  rw [cString, if_pos terminated, List.takeWhile_append_of_pos before]
  simp

/-- Writes the text with a zero behind it, and of a text that has no room only the
beginning. -/
def put {size : Nat} (text : List Char) (array : Block Char size) : Block Char size :=
  array.write 0 ((text.take (size - 1) ++ [nul]).take size) (by
    rw [Nat.zero_add, List.length_take]
    exact Nat.min_le_left _ _)

theorem put_toList {size : Nat} {text : List Char} {array : Block Char size}
    (room : text.length < size) :
    (put text array).toList = text ++ nul :: array.toList.drop (text.length + 1) := by
  have whole : text.take (size - 1) = text := List.take_of_length_le (by omega)
  have written : (text ++ [nul]).take size = text ++ [nul] :=
    List.take_of_length_le (by rw [List.length_append]; exact room)
  show _ ++ (text.take (size - 1) ++ [nul]).take size ++ _ = _
  rw [whole, written]
  simp

theorem cString_put {size : Nat} {text : List Char} {array : Block Char size}
    (room : text.length < size) (plain : nul ∉ text) :
    cString (put text array).toList = some (String.ofList text) := by
  rw [put_toList room, cString_append plain]

end UcxPlayground.Text
