import UcxPlayground.Bytes.ByteOrder
import UcxPlayground.Text.CString

/-!
# Dotted-quad text

The canonical text of an IPv4 address: its four bytes as decimal numbers without
leading zeros, with dots between them. Nothing here mentions a particular program.
-/

set_option autoImplicit false

namespace UcxPlayground.Text

open Bytes

def quadParts (address : BitVec 32) : List String :=
  (ByteOrder.big.encode 4 address.toNat).map fun byte => byte.toNat.repr

def dottedQuad (address : BitVec 32) : String :=
  ".".intercalate (quadParts address)

def Canonical (text : String) : Prop :=
  ∃ address, text = dottedQuad address

/-- The address that the numbers in the text make, if the text is its canonical one. -/
def parseQuad (text : String) : Option (BitVec 32) :=
  let numbers := (text.toList.splitOn '.').map fun part => Nat.ofDigitChars 10 part 0
  let address := BitVec.ofNat 32 (ByteOrder.big.decode (numbers.map (BitVec.ofNat 8)))
  if text = dottedQuad address then some address else none

section Intercalate

variable {Item : Type*} {separator item : Item} {parts : List (List Item)} {bound : Nat}

theorem mem_intercalate (member : item ∈ [separator].intercalate parts) :
    item = separator ∨ ∃ part ∈ parts, item ∈ part := by
  induction parts with
  | nil => simp at member
  | cons part rest ih =>
      by_cases last : rest = []
      · subst last
        rw [List.intercalate_singleton] at member
        exact .inr ⟨part, List.mem_cons_self, member⟩
      · rw [List.intercalate_cons_of_ne_nil last, List.mem_append, List.mem_append] at member
        rcases member with (here | separates) | later
        · exact .inr ⟨part, List.mem_cons_self, here⟩
        · exact .inl (List.mem_singleton.mp separates)
        · rcases ih later with same | ⟨other, inside, found⟩
          · exact .inl same
          · exact .inr ⟨other, List.mem_cons_of_mem _ inside, found⟩

theorem length_intercalate_lt (nonempty : parts ≠ [])
    (short : ∀ part ∈ parts, part.length ≤ bound) :
    ([separator].intercalate parts).length < parts.length * (bound + 1) := by
  induction parts with
  | nil => exact absurd rfl nonempty
  | cons part rest ih =>
      have here := short part List.mem_cons_self
      rw [List.length_cons, Nat.succ_mul]
      by_cases last : rest = []
      · subst last
        rw [List.intercalate_singleton, List.length_nil]
        omega
      · have later := ih last fun other inside => short other (List.mem_cons_of_mem _ inside)
        rw [List.intercalate_cons_of_ne_nil last]
        simp only [List.length_append, List.length_singleton]
        omega

end Intercalate

theorem isDigit_of_mem_repr {number : Nat} {char : Char} (inside : char ∈ number.repr.toList) :
    char.isDigit := by
  rw [Nat.toList_repr] at inside
  exact Nat.isDigit_of_mem_toDigits (by decide) (by decide) inside

theorem nul_not_mem_repr (number : Nat) : nul ∉ number.repr.toList := by
  intro inside
  exact absurd (isDigit_of_mem_repr inside) (by decide)

section Parts

variable {address : BitVec 32} {part : List Char}

theorem toList_dottedQuad :
    (dottedQuad address).toList = ['.'].intercalate ((quadParts address).map String.toList) :=
  String.toList_intercalate

theorem length_quadParts : ((quadParts address).map String.toList).length = 4 := by
  rw [List.length_map, quadParts, List.length_map, ByteOrder.length_encode]

theorem quadParts_ne_nil : (quadParts address).map String.toList ≠ [] := by
  apply List.ne_nil_of_length_pos
  rw [length_quadParts]
  decide

theorem mem_quadParts (member : part ∈ (quadParts address).map String.toList) :
    ∃ byte : Byte, part = byte.toNat.repr.toList := by
  obtain ⟨text, listed, rfl⟩ := List.mem_map.mp member
  obtain ⟨byte, _, rfl⟩ := List.mem_map.mp listed
  exact ⟨byte, rfl⟩

theorem isDigit_of_mem_quadParts (member : part ∈ (quadParts address).map String.toList)
    {char : Char} (inside : char ∈ part) : char.isDigit := by
  obtain ⟨byte, rfl⟩ := mem_quadParts member
  exact isDigit_of_mem_repr inside

theorem length_of_mem_quadParts (member : part ∈ (quadParts address).map String.toList) :
    part.length ≤ 3 := by
  obtain ⟨byte, rfl⟩ := mem_quadParts member
  rw [String.length_toList, Nat.length_repr_le_iff (by decide)]
  have small := byte.isLt
  omega

/-- A canonical text has at most 15 characters. -/
theorem length_dottedQuad_lt (address : BitVec 32) : (dottedQuad address).length < 16 := by
  have length := @length_intercalate_lt _ '.' _ 3 (@quadParts_ne_nil address)
    fun _ member => length_of_mem_quadParts member
  rwa [← toList_dottedQuad, length_quadParts] at length

theorem nul_not_mem_dottedQuad (address : BitVec 32) : nul ∉ (dottedQuad address).toList := by
  intro member
  rw [toList_dottedQuad] at member
  rcases mem_intercalate member with same | ⟨part, listed, inside⟩
  · exact absurd same (by decide)
  · exact absurd (isDigit_of_mem_quadParts listed inside) (by decide)

theorem splitOn_dottedQuad (address : BitVec 32) :
    (dottedQuad address).toList.splitOn '.' = (quadParts address).map String.toList := by
  rw [toList_dottedQuad]
  apply List.splitOn_intercalate
  · intro part listed dot
    exact absurd (isDigit_of_mem_quadParts listed dot) (by decide)
  · exact quadParts_ne_nil

/-- The text determines the address. -/
theorem parseQuad_dottedQuad (address : BitVec 32) :
    parseQuad (dottedQuad address) = some address := by
  have number (byte : Byte) : Nat.ofDigitChars 10 byte.toNat.repr.toList 0 = byte.toNat := by
    rw [Nat.toList_repr, Nat.ofDigitChars_toDigits (by decide) (by decide)]
  have numbers : ((dottedQuad address).toList.splitOn '.').map
      (fun part => Nat.ofDigitChars 10 part 0) =
        (ByteOrder.big.encode 4 address.toNat).map BitVec.toNat := by
    rw [splitOn_dottedQuad, quadParts, List.map_map, List.map_map]
    simp only [Function.comp_def, number]
  have bytes : ((ByteOrder.big.encode 4 address.toNat).map BitVec.toNat).map (BitVec.ofNat 8) =
      ByteOrder.big.encode 4 address.toNat := by
    simp [Function.comp_def]
  have decoded := @ByteOrder.decode_encode .big 4 _ address.isLt
  simp only [parseQuad, numbers, bytes, decoded, BitVec.ofNat_toNat, BitVec.setWidth_eq, if_true]

end Parts

theorem Canonical.length_lt {text : String} (canonical : Canonical text) : text.length < 16 := by
  obtain ⟨address, rfl⟩ := canonical
  exact length_dottedQuad_lt address

theorem Canonical.plain {text : String} (canonical : Canonical text) : nul ∉ text.toList := by
  obtain ⟨address, rfl⟩ := canonical
  exact nul_not_mem_dottedQuad address

theorem parseQuad_eq_some_iff {text : String} {address : BitVec 32} :
    parseQuad text = some address ↔ text = dottedQuad address := by
  constructor
  · intro parsed
    simp only [parseQuad] at parsed
    split at parsed
    · cases parsed
      assumption
    · cases parsed
  · intro same
    rw [same, parseQuad_dottedQuad]

theorem canonical_iff {text : String} : Canonical text ↔ (parseQuad text).isSome := by
  simp only [Canonical, Option.isSome_iff_exists, parseQuad_eq_some_iff]

instance (text : String) : Decidable (Canonical text) :=
  decidable_of_iff _ canonical_iff.symm

end UcxPlayground.Text
