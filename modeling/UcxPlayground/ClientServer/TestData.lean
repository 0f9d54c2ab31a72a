import UcxPlayground.ClientServer.Buffers

/-!
# The data that is sent

`generate_test_string` takes the length as an `int`. A buffer of `2 ^ 32` bytes or
more is filled up to what is left of its length there, or `calloc` fails.
-/

set_option autoImplicit false

namespace UcxPlayground.ClientServer.Buffers

open Bytes Resource

/-- The whole buffer is a test string. -/
structure TestData (buffer : Buffer) : Prop where
  letters : ∀ i, i + 1 < buffer.length →
    buffer[i]? = some (some (BitVec.ofNat 8 ('A'.toNat + i % 26)))
  terminated : buffer[buffer.length - 1]? = some (some 0)
  written : buffer.Written

/-- Either no byte is left over of a buffer of `length` bytes, or `fill_buffer` fails
for one of the `count` buffers. -/
def Fillable (allocations : Allocations) (length count : Nat) : Prop :=
  length < 2 ^ 32 ∨ 2 ^ 31 ≤ length % 2 ^ 32 ∨ ∃ idx < count, allocations.scratch idx = false

section

variable {program : Program} {allocations : Allocations} {length idx : Nat}

theorem length_testString (nonneg : 0 ≤ HelloWorld.toInt length) :
    (testString length).length = length % 2 ^ 32 := by
  simp [testString, HelloWorld.toInt_toNat nonneg]

theorem testData_testString (positive : 1 ≤ length) (nonneg : 0 ≤ HelloWorld.toInt length)
    (small : length < 2 ^ 32) : TestData ((testString length).map some) := by
  have size : (HelloWorld.toInt length).toNat = length :=
    (HelloWorld.toInt_toNat nonneg).trans (Nat.mod_eq_of_lt small)
  have string : testString length = (List.range length).map (HelloWorld.testByte length) := by
    simp only [testString, size]
  rw [string]
  constructor
  · intro i inside
    simp only [List.length_map, List.length_range] at inside
    have index : i < length := Nat.lt_of_succ_lt inside
    simp [index, HelloWorld.testByte, inside]
  · have index : length - 1 < length := Nat.sub_lt positive Nat.one_pos
    have last : ¬ length - 1 + 1 < length := by omega
    simp [index, HelloWorld.testByte, last]
  · simp [Buffer.Written]

/-- One copy of a test string leaves no byte of the buffer out when the length was
not narrowed. -/
theorem testData_copy_iff (positive : 1 ≤ length) (nonneg : 0 ≤ HelloWorld.toInt length) :
    TestData ((Buffer.fresh length).copy (testString length)) ↔ length < 2 ^ 32 := by
  have copied := length_testString nonneg
  constructor
  · intro data
    have whole := Buffer.written_copy_fresh_iff.mp data.written
    omega
  · intro small
    have fills : (testString length).length = (Buffer.fresh length).length := by
      rw [copied, Buffer.length_fresh, Nat.mod_eq_of_lt small]
    rw [Buffer.copy_whole fills]
    exact testData_testString positive nonneg small

theorem length_testString_le_fresh (length : Nat) :
    (testString length).length ≤ (Buffer.fresh length).length := by
  rw [Buffer.length_fresh]
  exact length_testString_le length

theorem replicate_testData_iff {count : Nat} (positive : 1 ≤ count)
    (nonneg : 0 ≤ HelloWorld.toInt length) :
    (∀ buffer ∈ List.replicate count ((Buffer.fresh length).copy (testString length)),
      1 ≤ buffer.length → TestData buffer) ↔ length < 2 ^ 32 := by
  have shape : ((Buffer.fresh length).copy (testString length)).length = length :=
    (Buffer.length_copy (length_testString_le_fresh length)).trans (Buffer.length_fresh length)
  rcases Nat.eq_zero_or_pos length with rfl | nonempty
  · refine iff_of_true (fun buffer member counted => ?_) (by decide)
    rw [List.eq_of_mem_replicate member, shape] at counted
    cases counted
  · rw [← testData_copy_iff nonempty nonneg]
    constructor
    · intro all
      exact all _ (List.mem_replicate.mpr ⟨Nat.ne_of_gt positive, rfl⟩) (shape.symm ▸ nonempty)
    · intro data buffer member _
      rw [List.eq_of_mem_replicate member]
      exact data

theorem fillable_iff {count : Nat} (succeeds : ∀ i < count, allocations.Callocs length i)
    (positive : 1 ≤ count) : Fillable allocations length count ↔ length < 2 ^ 32 := by
  have small := (HelloWorld.toInt_nonneg_iff length).mp (succeeds 0 positive).1
  refine ⟨fun fillable => ?_, .inl⟩
  rcases fillable with narrow | negative | ⟨idx, inside, fails⟩
  · exact narrow
  · exact absurd small (Nat.not_lt.mpr negative)
  · exact absurd (fails.symm.trans (succeeds idx inside).2) (by decide)

theorem fillable_of_not_callocs {count : Nat} (inside : idx < count)
    (fails : ¬ allocations.Callocs length idx) : Fillable allocations length count := by
  rcases not_and_or.mp fails with negative | refused
  · rw [HelloWorld.toInt_nonneg_iff] at negative
    exact .inr (.inl (Nat.le_of_not_lt negative))
  · exact .inr (.inr ⟨idx, inside, Bool.not_eq_true _ ▸ refused⟩)

end

/-- `fill_buffer` leaves test data in every buffer that `buffer_malloc` made, or fails,
exactly when no buffer is too long for an `int`, or one of the strings cannot be made. -/
theorem filled_testData_iff {program : Program} {opts : List Arguments.ClientServer.Opt}
    {allocations : Allocations} {iov : Iov} {ledger later : Ledger Owned}
    (parsed : Arguments.ClientServer.parseCmd program.haveCuda opts = .ok program.options)
    (copies : program.CudaCopies)
    (allocated : (bufferMalloc program allocations program.iovCnt [] ledger).1 = some iov) :
    (∀ filled, (fillBuffer program allocations 0 iov later).1 = some filled →
        ∀ buffer ∈ filled, 1 ≤ buffer.length → TestData buffer) ↔
      Fillable allocations program.testStringLength program.iovCnt := by
  obtain ⟨_, counted⟩ := Arguments.ClientServer.parseCmd_admits parsed
  have positive : 1 ≤ program.iovCnt := Int.lt_toNat.mpr counted
  have supported := bufferMalloc_isSome_iff.mp (Option.isSome_of_eq_some allocated) 0 positive
  obtain rfl := bufferMalloc_eq allocated
  rw [List.nil_append]
  have same : ∀ buffer ∈ List.replicate program.iovCnt (Buffer.fresh program.testStringLength),
      buffer.length = program.testStringLength := by
    simp
  have copied := copies.copies supported _ _ (length_testString_le_fresh program.testStringLength)
  by_cases succeeds : ∀ i < program.iovCnt, allocations.Callocs program.testStringLength i
  · have filled : (fillBuffer program allocations 0 _ later).1 = _ :=
      fillBuffer_some same (by simpa using succeeds)
    rw [List.map_replicate, copied] at filled
    rw [fillable_iff succeeds positive, filled]
    simp only [Option.some.injEq, forall_eq']
    exact replicate_testData_iff positive (succeeds 0 positive).1
  · simp only [not_forall] at succeeds
    obtain ⟨i, inside, fails⟩ := succeeds
    have failed : (fillBuffer program allocations 0 _ later).1 = none :=
      fillBuffer_none same (by simpa using inside) (by simpa using fails)
    refine iff_of_true ?_ (fillable_of_not_callocs inside fails)
    intro filled returned
    cases failed.symm.trans returned

theorem threeBytes_filled : TestData [some 65, some 66, some 0] :=
  (@filled_testData_iff (hostProgram 3 2) [.s 3, .v 2] allSucceed [.fresh 3, .fresh 3] [] []
    (by decide) (hostProgram_cudaCopies 3 2) (by decide)).mpr (.inl (by decide))
    [[some 65, some 66, some 0], [some 65, some 66, some 0]] (by decide) _ (by simp) (by decide)

/-- Buffers of 4 GiB: the string has no byte, and `fill_buffer` returns 0. -/
theorem longBuffer_unfilled :
    Arguments.ClientServer.parseCmd false [.s 4294967296] =
      .ok (hostProgram 4294967296 1).options ∧
    (bufferMalloc (hostProgram 4294967296 1) allSucceed 1 [] []).1 = some [.fresh 4294967296] ∧
    ∃ buffer, (fillBuffer (hostProgram 4294967296 1) allSucceed 0 [.fresh 4294967296] []).1 =
        some [buffer] ∧
      1 ≤ buffer.length ∧ ¬ TestData buffer := by
  have callocs : allSucceed.Callocs 4294967296 0 := ⟨by decide, rfl⟩
  have filled : (fillBuffer (hostProgram 4294967296 1) allSucceed 0 [.fresh 4294967296] []).1 =
      some [(Buffer.fresh 4294967296).copy (testString 4294967296)] :=
    fillBuffer_some (by simp) (by simpa using callocs)
  refine ⟨by decide, rfl, _, filled, ?_, ?_⟩
  · rw [Buffer.length_copy (length_testString_le_fresh _), Buffer.length_fresh]
    decide
  · rw [testData_copy_iff (by decide) callocs.1]
    decide

end UcxPlayground.ClientServer.Buffers
