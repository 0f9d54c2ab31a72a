import UcxPlayground.Arguments.ClientServer
import UcxPlayground.Bytes.Buffer
import UcxPlayground.HelloWorld.Messages
import UcxPlayground.Resource.Pool

/-!
# The buffers of a transfer

`buffer_malloc`, `fill_buffer` and `buffer_free` of `ucp_client_server.c`, and
`fill_request_param`, which calls them. A function gets the ledger of what the
transfer has acquired and released so far, and returns it with its result.
-/

set_option autoImplicit false

namespace UcxPlayground.ClientServer.Buffers

open Bytes Resource

/-- The program as it was built, with the options that `parse_cmd` sets.
`cudaMemcpy` is what that call leaves at its destination. -/
structure Program where
  haveCuda : Bool
  cudaMemcpy : Buffer → List Byte → Buffer
  options : Arguments.ClientServer.Variables

namespace Program

/-- `parse_cmd` admits no negative value. -/
def iovCnt (program : Program) : Nat :=
  program.options.iovCnt.toNat

def testStringLength (program : Program) : Nat :=
  program.options.testStringLength.toNat

/-- A `cudaMalloc` that fails is left out: it leaves the pointer indeterminate. -/
def memTypeMalloc (program : Program) (length : Nat) (allocated : Bool) : Option Buffer :=
  match Arguments.memTypeMalloc program.haveCuda program.options.testMemType with
  | some .malloc => if allocated then some (.fresh length) else none
  | some _ => some (.fresh length)
  | none => none

def memTypeMemcpy (program : Program) (buffer : Buffer) (bytes : List Byte) : Buffer :=
  match Arguments.memTypeMemcpy program.haveCuda program.options.testMemType with
  | some .memcpy => buffer.copy bytes
  | some _ => program.cudaMemcpy buffer bytes
  | none => buffer

end Program

/-- What a transfer acquires: a buffer of its `iov`, the `tmp_str` that a buffer is
filled from, the request that UCX returns, and the operation while it is in flight. -/
inductive Owned where
  | buffer (idx : Nat)
  | scratch (idx : Nat)
  | request
  | operation
  deriving DecidableEq, Repr

/-- Which allocations succeed: `malloc` in `buffer_malloc` and `calloc` in
`generate_test_string`. -/
structure Allocations where
  buffers : Nat → Bool
  scratch : Nat → Bool

/-- The buffers of an `iov` in which no pointer is `NULL`. -/
abbrev Iov := List Buffer

/-- What the argument of a post points to. -/
inductive Msg where
  | buffer (idx : Nat)
  | iov
  deriving DecidableEq, Repr

/-- A `ucp_datatype_t`. -/
inductive Datatype where
  | contig (size : Nat)
  | iov
  deriving DecidableEq, Repr

/-- The memory that is passed to a post. -/
structure RequestParam where
  msg : Msg
  msgLength : Nat
  datatype : Datatype
  deriving DecidableEq, Repr

section Functions

variable (program : Program) (allocations : Allocations)

/-- `buffer_free` from `idx` on; `none` is a pointer that is still `NULL`. -/
def bufferFree : (idx : Nat) → List (Option Buffer) → Ledger Owned → Ledger Owned
  | _, [], ledger => ledger
  | idx, none :: rest, ledger => bufferFree (idx + 1) rest ledger
  | idx, some _ :: rest, ledger =>
      match Arguments.memTypeFree program.haveCuda program.options.testMemType with
      | some _ => bufferFree (idx + 1) rest (.release (.buffer idx) :: ledger)
      | none => bufferFree (idx + 1) rest ledger

/-- The loop of `buffer_malloc` behind the buffers in `iov`. The others are still
`NULL` when it calls `buffer_free`. -/
def bufferMalloc : (remaining : Nat) → Iov → Ledger Owned → Option Iov × Ledger Owned
  | 0, iov, ledger => (some iov, ledger)
  | remaining + 1, iov, ledger =>
      match program.memTypeMalloc program.testStringLength (allocations.buffers iov.length) with
      | some buffer =>
          bufferMalloc remaining (iov ++ [buffer]) (.acquire (.buffer iov.length) :: ledger)
      | none =>
          (none, bufferFree program 0 (iov.map some ++ List.replicate (remaining + 1) none) ledger)

/-- The argument `size` is an `int`. -/
def generateTestString (idx : Nat) (buffer : Buffer) (ledger : Ledger Owned) :
    Option Buffer × Ledger Owned :=
  match HelloWorld.generateTestString (HelloWorld.toInt buffer.length)
      (allocations.scratch idx) with
  | none => (none, ledger)
  | some string =>
      (some (program.memTypeMemcpy buffer string),
        .release (.scratch idx) :: .acquire (.scratch idx) :: ledger)

def fillBuffer : (idx : Nat) → Iov → Ledger Owned → Option Iov × Ledger Owned
  | _, [], ledger => (some [], ledger)
  | idx, buffer :: rest, ledger =>
      match generateTestString program allocations idx buffer ledger with
      | (none, ledger) => (none, ledger)
      | (some filled, ledger) =>
          let (others, ledger) := fillBuffer (idx + 1) rest ledger
          (others.map (filled :: ·), ledger)

def requestParam (iov : Iov) : RequestParam :=
  if program.iovCnt = 1 then
    { msg := .buffer 0, msgLength := (iov.headD []).length, datatype := .contig 1 }
  else
    { msg := .iov, msgLength := program.iovCnt, datatype := .iov }

def fillRequestParam (isClient : Bool) (ledger : Ledger Owned) :
    Option (Iov × RequestParam) × Ledger Owned :=
  match bufferMalloc program allocations program.iovCnt [] ledger with
  | (none, ledger) => (none, ledger)
  | (some iov, ledger) =>
      if isClient then
        match fillBuffer program allocations 0 iov ledger with
        | (none, ledger) => (none, bufferFree program 0 (iov.map some) ledger)
        | (some filled, ledger) => (some (filled, requestParam program filled), ledger)
      else (some (iov, requestParam program iov), ledger)

end Functions

/-- The ways through `fill_request_param`. -/
inductive FillRequest (program : Program) (allocations : Allocations) (isClient : Bool)
    (ledger : Ledger Owned) : Option (Iov × RequestParam) × Ledger Owned → Prop where
  | unallocated (later : Ledger Owned)
      (malloc : bufferMalloc program allocations program.iovCnt [] ledger = (none, later)) :
      FillRequest program allocations isClient ledger (none, later)
  | unfilled (iov : Iov) (later final : Ledger Owned) (client : isClient = true)
      (malloc : bufferMalloc program allocations program.iovCnt [] ledger = (some iov, later))
      (fill : fillBuffer program allocations 0 iov later = (none, final)) :
      FillRequest program allocations isClient ledger
        (none, bufferFree program 0 (iov.map some) final)
  | filled (iov filled : Iov) (later final : Ledger Owned) (client : isClient = true)
      (malloc : bufferMalloc program allocations program.iovCnt [] ledger = (some iov, later))
      (fill : fillBuffer program allocations 0 iov later = (some filled, final)) :
      FillRequest program allocations isClient ledger
        (some (filled, requestParam program filled), final)
  | receiver (iov : Iov) (later : Ledger Owned) (server : isClient = false)
      (malloc : bufferMalloc program allocations program.iovCnt [] ledger = (some iov, later)) :
      FillRequest program allocations isClient ledger
        (some (iov, requestParam program iov), later)

theorem fillRequestParam_cases {program : Program} {allocations : Allocations} {isClient : Bool}
    {ledger : Ledger Owned} {result : Option (Iov × RequestParam) × Ledger Owned}
    (returned : fillRequestParam program allocations isClient ledger = result) :
    FillRequest program allocations isClient ledger result := by
  subst returned
  unfold fillRequestParam
  split
  next later malloc => exact .unallocated later malloc
  next iov later malloc =>
    cases isClient with
    | false => exact .receiver iov later rfl malloc
    | true =>
        rw [if_pos rfl]
        split
        next final fill => exact .unfilled iov later final rfl malloc fill
        next filled final fill => exact .filled iov filled later final rfl malloc fill

/-- The copies of the CUDA runtime are copies. -/
def Program.CudaCopies (program : Program) : Prop :=
  ∀ buffer bytes, bytes.length ≤ buffer.length →
    program.cudaMemcpy buffer bytes = buffer.copy bytes

/-- `mem_type_memcpy` copies, whatever the memory. -/
def Program.Copies (program : Program) : Prop :=
  ∀ buffer bytes, bytes.length ≤ buffer.length →
    program.memTypeMemcpy buffer bytes = buffer.copy bytes

section Values

variable {program : Program} {allocations : Allocations} {ledger : Ledger Owned}
  {iov buffers : Iov} {buffer : Buffer} {length remaining idx : Nat}

theorem memTypeMalloc_eq {allocated : Bool}
    (returned : program.memTypeMalloc length allocated = some buffer) :
    buffer = .fresh length := by
  unfold Program.memTypeMalloc at returned
  split at returned
  · split at returned
    · exact (Option.some.inj returned).symm
    · cases returned
  · exact (Option.some.inj returned).symm
  · cases returned

theorem memTypeMalloc_host (host : program.options.testMemType = .host) (allocated : Bool) :
    program.memTypeMalloc length allocated = if allocated then some (.fresh length) else none := by
  simp [Program.memTypeMalloc, host, Arguments.memTypeMalloc, Arguments.dispatch]

theorem Program.copies_of_host (host : program.options.testMemType = .host) : program.Copies := by
  intro buffer bytes _
  simp only [Program.memTypeMemcpy, host]
  rfl

/-- Bytes are copied only to memory of a type that could be allocated. -/
theorem Program.CudaCopies.copies {allocated : Bool} (cudaCopies : program.CudaCopies)
    (returned : (program.memTypeMalloc length allocated).isSome) : program.Copies := by
  intro buffer bytes room
  have copied := cudaCopies buffer bytes room
  unfold Program.memTypeMalloc Arguments.memTypeMalloc Arguments.dispatch at returned
  unfold Program.memTypeMemcpy Arguments.memTypeMemcpy Arguments.dispatch
  cases memType : program.options.testMemType with
  | host => rfl
  | cuda | cudaManaged =>
      cases haveCuda : program.haveCuda with
      | true => exact copied
      | false => simp [memType, haveCuda] at returned
  | last => simp [memType] at returned

/-- All buffers that `buffer_malloc` returns have the same length, and nothing was
written to them. -/
theorem bufferMalloc_eq
    (returned : (bufferMalloc program allocations remaining iov ledger).1 = some buffers) :
    buffers = iov ++ List.replicate remaining (.fresh program.testStringLength) := by
  induction remaining generalizing iov ledger with
  | zero => simpa [bufferMalloc] using returned.symm
  | succ remaining ih =>
      cases allocated : program.memTypeMalloc program.testStringLength
          (allocations.buffers iov.length) with
      | none => simp [bufferMalloc, allocated] at returned
      | some buffer =>
          simp only [bufferMalloc, allocated] at returned
          rw [ih returned, memTypeMalloc_eq allocated, List.append_assoc, List.singleton_append,
            List.replicate_succ]

theorem bufferMalloc_isSome_iff :
    (bufferMalloc program allocations remaining iov ledger).1.isSome ↔
      ∀ i < remaining, (program.memTypeMalloc program.testStringLength
        (allocations.buffers (iov.length + i))).isSome := by
  induction remaining generalizing iov ledger with
  | zero => simp [bufferMalloc]
  | succ remaining ih =>
      rw [Nat.forall_lt_succ_left]
      cases allocated : program.memTypeMalloc program.testStringLength
          (allocations.buffers iov.length) with
      | none => simp [bufferMalloc, allocated]
      | some buffer => simp [bufferMalloc, allocated, ih, Nat.add_assoc, Nat.add_comm 1]

/-- `calloc` of a negative `int` fails. -/
def Allocations.Callocs (allocations : Allocations) (length idx : Nat) : Prop :=
  0 ≤ HelloWorld.toInt length ∧ allocations.scratch idx

/-- What is copied to a buffer: the length is an `int` on the way. -/
def testString (length : Nat) : List Byte :=
  let size := (HelloWorld.toInt length).toNat
  (List.range size).map (HelloWorld.testByte size)

theorem length_testString_le (length : Nat) : (testString length).length ≤ length := by
  have narrowed := HelloWorld.toInt_natCast_le length
  simp only [testString, List.length_map, List.length_range]
  omega

theorem generateTestString_none (length_eq : buffer.length = length)
    (fails : ¬ allocations.Callocs length idx) :
    generateTestString program allocations idx buffer ledger = (none, ledger) := by
  subst length_eq
  have refused : HelloWorld.generateTestString (HelloWorld.toInt buffer.length)
      (allocations.scratch idx) = none :=
    if_pos (not_and_or.mp fails |>.imp_left Int.not_le.mp)
  simp only [generateTestString, refused]

theorem generateTestString_some (length_eq : buffer.length = length)
    (succeeds : allocations.Callocs length idx) :
    generateTestString program allocations idx buffer ledger =
      (some (program.memTypeMemcpy buffer (testString length)),
        .release (.scratch idx) :: .acquire (.scratch idx) :: ledger) := by
  subst length_eq
  have generated : HelloWorld.generateTestString (HelloWorld.toInt buffer.length)
      (allocations.scratch idx) = some (testString buffer.length) :=
    if_neg fun refused => refused.elim (Int.not_lt.mpr succeeds.1) (absurd succeeds.2)
  simp only [generateTestString, generated]

theorem fillBuffer_some (same : ∀ buffer ∈ iov, buffer.length = length)
    (succeeds : ∀ i < iov.length, allocations.Callocs length (idx + i)) :
    (fillBuffer program allocations idx iov ledger).1 =
      some (iov.map (program.memTypeMemcpy · (testString length))) := by
  induction iov generalizing idx ledger with
  | nil => rfl
  | cons buffer rest ih =>
      obtain ⟨first, later⟩ := Nat.forall_lt_succ_left.mp succeeds
      obtain ⟨here, others⟩ := List.forall_mem_cons.mp same
      rw [Nat.add_zero] at first
      have remaining : ∀ i < rest.length, allocations.Callocs length (idx + 1 + i) := by
        simpa [Nat.add_assoc, Nat.add_comm 1] using later
      simp only [fillBuffer, generateTestString_some here first, ih others remaining,
        Option.map_some, List.map_cons]

theorem fillBuffer_none (same : ∀ buffer ∈ iov, buffer.length = length) {i : Nat}
    (inside : i < iov.length) (fails : ¬ allocations.Callocs length (idx + i)) :
    (fillBuffer program allocations idx iov ledger).1 = none := by
  induction iov generalizing idx i ledger with
  | nil => cases inside
  | cons buffer rest ih =>
      obtain ⟨here, others⟩ := List.forall_mem_cons.mp same
      by_cases first : allocations.Callocs length idx
      · cases i with
        | zero => exact absurd first fails
        | succ i =>
            have later : ¬ allocations.Callocs length (idx + 1 + i) := by
              rwa [Nat.add_assoc, Nat.add_comm 1]
            simp only [fillBuffer, generateTestString_some here first,
              ih others (Nat.lt_of_succ_lt_succ inside) later, Option.map_none]
      · simp only [fillBuffer, generateTestString_none here first]

theorem fillBuffer_isSome_iff (same : ∀ buffer ∈ iov, buffer.length = length) :
    (fillBuffer program allocations idx iov ledger).1.isSome ↔
      ∀ i < iov.length, allocations.Callocs length (idx + i) := by
  by_cases succeeds : ∀ i < iov.length, allocations.Callocs length (idx + i)
  · exact iff_of_true (by simp [fillBuffer_some same succeeds]) succeeds
  · refine iff_of_false ?_ succeeds
    simp only [not_forall] at succeeds
    obtain ⟨i, inside, fails⟩ := succeeds
    simp [fillBuffer_none same inside fails]

end Values

/-- A build without CUDA whose buffers have `length` bytes. -/
def hostProgram (length iovCnt : Int) : Program where
  haveCuda := false
  cudaMemcpy := Buffer.copy
  options := { Arguments.ClientServer.Variables.initial with
    testStringLength := length
    iovCnt := iovCnt }

def allSucceed : Allocations where
  buffers _ := true
  scratch _ := true

theorem hostProgram_cudaCopies (length iovCnt : Int) : (hostProgram length iovCnt).CudaCopies :=
  fun _ _ _ => rfl

end UcxPlayground.ClientServer.Buffers
