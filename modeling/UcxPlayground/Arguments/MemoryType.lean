import UcxPlayground.Arguments.Parser

/-!
# Memory types

The options and the memory functions of `hello_world_util.h`, which both C
programs include. `haveCuda` says whether the build defines `HAVE_CUDA`.
-/

set_option autoImplicit false

namespace UcxPlayground.Arguments

/-- The values that `test_mem_type` can have; `last` is `UCS_MEMORY_TYPE_LAST`. -/
inductive MemoryType where
  | host
  | cuda
  | cudaManaged
  | last
  deriving DecidableEq, Repr

inductive Routine where
  | malloc
  | cudaMalloc
  | cudaMallocManaged
  | free
  | cudaFree
  | memcpy
  | cudaMemcpy
  | memset
  | cudaMemset
  deriving DecidableEq, Repr

section Dispatch

variable (haveCuda : Bool)

/-- The `switch` of a memory function; `none` is its `default` branch. -/
def dispatch (host cuda cudaManaged : Routine) : MemoryType → Option Routine
  | .host => some host
  | .cuda => if haveCuda then some cuda else none
  | .cudaManaged => if haveCuda then some cudaManaged else none
  | .last => none

def memTypeMalloc : MemoryType → Option Routine :=
  dispatch haveCuda .malloc .cudaMalloc .cudaMallocManaged

def memTypeFree : MemoryType → Option Routine :=
  dispatch haveCuda .free .cudaFree .cudaFree

def memTypeMemcpy : MemoryType → Option Routine :=
  dispatch haveCuda .memcpy .cudaMemcpy .cudaMemcpy

def memTypeMemset : MemoryType → Option Routine :=
  dispatch haveCuda .memset .cudaMemset .cudaMemset

/-- `check_mem_type_support`. It looks at the global variable, not at its
argument. -/
def checkMemTypeSupport (testMemType _memType : MemoryType) : Bool :=
  match testMemType with
  | .host => true
  | .cuda => haveCuda
  | .cudaManaged => haveCuda
  | .last => false

def parseMemType (testMemType : MemoryType) (optArg : String) : MemoryType :=
  if optArg = "host" then .host
  else if optArg = "cuda" ∧ checkMemTypeSupport haveCuda testMemType .cuda then .cuda
  else if optArg = "cuda-managed" ∧ checkMemTypeSupport haveCuda testMemType .cudaManaged then
    .cudaManaged
  else .last

/-- Every memory function has a case for the type. -/
def Supported (memType : MemoryType) : Prop :=
  (memTypeMalloc haveCuda memType).isSome ∧ (memTypeFree haveCuda memType).isSome ∧
    (memTypeMemcpy haveCuda memType).isSome ∧ (memTypeMemset haveCuda memType).isSome

instance (memType : MemoryType) : Decidable (Supported haveCuda memType) :=
  inferInstanceAs (Decidable (_ ∧ _ ∧ _ ∧ _))

end Dispatch

/-- A `-m` argument that names memory of a GPU. -/
def NamesCuda (optArg : String) : Prop :=
  optArg = "cuda" ∨ optArg = "cuda-managed"

instance (optArg : String) : Decidable (NamesCuda optArg) :=
  inferInstanceAs (Decidable (_ ∨ _))

theorem supported_host (haveCuda : Bool) : Supported haveCuda .host := by
  simp [Supported, memTypeMalloc, memTypeFree, memTypeMemcpy, memTypeMemset, dispatch]

theorem supported_of_cuda {memType : MemoryType} (named : memType ≠ .last) :
    Supported true memType := by
  cases memType with
  | last => exact absurd rfl named
  | host | cuda | cudaManaged => decide

theorem parseMemType_cuda {testMemType : MemoryType} (named : testMemType ≠ .last)
    (optArg : String) : parseMemType true testMemType optArg = parseMemType true .host optArg := by
  cases testMemType with
  | last => exact absurd rfl named
  | host | cuda | cudaManaged => rfl

theorem parseMemType_host {haveCuda : Bool} {testMemType : MemoryType} {optArg : String}
    (other : ¬ NamesCuda optArg) :
    parseMemType haveCuda testMemType optArg = if optArg = "host" then .host else .last := by
  rw [NamesCuda, not_or] at other
  simp [parseMemType, other]

/-- In a build without CUDA its types are accepted once, while the variable is
`host`. -/
theorem parseMemType_first {optArg : String} (named : NamesCuda optArg) :
    parseMemType false .host optArg = .cuda ∨ parseMemType false .host optArg = .cudaManaged := by
  rcases named with rfl | rfl
  · exact .inl (by decide)
  · exact .inr (by decide)

theorem parseMemType_again {testMemType : MemoryType} {optArg : String} (named : NamesCuda optArg)
    (current : testMemType = .cuda ∨ testMemType = .cudaManaged) :
    parseMemType false testMemType optArg = .last := by
  rcases named with rfl | rfl <;> rcases current with rfl | rfl <;> decide

end UcxPlayground.Arguments
