import Mathlib.Algebra.Group.Int.Defs
import Mathlib.Algebra.Group.Nat.Defs

/-!
# Options of `ucp_hello_world`

What the option parser leaves in the variables that the program reads, and the
conversion to `int` that several lengths go through.
-/

set_option autoImplicit false

namespace UcxPlayground.HelloWorld

/-- `enum ucp_test_mode_t` -/
inductive TestMode where
  | probe
  | wait
  | eventfd
  deriving DecidableEq, Repr

/-- `failure_mode_t` -/
inductive FailureMode where
  | none
  | send
  | recv
  | keepalive
  deriving DecidableEq, Repr

/-- The value of an `int` that a 64-bit number is assigned to. -/
def toInt (value : Int) : Int :=
  (BitVec.ofInt 32 value).toInt

theorem toInt_of_small {value : Int} (low : -(2 ^ 31) ≤ value) (high : value < 2 ^ 31) :
    toInt value = value := by
  rw [toInt, BitVec.toInt_ofInt, Int.bmod_eq_of_le (by omega) (by omega)]

theorem toInt_lt (value : Int) : toInt value < 2 ^ 31 :=
  BitVec.toInt_lt

/-- Two numbers are the same `int` when they agree in its bits. -/
theorem toInt_eq_iff {value other : Int} :
    toInt value = toInt other ↔ value % 2 ^ 32 = other % 2 ^ 32 := by
  have range := Int.emod_lt_of_pos value (show (0 : Int) < 2 ^ 32 by decide)
  rw [toInt, toInt, BitVec.toInt_ofInt, BitVec.toInt_ofInt]
  constructor
  · intro same
    rw [Int.bmod_def, Int.bmod_def] at same
    split at same <;> split at same <;> omega
  · intro same
    rw [← Int.emod_bmod, ← @Int.emod_bmod other]
    exact congrArg (Int.bmod · _) same

theorem toInt_nonneg_iff (value : Nat) : 0 ≤ toInt value ↔ value % 2 ^ 32 < 2 ^ 31 := by
  rw [toInt, BitVec.toInt_ofInt, Int.bmod_def]
  split <;> omega

theorem toInt_toNat {value : Nat} (nonneg : 0 ≤ toInt value) :
    (toInt value).toNat = value % 2 ^ 32 := by
  have small := (toInt_nonneg_iff value).mp nonneg
  rw [toInt, BitVec.toInt_ofInt, Int.bmod_def]
  split <;> omega

theorem toInt_natCast_le (value : Nat) : toInt value ≤ value := by
  by_cases small : (value : Int) < 2 ^ 31
  · exact Int.le_of_eq (toInt_of_small (by omega) small)
  · have bounded := toInt_lt value
    omega

end UcxPlayground.HelloWorld
