/-!
# What UCX returns

The result types of the UCX calls, shared by the programs that make them.
-/

set_option autoImplicit false

namespace UcxPlayground

/-- A `ucs_status_t`. -/
inductive UcsStatus where
  | ok
  | error (code : Nat)
  deriving DecidableEq, Repr

/-- The `ucs_status_ptr_t` that a post returns. -/
inductive StatusPtr where
  /-- `NULL`: done in place; a receive has written `length` back. -/
  | null (length : Nat)
  | error (code : Nat)
  | request
  deriving DecidableEq, Repr

/-- `UCS_ERR_UNSUPPORTED`. -/
def ucsErrUnsupported : Int := -22

end UcxPlayground
