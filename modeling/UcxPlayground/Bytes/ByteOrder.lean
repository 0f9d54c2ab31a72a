import UcxPlayground.Bytes.Representation

/-!
# Byte order

Unsigned values as the bytes of a host of either byte order, and the conversion
to the order of the network. Nothing here mentions a particular program.
-/

set_option autoImplicit false

namespace UcxPlayground.Bytes

inductive ByteOrder where
  | little
  | big
  deriving DecidableEq, Repr

namespace ByteOrder

/-- The object representation of `value` in `width` bytes. -/
def encode (order : ByteOrder) (width value : Nat) : List Byte :=
  match order with
  | little => bytesOf width value
  | big => (bytesOf width value).reverse

def decode (order : ByteOrder) (bytes : List Byte) : Nat :=
  match order with
  | little => ofBytes bytes
  | big => ofBytes bytes.reverse

variable {order : ByteOrder} {width value : Nat}

@[simp] theorem length_encode : (order.encode width value).length = width := by
  cases order <;> simp [encode]

theorem decode_encode (fits : value < 256 ^ width) :
    order.decode (order.encode width value) = value := by
  cases order with
  | little => exact ofBytes_bytesOf fits
  | big =>
      rw [decode, encode, List.reverse_reverse]
      exact ofBytes_bytesOf fits

theorem encode_zero : order.encode width 0 = List.replicate width 0 := by
  have zeros : bytesOf width 0 = List.replicate width 0 := by
    induction width with
    | zero => rfl
    | succ width ih =>
        rw [bytesOf, ih, List.replicate_succ]
        rfl
  cases order with
  | little => exact zeros
  | big => rw [encode, zeros, List.reverse_replicate]

theorem encode_decode {bytes : List Byte} (sized : bytes.length = width) :
    order.encode width (order.decode bytes) = bytes := by
  subst sized
  cases order with
  | little => exact bytesOf_ofBytes bytes
  | big =>
      have represented := bytesOf_ofBytes bytes.reverse
      rw [List.length_reverse] at represented
      rw [encode, decode, represented, List.reverse_reverse]

theorem decode_lt {bytes : List Byte} (sized : bytes.length = width) :
    order.decode bytes < 256 ^ width := by
  subst sized
  cases order with
  | little => exact ofBytes_lt bytes
  | big =>
      have bounded := ofBytes_lt bytes.reverse
      rwa [List.length_reverse] at bounded

/-- The value that the host holds in the bytes which have `value` in the order of the
network. -/
def toNetwork (host : ByteOrder) (width value : Nat) : Nat :=
  host.decode (big.encode width value)

/-- The value that the bytes have in the order of the network in which the host holds
`value`. -/
def fromNetwork (host : ByteOrder) (width value : Nat) : Nat :=
  big.decode (host.encode width value)

theorem toNetwork_lt : order.toNetwork width value < 256 ^ width :=
  decode_lt length_encode

theorem encode_toNetwork :
    order.encode width (order.toNetwork width value) = big.encode width value :=
  encode_decode length_encode

theorem fromNetwork_decode {bytes : List Byte} (sized : bytes.length = width) :
    order.fromNetwork width (order.decode bytes) = big.decode bytes := by
  rw [fromNetwork, encode_decode sized]

end ByteOrder

end UcxPlayground.Bytes
