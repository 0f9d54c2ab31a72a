import UcxPlayground.Bytes.Representation
import UcxPlayground.HelloWorld.Options
import UcxPlayground.Ucx

/-!
# Messages of `ucp_hello_world`

The two tag messages: the address of the client's worker, which
`run_ucx_client` sends, and the test string, which `run_ucx_server` sends. Both
are a `struct msg` with the length, followed by the bytes. The functions that
decode them are given the buffer as memory, since nothing stops them at the end
of what was received, and return what they read of it.
-/

set_option autoImplicit false

namespace UcxPlayground.HelloWorld

open Bytes

/-- `sizeof(struct msg)` -/
def headerSize : Nat := 8

/-- A message in the buffer that was allocated for it, and what follows there. -/
structure Received where
  content : List Byte
  beyond : Memory

namespace Received

/-- The buffer at offset 0. -/
def memory (received : Received) : Memory :=
  received.beyond.store 0 received.content

/-- `msg->data_len` -/
def dataLen (received : Received) : Nat :=
  ofBytes (received.memory.read 0 headerSize)

end Received

/-- Bytes of the message that were read. -/
structure Extent where
  offset : Nat
  count : Nat
  deriving DecidableEq, Repr

/-- Every byte read lies inside a message of `length` bytes. -/
def Inside (reads : List Extent) (length : Nat) : Prop :=
  ∀ extent ∈ reads, ∀ i < extent.count, extent.offset + i < length

instance (reads : List Extent) (length : Nat) : Decidable (Inside reads length) :=
  inferInstanceAs (Decidable (∀ extent ∈ reads, _))

/-- `result` are the bytes that the message was decoded to, if it was. -/
structure Decoded where
  reads : List Extent
  result : Option (List Byte)

/-- Nothing was read. -/
def Decoded.nothing : Decoded where
  reads := []
  result := none

/-- What the calls around the decoding return: the allocation of the buffer, the
receive, and the allocation of the copy. -/
structure ReceiveCalls where
  mode : FailureMode
  messageAllocated : Bool
  status : UcsStatus
  copyAllocated : Bool
  deriving DecidableEq, Repr

/-- `run_ucx_server` from the allocation of the message to the address it passes
to `ucp_ep_create`. -/
def receiveAddress (calls : ReceiveCalls) (received : Received) : Decoded :=
  if ¬ calls.messageAllocated ∨ calls.status ≠ .ok ∨ calls.mode = .send then
    .nothing
  else
    let peerAddrLen := received.dataLen
    if calls.copyAllocated then
      { reads := [⟨0, headerSize⟩, ⟨headerSize, peerAddrLen⟩]
        result := some (received.memory.read headerSize peerAddrLen) }
    else
      { reads := [⟨0, headerSize⟩], result := none }

/-- `run_ucx_client` from the message it has probed to the string it prints.
`testStringLength` is its own option. -/
def receiveText (calls : ReceiveCalls) (testStringLength : Nat) (received : Received) : Decoded :=
  if calls.mode = .keepalive ∨ ¬ calls.messageAllocated ∨ calls.status ≠ .ok ∨
      ¬ calls.copyAllocated then
    .nothing
  else
    { reads := [⟨headerSize, testStringLength⟩]
      result := some (received.memory.read headerSize testStringLength) }

/-- The address of a worker. No object is larger than `PTRDIFF_MAX`. -/
structure Address where
  bytes : List Byte
  fits : bytes.length < 2 ^ 63

def zeroed : Memory := fun _ => 0

/-- The message that `run_ucx_client` allocates, clears and fills. -/
def sendAddress (localAddr : Address) : List Byte :=
  let localAddrLen := localAddr.bytes.length
  ((zeroed.store 0 (bytesOf headerSize localAddrLen)).store headerSize localAddr.bytes).read 0
    (headerSize + localAddrLen)

/-- The byte at index `i` of a test string of `size` bytes; what the loop does not
write is as `calloc` left it. -/
def testByte (size i : Nat) : Byte :=
  if i + 1 < size then BitVec.ofNat 8 (65 + i % 26) else 0

/-- `generate_test_string`: what it copies to its destination. `calloc` cannot
allocate what a negative `int` is converted to. -/
def generateTestString (size : Int) (allocated : Bool) : Option (List Byte) :=
  if size < 0 ∨ ¬ allocated then none
  else some ((List.range size.toNat).map (testByte size.toNat))

/-- The message that `run_ucx_server` allocates, clears and fills. -/
def sendText (testStringLength : Nat) (allocated : Bool) : Option (List Byte) :=
  (generateTestString (toInt testStringLength) allocated).map fun string =>
    ((zeroed.store 0 (bytesOf headerSize testStringLength)).store headerSize string).read 0
      (headerSize + testStringLength)

end UcxPlayground.HelloWorld
