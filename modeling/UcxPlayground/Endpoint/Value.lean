import UcxPlayground.Bytes.Representation
import UcxPlayground.Endpoint.Model

/-!
# The value that the client sends

`start_client_worker` of `src/client.cpp` calls `ep.send_stream(&data)`. Nothing
deduces a `std::span` from a pointer, so the call goes to the template that
takes its argument by value and posts the parameter itself: the bytes of the
pointer, at an address whose storage ends when the call returns.
-/

set_option autoImplicit false

namespace UcxPlayground.Endpoint.Sending

open Bytes

inductive CppType where
  | integer (bytes : Nat)
  | pointer (pointee : CppType)
  | span (element : CppType)
  deriving DecidableEq, Repr

/-- `sizeof`, for a target with 64-bit pointers. -/
def CppType.size : CppType → Nat
  | .integer bytes => bytes
  | .pointer _ => 8
  | .span _ => 16

inductive Argument where
  | integer (bytes : Nat) (value : BitVec (8 * bytes))
  | addressOf (type : CppType) (address : BitVec 64)
  | span (element : CppType) (data : BitVec 64) (count : BitVec 64)

def Argument.type : Argument → CppType
  | .integer bytes _ => .integer bytes
  | .addressOf type _ => .pointer type
  | .span element _ _ => .span element

def Argument.representation : Argument → List Byte
  | .integer bytes value => bytesOf bytes value.toNat
  | .addressOf _ address => bytesOf 8 address.toNat
  | .span _ data count => bytesOf 8 data.toNat ++ bytesOf 8 count.toNat

theorem Argument.length_representation (argument : Argument) :
    argument.representation.length = argument.type.size := by
  cases argument <;> simp [Argument.representation, Argument.type, CppType.size]

/-- The template `send_stream(T data)`: the parameter lives at `parameter` during
the call, and `std::span{&data, 1}` is posted. -/
def sendByValue (memory : Memory) (parameter : Nat) (argument : Argument) : Memory × Buffer :=
  (memory.store parameter argument.representation, ⟨parameter, 1 * argument.type.size⟩)

def sendSpan (memory : Memory) (element : CppType) (data count : BitVec 64) : Memory × Buffer :=
  (memory, ⟨data.toNat, count.toNat * element.size⟩)

/-- Overload resolution: only a span deduces the second template, which is then
the more specialised one. -/
def sendStream (memory : Memory) (parameter : Nat) : Argument → Memory × Buffer
  | .span element data count => sendSpan memory element data count
  | argument => sendByValue memory parameter argument

/-- `start_client_worker` up to its `co_await`, with `data` of `width` bytes at
`address`: the memory, and what was passed to `ucp_stream_send_nbx`. -/
def startClientWorker (memory : Memory) (parameter : Nat) (width : Nat)
    (data : BitVec (8 * width)) (address : BitVec 64) : Memory × Buffer :=
  sendStream (memory.store address.toNat (bytesOf width data.toNat)) parameter
    (.addressOf (.integer width) address)

/-- The bytes that the transport reads after some of the writes that the process
makes between posting and completion. -/
def transmitted (posted : Memory × Buffer) (writes : List (Nat × Byte)) : List Byte :=
  (posted.1.writes writes).read posted.2.address posted.2.sizeBytes

def startServer (received : List Byte) : Nat :=
  ofBytes (received.take 8)

/-- Whenever the transport reads the buffer, it reads the representation of
`data`, and the server gets that value. -/
def SendsData (memory : Memory) (parameter : Nat) (width : Nat) (data : BitVec (8 * width))
    (address : BitVec 64) (writes : List (Nat × Byte)) : Prop :=
  let posted := startClientWorker memory parameter width data address
  ∀ time ≤ writes.length,
    transmitted posted (writes.take time) = bytesOf width data.toNat ∧
      startServer (transmitted posted (writes.take time)) = data.toNat

instance (memory : Memory) (parameter : Nat) (width : Nat) (data : BitVec (8 * width))
    (address : BitVec 64) (writes : List (Nat × Byte)) :
    Decidable (SendsData memory parameter width data address writes) := by
  unfold SendsData
  infer_instance

/-- Until completion, no write changes a byte of the dead parameter. -/
def KeepsParameter (memory : Memory) (parameter : Nat) (width : Nat) (data : BitVec (8 * width))
    (address : BitVec 64) (writes : List (Nat × Byte)) : Prop :=
  let posted := (startClientWorker memory parameter width data address).1
  ∀ time ≤ writes.length,
    (posted.writes (writes.take time)).read parameter 8 = posted.read parameter 8

section Value

variable {memory : Memory} {parameter width : Nat} {data : BitVec (8 * width)}
  {address : BitVec 64} {writes : List (Nat × Byte)}

theorem posted_buffer :
    (startClientWorker memory parameter width data address).2 = ⟨parameter, 8⟩ := rfl

theorem posted_bytes :
    (startClientWorker memory parameter width data address).1.read parameter 8 =
      bytesOf 8 address.toNat := by
  have stored := (memory.store address.toNat (bytesOf width data.toNat)).read_store parameter
    (bytesOf 8 address.toNat)
  rwa [length_bytesOf] at stored

theorem transmitted_eq (written : List (Nat × Byte)) :
    transmitted (startClientWorker memory parameter width data address) written =
      ((startClientWorker memory parameter width data address).1.writes written).read
        parameter 8 := by
  rw [transmitted, posted_buffer]

theorem value_fits (value : BitVec (8 * width)) : value.toNat < 256 ^ width := by
  have bound := value.isLt
  rwa [Nat.pow_mul] at bound

/-- The server reads what the client holds exactly when `data` is as wide as a
pointer, its value happens to be its own address, and the storage of the dead
parameter is left alone until the transport is done. -/
theorem sendsData_iff_address :
    SendsData memory parameter width data address writes ↔
      width = 8 ∧ data.toNat = address.toNat ∧
        KeepsParameter memory parameter width data address writes := by
  unfold SendsData KeepsParameter
  simp only [transmitted_eq, posted_bytes]
  constructor
  · intro sends
    have first := (sends 0 (Nat.zero_le _)).1
    rw [List.take_zero, Memory.writes, posted_bytes] at first
    have wide : width = 8 := by
      have lengths := congrArg List.length first
      simpa using lengths.symm
    subst wide
    have fits := @value_fits 8 address
    have same := (bytesOf_inj fits (value_fits data)).mp first
    refine ⟨rfl, same.symm, fun time bound => ?_⟩
    rw [(sends time bound).1, same]
  · intro held time bound
    obtain ⟨wide, same, kept⟩ := held
    subst wide
    rw [kept time bound, same]
    refine ⟨rfl, ?_⟩
    rw [startServer, List.take_of_length_le (by simp)]
    have fits := @value_fits 8 address
    exact ofBytes_bytesOf fits

end Value

/-- Neither as the `int` that it is, nor in the 8 bytes that the server reads. -/
theorem five_not_sent :
    ¬ SendsData (fun _ => 0) 0x7ffe00002000 4 (5 : BitVec (8 * 4)) 0x7ffe00001000 [] ∧
      ¬ SendsData (fun _ => 0) 0x7ffe00002000 8 (5 : BitVec (8 * 8)) 0x7ffe00001000 [] := by
  decide

end UcxPlayground.Endpoint.Sending
