import Mathlib.Logic.Basic
import UcxPlayground.HelloWorld.Messages

/-!
# Decoding inside the message

Neither decoder compares the length it copies with the length that was received.
The reads are inside the message, the address is what follows the header and the
printed string ends inside its buffer exactly when the lengths happen to agree.
-/

set_option autoImplicit false

namespace UcxPlayground.HelloWorld

open Bytes

section Extents

variable {reads : List Extent} {length : Nat}

@[simp] theorem inside_nil : Inside [] length := by
  simp [Inside]

@[simp] theorem inside_cons {extent : Extent} :
    Inside (extent :: reads) length ↔
      (extent.count = 0 ∨ extent.offset + extent.count ≤ length) ∧ Inside reads length := by
  simp only [Inside, List.forall_mem_cons]
  refine and_congr_left fun _ => ⟨fun inside => ?_, fun inside i below => by omega⟩
  cases count : extent.count with
  | zero => exact .inl rfl
  | succ last =>
      have final := inside last (by omega)
      exact .inr (by omega)

end Extents

/-- The server keeps inside the message, and takes as the address exactly the
`data_len` bytes after the header. -/
structure AddressSound (received : Received) (decoded : Decoded) : Prop where
  inside : Inside decoded.reads received.content.length
  exact : ∀ address ∈ decoded.result, address.length = received.dataLen ∧
    address = (received.content.drop headerSize).take received.dataLen

/-- The client keeps inside the message, and prints a string that ends inside its
buffer. -/
structure TextSound (received : Received) (decoded : Decoded) : Prop where
  inside : Inside decoded.reads received.content.length
  terminated : ∀ string ∈ decoded.result, 0 ∈ string

/-- `run_ucx_server` reads the message. -/
def ReceiveCalls.ReadsAddress (calls : ReceiveCalls) : Prop :=
  calls.messageAllocated ∧ calls.status = .ok ∧ calls.mode ≠ .send

/-- `run_ucx_client` copies the message and prints the copy. -/
def ReceiveCalls.ReadsText (calls : ReceiveCalls) : Prop :=
  calls.mode ≠ .keepalive ∧ calls.messageAllocated ∧ calls.status = .ok ∧ calls.copyAllocated

section Server

variable {calls : ReceiveCalls} {received : Received}

theorem receiveAddress_of_not_reads (unread : ¬ calls.ReadsAddress) :
    receiveAddress calls received = .nothing := by
  refine if_pos ?_
  simp only [ReceiveCalls.ReadsAddress, not_and_or, ne_eq, not_not] at unread ⊢
  exact unread

theorem receiveAddress_of_reads (reads : calls.ReadsAddress) :
    receiveAddress calls received =
      if calls.copyAllocated then
        { reads := [⟨0, headerSize⟩, ⟨headerSize, received.dataLen⟩]
          result := some (received.memory.read headerSize received.dataLen) }
      else
        { reads := [⟨0, headerSize⟩], result := none } := by
  obtain ⟨allocated, received, survives⟩ := reads
  exact if_neg (by simp [allocated, received, survives])

theorem read_inside {count : Nat} (inside : headerSize + count ≤ received.content.length) :
    received.memory.read headerSize count = (received.content.drop headerSize).take count := by
  have copied := @Memory.read_store_inside received.beyond 0 headerSize count _ inside
  rwa [Nat.zero_add] at copied

theorem receiveAddress_sound_iff :
    AddressSound received (receiveAddress calls received) ↔
      (calls.ReadsAddress → headerSize ≤ received.content.length ∧
        (calls.copyAllocated → headerSize + received.dataLen ≤ received.content.length)) := by
  by_cases reads : calls.ReadsAddress
  · rw [receiveAddress_of_reads reads]
    cases allocated : calls.copyAllocated with
    | false =>
        refine ⟨fun sound => fun _ => ⟨?_, by simp⟩, fun enough => ⟨?_, by simp⟩⟩
        · simpa [headerSize] using sound.inside
        · simpa [headerSize] using (enough reads).1
    | true =>
        refine ⟨fun sound => fun _ => ?_, fun enough => ?_⟩
        · have inside := sound.inside
          simp [headerSize] at inside ⊢
          omega
        · obtain ⟨header, address⟩ := enough reads
          have address := address rfl
          refine ⟨?_, fun copied member => ?_⟩
          · simp [headerSize] at header address ⊢
            omega
          · obtain rfl := Option.mem_some_iff.mp member
            exact ⟨Memory.length_read .., read_inside address⟩
  · rw [receiveAddress_of_not_reads reads]
    exact ⟨fun _ reaches => absurd reaches reads, fun _ => ⟨inside_nil, by simp [Decoded.nothing]⟩⟩

end Server

section Client

variable {calls : ReceiveCalls} {testStringLength : Nat} {received : Received}

theorem receiveText_of_not_reads (unread : ¬ calls.ReadsText) :
    receiveText calls testStringLength received = .nothing := by
  refine if_pos ?_
  simp only [ReceiveCalls.ReadsText, not_and_or, ne_eq, not_not] at unread ⊢
  exact unread

theorem receiveText_of_reads (reads : calls.ReadsText) :
    receiveText calls testStringLength received =
      { reads := [⟨headerSize, testStringLength⟩]
        result := some (received.memory.read headerSize testStringLength) } := by
  obtain ⟨survives, allocated, received, copied⟩ := reads
  exact if_neg (by simp [survives, allocated, received, copied])

theorem receiveText_sound_iff :
    TextSound received (receiveText calls testStringLength received) ↔
      (calls.ReadsText → headerSize + testStringLength ≤ received.content.length ∧
        0 ∈ (received.content.drop headerSize).take testStringLength) := by
  by_cases reads : calls.ReadsText
  · rw [receiveText_of_reads reads]
    refine ⟨fun sound => fun _ => ?_, fun enough => ?_⟩
    · have terminated := sound.terminated _ rfl
      have positive : testStringLength ≠ 0 := by
        intro empty
        simp [empty, Memory.read] at terminated
      have inside : headerSize + testStringLength ≤ received.content.length := by
        simpa [positive] using sound.inside
      exact ⟨inside, read_inside inside ▸ terminated⟩
    · obtain ⟨inside, zero⟩ := enough reads
      refine ⟨by simpa using .inr inside, fun string member => ?_⟩
      obtain rfl := Option.mem_some_iff.mp member
      rwa [read_inside inside]
  · rw [receiveText_of_not_reads reads]
    exact ⟨fun _ reaches => absurd reaches reads, fun _ => ⟨inside_nil, by simp [Decoded.nothing]⟩⟩

end Client

section RoundTrip

variable {calls : ReceiveCalls} {beyond : Memory}

theorem sendAddress_eq (localAddr : Address) :
    sendAddress localAddr = bytesOf headerSize localAddr.bytes.length ++ localAddr.bytes := by
  have buffer := zeroed.store_append 0 (bytesOf headerSize localAddr.bytes.length) localAddr.bytes
  rw [length_bytesOf, Nat.zero_add] at buffer
  have whole := zeroed.read_store 0 (bytesOf headerSize localAddr.bytes.length ++ localAddr.bytes)
  rwa [List.length_append, length_bytesOf, buffer] at whole

theorem dataLen_of_header {value : Nat} {body : List Byte} (fits : value < 256 ^ headerSize) :
    (Received.mk (bytesOf headerSize value ++ body) beyond).dataLen = value := by
  have header : (Received.mk (bytesOf headerSize value ++ body) beyond).memory.read 0 headerSize =
      bytesOf headerSize value := by
    have copied := @Memory.read_store_inside beyond 0 0 headerSize
      (bytesOf headerSize value ++ body) (by simp)
    rw [List.drop_zero, List.take_left' (by simp)] at copied
    exact copied
  rw [Received.dataLen, header, ofBytes_bytesOf fits]

/-- What the client sent is what the server takes as its address. -/
theorem receiveAddress_sendAddress (localAddr : Address) (reads : calls.ReadsAddress)
    (allocated : calls.copyAllocated) :
    (receiveAddress calls ⟨sendAddress localAddr, beyond⟩).result = some localAddr.bytes := by
  have fits : localAddr.bytes.length < 256 ^ headerSize :=
    Nat.lt_of_lt_of_le localAddr.fits (by decide)
  have length := @dataLen_of_header beyond _ localAddr.bytes fits
  rw [← sendAddress_eq] at length
  rw [receiveAddress_of_reads reads, if_pos allocated, length, read_inside]
  · simp [sendAddress_eq, List.drop_left']
  · simp [sendAddress_eq]

end RoundTrip

section Text

variable {calls : ReceiveCalls} {testStringLength : Nat} {beyond : Memory} {content : List Byte}

theorem testByte_eq_zero_iff {size i : Nat} : testByte size i = 0 ↔ size ≤ i + 1 := by
  by_cases letter : i + 1 < size
  · have small : (65 + i % 26) % 2 ^ 8 ≠ 0 := by omega
    have letterByte : testByte size i ≠ 0 := by
      intro zero
      rw [testByte, if_pos letter] at zero
      exact small (by simpa using congrArg BitVec.toNat zero)
    exact iff_of_false letterByte (by omega)
  · exact iff_of_true (if_neg letter) (by omega)

theorem generateTestString_eq {size : Int} {allocated : Bool} {string : List Byte}
    (generated : generateTestString size allocated = some string) :
    0 ≤ size ∧ string = (List.range size.toNat).map (testByte size.toNat) := by
  by_cases fails : size < 0 ∨ ¬ allocated
  · simp only [generateTestString, if_pos fails, reduceCtorEq] at generated
  · simp only [generateTestString, if_neg fails, Option.some.injEq] at generated
    exact ⟨by omega, generated.symm⟩

/-- What is not written by `generate_test_string` is as it was cleared before. -/
theorem sendText_eq {allocated : Bool} (sent : sendText testStringLength allocated = some content) :
    0 ≤ toInt testStringLength ∧ content = bytesOf headerSize testStringLength ++
      (List.range testStringLength).map (testByte (toInt testStringLength).toNat) := by
  obtain ⟨string, generated, rfl⟩ := Option.map_eq_some_iff.mp sent
  obtain ⟨nonneg, rfl⟩ := generateTestString_eq generated
  refine ⟨nonneg, ?_⟩
  have shorter := toInt_natCast_le testStringLength
  obtain ⟨size, converted⟩ := Int.eq_ofNat_of_zero_le nonneg
  rw [converted, Int.toNat_natCast] at *
  rw [Memory.read_add, Nat.zero_add]
  congr 1
  · have stored := zeroed.read_store 0 (bytesOf headerSize testStringLength)
    rw [length_bytesOf] at stored
    rw [Memory.read_store_below (Nat.le_of_eq (Nat.zero_add _)), stored]
  · rw [Memory.read_eq_map]
    refine List.map_congr_left fun i member => ?_
    rw [Memory.store_apply, List.getElem?_map, testByte]
    by_cases written : i < size
    · simp [List.getElem?_range written, testByte]
    · have cleared : ¬ i + 1 < size := by omega
      have header :
          (zeroed.store 0 (bytesOf headerSize testStringLength)) (headerSize + i) = 0 := by
        have after := zeroed.store_apply 0 (bytesOf headerSize testStringLength) (headerSize + i)
        rw [Nat.zero_add, List.getElem?_eq_none (by simp)] at after
        exact after
      rw [if_neg cleared, List.getElem?_eq_none (by simpa using written)]
      exact header

/-- Of the strings that the server sends, the client prints those whose length is
the one it expects. -/
theorem receiveText_sendText {allocated : Bool} {testStringLength sentLength : Nat}
    (sent : sendText sentLength allocated = some content) :
    TextSound ⟨content, beyond⟩ (receiveText calls testStringLength ⟨content, beyond⟩) ↔
      (calls.ReadsText → testStringLength ≤ sentLength ∧ 1 ≤ testStringLength ∧
        toInt sentLength ≤ testStringLength) := by
  obtain ⟨nonneg, rfl⟩ := sendText_eq sent
  rw [receiveText_sound_iff]
  refine forall_congr' fun _ => ?_
  rw [List.drop_left' (by simp), ← List.map_take, List.take_range]
  simp only [List.length_append, length_bytesOf, List.length_map, List.length_range,
    Nat.add_le_add_iff_left]
  refine and_congr_right fun shorter => ?_
  rw [Nat.min_eq_left shorter]
  simp only [List.mem_map, List.mem_range, testByte_eq_zero_iff]
  constructor
  · intro terminated
    obtain ⟨i, bounded, last⟩ := terminated
    omega
  · intro enough
    exact ⟨testStringLength - 1, by omega, by omega⟩

end Text

/-- The decoders of both programs are right about the messages whose lengths
agree, and about no others. -/
theorem decoders_sound_iff (calls : ReceiveCalls) (received : Received) (testStringLength : Nat) :
    (AddressSound received (receiveAddress calls received) ↔
      (calls.ReadsAddress → headerSize ≤ received.content.length ∧
        (calls.copyAllocated → headerSize + received.dataLen ≤ received.content.length))) ∧
    (TextSound received (receiveText calls testStringLength received) ↔
      (calls.ReadsText → headerSize + testStringLength ≤ received.content.length ∧
        0 ∈ (received.content.drop headerSize).take testStringLength)) ∧
    (∀ (sentLength : Nat) (allocated : Bool),
      sendText sentLength allocated = some received.content →
      (TextSound received (receiveText calls testStringLength received) ↔
        (calls.ReadsText → testStringLength ≤ sentLength ∧ 1 ≤ testStringLength ∧
          toInt sentLength ≤ testStringLength))) ∧
    ∀ localAddr : Address, received.content = sendAddress localAddr →
      calls.ReadsAddress → calls.copyAllocated →
        (receiveAddress calls received).result = some localAddr.bytes := by
  refine ⟨receiveAddress_sound_iff, receiveText_sound_iff, fun sentLength allocated sent => ?_,
    fun localAddr sent reads allocated => ?_⟩
  · exact receiveText_sendText sent
  · obtain ⟨content, beyond⟩ := received
    subst sent
    exact receiveAddress_sendAddress localAddr reads allocated

/-- The address of two bytes, decoded again. -/
theorem shortAddress_decoded :
    (receiveAddress ⟨.none, true, .ok, true⟩
      ⟨sendAddress ⟨[7, 9], by decide⟩, zeroed⟩).result = some [7, 9] :=
  (decoders_sound_iff _ _ 0).2.2.2 ⟨[7, 9], by decide⟩ rfl ⟨rfl, rfl, by decide⟩ rfl

/-- A message that is only a header and announces sixteen bytes. -/
theorem overlongLength_read_outside :
    ¬ AddressSound ⟨bytesOf headerSize 16, zeroed⟩
      (receiveAddress ⟨.none, true, .ok, true⟩ ⟨bytesOf headerSize 16, zeroed⟩) :=
  fun sound => absurd sound.inside (by decide)

end UcxPlayground.HelloWorld
