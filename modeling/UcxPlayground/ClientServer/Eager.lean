import UcxPlayground.ClientServer.Buffers

/-!
# Eager and rendezvous data

`ucp_am_data_cb` copies an eager message to the buffers of `recv_buf`. The data of a
rendezvous message is received later by UCX, to the memory that `fill_request_param`
described. Both leave the same buffers.
-/

set_option autoImplicit false

namespace UcxPlayground.ClientServer.Buffers

open Bytes HelloWorld Resource

/-- The data of an active message, and the name of the descriptor that UCX passes
instead of a rendezvous message. -/
structure AmData where
  bytes : List Byte
  desc : Nat
  fits : bytes.length < 2 ^ 64

/-- `am_data_desc`, and the buffers that its `recv_buf` points to. -/
structure Receiver where
  amDataDesc : AmDataDesc
  iov : Iov

/-- What `ucp_am_data_cb` returns. -/
inductive Handled where
  | ok
  | inProgress
  deriving DecidableEq, Repr

/-- A call of `ucp_am_data_cb`, with what it read of the message. -/
structure Callback where
  returned : Handled
  receiver : Receiver
  reads : List Extent

section Functions

variable (program : Program)

/-- The copy loop from `offset` on, and what it reads of the message. -/
def copyLoop (data : List Byte) : (offset : Nat) → Iov → Iov × List Extent
  | _, [] => ([], [])
  | offset, buffer :: rest =>
      let (copied, reads) := copyLoop data (offset + buffer.length) rest
      (program.memTypeMemcpy buffer ((data.drop offset).take buffer.length) :: copied,
        ⟨offset, buffer.length⟩ :: reads)

/-- The expected length is a product of two `long`. -/
def ucpAmDataCb (receiver : Receiver) (data : AmData) (rndv : Bool) : Callback :=
  if BitVec.ofNat 64 data.bytes.length ≠
      BitVec.ofInt 64 (program.options.iovCnt * program.options.testStringLength) then
    { returned := .ok, receiver := receiver, reads := [] }
  else
    let completed := { receiver.amDataDesc with complete := receiver.amDataDesc.complete + 1 }
    if rndv then
      { returned := .inProgress
        receiver := { receiver with
          amDataDesc := { completed with isRndv := true, desc := some data.desc } }
        reads := [] }
    else
      let (iov, reads) := copyLoop program data.bytes 0 receiver.iov
      { returned := .ok
        receiver := { amDataDesc := { completed with isRndv := false }, iov := iov }
        reads := reads }

end Functions

/-- The memory that the arguments of a post describe: buffers, and how many bytes
from the start of each. -/
def RequestParam.pieces (param : RequestParam) (iov : Iov) : List (Nat × Nat) :=
  match param.datatype, param.msg with
  | .contig size, .buffer idx => [(idx, size * param.msgLength)]
  | .iov, .iov => (List.range param.msgLength).map fun idx => (idx, (iov.getD idx []).length)
  | _, _ => []

/-- UCX has received the data to the described memory: its bytes, from the first
piece on, are those of the message. -/
structure Receives (param : RequestParam) (before : Iov) (data : List Byte) (after : Iov) :
    Prop where
  shape : after.map List.length = before.map List.length
  stored : ((param.pieces before).flatMap fun piece =>
    (after.getD piece.1 []).take piece.2).take data.length = data.map some

def offsets (extent : Extent) : List Nat :=
  List.range' extent.offset extent.count

section Copies

variable {program : Program} {data : List Byte} {iov before after : Iov} {offset : Nat}

/-- The loop reads from `offset` on, once and in order. -/
theorem copyLoop_reads :
    (copyLoop program data offset iov).2.flatMap offsets =
      List.range' offset iov.flatten.length := by
  induction iov generalizing offset with
  | nil => rfl
  | cons buffer rest ih =>
      simp only [copyLoop, List.flatMap_cons, ih, offsets, List.flatten_cons,
        List.length_append]
      rw [List.range'_append_1]

variable (copies : program.Copies)

include copies

theorem copyLoop_shape :
    (copyLoop program data offset iov).1.map List.length = iov.map List.length := by
  induction iov generalizing offset with
  | nil => rfl
  | cons buffer rest ih =>
      have room : ((data.drop offset).take buffer.length).length ≤ buffer.length :=
        List.length_take_le _ _
      simp only [copyLoop, List.map_cons, ih, copies buffer _ room, Buffer.length_copy room]

theorem copyLoop_flatten (total : data.length = offset + iov.flatten.length) :
    (copyLoop program data offset iov).1.flatten = (data.drop offset).map some := by
  induction iov generalizing offset with
  | nil =>
      have past : data.length ≤ offset := Nat.le_of_eq total
      simp [copyLoop, List.drop_eq_nil_of_le past]
  | cons buffer rest ih =>
      rw [List.flatten_cons, List.length_append] at total
      have whole : ((data.drop offset).take buffer.length).length = buffer.length := by
        rw [List.length_take, List.length_drop]
        omega
      have remaining := @ih (offset + buffer.length) (by omega)
      simp only [copyLoop, List.flatten_cons, remaining, copies buffer _ (Nat.le_of_eq whole),
        Buffer.copy_whole whole]
      rw [← List.map_append, ← List.drop_drop, List.take_append_drop]

/-- For equal lengths the loop is what the model of the connection takes it for. -/
theorem copyLoop_eq_scatter {length : Nat} (equal : ∀ buffer ∈ iov, buffer.length = length)
    (total : data.length = offset + iov.flatten.length) :
    (copyLoop program data offset iov).1 =
      (scatter length iov.length (data.drop offset)).map (List.map some) := by
  induction iov generalizing offset with
  | nil => rfl
  | cons buffer rest ih =>
      obtain ⟨rfl, others⟩ := List.forall_mem_cons.mp equal
      rw [List.flatten_cons, List.length_append] at total
      have whole : ((data.drop offset).take buffer.length).length = buffer.length := by
        rw [List.length_take, List.length_drop]
        omega
      have remaining := @ih (offset + buffer.length) others (by omega)
      simp only [copyLoop, remaining, copies buffer _ (Nat.le_of_eq whole),
        Buffer.copy_whole whole, List.length_cons, scatter, List.map_cons, List.drop_drop]

end Copies

section Descriptions

variable {program : Program} {allocations : Allocations} {ledger : Ledger Owned}
  {iov before after : Iov} {param : RequestParam} {data : List Byte}

/-- A receiver only allocates. -/
theorem fillRequestParam_receiver
    (requested : (fillRequestParam program allocations false ledger).1 = some (iov, param)) :
    (bufferMalloc program allocations program.iovCnt [] ledger).1 = some iov ∧
      param = requestParam program iov := by
  generalize returned : fillRequestParam program allocations false ledger = result at requested
  cases fillRequestParam_cases returned with
  | unallocated => cases requested
  | unfilled _ _ _ client => cases client
  | filled _ _ _ _ client => cases client
  | receiver iov later _ malloc =>
      cases requested
      exact ⟨congrArg Prod.fst malloc, rfl⟩

/-- One contiguous buffer and the list of all buffers describe the same memory. -/
theorem requestParam_pieces (counted : before.length = program.iovCnt)
    (shape : before.map List.length = iov.map List.length) :
    (requestParam program iov).pieces before =
      (List.range before.length).map fun idx => (idx, (before.getD idx []).length) := by
  unfold requestParam
  by_cases single : program.iovCnt = 1
  · rw [if_pos single]
    obtain ⟨buffer, rfl⟩ := List.length_eq_one_iff.mp (counted.trans single)
    cases iov with
    | nil => cases shape
    | cons first rest =>
        have same : buffer.length = first.length := (List.cons.inj shape).1
        simp [RequestParam.pieces, same]
  · rw [if_neg single, counted]
    rfl

theorem flatMap_pieces (shape : after.map List.length = before.map List.length) :
    ((List.range before.length).map fun idx => (idx, (before.getD idx []).length)).flatMap
      (fun piece => (after.getD piece.1 []).take piece.2) = after.flatten := by
  have counts : after.length = before.length := by simpa using congrArg List.length shape
  rw [List.flatMap_map, List.flatMap_def]
  congr 1
  refine List.ext_getElem (by simp [counts]) fun idx inside bound => ?_
  have here : idx < before.length := counts ▸ bound
  have lengths : (after[idx]).length = (before[idx]).length := by
    have same := congrArg (fun lengths => lengths[idx]?) shape
    simpa [here, bound] using same
  simp [here, bound, ← lengths]

/-- A message of the total length fills all buffers. -/
theorem receives_iff (counted : before.length = program.iovCnt)
    (shape : before.map List.length = iov.map List.length)
    (total : data.length = before.flatten.length) :
    Receives (requestParam program iov) before data after ↔
      after.map List.length = before.map List.length ∧ after.flatten = data.map some := by
  have whole (same : after.map List.length = before.map List.length) :
      after.flatten.length = data.length := by
    rw [total, List.length_flatten, List.length_flatten, same]
  constructor
  · intro receives
    have stored := receives.stored
    rw [requestParam_pieces counted shape, flatMap_pieces receives.shape,
      ← whole receives.shape, List.take_length] at stored
    exact ⟨receives.shape, stored⟩
  · intro ⟨same, stored⟩
    refine ⟨same, ?_⟩
    rw [requestParam_pieces counted shape, flatMap_pieces same, ← whole same, List.take_length,
      stored]

end Descriptions

section Check

variable {program : Program} {receiver : Receiver} {data : AmData} {rndv : Bool}

/-- The product of two `long` that fits is compared exactly. -/
theorem wrongLength_iff (counted : 1 ≤ program.options.iovCnt)
    (nonneg : 0 ≤ program.options.testStringLength)
    (fits : program.options.iovCnt * program.options.testStringLength < 2 ^ 63) :
    BitVec.ofNat 64 data.bytes.length ≠
        BitVec.ofInt 64 (program.options.iovCnt * program.options.testStringLength) ↔
      data.bytes.length ≠ program.iovCnt * program.testStringLength := by
  have total : program.options.iovCnt * program.options.testStringLength =
      (program.iovCnt * program.testStringLength : Nat) := by
    rw [Int.natCast_mul, Program.iovCnt, Program.testStringLength, Int.toNat_of_nonneg nonneg,
      Int.toNat_of_nonneg (Int.le_trans (by decide) counted)]
  rw [total] at fits ⊢
  have message := data.fits
  rw [BitVec.ofInt_natCast, ne_eq, ne_eq, ← BitVec.toNat_inj, BitVec.toNat_ofNat,
    BitVec.toNat_ofNat, Nat.mod_eq_of_lt message, Nat.mod_eq_of_lt (by omega)]

variable (same : BitVec.ofNat 64 data.bytes.length =
  BitVec.ofInt 64 (program.options.iovCnt * program.options.testStringLength))

include same

theorem ucpAmDataCb_eager :
    ucpAmDataCb program receiver data false =
      { returned := .ok
        receiver := {
          amDataDesc := { receiver.amDataDesc with
            complete := receiver.amDataDesc.complete + 1
            isRndv := false }
          iov := (copyLoop program data.bytes 0 receiver.iov).1 }
        reads := (copyLoop program data.bytes 0 receiver.iov).2 } := by
  simp [ucpAmDataCb, same]

theorem ucpAmDataCb_rndv :
    ucpAmDataCb program receiver data true =
      { returned := .inProgress
        receiver := { receiver with
          amDataDesc := { receiver.amDataDesc with
            complete := receiver.amDataDesc.complete + 1
            isRndv := true
            desc := some data.desc } }
        reads := [] } := by
  simp [ucpAmDataCb, same]

end Check

/-- The process of the model of the connection, with the buffers in their memory. -/
structure Represents (cfg : Config) (proc : Proc) (program : Program) (receiver : Receiver) :
    Prop where
  iovCnt : cfg.iovCnt = program.iovCnt
  testStringLength : cfg.testStringLength = program.testStringLength
  amDataDesc : receiver.amDataDesc = proc.amDataDesc
  buffers : ∀ buffer ∈ receiver.iov, buffer.length = cfg.testStringLength
  count : receiver.iov.length = cfg.iovCnt

/-- The callback of that model has the same effect on `am_data_desc`, and on the buffers
of a call that waits for an eager message. -/
theorem Represents.ucpAmDataCb_eq {cfg : Config} {proc : Proc} {program : Program}
    {receiver : Receiver} {index : Nat} {message : Message}
    (small : message.data.length < 2 ^ 64)
    (represents : Represents cfg proc program receiver)
    (counted : 1 ≤ program.options.iovCnt) (nonneg : 0 ≤ program.options.testStringLength)
    (fits : program.options.iovCnt * program.options.testStringLength < 2 ^ 63)
    (memcpy : program.Copies) :
    (ucpAmDataCb program receiver ⟨message.data, index, small⟩ message.rndv).receiver.amDataDesc =
        (proc.ucpAmDataCb cfg index message).amDataDesc ∧
      (message.rndv = false → message.data.length = cfg.messageLength →
        proc.amDataDesc.recvBuf = some proc.serial → proc.inCall = true →
        (ucpAmDataCb program receiver ⟨message.data, index, small⟩ message.rndv).receiver.iov =
          (proc.ucpAmDataCb cfg index message).iov.map (List.map some)) := by
  have length : cfg.messageLength = program.iovCnt * program.testStringLength := by
    rw [Config.messageLength, represents.iovCnt, represents.testStringLength]
  have flat : receiver.iov.flatten.length = cfg.messageLength := by
    have lengths := List.eq_replicate_iff.mpr ⟨rfl, List.forall_mem_map.mpr represents.buffers⟩
    rw [List.length_flatten, lengths, List.length_map, represents.count]
    simp [Config.messageLength]
  have wrong := @wrongLength_iff program ⟨message.data, index, small⟩ counted nonneg fits
  rw [← length] at wrong
  by_cases total : message.data.length = cfg.messageLength
  · have same := not_not.mp fun differs => wrong.mp differs total
    cases rndv : message.rndv with
    | true => simp [ucpAmDataCb_rndv same, Proc.ucpAmDataCb, total, rndv, represents.amDataDesc]
    | false =>
        have copied := copyLoop_eq_scatter memcpy represents.buffers
          (by omega : message.data.length = 0 + receiver.iov.flatten.length)
        rw [ucpAmDataCb_eager same]
        refine ⟨?_, fun _ _ addressed waits => ?_⟩
        · simp only [Proc.ucpAmDataCb, total, rndv, represents.amDataDesc, ne_eq, not_true_eq_false,
            if_false, Bool.false_eq_true]
          split <;> rfl
        · have buffers : (proc.ucpAmDataCb cfg index message).iov =
              scatter cfg.testStringLength cfg.iovCnt message.data := by
            simp only [Proc.ucpAmDataCb, total, rndv, ne_eq, not_true_eq_false, if_false,
              Bool.false_eq_true]
            exact congrArg Proc.iov (if_pos ⟨addressed, waits⟩)
          rw [buffers, copied, represents.count, List.drop_zero]
  · have refused : (ucpAmDataCb program receiver ⟨message.data, index, small⟩ message.rndv) =
        { returned := .ok, receiver := receiver, reads := [] } := if_pos (wrong.mpr total)
    refine ⟨?_, fun _ matches' => absurd matches' total⟩
    rw [refused, represents.amDataDesc, Proc.ucpAmDataCb, if_pos total]

/-- What becomes of a message, for the buffers and the post of a receiver: `eager` is
its copy by `ucp_am_data_cb`, and `rendezvous` what UCX receives after it. -/
structure Agrees (program : Program) (param : RequestParam) (receiver : Receiver) (data : AmData)
    (total : Nat) : Prop where
  refused : data.bytes.length ≠ total → ∀ rndv,
    (ucpAmDataCb program receiver data rndv).receiver = receiver
  once : data.bytes.length = total →
    (ucpAmDataCb program receiver data false).reads.flatMap offsets = List.range data.bytes.length
  eager : data.bytes.length = total →
    (ucpAmDataCb program receiver data false).receiver.iov.flatten = data.bytes.map some
  inside : data.bytes.length = total →
    (ucpAmDataCb program receiver data false).receiver.iov.map List.length =
      receiver.iov.map List.length
  rendezvous : data.bytes.length = total → ∀ after,
    Receives param (ucpAmDataCb program receiver data true).receiver.iov data.bytes after ↔
      after = (ucpAmDataCb program receiver data false).receiver.iov

/-- Whatever the message, `ucp_am_data_cb` refuses it or leaves in the buffers what UCX
would leave there had it come by rendezvous. -/
theorem eager_agrees {program : Program} {allocations : Allocations} {ledger : Ledger Owned}
    {iov : Iov} {param : RequestParam} {receiver : Receiver} {data : AmData}
    (counted : 1 ≤ program.options.iovCnt) (nonneg : 0 ≤ program.options.testStringLength)
    (fits : program.options.iovCnt * program.options.testStringLength < 2 ^ 63)
    (copies : program.CudaCopies)
    (requested : (fillRequestParam program allocations false ledger).1 = some (iov, param))
    (shape : receiver.iov.map List.length = iov.map List.length) :
    Agrees program param receiver data (program.iovCnt * program.testStringLength) := by
  obtain ⟨allocated, rfl⟩ := fillRequestParam_receiver requested
  have positive : 0 < program.iovCnt := Int.lt_toNat.mpr counted
  have supported := bufferMalloc_isSome_iff.mp (Option.isSome_of_eq_some allocated) 0 positive
  have memcpy := copies.copies supported
  have lengths : receiver.iov.map List.length =
      List.replicate program.iovCnt program.testStringLength := by
    rw [shape, bufferMalloc_eq allocated]
    simp
  have count : receiver.iov.length = program.iovCnt := by
    simpa using congrArg List.length lengths
  have size : receiver.iov.flatten.length = program.iovCnt * program.testStringLength := by
    rw [List.length_flatten, lengths]
    simp
  have wrong := @wrongLength_iff _ data counted nonneg fits
  have admitted (total : data.bytes.length = program.iovCnt * program.testStringLength) :
      BitVec.ofNat 64 data.bytes.length =
        BitVec.ofInt 64 (program.options.iovCnt * program.options.testStringLength) :=
    not_not.mp fun differs => wrong.mp differs total
  constructor
  · intro different rndv
    simp only [ucpAmDataCb, if_pos (wrong.mpr different)]
  · intro total
    rw [ucpAmDataCb_eager (admitted total), copyLoop_reads, size, total, List.range_eq_range']
  · intro total
    rw [ucpAmDataCb_eager (admitted total), copyLoop_flatten memcpy (by omega), List.drop_zero]
  · intro total
    rw [ucpAmDataCb_eager (admitted total), copyLoop_shape memcpy]
  · intro total after
    have same := admitted total
    have copied := @copyLoop_shape program data.bytes receiver.iov 0 memcpy
    have flat := @copyLoop_flatten program data.bytes receiver.iov 0 memcpy (by omega)
    rw [ucpAmDataCb_eager same, ucpAmDataCb_rndv same,
      receives_iff count shape (total.trans size.symm)]
    constructor
    · intro ⟨same, stored⟩
      exact buffers_eq_of_flatten (same.trans copied.symm) (stored.trans flat.symm)
    · intro same
      subst same
      exact ⟨copied, flat⟩

theorem sixBytes_agree :
    Agrees (hostProgram 2 3) { msg := .iov, msgLength := 3, datatype := .iov }
      { amDataDesc := ⟨0, false, none, some 1⟩, iov := [.fresh 2, .fresh 2, .fresh 2] }
      { bytes := [1, 2, 3, 4, 5, 6], desc := 0, fits := by decide } 6 :=
  @eager_agrees (hostProgram 2 3) allSucceed [] [.fresh 2, .fresh 2, .fresh 2] _ _ _ (by decide)
    (by decide) (by decide) (hostProgram_cudaCopies 2 3) rfl rfl

end UcxPlayground.ClientServer.Buffers
