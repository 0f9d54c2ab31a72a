import UcxPlayground.ClientServer.Buffers

/-!
# One transfer

`send_recv_stream`, `send_recv_tag` and `send_recv_am`, with `request_wait` and
`request_finalize`. The buffers are freed where the transfer fails, by the function
that fails or by its caller, and otherwise behind the operation.
-/

set_option autoImplicit false

namespace UcxPlayground.ClientServer.Buffers

open Bytes Resource

/-- The call of UCX that a transfer makes. -/
inductive Post where
  | streamSend
  | streamRecv
  | tagSend
  | tagRecv
  | amSend
  | amRecvData
  deriving DecidableEq, Repr

/-- What the calls of a transfer return. `completion` is the status that a returned
request completes with, and `isRndv` is `am_data_desc.is_rndv` behind the loop in which
`send_recv_am` waits for a message. -/
structure Calls where
  allocations : Allocations
  answer : Post → RequestParam → StatusPtr
  completion : UcsStatus
  isRndv : Bool

section Functions

variable (program : Program) (calls : Calls)

/-- An operation is in flight from its post until it completes, in place or later. -/
def post (requestPtr : StatusPtr) (ledger : Ledger Owned) : Ledger Owned :=
  match requestPtr with
  | .null _ => .release .operation :: .acquire .operation :: ledger
  | .error _ => ledger
  | .request => .acquire .request :: .acquire .operation :: ledger

/-- The wait loop ends when the operation has completed. -/
def requestWait (requestPtr : StatusPtr) (ledger : Ledger Owned) : UcsStatus × Ledger Owned :=
  match requestPtr with
  | .null _ => (.ok, ledger)
  | .error code => (.error code, ledger)
  | .request => (calls.completion, .release .request :: .release .operation :: ledger)

def requestFinalize (iov : Iov) (requestPtr : StatusPtr) (ledger : Ledger Owned) :
    Int × Ledger Owned :=
  let (status, ledger) := requestWait calls requestPtr ledger
  (if status = .ok then 0 else -1, bufferFree program 0 (iov.map some) ledger)

/-- A transfer that posts one operation, or none when the data is there already: then its
`request` is `NULL`. -/
def sendRecv (isServer : Bool) (posted : Option Post) : Int × Ledger Owned :=
  match fillRequestParam program calls.allocations (!isServer) [] with
  | (none, ledger) => (-1, ledger)
  | (some (iov, param), ledger) =>
      match posted with
      | none => requestFinalize program calls iov (.null 0) ledger
      | some operation =>
          let requestPtr := calls.answer operation param
          requestFinalize program calls iov requestPtr (post requestPtr ledger)

def sendRecvStream (isServer : Bool) : Int × Ledger Owned :=
  sendRecv program calls isServer (some (if isServer then .streamRecv else .streamSend))

def sendRecvTag (isServer : Bool) : Int × Ledger Owned :=
  sendRecv program calls isServer (some (if isServer then .tagRecv else .tagSend))

/-- Only a rendezvous message has to be received. -/
def sendRecvAm (isServer : Bool) : Int × Ledger Owned :=
  sendRecv program calls isServer
    (if isServer then if calls.isRndv then some .amRecvData else none else some .amSend)

def clientServerCommunication (type : SendRecvType) (isServer : Bool) : Int × Ledger Owned :=
  match type with
  | .stream => sendRecvStream program calls isServer
  | .tag => sendRecvTag program calls isServer
  | .am => sendRecvAm program calls isServer

end Functions

/-- The buffers are in use while the operation is in flight. -/
def needs (iovCnt : Nat) : Owned → List Owned
  | .operation => (List.range iovCnt).map .buffer
  | _ => []

section Freeing

variable {program : Program} {ledger : Ledger Owned} {iovCnt idx : Nat}

theorem acquired_bufferFree (pointers : List (Option Buffer)) :
    acquired (bufferFree program idx pointers ledger) = acquired ledger := by
  fun_induction bufferFree program idx pointers ledger with
  | case1 => rfl
  | case2 _ _ _ ih => exact ih
  | case3 _ _ _ _ _ _ ih => exact ih
  | case4 _ _ _ _ _ ih => exact ih

/-- `free(NULL)` does nothing. -/
theorem bufferFree_null (count : Nat) :
    bufferFree program idx (List.replicate count none) ledger = ledger := by
  induction count generalizing idx with
  | zero => rfl
  | succ count ih => exact ih

theorem not_needed_of_buffers {handle : Owned} {first count : Nat} :
    ∀ user ∈ (List.range' first count).map Owned.buffer, handle ∉ needs iovCnt user := by
  intro user member
  obtain ⟨position, _, rfl⟩ := List.mem_map.mp member
  exact List.not_mem_nil

theorem bufferFree_holds (host : program.options.testMemType = .host) {iov : Iov} {nulls : Nat}
    (holds : Holds (needs iovCnt) ((List.range' idx iov.length).map .buffer) ledger) :
    Holds (needs iovCnt) []
      (bufferFree program idx (iov.map some ++ List.replicate nulls none) ledger) := by
  induction iov generalizing idx ledger with
  | nil =>
      rw [List.map_nil, List.nil_append, bufferFree_null]
      exact holds
  | cons buffer rest ih =>
      have free : Arguments.memTypeFree program.haveCuda program.options.testMemType =
          some .free := by
        rw [host]
        rfl
      simp only [List.map_cons, List.cons_append, bufferFree, free]
      exact ih (holds.release (@not_needed_of_buffers iovCnt (.buffer idx) idx (rest.length + 1)))

end Freeing

/-- The buffers from the first on that are not freed yet. -/
def bufferHandles (count : Nat) : List Owned :=
  (List.range count).map .buffer

/-- What `fill_request_param` has acquired, and what of it is left. -/
structure Prepared (program : Program) (allocations : Allocations) (handles : List Owned)
    (ledger : Ledger Owned) : Prop where
  holds : Holds (needs program.iovCnt) handles ledger
  buffers : ∀ idx, .buffer idx ∈ acquired ledger ↔
    idx < program.iovCnt ∧ ∀ earlier ≤ idx, allocations.buffers earlier = true
  request : .request ∉ acquired ledger
  operation : .operation ∉ acquired ledger

/-- In `fill_buffer`, when the buffers before `idx` were filled. -/
structure Filling (program : Program) (allocations : Allocations) (idx : Nat)
    (handles : List Owned) (ledger : Ledger Owned) : Prop
    extends Prepared program allocations handles ledger where
  scratch : ∀ position, idx ≤ position → .scratch position ∉ acquired ledger

/-- In `buffer_malloc`, when the first `count` buffers were allocated. -/
structure Allocating (program : Program) (allocations : Allocations) (count : Nat)
    (ledger : Ledger Owned) : Prop where
  holds : Holds (needs program.iovCnt) (bufferHandles count) ledger
  acquired : ∀ handle, handle ∈ acquired ledger ↔ ∃ idx < count, handle = .buffer idx
  succeeded : ∀ idx < count, allocations.buffers idx = true

section Allocation

variable {program : Program} {allocations : Allocations} {ledger later : Ledger Owned}
  {iov buffers : Iov} {count remaining : Nat}

theorem Allocating.nothing : Allocating program allocations 0 [] :=
  ⟨.nothing, by simp, by simp⟩

theorem Allocating.next (allocating : Allocating program allocations count ledger)
    (succeeds : allocations.buffers count = true) :
    Allocating program allocations (count + 1) (.acquire (.buffer count) :: ledger) := by
  constructor
  · have fresh : .buffer count ∉ Resource.acquired ledger := by
      simp [allocating.acquired]
    have holds := allocating.holds.acquire fresh (by simp [needs])
    apply holds.reorder
    rw [bufferHandles, bufferHandles, List.range_succ, List.map_append]
    exact (List.perm_append_singleton _ _).symm
  · intro handle
    rw [acquired_acquire, List.mem_cons, allocating.acquired]
    simp only [Nat.lt_succ_iff_lt_or_eq, or_and_right, exists_or, exists_eq_left, or_comm]
  · intro idx inside
    rcases Nat.lt_succ_iff_lt_or_eq.mp inside with before | rfl
    · exact allocating.succeeded idx before
    · exact succeeds

/-- The buffer at `count` cannot be allocated, or there is none. -/
theorem Allocating.filling (allocating : Allocating program allocations count ledger)
    {handles : List Owned} (holds : Holds (needs program.iovCnt) handles later)
    (same : Resource.acquired later = Resource.acquired ledger) (inside : count ≤ program.iovCnt)
    (ends : count < program.iovCnt → allocations.buffers count = false) :
    Filling program allocations 0 handles later := by
  refine ⟨⟨holds, fun idx => ?_, ?_, ?_⟩, fun position _ => ?_⟩
  · have made : (∃ other < count, Owned.buffer idx = .buffer other) ↔ idx < count := by simp
    rw [same, allocating.acquired, made]
    constructor
    · intro before
      refine ⟨Nat.lt_of_lt_of_le before inside, fun earlier below => ?_⟩
      exact allocating.succeeded earlier (Nat.lt_of_le_of_lt below before)
    · intro ⟨counted, succeed⟩
      apply Nat.lt_of_not_le
      intro behind
      have fails := ends (Nat.lt_of_le_of_lt behind counted)
      exact absurd (fails.symm.trans (succeed count behind)) (by decide)
  · simp [same, allocating.acquired]
  · simp [same, allocating.acquired]
  · simp [same, allocating.acquired]

/-- `buffer_malloc` frees what it has allocated when it fails. -/
theorem bufferMalloc_filling (host : program.options.testMemType = .host)
    (allocating : Allocating program allocations iov.length ledger)
    (total : iov.length + remaining = program.iovCnt) :
    Filling program allocations 0
      (if (bufferMalloc program allocations remaining iov ledger).1.isSome then
        bufferHandles program.iovCnt else [])
      (bufferMalloc program allocations remaining iov ledger).2 := by
  induction remaining generalizing iov ledger with
  | zero =>
      have all : iov.length = program.iovCnt := total
      have holds := allocating.holds
      rw [all] at holds
      exact allocating.filling holds rfl (Nat.le_of_eq all) (by omega)
  | succ remaining ih =>
      cases succeeds : allocations.buffers iov.length with
      | false =>
          have failed : program.memTypeMalloc program.testStringLength
              (allocations.buffers iov.length) = none := by
            rw [memTypeMalloc_host host, succeeds]
            rfl
          simp only [bufferMalloc, failed, Option.isSome_none, Bool.false_eq_true, if_false]
          refine allocating.filling (bufferFree_holds host ?_) (acquired_bufferFree _) (by omega)
            fun _ => succeeds
          rw [← List.range_eq_range']
          exact allocating.holds
      | true =>
          have allocated : program.memTypeMalloc program.testStringLength
              (allocations.buffers iov.length) = some (.fresh program.testStringLength) := by
            rw [memTypeMalloc_host host, succeeds]
            rfl
          simp only [bufferMalloc, allocated]
          have longer : (iov ++ [Buffer.fresh program.testStringLength]).length = iov.length + 1 :=
            List.length_append
          have next := allocating.next succeeds
          rw [← longer] at next
          exact ih next (by omega)

end Allocation

section Filling

variable {program : Program} {allocations : Allocations} {ledger : Ledger Owned} {idx : Nat}
  {handles : List Owned} {buffer : Buffer} {iov : Iov}

theorem scratch_not_needed (iovCnt : Nat) (user : Owned) : .scratch idx ∉ needs iovCnt user := by
  cases user <;> simp [needs]

/-- `tmp_str` is freed where it is allocated. -/
theorem Filling.generateTestString (filling : Filling program allocations idx handles ledger) :
    Filling program allocations (idx + 1) handles
      (generateTestString program allocations idx buffer ledger).2 := by
  unfold Buffers.generateTestString
  split
  · exact ⟨filling.toPrepared, fun position later => filling.scratch position (by omega)⟩
  · have opened := filling.holds.acquire (filling.scratch idx (Nat.le_refl idx)) (by simp [needs])
    have closed := opened.release fun user _ => scratch_not_needed program.iovCnt user
    refine ⟨⟨closed, ?_, ?_, ?_⟩, fun position later => ?_⟩
    · simpa using filling.buffers
    · simpa using filling.request
    · simpa using filling.operation
    · have different : position ≠ idx := Nat.ne_of_gt later
      simpa [different] using filling.scratch position (Nat.le_of_succ_le later)

theorem Filling.fillBuffer (filling : Filling program allocations idx handles ledger) :
    Prepared program allocations handles (fillBuffer program allocations idx iov ledger).2 := by
  induction iov generalizing idx ledger with
  | nil => exact filling.toPrepared
  | cons buffer rest ih =>
      have generated := @Filling.generateTestString _ _ _ _ _ buffer filling
      cases result : Buffers.generateTestString program allocations idx buffer ledger with
      | mk filled later =>
          rw [result] at generated
          cases filled with
          | none =>
              simp only [Buffers.fillBuffer, result]
              exact generated.toPrepared
          | some filled =>
              simp only [Buffers.fillBuffer, result]
              exact ih generated

end Filling

/-- Everything that a transfer allocates is allocated: its buffers, and at the sender the
strings that they are filled from. -/
def Allocates (program : Program) (allocations : Allocations) (isClient : Bool) : Prop :=
  (∀ idx < program.iovCnt, allocations.buffers idx = true) ∧
    (isClient = true →
      ∀ idx < program.iovCnt, allocations.Callocs program.testStringLength idx)

/-- The memory of every post. -/
def Program.description (program : Program) : RequestParam :=
  if program.iovCnt = 1 then
    { msg := .buffer 0, msgLength := program.testStringLength, datatype := .contig 1 }
  else
    { msg := .iov, msgLength := program.iovCnt, datatype := .iov }

/-- A buffer for each entry, of the length that the program was given. -/
structure Shaped (program : Program) (iov : Iov) : Prop where
  count : iov.length = program.iovCnt
  lengths : ∀ buffer ∈ iov, buffer.length = program.testStringLength

section Preparation

variable {program : Program} {allocations : Allocations} {ledger later : Ledger Owned}
  {iov filled : Iov} {isClient : Bool} {param : RequestParam}

theorem Shaped.requestParam_eq (shaped : Shaped program iov) :
    requestParam program iov = program.description := by
  unfold requestParam Program.description
  by_cases single : program.iovCnt = 1
  · rw [if_pos single, if_pos single]
    obtain ⟨buffer, rfl⟩ := List.length_eq_one_iff.mp (shaped.count.trans single)
    rw [List.headD_cons, shaped.lengths buffer (List.mem_singleton_self buffer)]
  · rw [if_neg single, if_neg single]

theorem Shaped.bufferMalloc
    (returned : (bufferMalloc program allocations program.iovCnt [] ledger).1 = some iov) :
    Shaped program iov := by
  rw [bufferMalloc_eq returned]
  exact ⟨by simp, by simp⟩

theorem Shaped.fillBuffer (host : program.options.testMemType = .host)
    (shaped : Shaped program iov)
    (returned : (fillBuffer program allocations 0 iov ledger).1 = some filled) :
    Shaped program filled := by
  have succeeds := (fillBuffer_isSome_iff shaped.lengths).mp (Option.isSome_of_eq_some returned)
  rw [fillBuffer_some shaped.lengths succeeds, Option.some.injEq] at returned
  subst returned
  refine ⟨by rw [List.length_map, shaped.count], fun buffer member => ?_⟩
  obtain ⟨before, there, rfl⟩ := List.mem_map.mp member
  have length := shaped.lengths before there
  have room : (testString program.testStringLength).length ≤ before.length :=
    length ▸ length_testString_le program.testStringLength
  rw [Program.copies_of_host host before _ room, Buffer.length_copy room, length]

theorem Shaped.bufferFree (host : program.options.testMemType = .host)
    (shaped : Shaped program iov)
    (holds : Holds (needs program.iovCnt) (bufferHandles program.iovCnt) ledger) :
    Holds (needs program.iovCnt) [] (bufferFree program 0 (iov.map some) ledger) := by
  rw [← shaped.count, bufferHandles, List.range_eq_range'] at holds
  have freed := @bufferFree_holds program ledger _ 0 host iov 0 holds
  rwa [List.replicate_zero, List.append_nil, shaped.count] at freed

theorem Prepared.bufferFree (host : program.options.testMemType = .host)
    (prepared : Prepared program allocations (bufferHandles program.iovCnt) ledger)
    (shaped : Shaped program iov) :
    Prepared program allocations [] (bufferFree program 0 (iov.map some) ledger) := by
  have same := @acquired_bufferFree program ledger 0 (iov.map some)
  exact ⟨shaped.bufferFree host prepared.holds, same ▸ prepared.buffers, same ▸ prepared.request,
    same ▸ prepared.operation⟩

theorem bufferMalloc_succeeds_iff (host : program.options.testMemType = .host) :
    (bufferMalloc program allocations program.iovCnt [] ledger).1.isSome ↔
      ∀ idx < program.iovCnt, allocations.buffers idx = true := by
  rw [bufferMalloc_isSome_iff]
  simp [memTypeMalloc_host host, apply_ite]

/-- `fill_request_param` succeeds with all buffers, or it leaves none. -/
theorem fillRequestParam_prepared (host : program.options.testMemType = .host) :
    Prepared program allocations
      (if (fillRequestParam program allocations isClient []).1.isSome then
        bufferHandles program.iovCnt else [])
      (fillRequestParam program allocations isClient []).2 := by
  have filling := @bufferMalloc_filling program allocations [] [] program.iovCnt host .nothing
    (Nat.zero_add _)
  generalize returned : fillRequestParam program allocations isClient [] = result
  cases fillRequestParam_cases returned with
  | unallocated later malloc =>
      rw [malloc] at filling
      exact filling.toPrepared
  | unfilled iov later final _ malloc fill =>
      rw [malloc] at filling
      have prepared := @Filling.fillBuffer _ _ _ _ _ iov filling
      rw [fill] at prepared
      exact prepared.bufferFree host (.bufferMalloc (congrArg Prod.fst malloc))
  | filled iov filled later final _ malloc fill =>
      rw [malloc] at filling
      have prepared := @Filling.fillBuffer _ _ _ _ _ iov filling
      rw [fill] at prepared
      exact prepared
  | receiver iov later _ malloc =>
      rw [malloc] at filling
      exact filling.toPrepared

theorem fillRequestParam_some (host : program.options.testMemType = .host)
    (returned : (fillRequestParam program allocations isClient ledger).1 = some (iov, param)) :
    Shaped program iov ∧ param = program.description := by
  generalize ways : fillRequestParam program allocations isClient ledger = result at returned
  cases fillRequestParam_cases ways with
  | unallocated | unfilled => cases returned
  | filled iov filled later final _ malloc fill =>
      cases returned
      have shaped := (Shaped.bufferMalloc (congrArg Prod.fst malloc)).fillBuffer host
        (congrArg Prod.fst fill)
      exact ⟨shaped, shaped.requestParam_eq⟩
  | receiver iov later _ malloc =>
      cases returned
      have shaped := Shaped.bufferMalloc (congrArg Prod.fst malloc)
      exact ⟨shaped, shaped.requestParam_eq⟩

theorem fillRequestParam_isSome_iff (host : program.options.testMemType = .host) :
    (fillRequestParam program allocations isClient ledger).1.isSome ↔
      Allocates program allocations isClient := by
  have allocated := @bufferMalloc_succeeds_iff program allocations ledger host
  have filled {iov : Iov} {later : Ledger Owned} (_ : isClient = true)
      (malloc : bufferMalloc program allocations program.iovCnt [] ledger = (some iov, later)) :
      (fillBuffer program allocations 0 iov later).1.isSome ↔
        ∀ idx < program.iovCnt, allocations.Callocs program.testStringLength idx := by
    have shaped := Shaped.bufferMalloc (congrArg Prod.fst malloc)
    rw [fillBuffer_isSome_iff shaped.lengths, shaped.count]
    simp
  generalize returned : fillRequestParam program allocations isClient ledger = result
  cases fillRequestParam_cases returned with
  | unallocated later malloc =>
      rw [malloc] at allocated
      exact iff_of_false (by simp) fun allocates => absurd (allocated.mpr allocates.1) (by simp)
  | unfilled iov later final client malloc fill =>
      have fills := filled client malloc
      rw [fill] at fills
      refine iff_of_false (by simp) fun allocates => ?_
      exact absurd (fills.mpr (allocates.2 client)) (by simp)
  | filled iov filled' later final client malloc fill =>
      have fills := filled client malloc
      rw [malloc] at allocated
      rw [fill] at fills
      exact iff_of_true rfl ⟨allocated.mp rfl, fun _ => fills.mp rfl⟩
  | receiver iov later server malloc =>
      rw [malloc] at allocated
      refine iff_of_true rfl ⟨allocated.mp rfl, fun client => ?_⟩
      exact absurd (server.symm.trans client) (by decide)

end Preparation

/-- The final status of an operation, in the words of UCX: `NULL` is success. -/
def finalStatus (completion : UcsStatus) : StatusPtr → UcsStatus
  | .null _ => .ok
  | .error code => .error code
  | .request => completion

/-- The operation that a transfer posts when it has its buffers. -/
def posted (type : SendRecvType) (isServer isRndv : Bool) : Option Post :=
  match type, isServer with
  | .stream, true => some .streamRecv
  | .stream, false => some .streamSend
  | .tag, true => some .tagRecv
  | .tag, false => some .tagSend
  | .am, true => if isRndv then some .amRecvData else none
  | .am, false => some .amSend

/-- The answer of UCX to the post; data that is there already counts as done. -/
def Calls.answered (calls : Calls) (program : Program) (operation : Option Post) : StatusPtr :=
  (operation.map fun post => calls.answer post program.description).getD (.null 0)

/-- What a transfer has done when it returns `ret`: nothing that it acquired is left, no
buffer was freed while the operation was in flight, and `ret` is 0 when everything
succeeded. -/
structure Completed (program : Program) (calls : Calls) (isServer : Bool) (operation : Option Post)
    (ret : Int) (ledger : Ledger Owned) : Prop where
  left : Leaves (needs program.iovCnt) [] ledger
  buffers : ∀ idx, .acquire (.buffer idx) ∈ ledger ↔
    idx < program.iovCnt ∧ ∀ earlier ≤ idx, calls.allocations.buffers earlier = true
  request : .acquire .request ∈ ledger ↔
    Allocates program calls.allocations (!isServer) ∧ calls.answered program operation = .request
  result : ret = 0 ↔ Allocates program calls.allocations (!isServer) ∧
    finalStatus calls.completion (calls.answered program operation) = .ok

section Operation

variable {program : Program} {calls : Calls} {ledger : Ledger Owned} {isServer : Bool}
  {iov : Iov} {requestPtr : StatusPtr}

theorem operation_not_needed (iovCnt : Nat) (user : Owned) : .operation ∉ needs iovCnt user := by
  cases user <;> simp [needs]

theorem request_not_needed (iovCnt : Nat) (user : Owned) : .request ∉ needs iovCnt user := by
  cases user <;> simp [needs]

/-- Behind the wait loop the operation is done, and the request is freed. -/
theorem requestWait_holds
    (prepared : Prepared program calls.allocations (bufferHandles program.iovCnt) ledger) :
    Holds (needs program.iovCnt) (bufferHandles program.iovCnt)
      (requestWait calls requestPtr (post requestPtr ledger)).2 := by
  have opened := prepared.holds.acquire prepared.operation fun _ needed => needed
  cases requestPtr with
  | null => exact opened.release fun user _ => operation_not_needed _ user
  | error => exact prepared.holds
  | request =>
      have fresh : .request ∉ acquired (.acquire .operation :: ledger) := by
        simpa using prepared.request
      have returned := opened.acquire fresh (by simp [needs])
      have swapped := returned.reorder (.swap _ _ _)
      have completed := swapped.release fun user _ => operation_not_needed _ user
      exact completed.release fun user _ => request_not_needed _ user

theorem requestWait_fst :
    (requestWait calls requestPtr ledger).1 = finalStatus calls.completion requestPtr := by
  cases requestPtr <;> rfl

theorem acquired_requestWait :
    acquired (requestWait calls requestPtr ledger).2 = acquired ledger := by
  cases requestPtr <;> rfl

theorem acquired_post {handle : Owned} :
    handle ∈ acquired (post requestPtr ledger) ↔ (handle = .request ∧ requestPtr = .request) ∨
      (handle = .operation ∧ ∀ code, requestPtr ≠ .error code) ∨ handle ∈ acquired ledger := by
  cases requestPtr <;> simp [post]

theorem Completed.of_failed {operation : Option Post}
    (prepared : Prepared program calls.allocations [] ledger)
    (fails : ¬ Allocates program calls.allocations (!isServer)) :
    Completed program calls isServer operation (-1) ledger where
  left := prepared.holds.leaves
  buffers idx := mem_acquired.symm.trans (prepared.buffers idx)
  request := iff_of_false (fun member => prepared.request (mem_acquired.mpr member))
    fun both => fails both.1
  result := iff_of_false (by decide) fun both => fails both.1

theorem Completed.of_present (host : program.options.testMemType = .host)
    (prepared : Prepared program calls.allocations (bufferHandles program.iovCnt) ledger)
    (allocates : Allocates program calls.allocations (!isServer)) (shaped : Shaped program iov) :
    Completed program calls isServer none
      (requestFinalize program calls iov (.null 0) ledger).1
      (requestFinalize program calls iov (.null 0) ledger).2 := by
  have freed := prepared.bufferFree host shaped
  exact {
    left := freed.holds.leaves
    buffers idx := mem_acquired.symm.trans (freed.buffers idx)
    request := iff_of_false (fun member => freed.request (mem_acquired.mpr member))
      (by simp [Calls.answered])
    result := iff_of_true rfl ⟨allocates, rfl⟩ }

theorem Completed.of_posted (host : program.options.testMemType = .host)
    (prepared : Prepared program calls.allocations (bufferHandles program.iovCnt) ledger)
    (allocates : Allocates program calls.allocations (!isServer)) (shaped : Shaped program iov)
    {operation : Post} (answer : calls.answer operation program.description = requestPtr) :
    Completed program calls isServer (some operation)
      (requestFinalize program calls iov requestPtr (post requestPtr ledger)).1
      (requestFinalize program calls iov requestPtr (post requestPtr ledger)).2 := by
  have freed := shaped.bufferFree host (@requestWait_holds _ _ _ requestPtr prepared)
  have made : ∀ handle, .acquire handle ∈
      (requestFinalize program calls iov requestPtr (post requestPtr ledger)).2 ↔
        handle ∈ acquired (post requestPtr ledger) := by
    intro handle
    rw [← mem_acquired, requestFinalize, acquired_bufferFree, acquired_requestWait]
  constructor
  · exact freed.leaves
  · intro idx
    rw [made, acquired_post, prepared.buffers]
    simp
  · rw [made, acquired_post]
    simp [prepared.request, allocates, Calls.answered, answer]
  · have status := @requestWait_fst calls (post requestPtr ledger) requestPtr
    have answered : calls.answered program (some operation) = requestPtr := answer
    rw [answered, ← status, and_iff_right allocates]
    constructor
    · intro zero
      by_contra failed
      simp [requestFinalize, failed] at zero
    · intro succeeds
      exact if_pos succeeds

end Operation

/-- The three functions differ in what they post. -/
theorem clientServerCommunication_eq (program : Program) (calls : Calls) (type : SendRecvType)
    (isServer : Bool) :
    clientServerCommunication program calls type isServer =
      sendRecv program calls isServer (posted type isServer calls.isRndv) := by
  cases type <;> cases isServer <;> rfl

/-- Whatever the allocations and UCX return, a transfer of either role frees each of its
buffers once and behind the operation, and the request that it was given. -/
theorem clientServerCommunication_completed {program : Program} (calls : Calls)
    (type : SendRecvType) (isServer : Bool) (host : program.options.testMemType = .host) :
    Completed program calls isServer (posted type isServer calls.isRndv)
      (clientServerCommunication program calls type isServer).1
      (clientServerCommunication program calls type isServer).2 := by
  rw [clientServerCommunication_eq, sendRecv]
  have prepared := @fillRequestParam_prepared program calls.allocations (!isServer) host
  have allocates := @fillRequestParam_isSome_iff program calls.allocations [] (!isServer) host
  have shaped := fun iov param =>
    @fillRequestParam_some program calls.allocations [] iov (!isServer) param host
  cases requested : fillRequestParam program calls.allocations (!isServer) [] with
  | mk result ledger =>
      rw [requested] at prepared allocates shaped
      cases result with
      | none => exact .of_failed prepared fun succeed => absurd (allocates.mpr succeed) (by simp)
      | some iovAndParam =>
          obtain ⟨iov, param⟩ := iovAndParam
          obtain ⟨shape, rfl⟩ := shaped iov param rfl
          cases posted type isServer calls.isRndv with
          | none => exact .of_present host prepared (allocates.mp rfl) shape
          | some operation => exact .of_posted host prepared (allocates.mp rfl) shape rfl

/-- Every post returns a request, which completes. -/
def pendingCalls : Calls where
  allocations := allSucceed
  answer _ _ := .request
  completion := .ok
  isRndv := false

theorem pendingSend_completed :
    Completed (hostProgram 3 2) pendingCalls false (some .tagSend) 0
      [.release (.buffer 1), .release (.buffer 0), .release .request, .release .operation,
        .acquire .request, .acquire .operation, .release (.scratch 1), .acquire (.scratch 1),
        .release (.scratch 0), .acquire (.scratch 0), .acquire (.buffer 1),
        .acquire (.buffer 0)] :=
  clientServerCommunication_completed pendingCalls .tag false rfl

end UcxPlayground.ClientServer.Buffers
