import UcxPlayground.HelloWorld.Phases

/-!
# The address of the server

The client learns from the first bytes of the stream how long the address after
them is. It compares as `int` what `recv` returns with that length, so a length
from `2 ^ 31` on passes with the wrong number of bytes.
-/

set_option autoImplicit false

namespace UcxPlayground.HelloWorld

open Bytes Transition

/-- The process has the address that follows its length on the stream. -/
structure HoldsAddress (process : Process) (stream : List Byte) : Prop where
  announced : process.peerAddrLen = ofBytes (stream.take lengthSize)
  bytes : process.peerAddr = (stream.drop lengthSize).take process.peerAddrLen
  whole : process.peerAddr.length = process.peerAddrLen

/-- The `int` comparison cannot take the bytes that arrived for an address of the
announced length when they are not one. -/
def Distinguished (announced : Nat) (count : Option Nat) : Prop :=
  announced < 2 ^ 31 ∨
    match count with
    | some count => announced % 2 ^ 32 ≠ count
    | none => announced % 2 ^ 32 ≠ 2 ^ 32 - 1

section Receive

variable {announced : Nat} {count : Option Nat}

/-- A failed call returns -1, which is the `int` of every length that ends in 32 ones. -/
theorem toInt_ssize_eq_iff (possible : Possible announced count) :
    toInt (ssize count) = toInt announced ↔
      match count with
      | some count => announced % 2 ^ 32 = count
      | none => announced % 2 ^ 32 = 2 ^ 32 - 1 := by
  rw [toInt_eq_iff]
  cases count with
  | none =>
      simp only [ssize]
      omega
  | some count =>
      have bounded := (possible count rfl).2
      simp only [ssize, maxTransfer] at bounded ⊢
      omega

theorem passes_short_iff (possible : Possible announced count) :
    (toInt (ssize count) = toInt announced → count = some announced) ↔
      Distinguished announced count := by
  rw [toInt_ssize_eq_iff possible]
  cases count with
  | none =>
      simp only [Distinguished, reduceCtorEq, imp_false, ne_eq]
      omega
  | some count =>
      obtain ⟨bounded, single⟩ := possible count rfl
      simp only [Distinguished, Option.some.injEq, maxTransfer] at bounded single ⊢
      omega

variable {options : Options} {process next : Process} {data : Option (List Byte)}
  {stream : List Byte}

/-- The second receive of the client. -/
theorem step_receivingAddress (receiving : process.pc = .receivingAddress)
    (stepped : step options process (.received data) = some next) :
    Possible process.peerAddrLen (data.map List.length) ∧
      next = ({ process with peerAddr := data.getD [] }.consume data).exchange .address
        (data.map List.length) process.peerAddrLen (.client .creatingEp) := by
  simp only [step, main, receiving] at stepped
  split at stepped
  · next possible => exact ⟨possible, (Option.some.inj stepped).symm⟩
  · cases stepped

theorem LengthReceived.header_eq (received : LengthReceived process)
    (sent : process.consumed <+: stream) : stream.take lengthSize = process.consumed := by
  obtain ⟨rest, rfl⟩ := sent
  exact List.take_left' received.header

theorem holdsAddress_iff (received : LengthReceived process)
    (sent : process.consumed ++ data.getD [] <+: stream)
    (length : next.peerAddrLen = process.peerAddrLen) (address : next.peerAddr = data.getD []) :
    HoldsAddress next stream ↔ (data.getD []).length = process.peerAddrLen := by
  have header := received.header_eq ((List.prefix_append _ _).trans sent)
  constructor
  · intro holds
    rw [← address, holds.whole, length]
  · intro whole
    constructor
    · rw [header, length, received.announced]
    · obtain ⟨rest, rfl⟩ := sent
      rw [List.append_assoc, List.drop_left' received.header, length, address,
        List.take_left' whole]
    · rw [address, whole, length]

theorem exchange_pc_iff {transfer : Transfer} {required : Nat} {pc : Pc}
    (later : pc ≠ .destroying) :
    (process.exchange transfer count required pc).pc = pc ↔
      toInt (ssize count) = toInt required := by
  by_cases checked : toInt (ssize count) = toInt required
  · exact iff_of_true (if_neg (not_not.mpr checked)) checked
  · refine iff_of_false (fun passed => later ?_) checked
    exact passed.symm.trans (if_pos checked)

end Receive

/-- The address is received exactly, or the client does not go on with it, when
the length is less than `2 ^ 31` or differs as an `int` from what `recv` returns. -/
theorem address_received_iff {options : Options} {actions : List Action} {process next : Process}
    {data : Option (List Byte)} {stream : List Byte}
    (reached : run (step options) .initial actions = some process)
    (receiving : process.pc = .receivingAddress)
    (stepped : step options process (.received data) = some next)
    (sent : next.consumed <+: stream) :
    (next.pc = .client .creatingEp → HoldsAddress next stream) ↔
      Distinguished (ofBytes (stream.take lengthSize)) (data.map List.length) := by
  have at' := (run_phase reached).alive (by simp [receiving])
  rw [receiving] at at'
  obtain ⟨received, _⟩ := at'
  obtain ⟨possible, rfl⟩ := step_receivingAddress receiving stepped
  have header := received.header_eq ((List.prefix_append _ _).trans sent)
  rw [header, ← received.announced, ← passes_short_iff possible, exchange_pc_iff (by decide)]
  refine imp_congr_right fun checked => ?_
  refine Iff.trans (holdsAddress_iff received sent rfl rfl) ?_
  cases data with
  | none =>
      -- An empty address is not what a failed call is taken for.
      refine iff_of_false (fun empty => ?_) (by simp)
      obtain zero : process.peerAddrLen = 0 := empty.symm
      rw [zero] at checked
      exact absurd checked (by decide)
  | some bytes => simp

/-- The calls up to the second receive, the first having received `header`. -/
def receiveLength (header : List Byte) : List Action :=
  [.status .ok, .status .ok, .status .ok, .status .ok, .queried [7], .connected true,
    .received (some header), .allocated true]

/-- A client that has received the length in `header`. -/
def announcedClient (header : List Byte) : Process :=
  { Process.initial with
    pc := .receivingAddress
    ret := 8
    localAddr := [7]
    peerAddrLen := ofBytes header
    consumed := header
    log := [.exchanged .length (some 8) 8] }

/-- The client after an address of which it received `bytes`. -/
def addressedClient (header bytes : List Byte) : Process :=
  { announcedClient header with
    pc := .client .creatingEp
    ret := bytes.length
    peerAddr := bytes
    consumed := header ++ bytes
    log := [.exchanged .address (some bytes.length) (ofBytes header),
      .exchanged .length (some 8) 8] }

theorem twoBytes_received :
    HoldsAddress (addressedClient [2, 0, 0, 0, 0, 0, 0, 0] [8, 9])
      [2, 0, 0, 0, 0, 0, 0, 0, 8, 9, 1] :=
  (@address_received_iff ⟨.client, .none⟩ (receiveLength [2, 0, 0, 0, 0, 0, 0, 0])
    (announcedClient [2, 0, 0, 0, 0, 0, 0, 0]) _ (some [8, 9]) _ (by decide) rfl (by decide)
    ⟨[1], rfl⟩).mpr (.inl (by decide)) rfl

/-- The peer announces `2 ^ 32 + 2` bytes and closes the socket after two. -/
theorem shortAddress_accepted :
    run (step ⟨.client, .none⟩) .initial
        (receiveLength [2, 0, 0, 0, 1, 0, 0, 0] ++ [.received (some [8, 9])]) =
      some (addressedClient [2, 0, 0, 0, 1, 0, 0, 0] [8, 9]) ∧
    (addressedClient [2, 0, 0, 0, 1, 0, 0, 0] [8, 9]).pc = .client .creatingEp ∧
    ¬ HoldsAddress (addressedClient [2, 0, 0, 0, 1, 0, 0, 0] [8, 9])
      [2, 0, 0, 0, 1, 0, 0, 0, 8, 9] := by
  refine ⟨by decide, rfl, fun holds => ?_⟩
  exact absurd holds.whole (by decide)

end UcxPlayground.HelloWorld
