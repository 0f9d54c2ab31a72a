import Mathlib.Data.List.Basic
import UcxPlayground.ClientServer.Moves

/-!
# Messages on a channel

Every message has the length both sides agreed on, and nothing is taken from a
channel that was not posted.
-/

set_option autoImplicit false

namespace UcxPlayground.ClientServer

open Bytes

section Buffers

theorem length_flatten_of_uniform {length : Nat} {iov : Iov}
    (uniform : ∀ buffer ∈ iov, buffer.length = length) :
    iov.flatten.length = iov.length * length := by
  induction iov with
  | nil => simp
  | cons buffer rest ih =>
      have first := uniform buffer List.mem_cons_self
      have others := ih fun other member => uniform other (List.mem_cons_of_mem _ member)
      rw [List.flatten_cons, List.length_append, first, others, List.length_cons, Nat.succ_mul,
        Nat.add_comm]

theorem scatter_flatten {length : Nat} {iov : Iov}
    (uniform : ∀ buffer ∈ iov, buffer.length = length) :
    scatter length iov.length iov.flatten = iov := by
  induction iov with
  | nil => rfl
  | cons buffer rest ih =>
      have first := uniform buffer List.mem_cons_self
      have others := ih fun other member => uniform other (List.mem_cons_of_mem _ member)
      rw [List.length_cons, scatter, List.flatten_cons, ← first, List.take_left, List.drop_left]
      rw [first, others]

theorem fillBuffer_uniform (cfg : Config) (client currentIter : Nat) :
    ∀ buffer ∈ cfg.fillBuffer client currentIter, buffer.length = cfg.testStringLength := by
  intro buffer member
  obtain ⟨idx, _, rfl⟩ := List.mem_map.mp member
  simp

theorem length_fillBuffer (cfg : Config) (client currentIter : Nat) :
    (cfg.fillBuffer client currentIter).length = cfg.iovCnt := by
  simp [Config.fillBuffer]

/-- What one side fills in and the other copies out are the same buffers. -/
theorem scatter_fillBuffer (cfg : Config) (client currentIter : Nat) :
    scatter cfg.testStringLength cfg.iovCnt (cfg.fillBuffer client currentIter).flatten =
      cfg.fillBuffer client currentIter := by
  have restored := scatter_flatten (fillBuffer_uniform cfg client currentIter)
  rwa [length_fillBuffer] at restored

theorem length_message (cfg : Config) (side : Side) (call : Call) (rndv : Bool) :
    (side.message cfg call rndv).data.length = cfg.messageLength := by
  rw [Side.message, length_flatten_of_uniform (fillBuffer_uniform cfg _ _), length_fillBuffer,
    Config.messageLength]

end Buffers

namespace Channel

def AllFetched (channel : Channel) : Prop :=
  ∀ (index : Nat) (message : Message), channel.log[index]? = some message →
    message.rndv = true → index ∈ channel.fetched

/-- The last message may be a rendezvous message that was not fetched yet. -/
def FetchedBut (channel : Channel) : Prop :=
  ∀ (index : Nat) (message : Message), channel.log[index]? = some message →
    message.rndv = true → index ∈ channel.fetched ∨ index + 1 = channel.log.length

structure Lawful (cfg : Config) (channel : Channel) : Prop where
  sized : ∀ message ∈ channel.log, message.data.length = cfg.messageLength
  rndv : ∀ message ∈ channel.log, message.rndv = true → cfg.sendRecvType = .am
  bound : channel.next ≤ channel.log.length
  stream : channel.taken ≤ channel.stream.length

variable {cfg : Config} {channel : Channel}

theorem Lawful.empty (cfg : Config) : Channel.empty.Lawful cfg where
  sized message member := by simp [Channel.empty] at member
  rndv message member := by simp [Channel.empty] at member
  bound := Nat.le_refl _
  stream := Nat.zero_le _

theorem Lawful.length_stream (lawful : channel.Lawful cfg) :
    channel.stream.length = channel.log.length * cfg.messageLength := by
  have uniform : ∀ buffer ∈ channel.log.map Message.data, buffer.length = cfg.messageLength := by
    intro buffer member
    obtain ⟨message, present, rfl⟩ := List.mem_map.mp member
    exact lawful.sized message present
  have total := length_flatten_of_uniform uniform
  rwa [List.length_map] at total

theorem Lawful.post (lawful : channel.Lawful cfg) {message : Message}
    (sized : message.data.length = cfg.messageLength)
    (allowed : message.rndv = true → cfg.sendRecvType = .am) :
    (channel.post message).Lawful cfg where
  sized other member := by
    rcases List.mem_append.mp member with old | new
    · exact lawful.sized other old
    · rwa [List.mem_singleton.mp new]
  rndv other member := by
    rcases List.mem_append.mp member with old | new
    · exact lawful.rndv other old
    · rwa [List.mem_singleton.mp new]
  bound := by
    have := lawful.bound
    simp only [Channel.post, List.length_append, List.length_singleton]
    omega
  stream := by
    have := lawful.stream
    simp only [Channel.post, Channel.stream, List.flatMap_append, List.length_append] at *
    omega

theorem Lawful.handle (lawful : channel.Lawful cfg) {message : Message}
    (found : channel.log[channel.next]? = some message) :
    ({ channel with next := channel.next + 1 } : Channel).Lawful cfg :=
  ⟨lawful.sized, lawful.rndv, (List.getElem?_eq_some_iff.mp found).1, lawful.stream⟩

/-- What a receive that succeeds does to the channel. -/
inductive Supplied (cfg : Config) (channel : Channel) : Request → Channel → List Byte → Prop where
  | stream :
      channel.taken + cfg.messageLength ≤ channel.stream.length →
      Supplied cfg channel .recvStream { channel with taken := channel.taken + cfg.messageLength }
        ((channel.stream.drop channel.taken).take cfg.messageLength)
  | tag {message} :
      channel.log[channel.next]? = some message →
      Supplied cfg channel .recvTag { channel with next := channel.next + 1 } message.data
  | am {index message} :
      channel.log[index]? = some message →
      Supplied cfg channel (.recvAm index) { channel with fetched := index :: channel.fetched }
        message.data

theorem supplied {request : Request} {after : Channel} {data : List Byte}
    (supply : channel.supply cfg request = some (after, data)) :
    Supplied cfg channel request after data := by
  cases request with
  | send => simp [Channel.supply] at supply
  | recvStream =>
      simp only [Channel.supply, Option.ite_none_right_eq_some, Option.some.injEq,
        Prod.mk.injEq] at supply
      obtain ⟨enough, rfl, rfl⟩ := supply
      exact .stream enough
  | recvTag =>
      simp only [Channel.supply, Option.map_eq_some_iff, Prod.mk.injEq] at supply
      obtain ⟨message, found, rfl, rfl⟩ := supply
      exact .tag found
  | recvAm index =>
      simp only [Channel.supply, Option.map_eq_some_iff, Prod.mk.injEq] at supply
      obtain ⟨message, found, rfl, rfl⟩ := supply
      exact .am found

variable {request : Request} {after : Channel} {data : List Byte}

theorem Supplied.lawful (supplied : Supplied cfg channel request after data)
    (lawful : channel.Lawful cfg) : after.Lawful cfg := by
  cases supplied with
  | stream enough => exact ⟨lawful.sized, lawful.rndv, lawful.bound, enough⟩
  | tag found => exact lawful.handle found
  | am => exact ⟨lawful.sized, lawful.rndv, lawful.bound, lawful.stream⟩

@[simp] theorem Supplied.log (supplied : Supplied cfg channel request after data) :
    after.log = channel.log := by
  cases supplied <;> rfl

theorem Supplied.fetched (supplied : Supplied cfg channel request after data) {index : Nat}
    (member : index ∈ channel.fetched) : index ∈ after.fetched := by
  cases supplied with
  | stream | tag => exact member
  | am => exact List.mem_cons_of_mem _ member

theorem Supplied.posted (supplied : Supplied cfg channel request after data)
    (sized : request = .recvStream → 0 < cfg.messageLength) : channel.log ≠ [] := by
  intro empty
  cases supplied with
  | stream enough =>
      have positive := sized rfl
      simp only [Channel.stream, empty, List.flatMap_nil, List.length_nil] at enough
      omega
  | tag found => simp [empty] at found
  | am found => simp [empty] at found

end Channel

namespace Side

variable {cfg : Config} {side next : Side} {action : Step}

/-- A process only appends to its outgoing channel, and only with messages of
the agreed length. -/
theorem Move.outgoing (move : Move cfg side action next) :
    next.outgoing = side.outgoing ∨
      ∃ call message, side.proc.pc = .call call ∧ side.proc.receives call = false ∧
        message.data = (side.message cfg call false).data ∧
        (message.rndv = true → cfg.sendRecvType = .am) ∧
        next.outgoing = side.outgoing.post message := by
  cases move with
  | sent here sends => exact .inr ⟨_, _, here, sends, rfl, by simp [Side.message], rfl⟩
  | @posted call _ rndv here sends allowed =>
      exact .inr ⟨call, side.message cfg call rndv, here, sends, rfl, allowed, rfl⟩
  | _ => exact .inl rfl

theorem Move.incoming (move : Move cfg side action next) :
    next.incoming.log = side.incoming.log ∧
      ∀ index ∈ side.incoming.fetched, index ∈ next.incoming.fetched := by
  cases move with
  | received _ _ _ supply | receiveDone _ _ supply =>
      have supplied := Channel.supplied supply
      exact ⟨supplied.log, fun _ => supplied.fetched⟩
  | _ => exact ⟨rfl, fun _ member => member⟩

theorem Move.lawful (move : Move cfg side action next) (incoming : side.incoming.Lawful cfg)
    (outgoing : side.outgoing.Lawful cfg) :
    next.incoming.Lawful cfg ∧ next.outgoing.Lawful cfg := by
  constructor
  · cases move with
    | received _ _ _ supply => exact (Channel.supplied supply).lawful incoming
    | receiveDone _ _ supply => exact (Channel.supplied supply).lawful incoming
    | handled _ _ found => exact incoming.handle found
    | discarded _ _ found => exact incoming.handle found
    | _ => exact incoming
  · rcases move.outgoing with same | ⟨call, message, _, _, data, allowed, posted⟩
    · rwa [same]
    · rw [posted]
      exact outgoing.post (by rw [data, length_message]) allowed

/-- What a step does to the active messages and their counters. -/
inductive Counts (side next : Side) : Prop where
  | kept :
      next.incoming.next = side.incoming.next →
      next.proc.amDataDesc.complete = side.proc.amDataDesc.complete →
      next.proc.amDataDesc.isRndv = side.proc.amDataDesc.isRndv →
      next.proc.amDataDesc.desc = side.proc.amDataDesc.desc →
      next.proc.discarded = side.proc.discarded →
      (next.proc.last = side.proc.last ∨
        side.proc.last ≠ side.proc.amDataDesc.complete ∧
          next.proc.last = side.proc.last + 1) →
      Counts side next
  | handled {message} :
      side.incoming.log[side.incoming.next]? = some message →
      side.proc.handler = true →
      next.incoming.next = side.incoming.next + 1 →
      next.proc.amDataDesc.complete = side.proc.amDataDesc.complete + 1 →
      next.proc.amDataDesc.isRndv = message.rndv →
      (message.rndv = true → next.proc.amDataDesc.desc = some side.incoming.next) →
      next.proc.discarded = side.proc.discarded →
      next.proc.last = side.proc.last →
      Counts side next
  | discarded :
      side.proc.handler = false →
      next.incoming.next = side.incoming.next + 1 →
      next.proc.amDataDesc.complete = side.proc.amDataDesc.complete →
      next.proc.discarded = side.incoming.next :: side.proc.discarded →
      next.proc.last = side.proc.last →
      Counts side next

theorem Move.counts (move : Move cfg side action next) (lawful : side.incoming.Lawful cfg)
    (kind : cfg.sendRecvType = .am) (untagged : side.proc.request ≠ some .recvTag) :
    Counts side next := by
  cases move with
  | callFailed _ filled =>
      rcases filled with rfl | rfl <;> exact .kept rfl rfl rfl rfl rfl (.inl rfl)
  | received _ _ receives => rcases receives with ⟨other, _⟩ | ⟨other, _⟩ <;> simp [kind] at other
  | receiveDone waits _ supply =>
      cases Channel.supplied supply with
      | stream | am => exact .kept rfl rfl rfl rfl rfl (.inl rfl)
      | tag => exact absurd waits untagged
  | handled _ _ found registered =>
      have agreed := lawful.sized _ (List.mem_of_getElem? found)
      refine .handled found registered rfl (Proc.ucpAmDataCb_complete agreed)
        (Proc.ucpAmDataCb_isRndv agreed) (fun rndv => ?_) (by simp) (by simp)
      simp only [Proc.ucpAmDataCb_rndv agreed rndv]
  | discarded _ _ _ unhandled => exact .discarded unhandled rfl rfl rfl rfl
  | leftRndv _ _ differs | leftRndvFailed _ _ differs | leftEager _ _ differs =>
      exact .kept rfl rfl rfl rfl rfl (.inr ⟨differs, rfl⟩)
  | _ => exact .kept rfl rfl rfl rfl rfl (.inl rfl)

theorem Move.registered_of (move : Move cfg side action next)
    (registered : side.proc.handler = true) : next.proc.handler = true := by
  cases move with
  | callFailed _ filled => rcases filled with rfl | rfl <;> exact registered
  | handled => simpa using registered
  | registered => rfl
  | _ => exact registered

theorem Move.identity (move : Move cfg side action next) :
    next.proc.isServer = side.proc.isServer ∧ next.proc.client = side.proc.client := by
  cases move with
  | @callFailed action call proc _ filled =>
      rcases filled with rfl | rfl <;> exact ⟨rfl, rfl⟩
  | handled => simp
  | _ => exact ⟨rfl, rfl⟩

end Side

end UcxPlayground.ClientServer
