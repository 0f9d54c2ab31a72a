import UcxPlayground.Resource.Pool

/-!
# The out-of-band connection

`connect_common` of `hello_world_util.h` goes through the addresses that
`getaddrinfo` found. A client takes the first one that it can connect to. A
server accepts one connection at the first one that it can bind, and any other
failure there ends the search.
-/

set_option autoImplicit false

namespace UcxPlayground.HelloWorld

open Resource

/-- How the calls for one address of the list are answered; false is a negative
result. -/
structure AddressCalls where
  socket : Bool
  connect : Bool
  setsockopt : Bool
  bind : Bool
  listen : Bool
  accept : Bool
  deriving DecidableEq, Repr

/-- What `connect_common` must give back. Descriptors are named by the position
in the list of the address they were made for. -/
inductive Opened where
  | addressList
  | socket (index : Nat)
  | accepted (index : Nat)
  deriving DecidableEq, Repr

def Opened.index? : Opened → Option Nat
  | .addressList => none
  | .socket index => some index
  | .accepted index => some index

def noNeeds (_ : Opened) : List Opened := []

/-- The loop over the list from `index` on, with the value of `sockfd` behind it;
`none` is a negative one. `isClient` holds when `server` is not `NULL`. -/
def connectLoop (isClient : Bool) :
    (index : Nat) → List AddressCalls → Ledger Opened → Option Opened × Ledger Opened
  | _, [], ledger => (none, ledger)
  | index, calls :: rest, ledger =>
      let opened := .acquire (.socket index) :: ledger
      let closed := .release (.socket index) :: opened
      if ¬ calls.socket then
        connectLoop isClient (index + 1) rest ledger  -- `continue`
      else if isClient then
        if calls.connect then (some (.socket index), opened)
        else connectLoop isClient (index + 1) rest closed
      else if ¬ calls.setsockopt then
        (none, closed)  -- `err_close_sockfd`
      else if calls.bind then
        if ¬ calls.listen then
          (none, closed)  -- `err_close_sockfd`
        else if calls.accept then
          (some (.accepted index), .release (.socket index) :: .acquire (.accepted index) :: opened)
        else
          (none, closed)  -- `close(listenfd)`
      else connectLoop isClient (index + 1) rest closed

/-- The descriptor that is returned, and what was opened and closed. The list is
`none` when `getaddrinfo` fails. -/
def connectCommon (isClient : Bool) (list : Option (List AddressCalls)) :
    Option Opened × Ledger Opened :=
  match list with
  | none => (none, [])
  | some res =>
      let searched := connectLoop isClient 0 res [.acquire .addressList]
      (searched.1, .release .addressList :: searched.2)

/-- A client can connect to the address. -/
def AddressCalls.connects (calls : AddressCalls) : Bool :=
  calls.socket && calls.connect

/-- Between two addresses: only the list is open, and no descriptor was made for
the addresses from `index` on. -/
structure Searching (index : Nat) (ledger : Ledger Opened) : Prop where
  opened : opened noNeeds ledger = some [.addressList]
  unused : ∀ position, index ≤ position →
    .socket position ∉ acquired ledger ∧ .accepted position ∉ acquired ledger

namespace Searching

variable {index : Nat} {ledger : Ledger Opened}

theorem initial : Searching 0 [.acquire .addressList] := by
  constructor
  · decide
  · simp

theorem next (searching : Searching index ledger) : Searching (index + 1) ledger :=
  ⟨searching.opened, fun position later => searching.unused position (Nat.le_of_succ_le later)⟩

theorem open_socket (searching : Searching index ledger) :
    Resource.opened noNeeds (.acquire (.socket index) :: ledger) =
      some [.socket index, .addressList] :=
  opened_acquire searching.opened (searching.unused index (Nat.le_refl index)).1
    (by simp [noNeeds])

theorem close_socket (searching : Searching index ledger) :
    Resource.opened noNeeds (.release (.socket index) :: .acquire (.socket index) :: ledger) =
      some [.addressList] := by
  rw [opened_release searching.open_socket (by simp) (by simp [noNeeds])]
  simp

theorem close_next (searching : Searching index ledger) :
    Searching (index + 1) (.release (.socket index) :: .acquire (.socket index) :: ledger) := by
  refine ⟨searching.close_socket, fun position later => ?_⟩
  obtain ⟨socket, accepted⟩ := searching.unused position (Nat.le_of_succ_le later)
  have different : position ≠ index := Nat.ne_of_gt later
  simp [socket, accepted, different]

/-- `accept`, and the close of the listening socket behind it. -/
theorem accept (searching : Searching index ledger) :
    Resource.opened noNeeds
      (.release (.socket index) :: .acquire (.accepted index) :: .acquire (.socket index) ::
        ledger) = some [.accepted index, .addressList] := by
  have accepted := opened_acquire searching.open_socket
    (by simpa using (searching.unused index (Nat.le_refl index)).2)
    (by simp [noNeeds] : ∀ owner ∈ noNeeds (.accepted index), owner ∈ _)
  rw [opened_release accepted (by simp) (by simp [noNeeds])]
  simp

end Searching

/-- The search leaves what it returns open, besides the list. -/
theorem connectLoop_opened {isClient : Bool} {index : Nat} {list : List AddressCalls}
    {ledger : Ledger Opened} (searching : Searching index ledger) :
    opened noNeeds (connectLoop isClient index list ledger).2 =
      some ((connectLoop isClient index list ledger).1.toList ++ [.addressList]) := by
  fun_induction connectLoop isClient index list ledger with
  | case1 => exact searching.opened
  | case2 _ _ _ _ _ ih => exact ih searching.next
  | case3 => exact searching.open_socket
  | case4 _ _ _ _ _ _ _ _ _ ih => exact ih searching.close_next
  | case5 | case6 | case8 => exact searching.close_socket
  | case7 => exact searching.accept
  | case9 _ _ _ _ _ _ _ _ _ _ ih => exact ih searching.close_next

theorem connectLoop_descriptor (isClient : Bool) (index : Nat) (list : List AddressCalls)
    (ledger : Ledger Opened) :
    (connectLoop isClient index list ledger).1 ≠ some .addressList := by
  fun_induction connectLoop isClient index list ledger with
  | case2 | case4 | case9 => assumption
  | _ => simp

/-- The descriptor was made for an address of the list. -/
theorem connectLoop_index {isClient : Bool} {index : Nat} {list : List AddressCalls}
    {ledger : Ledger Opened} {sockfd : Opened}
    (returned : (connectLoop isClient index list ledger).1 = some sockfd) :
    ∃ position, sockfd.index? = some position ∧ position < index + list.length := by
  fun_induction connectLoop isClient index list ledger with
  | case1 => cases returned
  | case2 | case4 | case9 =>
      rename_i ih
      obtain ⟨position, same, bound⟩ := ih returned
      rw [List.length_cons]
      exact ⟨position, same, by omega⟩
  | case3 | case7 =>
      cases returned
      exact ⟨_, rfl, Nat.lt_add_of_pos_right (Nat.succ_pos _)⟩
  | case5 | case6 | case8 => cases returned

theorem connectCommon_index {isClient : Bool} {list : List AddressCalls} {sockfd : Opened}
    (returned : (connectCommon isClient (some list)).1 = some sockfd) :
    ∃ position, sockfd.index? = some position ∧ position < list.length := by
  obtain ⟨position, same, bound⟩ := @connectLoop_index isClient 0 list _ sockfd returned
  exact ⟨position, same, by rwa [Nat.zero_add] at bound⟩

/-- A client takes the first address that it can connect to. -/
theorem connectLoop_client (list : List AddressCalls) (index : Nat) (ledger : Ledger Opened) :
    (connectLoop true index list ledger).1 =
      (list.findIdx? AddressCalls.connects).map fun position => .socket (index + position) := by
  induction list generalizing index ledger with
  | nil => rfl
  | cons calls rest ih =>
      cases socket : calls.socket with
      | false =>
          simp [connectLoop, AddressCalls.connects, List.findIdx?_cons, socket, ih,
            Function.comp_def, Nat.add_assoc, Nat.add_comm 1]
      | true =>
          cases connect : calls.connect with
          | true => simp [connectLoop, AddressCalls.connects, List.findIdx?_cons, socket, connect]
          | false =>
              simp [connectLoop, AddressCalls.connects, List.findIdx?_cons, socket, connect, ih,
                Function.comp_def, Nat.add_assoc, Nat.add_comm 1]

/-- What `connect_common` returns, and what it leaves open. -/
structure Connected (isClient : Bool) (list : Option (List AddressCalls))
    (sockfd : Option Opened) (ledger : Ledger Opened) : Prop where
  left : Leaves noNeeds sockfd.toList ledger
  descriptor : sockfd ≠ some .addressList
  list_obtained : ledger.count (.acquire .addressList) = if list.isSome then 1 else 0
  list_freed : ledger.count (.release .addressList) = if list.isSome then 1 else 0
  first : isClient = true → ∀ res ∈ list,
    sockfd = (res.findIdx? AddressCalls.connects).map .socket

/-- Whatever `getaddrinfo` finds and the calls return, `connect_common` leaves
nothing open but the descriptor it returns, and closes and frees everything
else once. A client gets the socket of the first address that it can use. -/
theorem connectCommon_connected (isClient : Bool) (list : Option (List AddressCalls)) :
    Connected isClient list (connectCommon isClient list).1 (connectCommon isClient list).2 := by
  cases list with
  | none => exact ⟨leaves_of_opened rfl, by simp [connectCommon], rfl, rfl, by simp⟩
  | some res =>
      have searched := @connectLoop_opened isClient 0 res _ Searching.initial
      have descriptor : (connectCommon isClient (some res)).1 ≠ some .addressList :=
        connectLoop_descriptor isClient 0 res _
      have absent : .addressList ∉ (connectCommon isClient (some res)).1.toList := by
        simpa using descriptor
      have obtained := ((mem_opened_iff searched).mp (by simp :
        Opened.addressList ∈ _ ++ [Opened.addressList])).1
      have freed : opened noNeeds (connectCommon isClient (some res)).2 =
          some (connectCommon isClient (some res)).1.toList := by
        refine (opened_release searched (by simp) (by simp [noNeeds])).trans ?_
        exact congrArg some ((List.erase_append_right _ absent).trans (List.append_nil _))
      have left := leaves_of_opened freed
      have acquires : .acquire .addressList ∈ (connectCommon isClient (some res)).2 :=
        List.mem_cons_of_mem _ obtained
      refine ⟨left, descriptor, ?_, left.released_once acquires absent, ?_⟩
      · exact Nat.le_antisymm (left.once _) (List.count_pos_iff.mpr acquires)
      · intro client list same
        cases same
        subst client
        refine (connectLoop_client res 0 _).trans ?_
        simp only [Nat.zero_add]

end UcxPlayground.HelloWorld
