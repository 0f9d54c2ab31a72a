import UcxPlayground.Transition.Run
import UcxPlayground.Ucx

/-!
# The requests of `ucp_hello_world`

UCX keeps the requests of a process in a pool and runs `request_init` on one only
when it adds it. What `completed` is when a request comes back with another
operation is left to `ucx_wait`, which ends its loop by it, and to `flush_ep` and
`ep_close`, which use requests of the same pool without a handler.
-/

set_option autoImplicit false

namespace UcxPlayground.HelloWorld

open Transition

/-- `struct ucx_context`, the part of a request that is the program's. -/
structure UcxContext where
  completed : Int
  deriving DecidableEq, Repr

def requestInit (context : UcxContext) : UcxContext :=
  { context with completed := 0 }

def sendHandler (context : UcxContext) : UcxContext :=
  { context with completed := 1 }

def recvHandler (context : UcxContext) : UcxContext :=
  { context with completed := 1 }

/-- `ucx_wait` follows a send and a receive; `flush_ep` and `ep_close` post an
operation of their own. -/
inductive Operation where
  | send
  | receive
  | flush
  | close
  deriving DecidableEq, Repr

namespace Operation

/-- What the callback does, for an operation that has one. -/
def handler : Operation → UcxContext → UcxContext
  | .send => sendHandler
  | .receive => recvHandler
  | .flush => id
  | .close => id

def handled : Operation → Bool
  | .send => true
  | .receive => true
  | .flush => false
  | .close => false

end Operation

/-- `posted` is the operation that the request is for, with its number, while the
program has the request. `status` is what `ucp_request_check_status` returns,
`none` for `UCS_INPROGRESS`. -/
structure Request where
  context : UcxContext
  posted : Option (Nat × Operation)
  status : Option UcsStatus
  deriving DecidableEq, Repr

namespace Request

/-- The end of `ucx_wait` behind its loop, with what it returns. While `completed` is
0 the loop goes on. -/
def ucxWait (request : Request) : Option (Request × Option UcsStatus) :=
  if request.context.completed = 0 then none
  else some ({ request with context := { request.context with completed := 0 } }, request.status)

/-- The end of the loop in `flush_ep` and in `ep_close`. -/
def checkStatus (request : Request) : Option (Request × Option UcsStatus) :=
  match request.status with
  | none => none
  | some status => some (request, some status)

/-- `ucp_request_free` -/
def free (request : Request) : Request :=
  { request with posted := none }

end Request

/-- What the post of an operation returns: `NULL`, an error, or a request of the pool. -/
inductive Answer where
  | null
  | error (code : Nat)
  | request (index : Nat)
  deriving DecidableEq, Repr

/-- An operation that the process waits for. -/
structure Pending where
  number : Nat
  operation : Operation
  index : Nat
  deriving DecidableEq, Repr

/-- The operations are numbered in the order of their posts. The program does not
have `finished`, what they came to, and `returned`, what the functions that waited
for them returned, the latest first. -/
structure Requests where
  pool : List Request
  pending : Option Pending
  count : Nat
  finished : List (Nat × UcsStatus)
  returned : List (Nat × Option UcsStatus)
  deriving DecidableEq, Repr

/-- UCX adds a request to the pool, made from some memory, or finishes an operation
inside `ucp_worker_progress`. The process posts an operation, or leaves its loop. -/
inductive RequestAction where
  | added (memory : UcxContext)
  | finished (index : Nat) (status : UcsStatus)
  | posted (operation : Operation) (answer : Answer)
  | left
  deriving DecidableEq, Repr

namespace Requests

def initial : Requests where
  pool := []
  pending := none
  count := 0
  finished := []
  returned := []

/-- An operation that has no request: its callback is not called. -/
def inPlace (requests : Requests) (status : UcsStatus) : Requests :=
  { requests with
    count := requests.count + 1
    finished := (requests.count, status) :: requests.finished
    returned := (requests.count, some status) :: requests.returned }

def post (requests : Requests) (operation : Operation) (index : Nat) (request : Request) :
    Option Requests :=
  match request.posted with
  | some _ => none
  | none =>
      some { requests with
        pool := requests.pool.set index
          { request with posted := some (requests.count, operation), status := none }
        pending := some ⟨requests.count, operation, index⟩
        count := requests.count + 1 }

/-- UCX calls the callback of the operation, once. -/
def finish (requests : Requests) (index : Nat) (status : UcsStatus) (request : Request) :
    Option Requests :=
  match request.posted, request.status with
  | some (number, operation), none =>
      some { requests with
        pool := requests.pool.set index
          { request with
            context := operation.handler request.context
            status := some status }
        finished := (number, status) :: requests.finished }
  | _, _ => none

def leave (requests : Requests) (pending : Pending) (request : Request) : Option Requests :=
  (if pending.operation.handled then request.ucxWait else request.checkStatus).map
    fun (request, status) =>
      { requests with
        pool := requests.pool.set pending.index request.free
        pending := none
        returned := (pending.number, status) :: requests.returned }

def step (requests : Requests) : RequestAction → Option Requests
  | .added memory =>
      some { requests with pool := requests.pool ++ [⟨requestInit memory, none, none⟩] }
  | .finished index status =>
      (requests.pool[index]?).bind (requests.finish index status)
  | .posted operation answer =>
      match requests.pending, answer with
      | none, .null => some (requests.inPlace .ok)
      | none, .error code => some (requests.inPlace (.error code))
      | none, .request index => (requests.pool[index]?).bind (requests.post operation index)
      | some _, _ => none
  | .left =>
      match requests.pending with
      | some pending => (requests.pool[pending.index]?).bind (requests.leave pending)
      | none => none

/-- What is known of a request while its operation is waited for. -/
structure Awaited (requests : Requests) (pending : Pending) (request : Request) : Prop where
  here : requests.pool[pending.index]? = some request
  posted : request.posted = some (pending.number, pending.operation)
  handled : pending.operation.handled → (request.context.completed ≠ 0 ↔ request.status ≠ none)
  unhandled : ¬ pending.operation.handled → request.context.completed = 0

/-- The returned statuses are those of the finished operations, but for the operation
that is waited for. -/
structure Invariant (requests : Requests) : Prop where
  free : ∀ request ∈ requests.pool, request.posted = none → request.context.completed = 0
  held : ∀ index request, requests.pool[index]? = some request → request.posted ≠ none →
    ∃ pending, requests.pending = some pending ∧ pending.index = index
  idle : requests.pending = none →
    requests.finished.map (Prod.map id some) = requests.returned ∧
      requests.returned.map Prod.fst = (List.range requests.count).reverse
  awaited : ∀ pending, requests.pending = some pending → ∃ request,
    requests.Awaited pending request ∧ requests.count = pending.number + 1 ∧
      requests.finished.map (Prod.map id some) =
        request.status.toList.map (fun status => (pending.number, some status)) ++
          requests.returned ∧
      requests.returned.map Prod.fst = (List.range pending.number).reverse

section Steps

variable {requests next : Requests} {index : Nat} {request : Request}

theorem mem_set {updated : Request} (member : request ∈ requests.pool.set index updated) :
    request ∈ requests.pool ∨ request = updated :=
  List.mem_or_eq_of_mem_set member

theorem found_set {updated : Request} {other : Nat}
    (found : (requests.pool.set index updated)[other]? = some request) :
    index = other ∧ request = updated ∨ index ≠ other ∧ requests.pool[other]? = some request := by
  rw [List.getElem?_set] at found
  by_cases same : index = other
  · rw [if_pos same] at found
    split at found
    · exact .inl ⟨same, (Option.some.inj found).symm⟩
    · cases found
  · rw [if_neg same] at found
    exact .inr ⟨same, found⟩

theorem set_found {updated : Request} (found : requests.pool[index]? = some request) :
    (requests.pool.set index updated)[index]? = some updated := by
  obtain ⟨inside, _⟩ := List.getElem?_eq_some_iff.mp found
  rw [List.getElem?_set_self inside]

theorem Invariant.initial : Requests.initial.Invariant where
  free := by simp [Requests.initial]
  held := by simp [Requests.initial]
  idle := by simp [Requests.initial]
  awaited := by simp [Requests.initial]

theorem Invariant.added (invariant : requests.Invariant) (memory : UcxContext) :
    Invariant { requests with pool := requests.pool ++ [⟨requestInit memory, none, none⟩] } where
  free := by
    intro request member free
    rcases List.mem_append.mp member with old | new
    · exact invariant.free request old free
    · obtain rfl := List.mem_singleton.mp new
      rfl
  held := by
    intro index request found posted
    by_cases inside : index < requests.pool.length
    · rw [List.getElem?_append_left inside] at found
      exact invariant.held index request found posted
    · rw [List.getElem?_append_right (Nat.le_of_not_lt inside)] at found
      obtain rfl := List.mem_singleton.mp (List.mem_of_getElem? found)
      exact absurd rfl posted
  idle := invariant.idle
  awaited := by
    intro pending waits
    obtain ⟨request, awaited, results⟩ := invariant.awaited pending waits
    obtain ⟨inside, _⟩ := List.getElem?_eq_some_iff.mp awaited.here
    exact ⟨request, ⟨(List.getElem?_append_left inside).trans awaited.here, awaited.posted,
      awaited.handled, awaited.unhandled⟩, results⟩

theorem reverse_range_succ (count : Nat) :
    (List.range (count + 1)).reverse = count :: (List.range count).reverse := by
  rw [List.range_succ, List.reverse_append]
  rfl

theorem Invariant.inPlace (invariant : requests.Invariant) (idle : requests.pending = none)
    (status : UcsStatus) : (requests.inPlace status).Invariant where
  free := invariant.free
  held := invariant.held
  idle := by
    intro _
    obtain ⟨results, numbers⟩ := invariant.idle idle
    constructor
    · simp [Requests.inPlace, results]
    · simp only [Requests.inPlace, List.map_cons, numbers, reverse_range_succ]
  awaited := by simp [Requests.inPlace, idle]

theorem Invariant.post (invariant : requests.Invariant) (idle : requests.pending = none)
    {operation : Operation} (found : requests.pool[index]? = some request)
    (posted : requests.post operation index request = some next) : next.Invariant := by
  simp only [Requests.post] at posted
  cases owner : request.posted with
  | some held => simp [owner] at posted
  | none =>
      simp only [owner, Option.some.injEq] at posted
      subst posted
      have reset := invariant.free request (List.mem_of_getElem? found) owner
      obtain ⟨results, numbers⟩ := invariant.idle idle
      constructor
      · intro other member free
        rcases mem_set member with old | rfl
        · exact invariant.free other old free
        · cases free
      · intro place other here held
        rcases found_set here with ⟨same, _⟩ | ⟨_, here⟩
        · exact ⟨_, rfl, same⟩
        · obtain ⟨pending, waits, _⟩ := invariant.held place other here held
          simp [idle] at waits
      · simp
      · intro pending waits
        obtain rfl := Option.some.inj waits
        refine ⟨_, ⟨set_found found, rfl, fun _ => ?_, fun _ => reset⟩, rfl, results, numbers⟩
        simp [reset]

theorem Invariant.finish (invariant : requests.Invariant) {status : UcsStatus}
    (found : requests.pool[index]? = some request)
    (finished : requests.finish index status request = some next) : next.Invariant := by
  simp only [Requests.finish] at finished
  split at finished
  case h_2 => cases finished
  case h_1 number operation owner progress =>
    obtain rfl := Option.some.inj finished
    obtain ⟨pending, waits, rfl⟩ := invariant.held index request found (by simp [owner])
    obtain ⟨other, awaited, counted, results, numbers⟩ := invariant.awaited pending waits
    obtain rfl : request = other := Option.some.inj (found.symm.trans awaited.here)
    obtain ⟨rfl, rfl⟩ : number = pending.number ∧ operation = pending.operation := by
      simpa using owner.symm.trans awaited.posted
    constructor
    · intro other member free
      rcases mem_set member with old | rfl
      · exact invariant.free other old free
      · simp [owner] at free
    · intro place other here held
      rcases found_set here with ⟨same, _⟩ | ⟨_, here⟩
      · exact ⟨pending, waits, same⟩
      · exact invariant.held place other here held
    · simp [waits]
    · intro later same
      obtain rfl : pending = later := Option.some.inj (waits.symm.trans same)
      refine ⟨_, ⟨set_found found, owner, fun handled => ?_, fun unhandled => ?_⟩, counted, ?_,
        numbers⟩
      · cases operation : pending.operation with
        | send | receive => simp [Operation.handler, sendHandler, recvHandler]
        | flush | close => simp [operation, Operation.handled] at handled
      · have unset := awaited.unhandled unhandled
        cases operation : pending.operation with
        | send | receive => simp [operation, Operation.handled] at unhandled
        | flush | close => exact unset
      · rw [progress] at results
        simpa using results

/-- Both loops end when the operation has finished, and leave `completed` at 0. -/
theorem Awaited.result {pending : Pending} (awaited : requests.Awaited pending request) :
    (if pending.operation.handled then request.ucxWait else request.checkStatus) =
      request.status.map fun status => ({ request with context := ⟨0⟩ }, some status) := by
  cases handled : pending.operation.handled with
  | true =>
      rw [if_pos rfl, Request.ucxWait]
      have flag := awaited.handled handled
      cases status : request.status with
      | none =>
          have unset : request.context.completed = 0 := by simpa [status] using flag
          rw [if_pos unset]
          rfl
      | some result =>
          have set : request.context.completed ≠ 0 := by simpa [status] using flag
          rw [if_neg set]
          rfl
  | false =>
      obtain ⟨⟨completed⟩, posted, status⟩ := request
      obtain rfl : completed = 0 := awaited.unhandled (by simp [handled])
      rw [if_neg Bool.false_ne_true]
      cases status <;> rfl

theorem Awaited.left {pending : Pending} (awaited : requests.Awaited pending request)
    (left : requests.leave pending request = some next) :
    ∃ status, request.status = some status ∧ next = { requests with
      pool := requests.pool.set pending.index ⟨⟨0⟩, none, some status⟩
      pending := none
      returned := (pending.number, some status) :: requests.returned } := by
  rw [Requests.leave, awaited.result] at left
  cases finished : request.status with
  | none => simp [finished] at left
  | some status => exact ⟨status, rfl, by simpa [finished, Request.free] using left.symm⟩

theorem Invariant.leave (invariant : requests.Invariant) {pending : Pending}
    (waits : requests.pending = some pending) (found : requests.pool[pending.index]? = some request)
    (left : requests.leave pending request = some next) : next.Invariant := by
  obtain ⟨other, awaited, counted, results, numbers⟩ := invariant.awaited pending waits
  obtain rfl : request = other := Option.some.inj (found.symm.trans awaited.here)
  obtain ⟨status, finished, rfl⟩ := awaited.left left
  rw [finished] at results
  constructor
  · intro other member free
    rcases mem_set member with old | rfl
    · exact invariant.free other old free
    · rfl
  · intro place other here held
    rcases found_set here with ⟨_, rfl⟩ | ⟨elsewhere, here⟩
    · exact absurd rfl held
    · obtain ⟨later, same, rfl⟩ := invariant.held place other here held
      obtain rfl : pending = later := Option.some.inj (waits.symm.trans same)
      exact absurd rfl elsewhere
  · intro _
    refine ⟨by simpa using results, ?_⟩
    simp only [List.map_cons, numbers, counted, reverse_range_succ]
  · simp

theorem Invariant.step {action : RequestAction} (invariant : requests.Invariant)
    (stepped : requests.step action = some next) : next.Invariant := by
  cases action with
  | added memory =>
      obtain rfl := Option.some.inj stepped
      exact invariant.added memory
  | finished index status =>
      obtain ⟨request, found, finished⟩ := Option.bind_eq_some_iff.mp stepped
      exact invariant.finish found finished
  | posted operation answer =>
      cases idle : requests.pending with
      | some pending => simp [Requests.step, idle] at stepped
      | none =>
          simp only [Requests.step, idle] at stepped
          cases answer with
          | null =>
              obtain rfl := Option.some.inj stepped
              exact invariant.inPlace idle .ok
          | error code =>
              obtain rfl := Option.some.inj stepped
              exact invariant.inPlace idle (.error code)
          | request index =>
              obtain ⟨request, found, posted⟩ := Option.bind_eq_some_iff.mp stepped
              exact invariant.post idle found posted
  | left =>
      cases waits : requests.pending with
      | none => simp [Requests.step, waits] at stepped
      | some pending =>
          simp only [Requests.step, waits] at stepped
          obtain ⟨request, found, left⟩ := Option.bind_eq_some_iff.mp stepped
          exact invariant.leave waits found left

end Steps

/-- What the functions that wait come to is true, in every order of completions and
however UCX hands out the requests. -/
structure Truthful (requests : Requests) : Prop where
  /-- They come to the statuses of the finished operations, in order, and to none before. -/
  returned : requests.returned <:+ requests.finished.map (Prod.map id some)
  once : requests.finished.map Prod.fst = (List.range requests.finished.length).reverse
  /-- They return as soon as their own operation has finished. -/
  left : ∀ pending, requests.pending = some pending →
    ((requests.step .left).isSome ↔ pending.number ∈ requests.finished.map Prod.fst)
  freed : requests.pending = none → ∀ request ∈ requests.pool, request.posted = none
  reset : ∀ request ∈ requests.pool, request.posted = none → request.context.completed = 0

variable {requests : Requests}

theorem map_fst_finished {results : List (Nat × Option UcsStatus)}
    (same : requests.finished.map (Prod.map id some) = results) :
    requests.finished.map Prod.fst = results.map Prod.fst := by
  rw [← same, List.map_map]
  rfl

theorem numbered_once {count : Nat}
    (numbered : requests.finished.map Prod.fst = (List.range count).reverse) :
    requests.finished.map Prod.fst = (List.range requests.finished.length).reverse := by
  have counted := congrArg List.length numbered
  rw [List.length_map, List.length_reverse, List.length_range] at counted
  rw [numbered, counted]

theorem Invariant.truthful (invariant : requests.Invariant) : requests.Truthful := by
  have reset := invariant.free
  cases waits : requests.pending with
  | none =>
      obtain ⟨results, numbers⟩ := invariant.idle waits
      have numbered := (map_fst_finished results).trans numbers
      refine ⟨results ▸ List.suffix_rfl, numbered_once numbered, by simp [waits],
        fun _ request member => ?_, reset⟩
      refine Decidable.of_not_not fun held => ?_
      obtain ⟨index, found⟩ := List.mem_iff_getElem?.mp member
      obtain ⟨pending, pends, _⟩ := invariant.held index request found held
      simp [waits] at pends
  | some pending =>
      obtain ⟨request, awaited, counted, results, numbers⟩ := invariant.awaited pending waits
      have numbered := map_fst_finished results
      rw [List.map_append, numbers] at numbered
      have leaves : (requests.step .left).isSome ↔ request.status.isSome := by
        simp [Requests.step, waits, awaited.here, Requests.leave, awaited.result]
      have before : pending.number ∉ (List.range pending.number).reverse := by
        simp
      refine ⟨results ▸ List.suffix_append _ _, ?_, ?_, by simp [waits], reset⟩
      · cases finished : request.status with
        | none => exact numbered_once (by simpa [finished] using numbered)
        | some status =>
            refine @numbered_once requests (pending.number + 1) ?_
            rw [numbered, reverse_range_succ, finished]
            rfl
      · intro later same
        obtain rfl : pending = later := Option.some.inj (waits.symm.trans same)
        rw [leaves, numbered]
        cases finished : request.status with
        | none => simp
        | some status => simp

/-- In every run, `ucx_wait`, `flush_ep` and `ep_close` come to the status of their own operation as
soon as that has finished and not before, whichever requests UCX uses again. `ep_close` only looks
at it, the others return it. -/
theorem waits_truthful {actions : List RequestAction}
    (reached : run Requests.step .initial actions = some requests) : requests.Truthful :=
  Invariant.truthful (run_preserves Requests.Invariant
    (fun _ _ _ invariant stepped => invariant.step stepped) Invariant.initial reached)

/-- A send and a flush with the same request, which is then posted for a receive. -/
def reusedRequest : Requests where
  pool := [⟨⟨0⟩, some (2, .receive), none⟩]
  pending := some ⟨2, .receive, 0⟩
  count := 3
  finished := [(1, .ok), (0, .error 25)]
  returned := [(1, some .ok), (0, some (.error 25))]

theorem reusedRequest_truthful : reusedRequest.Truthful :=
  @waits_truthful reusedRequest
    [.added ⟨7⟩, .posted .send (.request 0), .finished 0 (.error 25), .left,
      .posted .flush (.request 0), .finished 0 .ok, .left, .posted .receive (.request 0)] rfl

end Requests

end UcxPlayground.HelloWorld
