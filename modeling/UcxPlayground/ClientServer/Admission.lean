import UcxPlayground.ClientServer.Teardown

/-!
# Admission of clients

The single slot `context.conn_request` admits one client at a time: a request
is stored or rejected, a stored one is the next that the serving loop passes to
`server_create_ep`, and the endpoint of the client before it is closed by then.
-/

set_option autoImplicit false

namespace UcxPlayground.ClientServer.Program

open Resource Transition

section Steps

variable {state next final : State} {action : Action} {later : List Action} {request : Nat}

end Steps

section Serving

variable {state : State} {request : Nat}

/-- While the server serves, a stored request that was not passed on is the one
in the slot, and the server is at its wait loop or about to pass it on. -/
theorem Orderly.unserved (orderly : Orderly state) (serving : state.pc.serving = true)
    (stored : request ∈ state.stored) (waits : request ∉ state.passed) :
    state.connRequest = some request ∧ (state.pc = .waitRequest ∨ state.pc = .createEp) := by
  have listening : state.pc.listening = true := by
    cases at' : state.pc
    case epClose site | closing site => cases site <;> simp_all [Pc.serving, Pc.listening]
    all_goals simp_all [Pc.serving, Pc.listening]
  rw [orderly.served listening, List.mem_append] at stored
  have member := stored.resolve_left waits
  unfold State.unserved at member
  split_ifs at member with admits
  · refine ⟨Option.mem_toList.mp member, ?_⟩
    cases at' : state.pc <;> simp_all [Pc.serving, Pc.admits]
  · simp at member

end Serving

end UcxPlayground.ClientServer.Program
