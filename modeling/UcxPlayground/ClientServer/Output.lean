import UcxPlayground.ClientServer.Contents
import UcxPlayground.ClientServer.Fin

/-!
# What the two processes print

`request_finalize` prints the buffers of the first, the last and every
`PRINT_INTERVAL`-th iteration, at the client what it has sent and at the server what
it has received. The output of each side is at all times a beginning of what both
print in the end, and the two differ in the headings only.
-/

set_option autoImplicit false

namespace UcxPlayground.ClientServer

open Bytes Transition

/-- `PRINT_INTERVAL` -/
def printInterval : Nat := 2000

/-- What `print_iov` prints of a buffer it has copied, which is no string without a zero. -/
def printLine (buffer : List Byte) : Option (List Byte) :=
  if 0 ∈ buffer then some (buffer.takeWhile (· ≠ 0)) else none

def printIov (iov : Iov) : List (Option (List Byte)) :=
  iov.map printLine

/-- The output of one call of `print_result`: the heading is that of a server or of a client. -/
structure Block where
  isServer : Bool
  iteration : Nat
  lines : List (Option (List Byte))
  deriving DecidableEq, Repr

/-- The same with the other heading. -/
def Block.mirror (block : Block) : Block :=
  { block with isServer := !block.isServer }

def printResult (isServer : Bool) (iov : Iov) (currentIter : Nat) : Block where
  isServer := isServer
  iteration := currentIter + 1
  lines := printIov iov

namespace Config

variable (cfg : Config)

/-- The condition of `request_finalize`. -/
def Prints (currentIter : Nat) : Prop :=
  currentIter = 0 ∨ (currentIter : Int) = cfg.numIterations - 1 ∨
    (currentIter + 1) % printInterval = 0

instance (currentIter : Nat) : Decidable (cfg.Prints currentIter) :=
  inferInstanceAs (Decidable (_ ∨ _ ∨ _))

/-- What `request_finalize` prints for a call that it returns 0 for. -/
def requestFinalize (isServer : Bool) (iov : Iov) (call : Call) : Option Block :=
  if cfg.Prints (call.currentIter cfg) then
    some (printResult isServer iov (call.currentIter cfg))
  else none

/-- The calls of `client_server_do_work` when all of them succeed. -/
def calls : List Call :=
  (List.range cfg.iterations).map .data ++ [.fin]

/-- The calls in front of this one. -/
def before : Call → List Call
  | .data k => (List.range k).map .data
  | .fin => (List.range cfg.iterations).map .data

/-- The output for these calls of a client, or of a server for the client. The FIN message is
printed with the heading of the other side. -/
def printed (isServer : Bool) (client : Nat) (calls : List Call) : List Block :=
  calls.filterMap fun call =>
    cfg.requestFinalize (if call = .fin then !isServer else isServer) (cfg.content client call) call

end Config

namespace Proc

/-- The calls of the current client that returned 0. -/
def succeeded (proc : Proc) : List Finished :=
  proc.finished.reverse.filter fun finished =>
    finished.client = proc.client ∧ finished.ret = 0

/-- What the process has printed for the current client. -/
def output (cfg : Config) (proc : Proc) : List Block :=
  proc.succeeded.filterMap fun finished =>
    cfg.requestFinalize (proc.receives finished.call) finished.iov finished.call

end Proc

/-- The calls that a process has made when it is at this place. -/
def MadeAt (cfg : Config) (made : List Call) : Pc → Prop
  | .idle => made = []
  | .call call | .amWait call | .requestWait call =>
      made = cfg.before call ∧ ∀ k, call = .data k → k < cfg.iterations
  | .register => made = cfg.before .fin
  | .waitClose => made = cfg.calls
  | .returned ret => made <+: cfg.calls ∧ (ret = 0 → made = cfg.calls)

section Calls

variable {cfg : Config} {proc next : Proc} {call : Call} {ret : Int}

theorem before_append (cfg : Config) (k : Nat) :
    cfg.before (.data k) ++ [.data k] = cfg.before (.data (k + 1)) := by
  simp [Config.before, List.range_succ]

theorem before_data {k : Nat} (bounded : k ≤ cfg.iterations) :
    cfg.before (.data k) = (cfg.before .fin).take k := by
  rw [Config.before, Config.before, ← List.map_take, List.take_range, Nat.min_eq_left bounded]

theorem before_starts (valid : ∀ k, call = .data k → k < cfg.iterations) :
    cfg.before call <+: cfg.calls := by
  cases call with
  | fin => exact List.prefix_append _ _
  | data k =>
      rw [before_data (Nat.le_of_lt (valid k rfl))]
      exact (List.take_prefix _ _).trans (List.prefix_append _ _)

theorem succeeded_finish :
    (proc.finish cfg call ret).succeeded =
      proc.succeeded ++ if ret = 0 then [⟨proc.client, call, ret, proc.iov⟩] else [] := by
  unfold Proc.succeeded Proc.finish
  rw [List.reverse_cons, List.filter_append]
  congr 1
  by_cases success : ret = 0 <;> simp [success]

theorem madeAt_loop (isServer : Bool) {k : Nat} (bounded : k ≤ cfg.iterations) :
    MadeAt cfg (cfg.before (.data k)) (loop cfg isServer k) := by
  rw [loop_eq]
  split
  next more => exact ⟨rfl, fun other same => (Call.data.inj same) ▸ more⟩
  next done =>
      obtain rfl : k = cfg.iterations := by omega
      unfold afterLoop
      split
      · rfl
      · exact ⟨rfl, nofun⟩

theorem madeAt_afterCall (isServer : Bool) (valid : ∀ k, call = .data k → k < cfg.iterations) :
    MadeAt cfg (cfg.before call ++ [call]) (afterCall cfg isServer call 0) := by
  cases call with
  | data k =>
      rw [afterCall_data, before_append]
      exact madeAt_loop isServer (valid k rfl)
  | fin =>
      cases isServer with
      | true => exact rfl
      | false => exact ⟨List.prefix_rfl, fun _ => rfl⟩

/-- A call of a process returns. -/
theorem madeAt_finish (here : proc.succeeded.map (·.call) = cfg.before call)
    (valid : ∀ k, call = .data k → k < cfg.iterations) :
    MadeAt cfg ((proc.finish cfg call ret).succeeded.map (·.call))
      (afterCall cfg proc.isServer call ret) := by
  rw [succeeded_finish, List.map_append, here]
  by_cases success : ret = 0
  · subst success
    exact madeAt_afterCall _ valid
  · rw [if_neg success, List.map_nil, List.append_nil]
    unfold afterCall
    rw [if_pos success]
    exact ⟨before_starts valid, fun zero => absurd zero success⟩

end Calls

namespace Side

variable {cfg : Config} {side next : Side} {action : Step}

/-- The calls of a process, in the order of the source. -/
theorem madeAt_step (made : MadeAt cfg (side.proc.succeeded.map (·.call)) side.proc.pc)
    (move : Move cfg side action next) :
    MadeAt cfg (next.proc.succeeded.map (·.call)) next.proc.pc := by
  cases move with
  | callFailed here filled =>
      rw [here] at made
      rcases filled with rfl | rfl
      · exact madeAt_finish made.1 made.2
      · exact @madeAt_finish _ (side.proc.fillRequestParam cfg _) _ _ made.1 made.2
  | sent here | posted here | awaiting here | received here | receiving here
  | leftRndv here | leftRndvFailed here | leftEager here | waited here | waitFailed here =>
      rw [here] at made
      first
        | exact made
        | exact madeAt_finish made.1 made.2
  | polled | progressed | closed | failed | sendDone | receiveDone | discarded => exact made
  | handled => simpa [Proc.succeeded] using made
  | leftClose here =>
      rw [here] at made
      exact ⟨made ▸ List.prefix_rfl, fun _ => made⟩
  | registered here =>
      rw [here] at made
      exact ⟨made, nofun⟩
  | registerFailed here =>
      rw [here] at made
      exact ⟨made ▸ List.prefix_append _ _, nofun⟩

theorem finished_step (move : Move cfg side action next) :
    ∀ finished ∈ next.proc.finished,
      finished ∈ side.proc.finished ∨
        side.proc.pc ≠ .idle ∧ finished.client = side.proc.client := by
  intro finished member
  cases move with
  | callFailed here filled =>
      rcases filled with rfl | rfl
      all_goals
        rcases List.mem_cons.mp member with rfl | earlier
        · exact .inr ⟨by simp [here], rfl⟩
        · exact .inl earlier
  | sent here | received here | leftRndvFailed here | leftEager here | waited here
  | waitFailed here =>
      rcases List.mem_cons.mp member with rfl | earlier
      · exact .inr ⟨by simp [here], rfl⟩
      · exact .inl earlier
  | handled => exact .inl (by simpa using member)
  | _ => exact .inl member

end Side

namespace State

variable {cfg : Config} {state next : State} {action : Action}

/-- Both processes make their calls in order, and the server tells its clients apart. -/
structure Ordered (cfg : Config) (state : State) : Prop where
  server : MadeAt cfg (state.server.succeeded.map (·.call)) state.server.pc
  client : MadeAt cfg (state.client.succeeded.map (·.call)) state.client.pc
  numbered : ∀ finished ∈ state.server.finished, finished.client < state.clients
  current : state.server.pc ≠ .idle → state.server.client < state.clients

theorem Ordered.initial (cfg : Config) : (State.initial cfg).Ordered cfg where
  server := rfl
  client := rfl
  numbered := by simp [State.initial, Proc.fresh]
  current := by simp [State.initial, Proc.fresh]

theorem Ordered.connect (ordered : state.Ordered cfg) : (state.connect cfg).Ordered cfg := by
  have none : (state.connect cfg).server.succeeded = [] := by
    refine List.filter_eq_nil_iff.mpr fun finished member => ?_
    have earlier := ordered.numbered finished (List.mem_reverse.mp member)
    have other : finished.client ≠ state.clients := Nat.ne_of_lt earlier
    simp [State.connect, Proc.clientServerDoWork, other]
  refine ⟨?_, ?_, ?_, fun _ => Nat.lt_succ_self _⟩
  · rw [none]
    exact madeAt_loop _ (Nat.zero_le _)
  · exact madeAt_loop _ (Nat.zero_le _)
  · intro finished member
    exact Nat.lt_succ_of_lt (ordered.numbered finished member)

theorem Ordered.step (ordered : state.Ordered cfg)
    (stepped : ClientServer.step cfg state action = some next) : next.Ordered cfg := by
  cases step_move stepped with
  | connected => exact ordered.connect
  | @server action side move =>
      have current : side.proc.pc ≠ .idle → side.proc.client < state.clients := by
        rw [move.identity.2]
        exact fun runs => ordered.current fun idle => runs (move.idle_iff.mpr idle)
      refine ⟨Side.madeAt_step ordered.server move, ordered.client, ?_, current⟩
      intro finished member
      rcases Side.finished_step move finished member with earlier | ⟨runs, own⟩
      · exact ordered.numbered finished earlier
      · rw [own]
        exact ordered.current runs
  | client move =>
      exact ⟨ordered.server, Side.madeAt_step ordered.client move, ordered.numbered,
        ordered.current⟩

theorem Ordered.reached {actions : List Action}
    (reached : run (ClientServer.step cfg) (State.initial cfg) actions = some state) :
    state.Ordered cfg :=
  run_preserves (State.Ordered cfg) (fun _ _ _ ordered stepped => ordered.step stepped)
    (Ordered.initial cfg) reached

end State

section Outputs

variable {cfg : Config} {proc : Proc} {made : List Call} {pc : Pc}

/-- What the process prints for the calls that it has made. -/
theorem output_eq (exact : ∀ finished ∈ proc.finished, finished.Exact cfg) :
    proc.output cfg =
      cfg.printed proc.isServer proc.client (proc.succeeded.map (·.call)) := by
  rw [Config.printed, List.filterMap_map]
  refine List.filterMap_congr fun finished member => ?_
  obtain ⟨earlier, current⟩ := List.mem_filter.mp member
  obtain ⟨client, success⟩ := of_decide_eq_true current
  rw [exact finished (List.mem_reverse.mp earlier) success, client]
  cases call : finished.call <;> simp [Proc.receives, call]

theorem printed_mono (isServer : Bool) (client : Nat) {more : List Call} (grows : made <+: more) :
    cfg.printed isServer client made <+: cfg.printed isServer client more :=
  grows.filterMap _

theorem printed_mirror (client : Nat) (calls : List Call) :
    cfg.printed true client calls = (cfg.printed false client calls).map .mirror := by
  rw [Config.printed, Config.printed, List.map_filterMap]
  refine List.filterMap_congr fun call _ => ?_
  unfold Config.requestFinalize
  split
  · cases call <;> rfl
  · rfl

/-- The `i + 1` of the FIN message is neither the first iteration nor the last. -/
theorem prints_fin :
    cfg.Prints (Call.fin.currentIter cfg) ↔ (cfg.numIterations.toNat + 2) % printInterval = 0 := by
  have bound : cfg.numIterations ≤ cfg.numIterations.toNat := Int.self_le_toNat _
  constructor
  · rintro (first | last | interval)
    · simp [Call.currentIter] at first
    · simp only [Call.currentIter] at last
      omega
    · exact interval
  · intro interval
    exact .inr (.inr interval)

theorem requestFinalize_fin (isServer : Bool) (iov : Iov) :
    cfg.requestFinalize isServer iov .fin =
      if (cfg.numIterations.toNat + 2) % printInterval = 0 then
        some ⟨isServer, cfg.numIterations.toNat + 2, printIov iov⟩
      else none := by
  unfold Config.requestFinalize
  simp only [prints_fin]
  rfl

theorem printed_calls (isServer : Bool) (client : Nat) :
    cfg.printed isServer client cfg.calls =
      cfg.printed isServer client (cfg.before .fin) ++
        if (cfg.numIterations.toNat + 2) % printInterval = 0 then
          [⟨!isServer, cfg.numIterations.toNat + 2, printIov (cfg.content client .fin)⟩]
        else [] := by
  rw [Config.calls, Config.printed, List.filterMap_append]
  refine congrArg (_ ++ ·) ?_
  simp only [List.filterMap_cons, List.filterMap_nil, if_true, requestFinalize_fin]
  by_cases interval : (cfg.numIterations.toNat + 2) % printInterval = 0
  · simp only [if_pos interval]
  · simp only [if_neg interval]

theorem MadeAt.within (at' : MadeAt cfg made pc) : made <+: cfg.calls := by
  cases pc with
  | idle =>
      obtain rfl : made = [] := at'
      exact List.nil_prefix
  | call | amWait | requestWait =>
      obtain ⟨rfl, valid⟩ := at'
      exact before_starts valid
  | register =>
      obtain rfl : made = cfg.before .fin := at'
      exact List.prefix_append _ _
  | waitClose =>
      obtain rfl : made = cfg.calls := at'
      exact List.prefix_rfl
  | returned => exact at'.1

theorem before_fin_of_all (within : made <+: cfg.calls)
    (all : ∀ k < cfg.iterations, .data k ∈ made) : cfg.before .fin <+: made := by
  rcases List.prefix_or_prefix_of_prefix within (List.prefix_append (cfg.before .fin) [.fin]) with
    shorter | longer
  · have length : (cfg.before .fin).length = cfg.iterations := by
      simp [Config.before]
    have bounded : made.length ≤ cfg.iterations := length ▸ shorter.length_le
    have same : made = cfg.before (.data made.length) := by
      rw [before_data bounded]
      exact List.prefix_iff_eq_take.mp shorter
    by_cases more : made.length < cfg.iterations
    · have member : .data made.length ∈ cfg.before (.data made.length) := same ▸ all _ more
      simp [Config.before] at member
    · exact shorter.eq_of_length_le (by omega) ▸ List.prefix_rfl
  · exact longer

end Outputs

namespace State

variable {cfg : Config} {state : State}

/-- The output of both sides for the current client, with all that they print in the end. -/
structure OutputAgrees (cfg : Config) (state : State) : Prop where
  client : state.client.output cfg <+: cfg.printed false state.client.client cfg.calls
  server : state.server.output cfg <+:
    (cfg.printed false state.client.client cfg.calls).map .mirror
  /-- A client that has succeeded has printed everything, and the server all of the data. -/
  clientDone : state.client.pc = .returned 0 →
    state.client.output cfg = cfg.printed false state.client.client cfg.calls ∧
      (cfg.printed false state.client.client (cfg.before .fin)).map .mirror <+:
        state.server.output cfg
  serverDone : state.server.pc = .waitClose ∨ state.server.pc = .returned 0 →
    state.server.output cfg = (cfg.printed false state.client.client cfg.calls).map .mirror
  /-- Behind the data comes the FIN message, with the heading of the other side, if at all. -/
  fin : cfg.printed false state.client.client cfg.calls =
    cfg.printed false state.client.client (cfg.before .fin) ++
      if (cfg.numIterations.toNat + 2) % printInterval = 0 then
        [⟨true, cfg.numIterations.toNat + 2, printIov (cfg.content state.client.client .fin)⟩]
      else []

/-- In every run, with active messages one in which they arrive in turn, both sides print the same
blocks in the same order, only with different headings. -/
theorem outputs_agree {actions : List Action} (positive : 0 < cfg.testStringLength)
    (reached : run (ClientServer.step cfg) (State.initial cfg) actions = some state)
    (inTurn : cfg.sendRecvType = .am →
      Along (ClientServer.step cfg) ArrivesInTurn (State.initial cfg) actions) :
    state.OutputAgrees cfg := by
  have exact := contents_exact positive reached inTurn
  have session := Session.reached (fun _ => Nat.mul_pos cfg.iovCnt_pos positive) reached
  have ordered := Ordered.reached reached
  have client := output_eq fun finished member =>
    exact finished (List.mem_append_right state.server.finished member)
  have server := output_eq fun finished member =>
    exact finished (List.mem_append_left state.client.finished member)
  rw [show state.client.isServer = false from session.client.role] at client
  rw [show state.server.isServer = true from session.server.role, session.together,
    printed_mirror] at server
  refine ⟨?_, ?_, fun done => ⟨?_, ?_⟩, fun done => ?_, printed_calls _ _⟩
  · rw [client]
    exact printed_mono _ _ ordered.client.within
  · rw [server]
    exact (printed_mono _ _ ordered.server.within).map _
  · have made := ordered.client
    rw [done] at made
    rw [client, made.2 rfl]
  · rw [server]
    refine (printed_mono _ _ (before_fin_of_all ordered.server.within fun k below => ?_)).map _
    obtain ⟨returned, _, _⟩ := success_acknowledges_delivery positive reached done
    obtain ⟨finished, member, own, call, success⟩ := returned k (Int.lt_toNat.mp below)
    refine List.mem_map.mpr ⟨finished, List.mem_filter.mpr ⟨List.mem_reverse.mpr member, ?_⟩, call⟩
    exact decide_eq_true ⟨own.trans session.together.symm, success⟩
  · have made := ordered.server
    have all : state.server.succeeded.map (·.call) = cfg.calls := by
      rcases done with here | here <;> rw [here] at made
      · exact made
      · exact made.2 rfl
    rw [server, all]

/-- One letter in a buffer of two bytes. -/
def oneLetter : Config :=
  { oneByte .stream with
    testStringLength := 2
    testString := fun _ _ offset => if offset = 0 then 65 else 0 }

theorem streamSession_outputs_agree :
    ∃ state, run (ClientServer.step oneLetter) (State.initial oneLetter) streamSession =
        some state ∧
      state.client.output oneLetter = [⟨false, 1, [some [65]]⟩] ∧ state.OutputAgrees oneLetter :=
  ⟨_, rfl, by decide, outputs_agree (by decide)
    (show run (ClientServer.step oneLetter) _ streamSession = _ from rfl) nofun⟩

end State

end UcxPlayground.ClientServer
