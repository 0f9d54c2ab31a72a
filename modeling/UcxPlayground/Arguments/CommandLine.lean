import UcxPlayground.Arguments.Lookup

/-!
# Command lines

What both `parse_cmd`s make of a whole command line: the options in it say which of them
is refused, and each variable has the value of the last option of its kind.
-/

set_option autoImplicit false

namespace UcxPlayground.Arguments

/-- A `-m` argument is known, and its memory is that of the host, or that of a GPU in a build
with CUDA or where the argument in front of it was not one of a GPU. -/
def MemoryAdmitted (haveCuda : Bool) (earlier : Option String) (optArg : String) : Prop :=
  optArg = "host" ∨ NamesCuda optArg ∧ (haveCuda = true ∨ ∀ other ∈ earlier, ¬ NamesCuda other)

instance (haveCuda : Bool) (earlier : Option String) (optArg : String) :
    Decidable (MemoryAdmitted haveCuda earlier optArg) :=
  inferInstanceAs (Decidable (_ ∨ _ ∧ (_ ∨ _)))

/-- The type that an argument names. -/
def memoryNamed (optArg : String) : MemoryType :=
  if optArg = "cuda" then .cuda else if optArg = "cuda-managed" then .cudaManaged else .host

def memoryChosen (given : Option String) : MemoryType :=
  (given.map memoryNamed).getD .host

section MemoryTypes

variable {haveCuda : Bool} {optArg : String} {earlier : Option String}

theorem memoryNamed_of_not_namesCuda (other : ¬ NamesCuda optArg) : memoryNamed optArg = .host := by
  rw [NamesCuda, not_or] at other
  rw [memoryNamed, if_neg other.1, if_neg other.2]

theorem memoryNamed_of_namesCuda (named : NamesCuda optArg) :
    memoryNamed optArg = .cuda ∨ memoryNamed optArg = .cudaManaged := by
  rcases named with rfl | rfl
  · exact .inl (by decide)
  · exact .inr (by decide)

theorem memoryChosen_host (other : ∀ given ∈ earlier, ¬ NamesCuda given) :
    memoryChosen earlier = .host := by
  cases earlier with
  | none => rfl
  | some given => exact memoryNamed_of_not_namesCuda (other given rfl)

theorem memoryNamed_ne_last : memoryNamed optArg ≠ .last := by
  unfold memoryNamed
  split
  · decide
  · split <;> decide

theorem memoryChosen_ne_last : memoryChosen earlier ≠ .last := by
  cases earlier with
  | none => decide
  | some given => exact memoryNamed_ne_last

theorem parseMemType_named (named : NamesCuda optArg) (testMemType : MemoryType)
    (supported : checkMemTypeSupport haveCuda testMemType .cuda = true) :
    parseMemType haveCuda testMemType optArg = memoryNamed optArg := by
  have managed : checkMemTypeSupport haveCuda testMemType .cudaManaged = true := supported
  rcases named with rfl | rfl
  · simp [parseMemType, memoryNamed, supported]
  · simp [parseMemType, memoryNamed, managed]

/-- What `parse_mem_type` does to the argument behind another one. -/
theorem parseMemType_chosen : parseMemType haveCuda (memoryChosen earlier) optArg =
    if MemoryAdmitted haveCuda earlier optArg then memoryNamed optArg else .last := by
  by_cases named : NamesCuda optArg
  · have gpu : optArg ≠ "host" := by
      rcases named with rfl | rfl <;> decide
    simp only [MemoryAdmitted, gpu, named, false_or, true_and]
    by_cases others : ∀ other ∈ earlier, ¬ NamesCuda other
    · rw [if_pos (.inr others), memoryChosen_host others]
      exact parseMemType_named named .host rfl
    · cases haveCuda with
      | true =>
          rw [if_pos (.inl rfl), parseMemType_cuda memoryChosen_ne_last]
          exact parseMemType_named named .host rfl
      | false =>
          rw [if_neg (by simpa using others)]
          obtain ⟨other, given, again⟩ : ∃ other ∈ earlier, NamesCuda other := by
            simpa using others
          cases given
          exact parseMemType_again named (memoryNamed_of_namesCuda again)
  · rw [parseMemType_host named, memoryNamed_of_not_namesCuda named]
    simp only [MemoryAdmitted, named, false_and, or_false]

end MemoryTypes

namespace ClientServer

open UcxPlayground.ClientServer

def Opt.c? : Opt → Option String
  | .c optarg => some optarg
  | _ => none

def Opt.i? : Opt → Option Int
  | .i value => some value
  | _ => none

def Opt.s? : Opt → Option Int
  | .s value => some value
  | _ => none

def Opt.v? : Opt → Option Int
  | .v value => some value
  | _ => none

/-- Only a `-m` argument is refused because of what is in front of it. -/
def refusal (haveCuda : Bool) (before : List Opt) : Opt → Option CmdError
  | .p port => if IsPort port then none else some (.wrongServerPort port)
  | .s value => if 0 ≤ value then none else some (.wrongStringSize value)
  | .v value => if 0 < value then none else some (.wrongIovCount value)
  | .m optarg =>
      if MemoryAdmitted haveCuda (lastOf Opt.memArg? before) optarg then none
      else some .memoryType
  | .h | .unknown => some .usage
  | .a _ | .c _ | .l _ | .six | .i _ => none

def chosen (opts : List Opt) : Variables where
  serverAddr := lastOf Opt.a? opts
  listenAddr := lastOf Opt.l? opts
  sendRecvType := ((lastOf Opt.c? opts).map communicationType).getD .stream
  serverPort := ((lastOf Opt.p? opts).map (BitVec.ofInt 16)).getD 13337
  aiFamily := familyArg opts
  numIterations := (lastOf Opt.i? opts).getD 1
  testStringLength := (lastOf Opt.s? opts).getD 16
  iovCnt := (lastOf Opt.v? opts).getD 1
  testMemType := memoryChosen (lastOf Opt.memArg? opts)

/-- The last option replaces what the others chose. -/
theorem chosen_concat (before : List Opt) (opt : Opt) : chosen (before ++ [opt]) =
    { serverAddr := opt.a?.or (chosen before).serverAddr
      listenAddr := opt.l?.or (chosen before).listenAddr
      sendRecvType := (opt.c?.map communicationType).getD (chosen before).sendRecvType
      serverPort := (opt.p?.map (BitVec.ofInt 16)).getD (chosen before).serverPort
      aiFamily := opt.six?.getD (chosen before).aiFamily
      numIterations := opt.i?.getD (chosen before).numIterations
      testStringLength := opt.s?.getD (chosen before).testStringLength
      iovCnt := opt.v?.getD (chosen before).iovCnt
      testMemType := (opt.memArg?.map memoryNamed).getD (chosen before).testMemType } := by
  cases opt <;> simp only [chosen, familyArg, memoryChosen, lastOf_concat] <;> rfl

theorem decides (haveCuda : Bool) :
    Decides (setOption haveCuda) .initial (refusal haveCuda) chosen := by
  refine ⟨rfl, fun before opt => ?_⟩
  rw [chosen_concat]
  cases opt with
  | p port =>
      have outside : (port < 0 ∨ port > 65535) ↔ ¬ IsPort port := by
        unfold IsPort
        omega
      by_cases inRange : IsPort port <;> simp only [setOption, refusal, outside, inRange] <;> rfl
  | s value =>
      by_cases negative : value < 0
      · simp only [setOption, refusal, negative, Int.not_le.mpr negative]
        rfl
      · simp only [setOption, refusal, negative, Int.not_lt.mp negative]
        rfl
  | v value =>
      by_cases positive : 0 < value
      · simp only [setOption, refusal, positive, Int.not_le.mpr positive]
        rfl
      · simp only [setOption, refusal, positive, Int.not_lt.mp positive]
        rfl
  | m optarg =>
      have current : (chosen before).testMemType = memoryChosen (lastOf Opt.memArg? before) := rfl
      simp only [setOption, refusal, current, parseMemType_chosen]
      by_cases admitted : MemoryAdmitted haveCuda (lastOf Opt.memArg? before) optarg
      · simp only [admitted, if_true, memoryNamed_ne_last]
        rfl
      · simp only [admitted]
        rfl
  | a | c | l | six | i | h | unknown => rfl

theorem CmdError.ret_ne_zero (error : CmdError) : error.ret ≠ 0 := by
  cases error <;> simp [CmdError.ret, ucsErrUnsupported]

/-- `main` goes on exactly behind a command line without a refused option. -/
theorem parseCmdRet_eq_zero_iff {haveCuda : Bool} {opts : List Opt} :
    parseCmdRet haveCuda opts = 0 ↔ Admitted (refusal haveCuda) opts :=
  (decides haveCuda).resultOf_eq_zero_iff CmdError.ret_ne_zero

end ClientServer

namespace HelloWorld

open UcxPlayground.HelloWorld

def Opt.mode? : Opt → Option TestMode
  | .w => some .wait
  | .f => some .eventfd
  | .b => some .probe
  | _ => none

def Opt.e? : Opt → Option String
  | .e optarg => some optarg
  | _ => none

def Opt.s? : Opt → Option Int
  | .s value => some value
  | _ => none

def Opt.c? : Opt → Option Bool
  | .c => some true
  | _ => none

/-- A `-e` argument that names a failure mode. -/
def NamesFailure (optArg : String) : Prop :=
  optArg = "recv" ∨ optArg = "send" ∨ optArg = "keepalive"

instance (optArg : String) : Decidable (NamesFailure optArg) :=
  inferInstanceAs (Decidable (_ ∨ _ ∨ _))

def failureNamed (optArg : String) : FailureMode :=
  if optArg = "recv" then .recv else if optArg = "send" then .send else .keepalive

/-- The port is refused when its remainder is zero, which is also what is printed. -/
def refusal (haveCuda : Bool) (before : List Opt) : Opt → Option CmdError
  | .e optarg => if NamesFailure optarg then none else some .usage
  | .p port => if 65536 ∣ port then some (.wrongServerPort 0) else none
  | .s value => if 0 ≤ value then none else some (.wrongStringSize value)
  | .m optarg =>
      if MemoryAdmitted haveCuda (lastOf Opt.memArg? before) optarg then none
      else some .memoryType
  | .h | .unknown => some .usage
  | .w | .f | .b | .six | .n _ | .c => none

def chosen (opts : List Opt) : Variables where
  testMode := (lastOf Opt.mode? opts).getD .probe
  peerErrMode := (lastOf Opt.e? opts).isSome
  failureMode := ((lastOf Opt.e? opts).map failureNamed).getD .none
  serverName := lastOf Opt.n? opts
  aiFamily := (lastOf Opt.six? opts).getD .inet
  serverPort := ((lastOf Opt.p? opts).map (BitVec.ofInt 16)).getD 13337
  testStringLength := (lastOf Opt.s? opts).getD 16
  testMemType := memoryChosen (lastOf Opt.memArg? opts)
  printConfig := (lastOf Opt.c? opts).getD false

theorem chosen_concat (before : List Opt) (opt : Opt) : chosen (before ++ [opt]) =
    { testMode := opt.mode?.getD (chosen before).testMode
      peerErrMode := opt.e?.isSome || (chosen before).peerErrMode
      failureMode := (opt.e?.map failureNamed).getD (chosen before).failureMode
      serverName := opt.n?.or (chosen before).serverName
      aiFamily := opt.six?.getD (chosen before).aiFamily
      serverPort := (opt.p?.map (BitVec.ofInt 16)).getD (chosen before).serverPort
      testStringLength := opt.s?.getD (chosen before).testStringLength
      testMemType := (opt.memArg?.map memoryNamed).getD (chosen before).testMemType
      printConfig := opt.c?.getD (chosen before).printConfig } := by
  cases opt <;> simp only [chosen, memoryChosen, lastOf_concat] <;> rfl

theorem zero_port_iff {port : Int} : (BitVec.ofInt 16 port).toNat ≤ 0 ↔ 65536 ∣ port := by
  rw [BitVec.toNat_ofInt]
  omega

theorem decides (haveCuda : Bool) :
    Decides (setOption haveCuda) .initial (refusal haveCuda) chosen := by
  refine ⟨rfl, fun before opt => ?_⟩
  rw [chosen_concat]
  cases opt with
  | e optarg =>
      by_cases named : NamesFailure optarg
      · rcases named with rfl | rfl | rfl <;> rfl
      · have others := named
        simp only [NamesFailure, not_or] at others
        simp only [setOption, refusal, named, others]
        rfl
  | p port =>
      by_cases multiple : 65536 ∣ port
      · have zero : BitVec.ofInt 16 port = 0 :=
          BitVec.eq_of_toNat_eq (Nat.le_zero.mp (zero_port_iff.mpr multiple))
        simp only [setOption, refusal, multiple, zero]
        rfl
      · simp only [setOption, refusal, zero_port_iff, multiple]
        rfl
  | s value =>
      by_cases negative : value < 0
      · simp only [setOption, refusal, negative, Int.not_le.mpr negative]
        rfl
      · simp only [setOption, refusal, negative, Int.not_lt.mp negative]
        rfl
  | m optarg =>
      have current : (chosen before).testMemType = memoryChosen (lastOf Opt.memArg? before) := rfl
      simp only [setOption, refusal, current, parseMemType_chosen]
      by_cases admitted : MemoryAdmitted haveCuda (lastOf Opt.memArg? before) optarg
      · simp only [admitted, if_true, memoryNamed_ne_last]
        rfl
      · simp only [admitted]
        rfl
  | w | f | b | six | n | c | h | unknown => rfl

/-- `main` goes on exactly behind a command line without a refused option. -/
theorem parseCmdRet_eq_zero_iff {haveCuda : Bool} {opts : List Opt} :
    parseCmdRet haveCuda opts = 0 ↔ Admitted (refusal haveCuda) opts :=
  (decides haveCuda).resultOf_eq_zero_iff fun _ => (by decide : ucsErrUnsupported ≠ 0)

end HelloWorld

/-- Both programs accept a command line exactly when no option in it is refused because of its
own argument or, with memory of a GPU, of the `-m` argument in front of it, and then each variable
has the value of the last option of its kind. Otherwise the error is that of the first option
that is refused. -/
theorem commandLines_decided (haveCuda : Bool) :
    (∀ opts settings, ClientServer.parseCmd haveCuda opts = .ok settings ↔
      Admitted (ClientServer.refusal haveCuda) opts ∧ settings = ClientServer.chosen opts) ∧
    (∀ opts error, ClientServer.parseCmd haveCuda opts = .error error ↔
      Refused (ClientServer.refusal haveCuda) opts error) ∧
    (∀ opts settings, HelloWorld.parseCmd haveCuda opts = .ok settings ↔
      Admitted (HelloWorld.refusal haveCuda) opts ∧ settings = HelloWorld.chosen opts) ∧
    ∀ opts error, HelloWorld.parseCmd haveCuda opts = .error error ↔
      Refused (HelloWorld.refusal haveCuda) opts error :=
  ⟨fun _ _ => (ClientServer.decides haveCuda).parse_eq_ok_iff,
    fun _ _ => (ClientServer.decides haveCuda).parse_eq_error_iff,
    fun _ _ => (HelloWorld.decides haveCuda).parse_eq_ok_iff,
    fun _ _ => (HelloWorld.decides haveCuda).parse_eq_error_iff⟩

end UcxPlayground.Arguments
