import UcxPlayground.Arguments.HelloWorld

/-!
# Accepted memory types

Both `parse_cmd`s pass the current value of `test_mem_type` on to
`check_mem_type_support`, without meaning to. In a build with CUDA this makes no
difference. Without it, the first `-m` argument is accepted whatever it is.
-/

set_option autoImplicit false

namespace UcxPlayground.Arguments

/-- What an option has to do with the memory type, whatever the program. -/
structure MemoryOptions {Variables Opt Error : Type} (haveCuda : Bool)
    (setOption : Variables → Opt → Except Error Variables) (memType : Variables → MemoryType)
    (memArg? : Opt → Option String) : Prop where
  kept : ∀ settings opt next, setOption settings opt = .ok next → memArg? opt = none →
    memType next = memType settings
  chosen : ∀ settings opt next optarg, setOption settings opt = .ok next →
    memArg? opt = some optarg →
    memType next = parseMemType haveCuda (memType settings) optarg ∧ memType next ≠ .last
  accepted : ∀ settings opt optarg, memArg? opt = some optarg →
    parseMemType haveCuda (memType settings) optarg ≠ .last → Accepts setOption settings opt

/-- When the options are accepted, the memory functions have a case for the
type, and each `-m` argument among them is accepted or not whatever comes
before it. An argument behind a refused option counts as well, although the
program does not come to it. -/
def AcceptsSupported {Variables Opt Error : Type} (haveCuda : Bool)
    (setOption : Variables → Opt → Except Error Variables) (memType : Variables → MemoryType)
    (memArg? : Opt → Option String) (initial : Variables) (opts : List Opt) : Prop :=
  (∀ final, parse setOption initial opts = .ok final → Supported haveCuda (memType final)) ∧
    ∀ opt ∈ opts, (memArg? opt).isSome = true → ∀ first second before other,
      parse setOption initial first = .ok before → parse setOption initial second = .ok other →
      (Accepts setOption before opt ↔ Accepts setOption other opt)

namespace MemoryOptions

variable {Variables Opt Error : Type} {haveCuda : Bool}
  {setOption : Variables → Opt → Except Error Variables} {memType : Variables → MemoryType}
  {memArg? : Opt → Option String} {initial : Variables} {opts : List Opt}

/-- An option that assigns what `parse_mem_type` returns, unless it refuses it. -/
theorem of_assign (assign : Variables → MemoryType → Variables) (error : Error)
    (assigned : ∀ settings value, memType (assign settings value) = value)
    (kept : ∀ settings opt next, setOption settings opt = .ok next → memArg? opt = none →
      memType next = memType settings)
    (sets : ∀ settings opt optarg, memArg? opt = some optarg → setOption settings opt =
      if parseMemType haveCuda (memType settings) optarg = .last then .error error
      else .ok (assign settings (parseMemType haveCuda (memType settings) optarg))) :
    MemoryOptions haveCuda setOption memType memArg? := by
  refine ⟨kept, ?_, ?_⟩
  · intro settings opt next optarg set given
    rw [sets settings opt optarg given] at set
    by_cases refused : parseMemType haveCuda (memType settings) optarg = .last
    · rw [if_pos refused] at set
      cases set
    · rw [if_neg refused] at set
      cases set
      rw [assigned]
      exact ⟨rfl, refused⟩
  · intro settings opt optarg given valid
    exact ⟨_, (sets settings opt optarg given).trans (if_neg valid)⟩

theorem accepts_iff (options : MemoryOptions haveCuda setOption memType memArg?) {opt : Opt}
    {optarg : String} (given : memArg? opt = some optarg) (settings : Variables) :
    Accepts setOption settings opt ↔ parseMemType haveCuda (memType settings) optarg ≠ .last := by
  constructor
  · intro accepts
    obtain ⟨next, set⟩ := accepts
    obtain ⟨named, valid⟩ := options.chosen settings opt next optarg set given
    exact named ▸ valid
  · exact options.accepted settings opt optarg given

/-- The variable never keeps the value of a refused argument. -/
theorem named (options : MemoryOptions haveCuda setOption memType memArg?)
    (initially : memType initial = .host) {final : Variables}
    (parsed : parse setOption initial opts = .ok final) : memType final ≠ .last := by
  refine parse_preserves (fun settings => memType settings ≠ .last)
    (fun settings next opt _ valid set => ?_) (by simp [initially]) parsed
  cases given : memArg? opt with
  | none => rwa [options.kept settings opt next set given]
  | some optarg => exact (options.chosen settings opt next optarg set given).2

/-- Without an argument that names CUDA memory the variable stays `host`. -/
theorem stays_host (options : MemoryOptions haveCuda setOption memType memArg?)
    (initially : memType initial = .host)
    (others : ∀ opt ∈ opts, ∀ optarg ∈ memArg? opt, ¬ NamesCuda optarg) {final : Variables}
    (parsed : parse setOption initial opts = .ok final) : memType final = .host := by
  refine parse_preserves (fun settings => memType settings = .host)
    (fun settings next opt member host set => ?_) initially parsed
  cases given : memArg? opt with
  | none => exact (options.kept settings opt next set given).trans host
  | some optarg =>
      obtain ⟨value, valid⟩ := options.chosen settings opt next optarg set given
      rw [parseMemType_host (others opt member optarg given)] at value
      split at value
      · exact value
      · exact absurd value valid

theorem acceptsSupported_of_cuda (options : MemoryOptions true setOption memType memArg?)
    (initially : memType initial = .host) :
    AcceptsSupported true setOption memType memArg? initial opts := by
  refine ⟨fun final parsed => supported_of_cuda (options.named initially parsed), ?_⟩
  intro opt _ given first second before other parsedFirst parsedSecond
  obtain ⟨optarg, given⟩ := Option.isSome_iff_exists.mp given
  rw [options.accepts_iff given, options.accepts_iff given,
    parseMemType_cuda (options.named initially parsedFirst),
    parseMemType_cuda (options.named initially parsedSecond)]

theorem acceptsSupported_of_others (options : MemoryOptions haveCuda setOption memType memArg?)
    (initially : memType initial = .host)
    (others : ∀ opt ∈ opts, ∀ optarg ∈ memArg? opt, ¬ NamesCuda optarg) :
    AcceptsSupported haveCuda setOption memType memArg? initial opts := by
  constructor
  · intro final parsed
    rw [options.stays_host initially others parsed]
    exact supported_host haveCuda
  · intro opt member given first second before other _ _
    obtain ⟨optarg, given⟩ := Option.isSome_iff_exists.mp given
    have unnamed := others opt member optarg given
    rw [options.accepts_iff given, options.accepts_iff given, parseMemType_host unnamed,
      parseMemType_host unnamed]

/-- The argument that is accepted first is refused when it comes again. -/
theorem not_acceptsSupported (options : MemoryOptions false setOption memType memArg?)
    (initially : memType initial = .host) {opt : Opt} {optarg : String} (member : opt ∈ opts)
    (given : memArg? opt = some optarg) (named : NamesCuda optarg) :
    ¬ AcceptsSupported false setOption memType memArg? initial opts := by
  intro claimed
  have first := parseMemType_first named
  have accepts : Accepts setOption initial opt := by
    rw [options.accepts_iff given, initially]
    rcases first with value | value <;> simp [value]
  obtain ⟨next, set⟩ := accepts
  obtain ⟨value, _⟩ := options.chosen initial opt next optarg set given
  rw [initially] at value
  have again : ¬ Accepts setOption next opt := by
    rw [options.accepts_iff given, not_not]
    exact parseMemType_again named (by rwa [value])
  exact again ((claimed.2 opt member (by simp [given]) [] [opt] initial next rfl
    (parse_singleton set)).mp ⟨next, set⟩)

theorem acceptsSupported_iff (options : MemoryOptions haveCuda setOption memType memArg?)
    (initially : memType initial = .host) :
    AcceptsSupported haveCuda setOption memType memArg? initial opts ↔
      haveCuda = true ∨ ∀ opt ∈ opts, ∀ optarg ∈ memArg? opt, ¬ NamesCuda optarg := by
  constructor
  · intro claimed
    cases haveCuda with
    | true => exact .inl rfl
    | false =>
        refine .inr fun opt member optarg given named => ?_
        exact options.not_acceptsSupported initially member given named claimed
  · intro condition
    rcases condition with cuda | others
    · subst cuda
      exact options.acceptsSupported_of_cuda initially
    · exact options.acceptsSupported_of_others initially others

end MemoryOptions

theorem ClientServer.memoryOptions (haveCuda : Bool) :
    MemoryOptions haveCuda (setOption haveCuda) Variables.testMemType Opt.memArg? := by
  refine .of_assign (fun settings value => { settings with testMemType := value }) .memoryType
    (fun _ _ => rfl) ?_ ?_
  · intro settings opt next set given
    revert set
    fun_cases setOption haveCuda settings opt <;> intro set <;> cases set <;> first
      | rfl
      | cases given
  · intro settings opt optarg given
    cases opt with
    | m =>
        cases given
        rfl
    | _ => cases given

theorem HelloWorld.memoryOptions (haveCuda : Bool) :
    MemoryOptions haveCuda (setOption haveCuda) Variables.testMemType Opt.memArg? := by
  refine .of_assign (fun settings value => { settings with testMemType := value }) .memoryType
    (fun _ _ => rfl) ?_ ?_
  · intro settings opt next set given
    revert set
    fun_cases setOption haveCuda settings opt <;> intro set <;> cases set <;> first
      | rfl
      | cases given
  · intro settings opt optarg given
    cases opt with
    | m =>
        cases given
        rfl
    | _ => cases given

/-- In either program the accepted memory types are supported, and accepted
whatever comes before, exactly when the build has CUDA or no argument names its
memory. -/
theorem accepted_memory_supported_iff (haveCuda : Bool) :
    (∀ opts : List ClientServer.Opt,
      AcceptsSupported haveCuda (ClientServer.setOption haveCuda)
          ClientServer.Variables.testMemType ClientServer.Opt.memArg? .initial opts ↔
        haveCuda = true ∨ ∀ opt ∈ opts, ∀ optarg ∈ opt.memArg?, ¬ NamesCuda optarg) ∧
      ∀ opts : List HelloWorld.Opt,
        AcceptsSupported haveCuda (HelloWorld.setOption haveCuda)
            HelloWorld.Variables.testMemType HelloWorld.Opt.memArg? .initial opts ↔
          haveCuda = true ∨ ∀ opt ∈ opts, ∀ optarg ∈ opt.memArg?, ¬ NamesCuda optarg :=
  ⟨fun _ => (ClientServer.memoryOptions haveCuda).acceptsSupported_iff rfl,
    fun _ => (HelloWorld.memoryOptions haveCuda).acceptsSupported_iff rfl⟩

/-- Without CUDA both programs accept `-m cuda`, for which no memory function has
a case. -/
theorem cuda_accepted_without_support :
    ¬ AcceptsSupported false (ClientServer.setOption false) ClientServer.Variables.testMemType
        ClientServer.Opt.memArg? .initial [.m "cuda"] ∧
      ¬ AcceptsSupported false (HelloWorld.setOption false) HelloWorld.Variables.testMemType
        HelloWorld.Opt.memArg? .initial [.m "cuda"] :=
  ⟨fun claimed => absurd (claimed.1 _ rfl) (by decide),
    fun claimed => absurd (claimed.1 _ rfl) (by decide)⟩

end UcxPlayground.Arguments
