import Mathlib.Data.List.Induction
import Mathlib.Logic.Basic

/-!
# Options applied in order

A command line is a list of options. Each one changes the variables of a program
or is refused, and the first that is refused ends the parsing. Nothing here
mentions a particular program.
-/

set_option autoImplicit false

namespace UcxPlayground.Arguments

variable {Variables Opt Error : Type*}

/-- The variables behind the last option, or the error of the first refused one. -/
def parse (setOption : Variables → Opt → Except Error Variables) :
    Variables → List Opt → Except Error Variables
  | settings, [] => .ok settings
  | settings, opt :: rest =>
      match setOption settings opt with
      | .ok next => parse setOption next rest
      | .error error => .error error

/-- The number that a parser returns: 0, or that of the error. -/
def resultOf (ret : Error → Int) : Except Error Variables → Int
  | .ok _ => 0
  | .error error => ret error

/-- An option is accepted after some others. -/
def Accepts (setOption : Variables → Opt → Except Error Variables) (settings : Variables)
    (opt : Opt) : Prop :=
  ∃ next, setOption settings opt = .ok next

section

variable {setOption : Variables → Opt → Except Error Variables} {settings final : Variables}
  {opts : List Opt}

theorem parse_cons_inv {opt : Opt} (parsed : parse setOption settings (opt :: opts) = .ok final) :
    ∃ next, setOption settings opt = .ok next ∧ parse setOption next opts = .ok final := by
  cases set : setOption settings opt with
  | error error => simp only [parse, set, reduceCtorEq] at parsed
  | ok next =>
      simp only [parse, set] at parsed
      exact ⟨next, rfl, parsed⟩

/-- What every given option preserves holds behind the last one. -/
theorem parse_preserves (invariant : Variables → Prop)
    (preserved : ∀ settings next, ∀ opt ∈ opts, invariant settings →
      setOption settings opt = .ok next → invariant next)
    (initially : invariant settings) (parsed : parse setOption settings opts = .ok final) :
    invariant final := by
  induction opts generalizing settings with
  | nil =>
      cases parsed
      exact initially
  | cons opt rest ih =>
      obtain ⟨next, set, remaining⟩ := parse_cons_inv parsed
      exact ih (fun settings next opt member => preserved settings next opt (.tail _ member))
        (preserved settings next opt List.mem_cons_self initially set) remaining

theorem parse_singleton {opt : Opt} {next : Variables} (set : setOption settings opt = .ok next) :
    parse setOption settings [opt] = .ok next := by
  simp only [parse, set]

/-- Every option of a command line that is parsed was accepted. -/
theorem parse_accepts (parsed : parse setOption settings opts = .ok final) :
    ∀ opt ∈ opts, ∃ before, Accepts setOption before opt := by
  induction opts generalizing settings with
  | nil => simp
  | cons opt rest ih =>
      obtain ⟨next, set, remaining⟩ := parse_cons_inv parsed
      intro other member
      rcases List.mem_cons.mp member with same | later
      · subst same
        exact ⟨settings, next, set⟩
      · exact ih remaining other later

/-- The value of the last option of a kind. -/
def lastOf {Value : Type*} (value? : Opt → Option Value) (opts : List Opt) : Option Value :=
  (opts.filterMap value?).getLast?

theorem mem_of_lastOf {Value : Type*} {value? : Opt → Option Value} {value : Value}
    (last : value ∈ lastOf value? opts) : ∃ opt ∈ opts, value? opt = some value :=
  List.mem_filterMap.mp (List.mem_of_getLast? last)

/-- A variable that only options of one kind assign has the value of the last of
them. -/
theorem parse_last {Value Field : Type*} (field : Variables → Field) (value? : Opt → Option Value)
    (assign : Value → Field)
    (sets : ∀ settings opt next, setOption settings opt = .ok next →
      field next = ((value? opt).map assign).getD (field settings))
    (parsed : parse setOption settings opts = .ok final) :
    field final = ((lastOf value? opts).map assign).getD (field settings) := by
  induction opts generalizing settings with
  | nil =>
      cases parsed
      rfl
  | cons opt rest ih =>
      obtain ⟨next, set, remaining⟩ := parse_cons_inv parsed
      rw [ih remaining, sets settings opt next set]
      cases kind : value? opt with
      | none => rw [lastOf, lastOf, List.filterMap_cons_none kind, Option.map_none, Option.getD_none]
      | some value =>
          rw [lastOf, lastOf, List.filterMap_cons_some kind, List.getLast?_cons]
          cases (rest.filterMap value?).getLast? <;> rfl

theorem lastOf_concat {Value : Type*} (value? : Opt → Option Value) (opt : Opt) :
    lastOf value? (opts ++ [opt]) = (value? opt).or (lastOf value? opts) := by
  rw [lastOf, List.filterMap_append]
  cases given : value? opt with
  | none => simp [given, lastOf]
  | some value => simp [given]

theorem parse_append (later : List Opt) :
    parse setOption settings (opts ++ later) =
      (parse setOption settings opts).bind (parse setOption · later) := by
  induction opts generalizing settings with
  | nil => rfl
  | cons first rest ih =>
      rw [List.cons_append, parse, parse]
      cases setOption settings first with
      | error error => rfl
      | ok next => exact ih

end

section Decides

variable {setOption : Variables → Opt → Except Error Variables} {initial : Variables}
  {refusal : List Opt → Opt → Option Error} {chosen : List Opt → Variables} {opts : List Opt}

/-- No option is refused because of those in front of it. -/
def Admitted (refusal : List Opt → Opt → Option Error) (opts : List Opt) : Prop :=
  ∀ before opt, before ++ [opt] <+: opts → refusal before opt = none

/-- The first option that is refused is refused with the error. -/
def Refused (refusal : List Opt → Opt → Option Error) (opts : List Opt) (error : Error) : Prop :=
  ∃ before opt, before ++ [opt] <+: opts ∧ Admitted refusal before ∧
    refusal before opt = some error

/-- The given options alone say which is refused, and what the variables are behind them. -/
structure Decides (setOption : Variables → Opt → Except Error Variables) (initial : Variables)
    (refusal : List Opt → Opt → Option Error) (chosen : List Opt → Variables) : Prop where
  initially : chosen [] = initial
  step : ∀ before opt, setOption (chosen before) opt =
    (refusal before opt).elim (.ok (chosen (before ++ [opt]))) .error

theorem admitted_concat {opt : Opt} :
    Admitted refusal (opts ++ [opt]) ↔ Admitted refusal opts ∧ refusal opts opt = none := by
  simp only [Admitted, List.prefix_concat_iff, List.append_singleton_inj]
  constructor
  · intro admitted
    exact ⟨fun before opt given => admitted before opt (.inr given),
      admitted opts opt (.inl ⟨rfl, rfl⟩)⟩
  · rintro ⟨earlier, last⟩ before opt (⟨rfl, rfl⟩ | given)
    · exact last
    · exact earlier before opt given

theorem admitted_or_refused (refusal : List Opt → Opt → Option Error) (opts : List Opt) :
    Admitted refusal opts ∨ ∃ error, Refused refusal opts error := by
  induction opts using List.reverseRecOn with
  | nil => exact .inl fun before opt given => absurd (List.prefix_nil.mp given) (by simp)
  | append_singleton before opt ih =>
      rcases ih with admitted | ⟨error, earlier, other, given, admitted, refused⟩
      · cases decided : refusal before opt with
        | none => exact .inl (admitted_concat.mpr ⟨admitted, decided⟩)
        | some error =>
            exact .inr ⟨error, before, opt, List.prefix_rfl, admitted, decided⟩
      · exact .inr ⟨error, earlier, other, given.trans (List.prefix_append before [opt]), admitted,
          refused⟩

theorem Decides.parse_admitted (decides : Decides setOption initial refusal chosen)
    (admitted : Admitted refusal opts) : parse setOption initial opts = .ok (chosen opts) := by
  induction opts using List.reverseRecOn with
  | nil => exact congrArg _ decides.initially.symm
  | append_singleton before opt ih =>
      obtain ⟨earlier, last⟩ := admitted_concat.mp admitted
      have step := decides.step before opt
      rw [last, Option.elim_none] at step
      rw [parse_append, ih earlier]
      exact parse_singleton step

/-- The options behind the refused one are not looked at. -/
theorem Decides.parse_refused (decides : Decides setOption initial refusal chosen)
    {error : Error} (refused : Refused refusal opts error) :
    parse setOption initial opts = .error error := by
  obtain ⟨before, opt, ⟨later, rfl⟩, admitted, refused⟩ := refused
  have step := decides.step before opt
  rw [refused, Option.elim_some] at step
  rw [List.append_assoc, parse_append, decides.parse_admitted admitted]
  show parse setOption (chosen before) (opt :: later) = _
  rw [parse, step]

theorem Decides.parse_eq_ok_iff (decides : Decides setOption initial refusal chosen)
    {final : Variables} :
    parse setOption initial opts = .ok final ↔ Admitted refusal opts ∧ final = chosen opts := by
  constructor
  · intro parsed
    rcases admitted_or_refused refusal opts with admitted | ⟨error, refused⟩
    · rw [decides.parse_admitted admitted] at parsed
      exact ⟨admitted, (Except.ok.inj parsed).symm⟩
    · rw [decides.parse_refused refused] at parsed
      cases parsed
  · rintro ⟨admitted, rfl⟩
    exact decides.parse_admitted admitted

theorem Decides.parse_eq_error_iff (decides : Decides setOption initial refusal chosen)
    {error : Error} :
    parse setOption initial opts = .error error ↔ Refused refusal opts error := by
  constructor
  · intro parsed
    rcases admitted_or_refused refusal opts with admitted | ⟨other, refused⟩
    · rw [decides.parse_admitted admitted] at parsed
      cases parsed
    · rw [decides.parse_refused refused] at parsed
      exact Except.error.inj parsed ▸ refused
  · exact decides.parse_refused

theorem Decides.resultOf_eq_zero_iff (decides : Decides setOption initial refusal chosen)
    {ret : Error → Int} (nonzero : ∀ error, ret error ≠ 0) :
    resultOf ret (parse setOption initial opts) = 0 ↔ Admitted refusal opts := by
  rcases admitted_or_refused refusal opts with admitted | ⟨error, refused⟩
  · exact iff_of_true (congrArg (resultOf ret) (decides.parse_admitted admitted)) admitted
  · rw [decides.parse_refused refused]
    refine iff_of_false (nonzero error) fun admitted => ?_
    have parsed := (decides.parse_refused refused).symm.trans (decides.parse_admitted admitted)
    cases parsed

end Decides

end UcxPlayground.Arguments
