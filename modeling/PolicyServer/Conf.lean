import Mathlib.Data.List.Infix

namespace PolicyServer

/-!
# Settings

`conf_argparse_opt` reads one setting, either a word of the command line or a
member of the configuration file, and stores it after a check of its range.  A
value out of range aborts the program, and an unknown name ends it.
-/

/-- `strstr`, as a test. -/
def strstr (text needle : String) : Bool :=
  decide (needle.toList <:+: text.toList)

/-- `isspace` in the C locale. -/
def isspace (char : Char) : Bool :=
  char == ' ' || (9 ≤ char.toNat && char.toNat ≤ 13)

/-- The number that the leading digits stand for, 0 if there are none. -/
def leadingNumber (text : List Char) : Nat :=
  Nat.ofDigitChars 10 (text.takeWhile Char.isDigit) 0

/-- What `sscanf` makes of a `%d`: white space, a sign and digits.  The number is
read as a `long`, which stops at its bounds, and then cut to an `int`. -/
def sscanfInt (text : List Char) : Int32 :=
  match text.dropWhile isspace with
  | '-' :: digits => Int32.ofInt (max (-9223372036854775808) (-leadingNumber digits))
  | '+' :: digits => Int32.ofInt (min 9223372036854775807 (leadingNumber digits))
  | digits => Int32.ofInt (min 9223372036854775807 (leadingNumber digits))

/-- One setting.  A word without `=` is read as if it were a JSON value, and
`bare` is the number found in its memory; `value` is the number that is read of a
member of the configuration file. -/
inductive Setting where
  | word (text : String) (bare : Int32)
  | member (key : String) (value : Int32)
  deriving DecidableEq, Repr

/-- The name of a setting: `strsep` has cut a word at its first `=`. -/
def Setting.arg : Setting -> String
  | .word text _ => String.ofList (text.toList.takeWhile (· != '='))
  | .member key _ => key

/-- `conf_argparse_get`. -/
def confArgparseGet : Setting -> Int32
  | .word text bare =>
      if strstr text "=" then
        sscanfInt (((text.toList.dropWhile (· != '=')).tail).takeWhile (· != '='))
      else bare
  | .member _ value => value

/-- `opts_t`. -/
structure Opts where
  logMaxFsize : UInt64
  logPurge : Int32
  logLevel : Int32
  logThread : Int32
  logStdout : Int32
  preflight : List String
  mode : Int32
  maxPep : Int32
  deriving DecidableEq, Repr

/-- `conf_get_defaults`. -/
def confGetDefaults : Opts where
  logMaxFsize := 2 * 1024 * 1024
  logPurge := 1
  logLevel := 0
  logThread := 1
  logStdout := 1
  preflight := []
  mode := 0
  maxPep := 4

/-- The fields of `CLIENT_SETTINGS` that a setting can reach. -/
structure ClientSettings where
  kaTimer : Int32
  acTimer : Int32
  threadLogLevel : Int32
  connectTimeout : Int32
  deriving DecidableEq, Repr

/-- How a setting ends the program: a failed assertion, or an unknown name. -/
inductive Refusal where
  | assertion
  | unknownArgument
  deriving DecidableEq, Repr

/-- `conf_argparse_opt`. -/
def confArgparseOpt (opts : Opts) (client : ClientSettings) (setting : Setting) :
    Except Refusal (Opts × ClientSettings) :=
  let rval := confArgparseGet setting
  if strstr setting.arg "max_pep" then
    if rval ≤ 1000 then .ok ({ opts with maxPep := rval }, client) else .error .assertion
  else if strstr setting.arg "log_level" then
    if 0 ≤ rval ∧ rval < 6 then
      .ok ({ opts with logLevel := rval }, { client with threadLogLevel := rval })
    else .error .assertion
  else if strstr setting.arg "log_stdout" then
    if rval = 0 ∨ rval = 1 then .ok ({ opts with logStdout := rval }, client)
    else .error .assertion
  else if strstr setting.arg "log_max_fsize" then
    if 0 < rval ∧ rval.toInt64.toUInt64 < 1024 * 1024 * 1024 then
      .ok ({ opts with logMaxFsize := rval.toInt64.toUInt64 }, client)
    else .error .assertion
  else if strstr setting.arg "ka_timer" then .ok (opts, { client with kaTimer := rval })
  else if strstr setting.arg "ac_timer" then .ok (opts, { client with acTimer := rval })
  else if strstr setting.arg "connect_timeout" then
    .ok (opts, { client with connectTimeout := rval })
  else .error .unknownArgument

/-- The value of `max_pep` that a setting of that name leaves, if it is
accepted. -/
def AcceptsMaxPep (setting : Setting) (maxPep : Int32) : Prop :=
  strstr setting.arg "max_pep" = true ∧
    forall opts client, Exists fun accepted =>
      confArgparseOpt opts client setting = .ok accepted ∧ accepted.1.maxPep = maxPep

/-- The check of `max_pep` bounds it from above only. -/
theorem acceptsMaxPep_iff (setting : Setting) (maxPep : Int32) :
    AcceptsMaxPep setting maxPep ↔
      strstr setting.arg "max_pep" = true ∧ confArgparseGet setting = maxPep ∧ maxPep ≤ 1000 := by
  constructor
  · rintro ⟨named, accepts⟩
    rcases accepts confGetDefaults ⟨60, 0, 2, 4⟩ with ⟨accepted, stores, value⟩
    simp only [confArgparseOpt, named, if_true] at stores
    by_cases small : confArgparseGet setting ≤ 1000
    · rw [if_pos small] at stores
      cases stores
      exact ⟨named, value, value ▸ small⟩
    · rw [if_neg small] at stores
      cases stores
  · rintro ⟨named, rfl, small⟩
    refine ⟨named, fun opts client => ?_⟩
    refine ⟨({ opts with maxPep := confArgparseGet setting }, client), ?_, rfl⟩
    simp only [confArgparseOpt, named, if_true, if_pos small]

end PolicyServer
