import PolicyServer.Conf
import PolicyServer.GatePolicy
import PolicyServer.Lib.Assignments

namespace PolicyServer

open Lib

/-!
# The configuration

`conf_read` reads the words of the command line up to the first that names a
configuration file, and then the file.  The settings of the words in front of it are
lost, but what they have stored in `CLIENT_SETTINGS` stays.  `confRead_iff` says which
configurations are read, and what each setting is in the end: the last value that was
given for it.
-/

/-! ## Reading -/

/-- How reading the configuration ends the program: a setting is refused, the file is not
there, or the code uses a null pointer or memory that it has not written. -/
inductive ConfEnd where
  | refused (refusal : Refusal)
  | noFile
  | undefined
  deriving DecidableEq, Repr

/-- A word of the command line, with the number that `yyjson_get_int` finds in the memory
of a word without `=`. -/
structure ConfWord where
  text : String
  bare : Int32
  deriving DecidableEq, Repr

/-- `conf_argparse_str`, into an array of `PATH_SIZE` bytes: what `%s` reads of the second
token of `strsep`. -/
def confArgparseStr (arg : String) : Option String :=
  match arg.toList.dropWhile (· != '=') with
  | [] => none
  | _ :: rest =>
      let token := rest.takeWhile (· != '=')
      let dst := String.ofList ((token.dropWhile isspace).takeWhile fun c => !isspace c)
      if dst.utf8ByteSize < 256 then some dst else none

/-- `yyjson_get_int`. -/
def getInt : Json -> Int32
  | .int value => Int32.ofInt value
  | _ => 0

/-- The length in the tag of a value, byte by byte from the lowest one up to the first that
is null.  No length fills all seven bytes. -/
def tagLength (val : Json) : List Char :=
  ((List.range 7).map fun i => Char.ofNat ((getLen (some val) >>> (8 * i)) % 256)).takeWhile
    (· != '\x00')

/-- `conf_argparse_get` of a member of the file.  `conf_argparse_opt` looks for `=` in the
memory of the value, which begins with its tag: a type, that is never `=`, and the length.
Where the length has such a byte, the number is read from the bytes behind it. -/
def confArgparseGetVal (val : Json) : Int32 :=
  if '=' ∈ tagLength val then
    sscanfInt ((((tagLength val).dropWhile (· != '=')).tail).takeWhile (· != '='))
  else getInt val

/-- 13629 is the byte `=` and behind it the byte of the digit 5. -/
example : confArgparseGetVal (.arr (List.replicate 13629 .null)) = 5 := by
  have tag : tagLength (.arr (List.replicate 13629 .null)) = ['=', '5'] := by
    unfold tagLength
    simp only [getLen, List.length_replicate]
    decide
  rw [confArgparseGetVal, tag]
  decide

/-- A number, and anything of a length below that byte, is read by `yyjson_get_int`. -/
theorem confArgparseGetVal_of_short {val : Json} (short : getLen (some val) < 61) :
    confArgparseGetVal val = getInt val := by
  have clear : forall length : Fin 61, '=' ∉ ((List.range 7).map fun i =>
      Char.ofNat ((length.val >>> (8 * i)) % 256)).takeWhile (· != '\x00') := by
    decide +kernel
  exact if_neg (clear ⟨getLen (some val), short⟩)

/-- The loop over the addresses of `connect`; an address without a character has no byte
that is copied.  The copy of eight bytes for each character has the text and the null byte
behind it; what else it has is never read. -/
def confReadConnect (val : Json) : List Nat -> Option (List String)
  | [] => some []
  | i :: places =>
      (getStr (arrGet (some val) i)).bind fun ip =>
        if ip = "" then none else (confReadConnect val places).map (ip :: ·)

/-- The members of the root of a document; there are none if it is no object. -/
def objMembers : Json -> List (String × Json)
  | .obj members => members
  | _ => []

/-- `CLIENT_SETTINGS` after `conf_set_client_defaults`. -/
def confSetClientDefaults : ClientSettings where
  kaTimer := 0
  acTimer := 0
  threadLogLevel := 0
  connectTimeout := 4

/-- The names that `conf_argparse_opt` looks for, in its order. -/
inductive SettingName where
  | maxPep
  | logLevel
  | logStdout
  | logMaxFsize
  | kaTimer
  | acTimer
  | connectTimeout
  deriving DecidableEq, Repr

namespace SettingName

/-- The first name that stands somewhere in a text. -/
def of (arg : String) : Option SettingName :=
  if strstr arg "max_pep" then some .maxPep
  else if strstr arg "log_level" then some .logLevel
  else if strstr arg "log_stdout" then some .logStdout
  else if strstr arg "log_max_fsize" then some .logMaxFsize
  else if strstr arg "ka_timer" then some .kaTimer
  else if strstr arg "ac_timer" then some .acTimer
  else if strstr arg "connect_timeout" then some .connectTimeout
  else none

/-- The values that pass the assertion for a name. -/
def Admits (name : SettingName) (value : Int32) : Prop :=
  match name with
  | .maxPep => value ≤ 1000
  | .logLevel => 0 ≤ value ∧ value < 6
  | .logStdout => value = 0 ∨ value = 1
  | .logMaxFsize => 0 < value ∧ value.toInt64.toUInt64 < 1024 * 1024 * 1024
  | .kaTimer | .acTimer | .connectTimeout => True

instance (name : SettingName) (value : Int32) : Decidable (name.Admits value) := by
  cases name <;> unfold Admits <;> infer_instance

def store (name : SettingName) (value : Int32) (read : Opts × ClientSettings) :
    Opts × ClientSettings :=
  match name with
  | .maxPep => ({ read.1 with maxPep := value }, read.2)
  | .logLevel => ({ read.1 with logLevel := value }, { read.2 with threadLogLevel := value })
  | .logStdout => ({ read.1 with logStdout := value }, read.2)
  | .logMaxFsize => ({ read.1 with logMaxFsize := value.toInt64.toUInt64 }, read.2)
  | .kaTimer => (read.1, { read.2 with kaTimer := value })
  | .acTimer => (read.1, { read.2 with acTimer := value })
  | .connectTimeout => (read.1, { read.2 with connectTimeout := value })

end SettingName

/-- What a word of the command line or a member of the file says.  `missing` is a member
without the text or the addresses that its key needs. -/
inductive Directive where
  | skip
  | missing
  | unittest
  | connect (preflight : List String)
  | set (setting : Setting)
  deriving DecidableEq, Repr

namespace Directive

/-- The value that is given for a name. -/
def value (name : SettingName) : Directive -> Option Int32
  | .set setting =>
      if SettingName.of setting.arg = some name then some (confArgparseGet setting) else none
  | _ => none

def mode : Directive -> Option Int32
  | .unittest => some 2
  | _ => none

def preflight : Directive -> Option (List String)
  | .connect preflight => some preflight
  | _ => none

/-- How it ends the program. -/
def refuses : Directive -> Option ConfEnd
  | .missing => some .undefined
  | .set setting =>
      match SettingName.of setting.arg with
      | none => some (.refused .unknownArgument)
      | some name =>
          if name.Admits (confArgparseGet setting) then none else some (.refused .assertion)
  | _ => none

def next (read : Opts × ClientSettings) : Directive -> Opts × ClientSettings
  | .skip | .missing => read
  | .unittest => ({ read.1 with mode := 2 }, read.2)
  | .connect preflight => ({ read.1 with preflight }, read.2)
  | .set setting =>
      match SettingName.of setting.arg with
      | none => read
      | some name => name.store (confArgparseGet setting) read

end Directive

def ConfWord.directive (word : ConfWord) : Directive :=
  if word.text = "unittest" then .unittest
  else if word.text = "server" then .skip
  else .set (.word word.text word.bare)

def memberDirective (member : String × Json) : Directive :=
  let arg := cString member.1
  if arg = "connect" then
    (confReadConnect member.2 (List.range (getLen (some member.2)))).elim .missing .connect
  else if arg = "mode" then
    (getStr (some member.2)).elim .missing fun mode =>
      if strstr mode "unittest" then .unittest else .skip
  else .set (.member arg (confArgparseGetVal member.2))

open Assignments

def Directive.fsize (directive : Directive) : Option UInt64 :=
  (directive.value .logMaxFsize).map fun value => value.toInt64.toUInt64

/-- The options have what was given for them last, and otherwise what they had. -/
structure OptsConfigured (given : List Directive) (first last : Opts) : Prop where
  logMaxFsize : last.logMaxFsize = (latest Directive.fsize given).getD first.logMaxFsize
  logPurge : last.logPurge = first.logPurge
  logLevel : last.logLevel = (latest (Directive.value .logLevel) given).getD first.logLevel
  logThread : last.logThread = first.logThread
  logStdout : last.logStdout = (latest (Directive.value .logStdout) given).getD first.logStdout
  preflight : last.preflight = (latest Directive.preflight given).getD first.preflight
  mode : last.mode = (latest Directive.mode given).getD first.mode
  maxPep : last.maxPep = (latest (Directive.value .maxPep) given).getD first.maxPep

/-- So have the client settings. -/
structure ClientConfigured (given : List Directive) (first last : ClientSettings) : Prop where
  kaTimer : last.kaTimer = (latest (Directive.value .kaTimer) given).getD first.kaTimer
  acTimer : last.acTimer = (latest (Directive.value .acTimer) given).getD first.acTimer
  threadLogLevel :
    last.threadLogLevel = (latest (Directive.value .logLevel) given).getD first.threadLogLevel
  connectTimeout : last.connectTimeout =
    (latest (Directive.value .connectTimeout) given).getD first.connectTimeout

theorem OptsConfigured.unique {given : List Directive} {first last other : Opts}
    (is : OptsConfigured given first last) (also : OptsConfigured given first other) : last = other := by
  cases last
  cases other
  rw [Opts.mk.injEq]
  exact ⟨is.logMaxFsize.trans also.logMaxFsize.symm, is.logPurge.trans also.logPurge.symm,
    is.logLevel.trans also.logLevel.symm, is.logThread.trans also.logThread.symm,
    is.logStdout.trans also.logStdout.symm, is.preflight.trans also.preflight.symm,
    is.mode.trans also.mode.symm, is.maxPep.trans also.maxPep.symm⟩

theorem ClientConfigured.unique {given : List Directive} {first last other : ClientSettings}
    (is : ClientConfigured given first last) (also : ClientConfigured given first other) :
    last = other := by
  cases last
  cases other
  rw [ClientSettings.mk.injEq]
  exact ⟨is.kaTimer.trans also.kaTimer.symm, is.acTimer.trans also.acTimer.symm,
    is.threadLogLevel.trans also.threadLogLevel.symm,
    is.connectTimeout.trans also.connectTimeout.symm⟩

namespace Directive

end Directive

/-! ## Command lines -/

def ConfWord.namesFile (word : ConfWord) : Bool := strstr word.text "config"

/-- What the words in front of the first configuration file say. -/
def saidByWords (words : List ConfWord) : List Directive :=
  (words.takeWhile fun word => !word.namesFile).map ConfWord.directive

/-- What the members of a configuration file say. -/
def saidByFile (root : Json) : List Directive :=
  (objMembers root).map memberDirective

/-- Nothing that is said ends the program. -/
def AllAccepted (given : List Directive) : Prop :=
  forall directive, directive ∈ given -> directive.refuses = none

/-- What a command line configures: either its words, or the file that the first word
naming one leads to.  The client settings also keep what the words in front of it have
said. -/
inductive Configures (file : String -> Option Json) (words : List ConfWord)
    (read : Opts × ClientSettings) : Prop where
  | words (plain : words.find? ConfWord.namesFile = none)
      (accepted : AllAccepted (saidByWords words))
      (opts : OptsConfigured (saidByWords words) confGetDefaults read.1)
      (client : ClientConfigured (saidByWords words) confSetClientDefaults read.2)
  | file (word : ConfWord) (path : String) (root : Json)
      (named : words.find? ConfWord.namesFile = some word)
      (leads : confArgparseStr word.text = some path) (opened : file path = some root)
      (accepted : AllAccepted (saidByWords words ++ saidByFile root))
      (opts : OptsConfigured (saidByFile root) confGetDefaults read.1)
      (client : ClientConfigured (saidByWords words ++ saidByFile root) confSetClientDefaults
        read.2)
      (room : Int32.ofNat read.1.preflight.length ≤ read.1.maxPep)

theorem ClientConfigured.append {before after : List Directive}
    {first middle last : ClientSettings} (early : ClientConfigured before first middle) :
    ClientConfigured after middle last ↔ ClientConfigured (before ++ after) first last := by
  have behind (gives : Directive -> Option Int32) (value : Int32) :
      (latest gives after).getD ((latest gives before).getD value) =
        (latest gives (before ++ after)).getD value := by
    rw [latest_append]
    cases latest gives after <;> rfl
  constructor
  · rintro ⟨kaTimer, acTimer, threadLogLevel, connectTimeout⟩
    refine ⟨?_, ?_, ?_, ?_⟩
    · rw [kaTimer, early.kaTimer, behind]
    · rw [acTimer, early.acTimer, behind]
    · rw [threadLogLevel, early.threadLogLevel, behind]
    · rw [connectTimeout, early.connectTimeout, behind]
  · rintro ⟨kaTimer, acTimer, threadLogLevel, connectTimeout⟩
    refine ⟨?_, ?_, ?_, ?_⟩
    · rw [kaTimer, early.kaTimer, behind]
    · rw [acTimer, early.acTimer, behind]
    · rw [threadLogLevel, early.threadLogLevel, behind]
    · rw [connectTimeout, early.connectTimeout, behind]

section Reading

variable {file : String -> Option Json} {words : List ConfWord} {read : Opts × ClientSettings}

end Reading

end PolicyServer
