import PolicyServer.AnsweredDecisions
import PolicyServer.Conf

namespace PolicyServer

open Lib System

/-!
# Starting over

The files of responses outlive the process that has written them, and an id is 16 bits
of `rand`, so a new process would find the responses of the one before.
`conf_clean_dirs` removes them first: `confCleanDirs_cleaned` is what it removes and what it
leaves, and that a process behind it begins like the first one.
-/

/-! ## Cleaning -/

/-- What is done about an entry of a directory. -/
inductive Cleaning where
  | skip
  | clear (path : String)
  | remove (path : String)
  deriving DecidableEq, Repr

/-- An entry of `logs`; its path has to fit in an array of `PATH_SIZE` bytes. -/
def cleanLog (name : String) : Option Cleaning :=
  let path := "logs" ++ "/" ++ name
  if 256 ≤ path.utf8ByteSize then none
  else if !strstr path ".log" then some .skip
  else if strstr "logs/error.log" path then some (.clear "logs/error.log")
  else some (.remove path)

/-- An entry of `data`. -/
def cleanData (name : String) : Option Cleaning :=
  let path := "data" ++ "/" ++ name
  if 256 ≤ path.utf8ByteSize then none
  else if !strstr path "IGNORE" && !strstr path "yrpt" then some .skip
  else some (.remove path)

/-- What the calls of `conf_clean_dirs` answer: the entries of both directories, if there
are such directories, and which files can be opened for writing and removed. -/
structure CleanCalls where
  logs : Option (List String)
  data : Option (List String)
  opens : String -> Bool
  removes : String -> Bool

/-- A loop over the entries of a directory, with whether it comes to its end.  A null
stream cannot be closed. -/
def cleanLoop (calls : CleanCalls) (clean : String -> Option Cleaning) :
    Disk String Byte -> List String -> Option (Disk String Byte × Bool)
  | disk, [] => some (disk, true)
  | disk, name :: names =>
      (clean name).bind fun
        | .skip => cleanLoop calls clean disk names
        | .clear path =>
            if calls.opens path then cleanLoop calls clean (disk.create path).1 names else none
        | .remove path =>
            if calls.removes path then cleanLoop calls clean (disk.unlink path) names
            else some (disk, false)

/-- `conf_clean_dangling_log`. -/
def confCleanDanglingLog (calls : CleanCalls) (disk : Disk String Byte) :
    Option (Disk String Byte) :=
  if calls.opens "data/__orphan__" then some (disk.create "data/__orphan__").1 else none

/-- `conf_clean_dirs`, with what it returns. -/
def confCleanDirs (calls : CleanCalls) (disk : Disk String Byte) :
    Option (Disk String Byte × Int32) :=
  calls.logs.bind fun logs => calls.data.bind fun data =>
    (cleanLoop calls cleanLog disk logs).bind fun cleaned =>
      if !cleaned.2 then some (cleaned.1, 1)
      else
        (cleanLoop calls cleanData cleaned.1 data).bind fun cleaned =>
          if !cleaned.2 then some (cleaned.1, 1)
          else (confCleanDanglingLog calls cleaned.1).map fun disk => (disk, 0)

/-! ## One loop -/

/-- Some entry of the directory asks for it. -/
def Asked (clean : String -> Option Cleaning) (names : List String) (act : Cleaning) : Prop :=
  Exists fun name => name ∈ names ∧ clean name = some act

section Loops

variable {calls : CleanCalls} {clean : String -> Option Cleaning} {name : String}
variable {names : List String} {act : Cleaning} {disk after : Disk String Byte}

theorem asked_cons (acts : clean name = some act) (wanted : Cleaning) :
    Asked clean (name :: names) wanted ↔ wanted = act ∨ Asked clean names wanted := by
  constructor
  · rintro ⟨other, member, asks⟩
    rcases List.mem_cons.mp member with rfl | member
    · exact Or.inl (Option.some.inj (asks.symm.trans acts))
    · exact Or.inr ⟨other, member, asks⟩
  · rintro (rfl | ⟨other, member, asks⟩)
    · exact ⟨name, List.mem_cons_self, acts⟩
    · exact ⟨other, List.mem_cons_of_mem name member, asks⟩

/-- No path is removed and cleared. -/
def Apart (clean : String -> Option Cleaning) : Prop :=
  forall name other path, clean name = some (.remove path) -> clean other ≠ some (.clear path)

/-- A loop that comes to its end has done what the entries ask for, and every removal has
succeeded. -/
theorem cleanLoop_cleaned (apart : Apart clean)
    (runs : cleanLoop calls clean disk names = some (after, true)) :
    Disk.Cleaned (fun path => Asked clean names (.remove path))
        (fun path => Asked clean names (.clear path)) disk after ∧
      forall path, Asked clean names (.remove path) -> calls.removes path = true := by
  induction names generalizing disk with
  | nil =>
      cases runs
      have nothing (act : Cleaning) : Asked clean [] act ↔ False :=
        ⟨fun ⟨_, member, _⟩ => List.not_mem_nil member, False.elim⟩
      refine ⟨(Disk.Cleaned.refl _).congr (fun _ => nothing _) fun _ => nothing _, ?_⟩
      intro path asked
      exact ((nothing _).mp asked).elim
  | cons name names inductionHypothesis =>
      rcases Option.bind_eq_some_iff.mp runs with ⟨act, acts, runs⟩
      have asked (wanted : Cleaning) : Asked clean (name :: names) wanted ↔
          wanted = act ∨ Asked clean names wanted := asked_cons acts wanted
      cases act with
      | skip =>
          rcases inductionHypothesis runs with ⟨cleaned, removed⟩
          constructor
          · refine cleaned.congr (fun path => ?_) fun path => ?_
            · rw [asked, or_iff_right Cleaning.noConfusion]
            · rw [asked, or_iff_right Cleaning.noConfusion]
          · intro path removes
            exact removed path (((asked _).mp removes).resolve_left Cleaning.noConfusion)
      | clear cleared =>
          dsimp only at runs
          split at runs
          · rcases inductionHypothesis runs with ⟨cleaned, removed⟩
            constructor
            · refine ((Disk.Cleaned.create disk cleared).trans cleaned (fun _ => False.elim)
                ?_).congr (fun path => ?_) fun path => ?_
              · rintro _ rfl ⟨other, _, removes⟩
                exact apart other name _ removes acts
              · rw [asked, or_iff_right Cleaning.noConfusion, false_or]
              · rw [asked, Cleaning.clear.injEq]
            · intro path removes
              exact removed path (((asked _).mp removes).resolve_left Cleaning.noConfusion)
          · cases runs
      | remove gone =>
          dsimp only at runs
          split at runs
          · rename_i succeeds
            rcases inductionHypothesis runs with ⟨cleaned, removed⟩
            constructor
            · refine ((Disk.Cleaned.unlink disk gone).trans cleaned ?_
                (fun _ => False.elim)).congr (fun path => ?_) fun path => ?_
              · rintro _ rfl ⟨other, _, clears⟩
                exact apart name other _ acts clears
              · rw [asked, Cleaning.remove.injEq]
              · rw [asked, or_iff_right Cleaning.noConfusion, false_or]
            · intro path removes
              rcases (asked _).mp removes with here | later
              · rw [Cleaning.remove.inj here]
                exact succeeds
              · exact removed path later
          · cases runs

/-- A loop that stops has met a removal that fails. -/
theorem cleanLoop_stopped (runs : cleanLoop calls clean disk names = some (after, false)) :
    Exists fun path => Asked clean names (.remove path) ∧ calls.removes path = false := by
  induction names generalizing disk with
  | nil => cases runs
  | cons name names inductionHypothesis =>
      rcases Option.bind_eq_some_iff.mp runs with ⟨act, acts, runs⟩
      have later (rest : Exists fun path => Asked clean names (.remove path) ∧
          calls.removes path = false) : Exists fun path =>
            Asked clean (name :: names) (.remove path) ∧ calls.removes path = false := by
        rcases rest with ⟨path, asked, fails⟩
        exact ⟨path, (asked_cons acts _).mpr (Or.inr asked), fails⟩
      cases act with
      | skip => exact later (inductionHypothesis runs)
      | clear cleared =>
          dsimp only at runs
          split at runs
          · exact later (inductionHypothesis runs)
          · cases runs
      | remove gone =>
          dsimp only at runs
          split at runs
          · exact later (inductionHypothesis runs)
          · rename_i fails
            exact ⟨gone, (asked_cons acts _).mpr (Or.inl rfl), Bool.eq_false_of_not_eq_true fails⟩

/-- The paths of all entries fit. -/
theorem cleanLoop_fits (runs : cleanLoop calls clean disk names = some (after, true)) :
    forall name, name ∈ names -> clean name ≠ none := by
  induction names generalizing disk with
  | nil => exact fun _ member => absurd member List.not_mem_nil
  | cons name names inductionHypothesis =>
      rcases Option.bind_eq_some_iff.mp runs with ⟨act, acts, runs⟩
      have later : forall other, other ∈ names -> clean other ≠ none := by
        cases act with
        | skip => exact inductionHypothesis runs
        | clear cleared =>
            dsimp only at runs
            split at runs
            · exact inductionHypothesis runs
            · cases runs
        | remove gone =>
            dsimp only at runs
            split at runs
            · exact inductionHypothesis runs
            · cases runs
      intro other member
      rcases List.mem_cons.mp member with rfl | member
      · rw [acts]
        exact Option.some_ne_none act
      · exact later other member

end Loops

/-! ## Both directories -/

/-- The log files apart from that of the errors, and the files of responses and tests. -/
def Purged (logs data : List String) (path : String) : Prop :=
  (Exists fun name => name ∈ logs ∧ path = "logs" ++ "/" ++ name ∧ strstr path ".log" = true ∧
    path ≠ "logs/error.log") ∨
  Exists fun name => name ∈ data ∧ path = "data" ++ "/" ++ name ∧
    (strstr path "IGNORE" = true ∨ strstr path "yrpt" = true)

/-- What `conf_clean_dirs` empties: the log of the errors, and the orphans. -/
def Emptied (logs : List String) (path : String) : Prop :=
  path = "logs/error.log" ∧ "error.log" ∈ logs ∨ path = "data/__orphan__"

/-- A part of the path of the error log that begins like it and has its extension is all
of it. -/
theorem errorLog_of_part {path : List Char} (part : path <:+: "logs/error.log".toList)
    (begins : "logs/".toList <+: path) (ext : ".log".toList <:+: path) :
    path = "logs/error.log".toList := by
  have pieces : forall skip : Fin 15, forall size : Fin 15,
      "logs/".toList <+: ("logs/error.log".toList.drop skip).take size ->
        ".log".toList <:+: ("logs/error.log".toList.drop skip).take size ->
          ("logs/error.log".toList.drop skip).take size = "logs/error.log".toList := by
    decide +kernel
  rcases part with ⟨front, behind, whole⟩
  have counted := congrArg List.length whole
  rw [List.length_append, List.length_append] at counted
  have most : "logs/error.log".toList.length = 14 := rfl
  have piece : ("logs/error.log".toList.drop front.length).take path.length = path := by
    rw [← whole, List.append_assoc, List.drop_left, List.take_left]
  have all := pieces ⟨front.length, by omega⟩ ⟨path.length, by omega⟩
  dsimp only at all
  rw [piece] at all
  exact all begins ext

theorem strstr_errorLog {name : String} (ext : strstr ("logs" ++ "/" ++ name) ".log" = true) :
    strstr "logs/error.log" ("logs" ++ "/" ++ name) = true ↔
      "logs" ++ "/" ++ name = "logs/error.log" := by
  have begins : "logs/".toList <+: ("logs" ++ "/" ++ name).toList := by
    rw [String.toList_append]
    exact List.prefix_append _ _
  unfold strstr at ext ⊢
  rw [decide_eq_true_iff] at ext ⊢
  constructor
  · intro part
    exact String.toList_inj.mp (errorLog_of_part part begins ext)
  · intro same
    rw [same]

section Entries

variable {name path : String}

theorem cleanLog_remove_iff (fits : cleanLog name ≠ none) :
    cleanLog name = some (.remove path) ↔ path = "logs" ++ "/" ++ name ∧
      strstr path ".log" = true ∧ path ≠ "logs/error.log" := by
  unfold cleanLog at fits ⊢
  dsimp only at fits ⊢
  split
  · rename_i long
    rw [if_pos long] at fits
    exact absurd rfl fits
  split
  · rename_i plain
    refine ⟨fun impossible => (by cases impossible), ?_⟩
    rintro ⟨rfl, ext, _⟩
    rw [ext] at plain
    cases plain
  rename_i ext
  rw [Bool.not_eq_true', Bool.not_eq_false] at ext
  have errorLog := strstr_errorLog ext
  split
  · rename_i errors
    refine ⟨fun impossible => (by cases impossible), ?_⟩
    rintro ⟨rfl, _, others⟩
    exact absurd (errorLog.mp errors) others
  · rename_i others
    constructor
    · intro removes
      cases removes
      exact ⟨rfl, ext, fun same => others (errorLog.mpr same)⟩
    · rintro ⟨rfl, _, _⟩
      rfl

theorem path_inj {directory name other : String}
    (same : directory ++ "/" ++ name = directory ++ "/" ++ other) : name = other := by
  have whole := congrArg String.toList same
  rw [String.toList_append, String.toList_append (t := other)] at whole
  exact String.toList_inj.mp (List.append_cancel_left whole)

theorem cleanLog_clear_iff (fits : cleanLog name ≠ none) :
    cleanLog name = some (.clear path) ↔ name = "error.log" ∧ path = "logs/error.log" := by
  unfold cleanLog at fits ⊢
  dsimp only at fits ⊢
  have named : name = "error.log" ↔ "logs" ++ "/" ++ name = "logs/error.log" := by
    constructor
    · rintro rfl
      rfl
    · exact fun same => @path_inj "logs" name "error.log" same
  split
  · rename_i long
    rw [if_pos long] at fits
    exact absurd rfl fits
  split
  · rename_i plain
    refine ⟨fun impossible => (by cases impossible), ?_⟩
    rintro ⟨rfl, _⟩
    exact absurd plain (by decide)
  rename_i ext
  rw [Bool.not_eq_true', Bool.not_eq_false] at ext
  have errorLog := (strstr_errorLog ext).trans named.symm
  split
  · rename_i errors
    constructor
    · intro clears
      cases clears
      exact ⟨errorLog.mp errors, rfl⟩
    · rintro ⟨_, rfl⟩
      rfl
  · rename_i others
    refine ⟨fun impossible => (by cases impossible), ?_⟩
    rintro ⟨errors, _⟩
    exact absurd (errorLog.mpr errors) others

theorem cleanData_remove_iff (fits : cleanData name ≠ none) :
    cleanData name = some (.remove path) ↔ path = "data" ++ "/" ++ name ∧
      (strstr path "IGNORE" = true ∨ strstr path "yrpt" = true) := by
  unfold cleanData at fits ⊢
  dsimp only at fits ⊢
  split
  · rename_i long
    rw [if_pos long] at fits
    exact absurd rfl fits
  split
  · rename_i plain
    refine ⟨fun impossible => (by cases impossible), ?_⟩
    rintro ⟨rfl, kind⟩
    rcases kind with kind | kind
    · rw [kind] at plain
      cases plain
    · rw [kind, Bool.not_true, Bool.and_false] at plain
      cases plain
  · rename_i kind
    constructor
    · intro removes
      cases removes
      refine ⟨rfl, ?_⟩
      rw [Bool.and_eq_true, Bool.not_eq_true', Bool.not_eq_true', not_and_or,
        Bool.not_eq_false, Bool.not_eq_false] at kind
      exact kind
    · rintro ⟨rfl, _⟩
      rfl

theorem cleanData_ne_clear : cleanData name ≠ some (.clear path) := by
  unfold cleanData
  dsimp only
  split
  · exact nofun
  split
  · exact nofun
  · exact nofun

end Entries

theorem apart_cleanLog : Apart cleanLog := by
  intro name other path removes clears
  have fits : cleanLog name ≠ none := by
    rw [removes]
    exact Option.some_ne_none _
  have fits' : cleanLog other ≠ none := by
    rw [clears]
    exact Option.some_ne_none _
  exact ((cleanLog_remove_iff fits).mp removes).2.2 ((cleanLog_clear_iff fits').mp clears).2

theorem apart_cleanData : Apart cleanData := fun _ _ _ _ => cleanData_ne_clear

section Directories

variable {calls : CleanCalls} {logs data : List String} {before middle after : Disk String Byte}
variable {path : String}

theorem asked_log_iff (path : String)
    (fits : forall name, name ∈ logs -> cleanLog name ≠ none) :
    Asked cleanLog logs (.remove path) ↔ Exists fun name => name ∈ logs ∧
      path = "logs" ++ "/" ++ name ∧ strstr path ".log" = true ∧ path ≠ "logs/error.log" :=
  exists_congr fun name => and_congr_right fun member => cleanLog_remove_iff (fits name member)

theorem asked_clear_iff (path : String)
    (fits : forall name, name ∈ logs -> cleanLog name ≠ none) :
    Asked cleanLog logs (.clear path) ↔ path = "logs/error.log" ∧ "error.log" ∈ logs := by
  constructor
  · rintro ⟨name, member, clears⟩
    rcases (cleanLog_clear_iff (fits name member)).mp clears with ⟨rfl, same⟩
    exact ⟨same, member⟩
  · rintro ⟨same, member⟩
    exact ⟨_, member, (cleanLog_clear_iff (fits _ member)).mpr ⟨rfl, same⟩⟩

theorem asked_data_iff (path : String)
    (fits : forall name, name ∈ data -> cleanData name ≠ none) :
    Asked cleanData data (.remove path) ↔ Exists fun name => name ∈ data ∧
      path = "data" ++ "/" ++ name ∧ (strstr path "IGNORE" = true ∨ strstr path "yrpt" = true) :=
  exists_congr fun name => and_congr_right fun member => cleanData_remove_iff (fits name member)

/-- A path of `logs` is none of `data`. -/
theorem logs_ne_data (name other : String) : "logs" ++ "/" ++ name ≠ "data" ++ "/" ++ other := by
  intro same
  have whole := congrArg String.toList same
  rw [String.toList_append, String.toList_append, String.toList_append,
    String.toList_append] at whole
  have first : some 'l' = some 'd' := congrArg List.head? whole
  exact absurd first (by decide)

theorem purged_of_asked (asked : Asked cleanLog logs (.remove path) ∨
    Asked cleanData data (.remove path)) : Purged logs data path := by
  rcases asked with ⟨name, member, removes⟩ | ⟨name, member, removes⟩
  · have fits : cleanLog name ≠ none := by
      rw [removes]
      exact Option.some_ne_none _
    exact Or.inl ⟨name, member, (cleanLog_remove_iff fits).mp removes⟩
  · have fits : cleanData name ≠ none := by
      rw [removes]
      exact Option.some_ne_none _
    exact Or.inr ⟨name, member, (cleanData_remove_iff fits).mp removes⟩

/-- Two loops that come to their ends, with the file of the orphans behind them. -/
theorem cleaned_of_loops (runs : cleanLoop calls cleanLog before logs = some (middle, true))
    {cleaned : Disk String Byte}
    (runs' : cleanLoop calls cleanData middle data = some (cleaned, true)) :
    Disk.Cleaned (Purged logs data) (Emptied logs) before (cleaned.create "data/__orphan__").1 ∧
      forall path, Purged logs data path -> calls.removes path = true := by
  have logsAsked (path : String) := asked_log_iff path (cleanLoop_fits runs)
  have clearAsked (path : String) := asked_clear_iff path (cleanLoop_fits runs)
  have dataAsked (path : String) := asked_data_iff path (cleanLoop_fits runs')
  have purged (path : String) : Purged logs data path ↔
      Asked cleanLog logs (.remove path) ∨ Asked cleanData data (.remove path) := by
    rw [logsAsked, dataAsked]
    rfl
  rcases cleanLoop_cleaned apart_cleanLog runs with ⟨first, removed⟩
  rcases cleanLoop_cleaned apart_cleanData runs' with ⟨second, removed'⟩
  have both := first.trans second
    (by
      rintro path _ ⟨name, _, clears⟩
      exact cleanData_ne_clear clears)
    (by
      intro path clears removes
      rcases (dataAsked path).mp removes with ⟨name, _, same, _⟩
      exact logs_ne_data "error.log" name (((clearAsked path).mp clears).1.symm.trans same))
  have all := both.trans (Disk.Cleaned.create cleaned "data/__orphan__")
    (by
      rintro path removes rfl
      rcases removes with removes | removes
      · rcases (logsAsked _).mp removes with ⟨name, _, same, _⟩
        exact logs_ne_data name "__orphan__" same.symm
      · rcases (dataAsked _).mp removes with ⟨name, _, _, kind | kind⟩
        · exact absurd kind (by decide)
        · exact absurd kind (by decide))
    (fun _ _ impossible => impossible)
  refine ⟨all.congr (fun path => ?_) fun path => ?_, ?_⟩
  · rw [purged, or_false]
  · have nothing : ¬ Asked cleanData data (.clear path) := by
      rintro ⟨name, _, clears⟩
      exact cleanData_ne_clear clears
    rw [or_iff_left nothing, clearAsked]
    rfl
  · intro path removes
    rcases (purged path).mp removes with removes | removes
    · exact removed path removes
    · exact removed' path removes

theorem confCleanDirs_spec {code : Int32} (listed : calls.logs = some logs)
    (listed' : calls.data = some data)
    (cleans : confCleanDirs calls before = some (after, code)) :
    (code = 0 ↔ forall path, Purged logs data path -> calls.removes path = true) ∧
      (code = 0 -> Disk.Cleaned (Purged logs data) (Emptied logs) before after) := by
  have stopped {path : String} (purged : Purged logs data path)
      (fails : calls.removes path = false) :
      ((1 : Int32) = 0 ↔ forall path, Purged logs data path -> calls.removes path = true) ∧
        ((1 : Int32) = 0 -> Disk.Cleaned (Purged logs data) (Emptied logs) before after) := by
    refine ⟨⟨fun impossible => absurd impossible (by decide), fun all => ?_⟩,
      fun impossible => absurd impossible (by decide)⟩
    rw [all path purged] at fails
    cases fails
  unfold confCleanDirs at cleans
  rw [listed, listed', Option.bind_some, Option.bind_some] at cleans
  rcases Option.bind_eq_some_iff.mp cleans with ⟨⟨middle, ended⟩, runs, cleans⟩
  cases ended with
  | false =>
      rcases cleanLoop_stopped runs with ⟨path, asked, fails⟩
      cases cleans
      exact stopped (purged_of_asked (Or.inl asked)) fails
  | true =>
      rcases Option.bind_eq_some_iff.mp cleans with ⟨⟨cleaned, ended⟩, runs', cleans⟩
      cases ended with
      | false =>
          rcases cleanLoop_stopped runs' with ⟨path, asked, fails⟩
          cases cleans
          exact stopped (purged_of_asked (Or.inr asked)) fails
      | true =>
          rcases Option.map_eq_some_iff.mp cleans with ⟨disk, empties, same⟩
          unfold confCleanDanglingLog at empties
          split at empties
          · cases empties
            cases same
            rcases cleaned_of_loops runs runs' with ⟨all, removed⟩
            exact ⟨⟨fun _ => removed, fun _ => rfl⟩, fun _ => all⟩
          · cases empties

end Directories

/-! ## The next process -/

/-- The directory `data` has the names that are read of it. -/
def Lists (disk : Disk String Byte) (data : List String) : Prop :=
  forall name, disk.names ("data" ++ "/" ++ name) ≠ none -> name ∈ data

/-- No response is left, whoever has written it. -/
theorem cleaned_vacant {logs data : List String} {before after : Disk String Byte}
    (lists : Lists before data)
    (cleaned : Disk.Cleaned (Purged logs data) (Emptied logs) before after) (id : UInt16) :
    after.names (gctlDecisionFile id) = none := by
  have path : gctlDecisionFile id =
      "data" ++ "/" ++ ("yrpt_" ++ toString id.toNat ++ ".txt") := by
    apply String.toList_inj.mp
    simp only [gctlDecisionFile, String.toList_append, List.append_assoc]
    rfl
  have named : strstr (gctlDecisionFile id) "yrpt" = true := by
    rw [strstr, decide_eq_true_iff]
    refine ⟨"data/".toList, ("_" ++ toString id.toNat ++ ".txt").toList, ?_⟩
    simp only [gctlDecisionFile, String.toList_append, List.append_assoc]
    rfl
  by_cases there : before.names (gctlDecisionFile id) = none
  · by_cases purged : Purged logs data (gctlDecisionFile id)
    · exact cleaned.gone _ purged
    · rw [cleaned.kept _ purged, there]
      rintro (⟨same, _⟩ | same)
      · rw [path] at same
        exact logs_ne_data "error.log" _ same.symm
      · rw [same] at named
        exact absurd named (by decide)
  · have listed := lists ("yrpt_" ++ toString id.toNat ++ ".txt") (by rwa [← path])
    exact cleaned.gone _ (Or.inr ⟨_, listed, path, Or.inr named⟩)

/-- Cleaning ends with 0 exactly if no removal fails.  Then all logs, test files and
responses are gone, the log of the errors and the orphans are empty, and every other file is
as it was; so no id has a response left, and the next process begins like the first. -/
theorem confCleanDirs_cleaned (calls : CleanCalls) (logs data : List String)
    (listed : calls.logs = some logs) (listed' : calls.data = some data)
    (before after : Disk String Byte) (code : Int32)
    (cleans : confCleanDirs calls before = some (after, code)) :
    (code = 0 ↔ forall path, Purged logs data path -> calls.removes path = true) ∧
      (code = 0 -> Disk.Cleaned (Purged logs data) (Emptied logs) before after ∧
        (Lists before data -> forall (timers : Nat -> Timers) (sessions : Nat -> Session),
          Exists fun ready : Ready =>
            ready.disk = after ∧ ready.timers = timers ∧ ready.sessions = sessions)) := by
  rcases confCleanDirs_spec listed listed' cleans with ⟨removes, cleaned⟩
  refine ⟨removes, fun zero => ⟨cleaned zero, fun lists timers sessions => ?_⟩⟩
  let ready : Ready :=
    { disk := after, timers, sessions, vacant := cleaned_vacant lists (cleaned zero) }
  exact ⟨ready, rfl, rfl, rfl⟩

/-- The entries of two directories, one of them with a response and a file that stays. -/
def sampleCleaning : CleanCalls where
  logs := some [".", "..", "error.log", "10_0_0_1.log"]
  data := some [".", "..", "yrpt_7.txt", ".bid"]
  opens := fun _ => true
  removes := fun _ => true

/-- A response that was left, and a file that stays. -/
def sampleDisk : Disk String Byte :=
  ((Disk.empty.create "data/yrpt_7.txt").1.create "data/.bid").1

/-- The response is gone, and the other file is there. -/
theorem confCleanDirs_cleaned_sample :
    Exists fun after => confCleanDirs sampleCleaning sampleDisk = some (after, 0) ∧
      sampleDisk.names "data/yrpt_7.txt" = some 0 ∧ after.names "data/yrpt_7.txt" = none ∧
        after.names "data/.bid" = some 1 := by
  have ended : (confCleanDirs sampleCleaning sampleDisk).map Prod.snd = some 0 := by
    decide +kernel
  rcases Option.map_eq_some_iff.mp ended with ⟨⟨after, _⟩, cleans, rfl⟩
  have cleaned := ((confCleanDirs_cleaned sampleCleaning _ _ rfl rfl sampleDisk after 0 cleans).2
    rfl).1
  refine ⟨after, cleans, by decide +kernel, cleaned.gone _ ?_, ?_⟩
  · exact Or.inr ⟨"yrpt_7.txt", by decide, by decide, Or.inr (by decide)⟩
  · rw [cleaned.kept]
    · decide +kernel
    · rintro (⟨name, _, _, ext, _⟩ | ⟨name, _, _, kind | kind⟩)
      · exact absurd ext (by decide)
      · exact absurd kind (by decide)
      · exact absurd kind (by decide)
    · rintro (⟨same, _⟩ | same)
      · exact absurd same (by decide)
      · exact absurd same (by decide)

end PolicyServer
