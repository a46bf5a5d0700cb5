import PolicyServer.Lib.Loop
import PolicyServer.Pcmm

namespace PolicyServer

open Lib

/-!
# Report-State bodies

`ps_pcmm_report` walks the PCMM objects of a ClientSI body and collects them
into one record; `ps_pcmm_report_decision` picks the file the record goes to.

The walk reads a four-byte object header at its index.  A header with a known
S-Num/S-Type pair is decoded and its whole object is stepped over; any other
header is stepped over alone, and the walk goes on at the next word.  A known
header with length field 0 leaves the index where it was, so the walk need not
end: `psPcmmReport` answers `none` exactly when it does not.
-/

/-! ## Response files -/

/-- A file opened, and the text written to it. -/
inductive FileAction where
  | append (path text : String)
  | write (path text : String)
  deriving DecidableEq, Repr

def orphanEntryFile : String := "data/__orphan__"

/-- The file of a response, as `ps_pcmm_report_decision` names it. -/
def yrptFile (transactionId : UInt16) : String :=
  "data/yrpt_" ++ toString transactionId.toNat ++ ".txt"

/-- The file operations are taken to succeed; on failure the source only logs. -/
def psPcmmReportDecision (rpt : PcmmRpt) (classifierType : Int) : FileAction :=
  if rpt.transactionId = 0 ∧ rpt.gateId ≠ 0 then
    .append orphanEntryFile
      ("cops-gate-id: " ++ toString rpt.gateId.toNat ++ ", GateCmd: " ++ rpt.gateCmd ++ "\n")
  else
    .write (yrptFile rpt.transactionId) (writeReport rpt classifierType).text

/-! ## The walk -/

/-- The locals the walk fills. -/
structure Decoded where
  rpt : PcmmRpt
  classifierType : Int
  reportRequired : Bool
  deriving DecidableEq, Repr

def Decoded.initial : Decoded where
  rpt := .initial
  classifierType := -1
  reportRequired := false

/-- The walk between two objects. -/
structure ReportState where
  rptIdx : Nat
  decoded : Decoded

/-- The header test of the loop: an S-Num in 1..19 and an S-Type in 1..2. -/
def pcmmKnown (major minor : UInt8) : Bool :=
  !(major == 0 || decide (19 < major.toNat) || minor == 0 || decide (2 < minor.toNat))

/-- What the loop does with the body of a known object. -/
def psPcmmDecode (decoded : Decoded) (block : Memory) (major minor : UInt8) : Decoded :=
  if pcmmIsGateid major minor then
    { decoded with rpt := { decoded.rpt with gateId := atog block } }
  else if pcmmIsGatespec major minor then
    { decoded with rpt := pcmmDecodeGate decoded.rpt block }
  else if pcmmIsClassifier major then
    match minor.toNat with
    | 1 =>
        let (rpt, classifierType) := pcmmDecodeClassifier decoded.rpt block
        { decoded with rpt, classifierType }
    | 2 =>
        let (rpt, classifierType) := pcmmDecodeExtended decoded.rpt block
        { decoded with rpt, classifierType }
    | _ => decoded
  else
    let code := unpackU16 block 0
    let subc := unpackU16 block 2
    match major.toNat with
    | 1 => { decoded with rpt := pcmmDecodeTransaction decoded.rpt code subc }
    | 2 => { decoded with rpt := pcmmDecodeApplication decoded.rpt code subc }
    | 14 => { decoded with rpt := pcmmDecodeError decoded.rpt code subc }
    | 15 => { decoded with reportRequired := pcmmGatestateRpt code subc }
    | _ => decoded

def reportGuard (endIdx : Nat) (state : ReportState) : Bool :=
  decide (state.rptIdx < endIdx)

/-- One iteration.  Every branch behind the header test continues the loop. -/
def reportBody (report : Memory) (state : ReportState) : Option ReportState :=
  let (len, idx) := unpackU16It report state.rptIdx
  let (major, idx) := unpackU8It report idx
  let (minor, idx) := unpackU8It report idx
  if !pcmmKnown major minor then
    some { state with rptIdx := idx }
  else
    some { rptIdx := sizeT (idx + (len.toNat - 4 : Int))
           decoded := psPcmmDecode state.decoded (report.shift idx) major minor }

def ReportState.initial : ReportState where
  rptIdx := 0
  decoded := .initial

/-- `ps_pcmm_report`: the advanced index of the caller, and the file written,
if any.  The fuel is one iteration for every index below the end, which is all
a walk that ends can use (`reportWalk_iff`). -/
def psPcmmReport (buf : Memory) (ptr : Nat) (rptLength : UInt16) :
    Option (Nat × Option FileAction) :=
  let endIdx := sizeT (rptLength.toNat - 4)
  if endIdx = 0 then
    some (ptr, none)
  else
    match Loop.run (reportGuard endIdx) (reportBody (buf.shift ptr)) endIdx .initial with
    | none => none
    | some last =>
        some (sizeT (ptr + (rptLength.toNat - 4 : Int)),
          if last.decoded.reportRequired then none
          else some (psPcmmReportDecision last.decoded.rpt last.decoded.classifierType))

/-- The walk over the report body at `report` ends, having collected `decoded`. -/
def Decodes (report : Memory) (endIdx : Nat) (decoded : Decoded) : Prop :=
  Exists fun last => Loop.Exits (reportGuard endIdx) (reportBody report) .initial last ∧
    last.decoded = decoded

/-! ## One iteration -/

theorem reportGuard_iff {endIdx : Nat} {state : ReportState} :
    reportGuard endIdx state = true ↔ state.rptIdx < endIdx :=
  decide_eq_true_iff

theorem reportGuard_done_iff {endIdx : Nat} {state : ReportState} :
    reportGuard endIdx state = false ↔ endIdx ≤ state.rptIdx :=
  decide_eq_false_iff_not.trans Nat.not_lt

/-- The header at an index, once the `size_t` arithmetic is known not to wrap. -/
theorem reportBody_eq {report : Memory} {state : ReportState} (small : state.rptIdx < 65536) :
    reportBody report state =
      if pcmmKnown (report (state.rptIdx + 2)) (report (state.rptIdx + 3)) then
        some { rptIdx := state.rptIdx + (unpackU16 report state.rptIdx).toNat
               decoded := psPcmmDecode state.decoded (report.shift (state.rptIdx + 4))
                 (report (state.rptIdx + 2)) (report (state.rptIdx + 3)) }
      else some { state with rptIdx := state.rptIdx + 4 } := by
  have length := (unpackU16 report state.rptIdx).toNat_lt
  have word : sizeT (state.rptIdx + 2) = state.rptIdx + 2 := sizeT_add_two (by omega)
  have major : sizeT ((state.rptIdx + 2 : Nat) + 1) = state.rptIdx + 3 := sizeT_succ (by omega)
  have minor : sizeT ((state.rptIdx + 3 : Nat) + 1) = state.rptIdx + 4 := sizeT_succ (by omega)
  have next : sizeT ((state.rptIdx + 4 : Nat) + ((unpackU16 report state.rptIdx).toNat - 4 : Int)) =
      state.rptIdx + (unpackU16 report state.rptIdx).toNat := by
    unfold sizeT
    omega
  simp only [reportBody, unpackU16It, unpackU8It, word, major, minor, next]
  cases pcmmKnown (report (state.rptIdx + 2)) (report (state.rptIdx + 3)) <;> rfl

/-- The decoded part of the state never decides where the walk goes. -/
theorem report_controlled (report : Memory) (endIdx : Nat) :
    Loop.ControlledBy (reportGuard endIdx) (reportBody report) ReportState.rptIdx := by
  constructor
  · intro left right same
    simp only [reportGuard, same]
  · rintro ⟨idx, leftDecoded⟩ ⟨_, rightDecoded⟩ left' right' same _ leftStep rightStep
    cases same
    cases known : pcmmKnown (report (sizeT (idx + 2))) (report (sizeT (sizeT (idx + 2) + 1))) with
    | true =>
        simp only [reportBody, unpackU16It, unpackU8It, known, Bool.not_true, Bool.false_eq_true,
          if_false] at leftStep rightStep
        cases leftStep
        cases rightStep
        rfl
    | false =>
        simp only [reportBody, unpackU16It, unpackU8It, known, Bool.not_false, if_true]
          at leftStep rightStep
        cases leftStep
        cases rightStep
        rfl

/-- The fuel of `psPcmmReport` suffices for every walk that ends. -/
theorem reportWalk_iff (report : Memory) (endIdx : Nat) (last : ReportState) :
    Loop.run (reportGuard endIdx) (reportBody report) endIdx .initial = some last ↔
      Loop.Exits (reportGuard endIdx) (reportBody report) .initial last := by
  constructor
  · intro finished
    exact ⟨endIdx, finished⟩
  · intro exits
    exact (report_controlled report endIdx).run_of_exits (fun _ => reportGuard_iff.mp) exits

/-- A report that is returned from moves the caller's index over its body. -/
theorem psPcmmReport_index {buf : Memory} {ptr after : Nat} {length : UInt16}
    {file : Option FileAction} (returns : psPcmmReport buf ptr length = some (after, file))
    (counted : 4 ≤ length.toNat) (small : ptr < 65536) : after = ptr + (length.toNat - 4) := by
  have bound := length.toNat_lt
  have endIdx : sizeT (length.toNat - 4) = length.toNat - 4 := by
    unfold sizeT
    omega
  have advanced : sizeT (ptr + (length.toNat - 4 : Int)) = ptr + (length.toNat - 4) := by
    unfold sizeT
    omega
  simp only [psPcmmReport, endIdx, advanced] at returns
  by_cases empty : length.toNat - 4 = 0
  · rw [if_pos empty] at returns
    cases returns
    rw [empty, Nat.add_zero]
  · rw [if_neg empty] at returns
    split at returns
    · cases returns
    · cases returns
      rfl

end PolicyServer
