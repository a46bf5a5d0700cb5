import PolicyServer.Objects
import PolicyServer.Report

namespace PolicyServer

open Lib

/-!
# The walk over a body of objects

The steps of `ps_pcmm_report` over stored objects.  A known object is decoded
and stepped over at once.  An unknown one is stepped over word by word, which
takes the walk to its end when no word of its body passes for a known header.
A list of such clean objects is walked exactly, and `decodeAll` is what the
walk has collected then.

A decoder does not look at the length of its object: `fieldLength` says how
many bytes behind the header its fields come from, and two bodies that agree
on these are decoded alike.
-/

variable {least : Nat}

/-- Every word of the body fails the header test. -/
def Object.Inert (object : Object least) : Prop :=
  forall tags, tags ∈ wordTags object.body -> pcmmKnown tags.1 tags.2 = false

def Object.Known (object : Object least) : Prop :=
  pcmmKnown object.major object.minor = true

/-- The walk gets from the start of the object to its end. -/
def Object.Clean (object : Object least) : Prop :=
  object.Known ∨ object.Inert

instance (object : Object least) : Decidable object.Inert :=
  List.decidableBAll (fun tags : UInt8 × UInt8 => pcmmKnown tags.1 tags.2 = false)
    (wordTags object.body)

instance (object : Object least) : Decidable object.Known :=
  inferInstanceAs (Decidable (_ = true))

/-- The bytes behind the header that the fields of a known object come from. -/
def fieldLength (major minor : UInt8) : Nat :=
  if pcmmIsGatespec major minor then 12
  else if pcmmIsClassifier major then if minor.toNat = 1 then 16 else 33
  else 4

theorem four_le_fieldLength (major minor : UInt8) : 4 ≤ fieldLength major minor := by
  unfold fieldLength
  split
  · decide
  · split
    · split <;> decide
    · exact Nat.le_refl 4

section Agree

variable {left right : Memory} {bound : Nat} (same : forall i, i < bound -> left i = right i)

include same

theorem pcmmDecodeGate_agree (enough : 12 ≤ bound) (rpt : PcmmRpt) :
    pcmmDecodeGate rpt left = pcmmDecodeGate rpt right := by
  simp (disch := omega) only [pcmmDecodeGate, same, unpackU16_agree same]

theorem pcmmDecodeClassifier_agree (enough : 16 ≤ bound) (rpt : PcmmRpt) :
    pcmmDecodeClassifier rpt left = pcmmDecodeClassifier rpt right := by
  simp (disch := omega) only [pcmmDecodeClassifier, same, unpackU16_agree same, unpackN_agree same]

theorem pcmmDecodeExtended_agree (enough : 33 ≤ bound) (rpt : PcmmRpt) :
    pcmmDecodeExtended rpt left = pcmmDecodeExtended rpt right := by
  simp (disch := omega) only [pcmmDecodeExtended, same, unpackU16_agree same, unpackN_agree same]

end Agree

/-- A decoder looks no further than its fields. -/
theorem psPcmmDecode_congr {left right : Memory} (decoded : Decoded) (major minor : UInt8)
    (same : forall i, i < fieldLength major minor -> left i = right i) :
    psPcmmDecode decoded left major minor = psPcmmDecode decoded right major minor := by
  have four := four_le_fieldLength major minor
  have gateId : unpackN left 0 = unpackN right 0 := unpackN_agree same four
  cases gatespec : pcmmIsGatespec major minor with
  | true =>
      have twelve : fieldLength major minor = 12 := by
        simp only [fieldLength, gatespec, if_true]
      have gate := pcmmDecodeGate_agree same (Nat.le_of_eq twelve.symm)
      simp only [psPcmmDecode, gatespec, if_true, gate, atog, gateId]
  | false =>
      cases classifier : pcmmIsClassifier major with
      | false =>
          have code : unpackU16 left 0 = unpackU16 right 0 := unpackU16_agree same (by omega)
          have subc : unpackU16 left 2 = unpackU16 right 2 := unpackU16_agree same four
          simp only [psPcmmDecode, gatespec, classifier, Bool.false_eq_true, if_false, atog,
            gateId, code, subc]
      | true =>
          by_cases legacy : minor.toNat = 1
          · have sixteen : fieldLength major minor = 16 := by
              simp only [fieldLength, gatespec, classifier, Bool.false_eq_true, if_false, if_true,
                legacy]
            have classify := pcmmDecodeClassifier_agree same (Nat.le_of_eq sixteen.symm)
            simp only [psPcmmDecode, gatespec, classifier, legacy, Bool.false_eq_true, if_false,
              if_true, atog, gateId, classify]
          · have long : fieldLength major minor = 33 := by
              simp only [fieldLength, gatespec, classifier, Bool.false_eq_true, if_false, if_true,
                legacy]
            have extend := pcmmDecodeExtended_agree same (Nat.le_of_eq long.symm)
            simp only [psPcmmDecode, gatespec, classifier, Bool.false_eq_true, if_false, if_true,
              atog, gateId, extend]
            cases pcmmIsGateid major minor with
            | true => rfl
            | false =>
                simp only [Bool.false_eq_true, if_false]
                split
                · exact absurd (by assumption) legacy
                · rfl
                · rfl

/-! ## Steps -/

section Steps

variable {report : Memory} {endIdx idx : Nat} (decoded : Decoded)

/-- A word that fails the header test is stepped over. -/
theorem visits_word (inside : idx < endIdx) (small : endIdx < 65536)
    (unknown : pcmmKnown (report (idx + 2)) (report (idx + 3)) = false) :
    Loop.Visits (reportGuard endIdx) (reportBody report) ⟨idx, decoded⟩ ⟨idx + 4, decoded⟩ := by
  refine .next .here (reportGuard_iff.mpr inside) ?_
  have bounded : (ReportState.mk idx decoded).rptIdx < 65536 := Nat.lt_trans inside small
  rw [reportBody_eq bounded]
  simp only [unknown, Bool.false_eq_true, if_false]

/-- So is a run of such words. -/
theorem visits_words {words : List UInt8} (aligned : 4 ∣ words.length)
    (holds : report.Holds idx words) (inside : idx + words.length ≤ endIdx)
    (small : endIdx < 65536)
    (unknown : forall tags, tags ∈ wordTags words -> pcmmKnown tags.1 tags.2 = false) :
    Loop.Visits (reportGuard endIdx) (reportBody report) ⟨idx, decoded⟩
      ⟨idx + words.length, decoded⟩ := by
  exact visits_aligned (fun idx => ReportState.mk idx decoded)
    (fun major minor => pcmmKnown major minor = false)
    (fun _ inside unknown => visits_word decoded inside small unknown) aligned holds inside unknown

/-- What the walk has collected behind an object. -/
def decodeObject (report : Memory) (idx : Nat) (decoded : Decoded) (object : Object least) :
    Decoded :=
  if object.Known then psPcmmDecode decoded (report.shift (idx + 4)) object.major object.minor
  else decoded

/-- The iteration over a known object. -/
theorem reportBody_known {object : Object least} (known : object.Known)
    (stored : object.StoredAt report idx) (inside : idx < endIdx) (small : endIdx < 65536) :
    reportBody report ⟨idx, decoded⟩ =
      some ⟨idx + object.size, decodeObject report idx decoded object⟩ := by
  have bounded : (ReportState.mk idx decoded).rptIdx < 65536 := Nat.lt_trans inside small
  have accepted : pcmmKnown object.major object.minor = true := known
  rw [reportBody_eq bounded]
  simp only [stored.major, stored.minor, stored.length, object.length_toNat, accepted, if_true,
    decodeObject, if_pos known]

theorem visits_known {object : Object least} (known : object.Known)
    (stored : object.StoredAt report idx) (inside : idx < endIdx) (small : endIdx < 65536) :
    Loop.Visits (reportGuard endIdx) (reportBody report) ⟨idx, decoded⟩
      ⟨idx + object.size, decodeObject report idx decoded object⟩ :=
  .next .here (reportGuard_iff.mpr inside) (reportBody_known decoded known stored inside small)

theorem visits_object {object : Object least} (clean : object.Clean)
    (stored : object.StoredAt report idx) (inside : idx + object.size ≤ endIdx)
    (small : endIdx < 65536) :
    Loop.Visits (reportGuard endIdx) (reportBody report) ⟨idx, decoded⟩
      ⟨idx + object.size, decodeObject report idx decoded object⟩ := by
  have positive := object.size_pos
  by_cases known : object.Known
  · exact visits_known decoded known stored (by omega) small
  · have inert : object.Inert := clean.resolve_left known
    have header : pcmmKnown (report (idx + 2)) (report (idx + 3)) = false := by
      rw [stored.major, stored.minor]
      exact Bool.eq_false_iff.mpr known
    have first := visits_word decoded (by omega : idx < endIdx) small header
    have size : idx + object.size = idx + 4 + object.body.length := by
      unfold Object.size
      omega
    rw [decodeObject, if_neg known, size]
    exact first.trans (visits_words decoded object.aligned stored.body (size ▸ inside) small inert)

/-- What the walk has collected behind a list of objects. -/
def decodeAll (report : Memory) : Nat -> Decoded -> List (Object least) -> Decoded
  | _, decoded, [] => decoded
  | idx, decoded, object :: objects =>
      decodeAll report (idx + object.size) (decodeObject report idx decoded object) objects

theorem decodeAll_append (left right : List (Object least)) :
    decodeAll report idx decoded (left ++ right) =
      decodeAll report (idx + totalSize left) (decodeAll report idx decoded left) right := by
  induction left generalizing idx decoded with
  | nil => rfl
  | cons object left inductionHypothesis =>
      rw [List.cons_append, decodeAll, inductionHypothesis, totalSize_cons, ← Nat.add_assoc]
      rfl

theorem visits_objects {objects : List (Object least)}
    (clean : forall object, object ∈ objects -> object.Clean)
    (holds : report.Holds idx (encode objects)) (inside : idx + totalSize objects ≤ endIdx)
    (small : endIdx < 65536) :
    Loop.Visits (reportGuard endIdx) (reportBody report) ⟨idx, decoded⟩
      ⟨idx + totalSize objects, decodeAll report idx decoded objects⟩ := by
  induction objects generalizing idx decoded with
  | nil => exact .here
  | cons object objects inductionHypothesis =>
      rw [totalSize_cons] at inside ⊢
      have stored := storedAt_of_holds [] holds
      rw [encode_cons] at holds
      have later := (Memory.holds_append.mp holds).2
      rw [object.bytes_length] at later
      have first := visits_object decoded (clean object List.mem_cons_self) stored
        (by simp only [totalSize_nil]; omega) small
      have rest := inductionHypothesis (decodeObject report idx decoded object)
        (fun other member => clean other (List.mem_cons_of_mem _ member)) later (by omega)
      rw [← Nat.add_assoc]
      exact first.trans rest

end Steps

/-! ## Whole bodies -/

/-- The walk over a body of clean objects ends with all of them collected. -/
theorem decodes_of_clean {objects : List (Object least)} {report : Memory}
    (clean : forall object, object ∈ objects -> object.Clean)
    (holds : report.Holds 0 (encode objects)) (small : totalSize objects < 65536) :
    Decodes report (totalSize objects) (decodeAll report 0 .initial objects) := by
  have visits := visits_objects .initial clean holds (Nat.le_of_eq (Nat.zero_add _)) small
  rw [Nat.zero_add] at visits
  exact ⟨_, visits.exits (reportGuard_done_iff.mpr (Nat.le_refl _)), rfl⟩

theorem Decodes.unique {report : Memory} {endIdx : Nat} {left right : Decoded}
    (first : Decodes report endIdx left) (second : Decodes report endIdx right) :
    left = right := by
  rcases first with ⟨leftLast, leftExits, rfl⟩
  rcases second with ⟨rightLast, rightExits, rfl⟩
  rw [leftExits.unique rightExits]

/-- The length `ps_recvd` hands over with a body of `size` bytes. -/
def rptLength (size : Nat) : UInt16 :=
  UInt16.ofNat (size + 4)

theorem sizeT_rptLength {size : Nat} (fits : size + 4 < 65536) :
    sizeT ((rptLength size).toNat - 4) = size := by
  rw [rptLength, UInt16.toNat_ofNat_of_lt' fits]
  unfold sizeT
  omega

/-- The action of `ps_pcmm_report` on what its walk has collected. -/
def Decoded.action (decoded : Decoded) : Option FileAction :=
  if decoded.reportRequired then none
  else some (psPcmmReportDecision decoded.rpt decoded.classifierType)

theorem psPcmmReport_of_decodes {buf : Memory} {ptr size : Nat} {decoded : Decoded}
    (decodes : Decodes (buf.shift ptr) size decoded) (positive : 0 < size)
    (fits : size + 4 < 65536) (pointer : ptr < 65536) :
    psPcmmReport buf ptr (rptLength size) = some (ptr + size, decoded.action) := by
  rcases decodes with ⟨last, exits, rfl⟩
  have advanced : sizeT (ptr + ((rptLength size).toNat - 4 : Int)) = ptr + size := by
    rw [rptLength, UInt16.toNat_ofNat_of_lt' fits]
    unfold sizeT
    omega
  have finished := (reportWalk_iff (buf.shift ptr) size last).mpr exits
  simp only [psPcmmReport, sizeT_rptLength fits, if_neg (Nat.ne_of_gt positive), finished, advanced,
    Decoded.action]

end PolicyServer
