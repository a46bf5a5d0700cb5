import PolicyServer.Lib.Numerals
import PolicyServer.HandlerAnswers
import PolicyServer.GateRequests
import PolicyServer.ReportFold

namespace PolicyServer

open Lib

/-!
# Reports in the buffers of a handler

`write_report` renders a record as one line, a handler reads that line into an array
of 200 or 400 bytes, and `json_frommsg` formats the times into an array that is as
long as the line.  The longest line decides about the first array, the shortest one
about the second.
-/

/-! ## What a report can hold -/

/-- What the walk of `ps_pcmm_report` can end with. -/
def Produced (decoded : Decoded) : Prop :=
  Exists fun report => Exists fun rptLength : UInt16 =>
    Decodes report (sizeT (rptLength.toNat - 4)) decoded

/-- The texts of a record are entries of the tables. -/
structure PcmmRpt.Tabled (rpt : PcmmRpt) : Prop where
  gateCmd : Exists fun code => rpt.gateCmd = pcmmOtoact code
  errDescr : Exists fun code => rpt.packetcableErrDescr = pcmmOtoerr code

theorem tabled_initial : PcmmRpt.initial.Tabled :=
  ⟨⟨0, rfl⟩, ⟨0, rfl⟩⟩

/-- One object keeps them: a decoder either copies the texts or looks one up. -/
theorem psPcmmDecode_tabled {decoded : Decoded} (tabled : decoded.rpt.Tabled) (block : Memory)
    (major minor : UInt8) : (psPcmmDecode decoded block major minor).rpt.Tabled := by
  rcases tabled with ⟨gateCmd, errDescr⟩
  unfold psPcmmDecode
  split
  · exact ⟨gateCmd, errDescr⟩
  split
  · exact ⟨gateCmd, errDescr⟩
  split
  · split <;> exact ⟨gateCmd, errDescr⟩
  dsimp only
  split
  · exact ⟨⟨_, rfl⟩, errDescr⟩
  · exact ⟨gateCmd, errDescr⟩
  · exact ⟨gateCmd, ⟨_, rfl⟩⟩
  · exact ⟨gateCmd, errDescr⟩
  · exact ⟨gateCmd, errDescr⟩

theorem Produced.tabled {decoded : Decoded} (produced : Produced decoded) :
    decoded.rpt.Tabled := by
  rcases produced with ⟨report, rptLength, last, exits, rfl⟩
  refine exits.visits.invariant (fun state => state.decoded.rpt.Tabled) ?_ tabled_initial
  intro state after tabled _ moved
  unfold reportBody at moved
  dsimp only at moved
  split at moved
  · cases moved
    exact tabled
  · cases moved
    exact psPcmmDecode_tabled tabled _ _ _

/-- A report of known objects that have all their fields. -/
theorem produced_of_known {objects : List PcmmObject}
    (known : forall object, object ∈ objects -> object.Known)
    (long : forall object, object ∈ objects -> object.Long)
    (small : totalSize objects + 4 < 65536) :
    Produced (objects.foldl applyObject .initial) := by
  have decodes := decodes_of_long known long
    (Memory.write_holds (fun _ => 0) 0 (encode objects)) (by omega)
  refine ⟨Memory.write (fun _ => 0) 0 (encode objects), rptLength (totalSize objects), ?_⟩
  rw [sizeT_rptLength small]
  exact decodes

/-! ## Printable lines -/

def isPrintable (c : Char) : Bool :=
  decide (32 ≤ c.toNat ∧ c.toNat < 127)

def printable (text : String) : Bool :=
  text.toList.all isPrintable

theorem printable_append (left right : String) :
    printable (left ++ right) = (printable left && printable right) := by
  rw [printable, String.toList_append, List.all_append]
  rfl

theorem printable_toString (n : Nat) : printable (toString n) = true := by
  rw [printable, Nat.toString_eq_ofList_toDigits, String.toList_ofList]
  refine List.all_eq_true.mpr fun c member => ?_
  have digit := Nat.isDigit_of_mem_toDigits (by decide) (by decide) member
  simp only [Char.isDigit, ge_iff_le, Bool.and_eq_true, decide_eq_true_eq,
    UInt32.le_iff_toNat_le] at digit
  have code : c.toNat = c.val.toNat := rfl
  have low : '0'.val.toNat = 48 := rfl
  have high : '9'.val.toNat = 57 := rfl
  rw [isPrintable, decide_eq_true_eq]
  omega

theorem printable_isAscii {text : String} (plain : printable text = true) :
    isAscii text.toList = true := by
  refine List.all_eq_true.mpr fun c member => beq_iff_eq.mpr ?_
  have bounds := of_decide_eq_true (List.all_eq_true.mp plain c member)
  have code : c.toNat = c.val.toNat := rfl
  have limit : (127 : UInt32).toNat = 127 := rfl
  have small : c.val ≤ 127 := UInt32.le_iff_toNat_le.mpr (by omega)
  exact if_pos small

theorem printable_size {text : String} (plain : printable text = true) :
    text.utf8ByteSize = text.length := by
  rw [← String.length_toList, ← utf8ByteSize_ofList (printable_isAscii plain),
    String.ofList_toList]

theorem pcmmOtoact_printable (code : UInt8) : printable (pcmmOtoact code) = true := by
  unfold pcmmOtoact
  split <;> decide

theorem pcmmOtoerr_printable (code : UInt8) : printable (pcmmOtoerr code) = true := by
  unfold pcmmOtoerr
  split <;> decide

theorem pcmmOtoact_length (code : UInt8) : (pcmmOtoact code).length ≤ 15 := by
  unfold pcmmOtoact
  split <;> decide

theorem pcmmOtoerr_length (code : UInt8) : (pcmmOtoerr code).length ≤ 35 := by
  unfold pcmmOtoerr
  split <;> decide

theorem PcmmRpt.Tabled.gateCmd_length {rpt : PcmmRpt} (tabled : rpt.Tabled) :
    rpt.gateCmd.length ≤ 15 := by
  rcases tabled.gateCmd with ⟨code, text⟩
  rw [text]
  exact pcmmOtoact_length code

theorem PcmmRpt.Tabled.errDescr_length {rpt : PcmmRpt} (tabled : rpt.Tabled) :
    rpt.packetcableErrDescr.length ≤ 35 := by
  rcases tabled.errDescr with ⟨code, text⟩
  rw [text]
  exact pcmmOtoerr_length code

/-- `fgets` leaves nothing of a printable line that is short. -/
theorem fgets_line {size : Nat} {text : String} (plain : printable text = true)
    (short : text.length < size) (number : Nat) :
    fgets size (tagged text number) = tagged text number := by
  have all : (tagged text number).take (size - 1) = tagged text number := by
    refine List.take_of_length_le ?_
    rw [tagged, List.length_map, String.length_toList]
    omega
  have noEnd : forall byte, byte ∈ tagged text number -> (byte.1.toNat != 10) = true := by
    intro byte member
    rcases List.mem_map.mp member with ⟨c, inside, rfl⟩
    have bounds := of_decide_eq_true (List.all_eq_true.mp plain c inside)
    have other : c.toNat ≠ 10 := by omega
    exact bne_iff_ne.mpr other
  rw [fgets, all, List.takeWhile_eq_self_iff.mpr noEnd, List.dropWhile_eq_nil_iff.mpr noEnd,
    List.take_nil, List.append_nil]

/-! ## Widths -/

/-- The characters of the form that a report is rendered in, without its fields. -/
def PcmmRpt.formWidth (rpt : PcmmRpt) (ct : Int) : Nat :=
  if rpt.packetcableErrDescr ≠ "NIL" then 94
  else if ct = 0 then 184
  else if ct = 1 then 259
  else 63

/-- The characters of the fields that the form has. -/
def PcmmRpt.fieldsWidth (rpt : PcmmRpt) (ct : Int) : Nat :=
  let gate := decimalWidth rpt.gateId.toNat + rpt.gateCmd.length
  let application := gate + decimalWidth rpt.applicationId.toNat
  let spec := application + decimalWidth rpt.flags.toNat + decimalWidth rpt.cls.toNat +
    decimalWidth rpt.t1.toNat + decimalWidth rpt.t2.toNat + decimalWidth rpt.t3.toNat +
    decimalWidth rpt.t4.toNat + decimalWidth rpt.classifierId.toNat +
    decimalWidth rpt.srcPortStart.toNat + decimalWidth rpt.dstPortStart.toNat
  if rpt.packetcableErrDescr ≠ "NIL" then
    gate + decimalWidth rpt.packetcableErrCode.toNat +
      decimalWidth rpt.packetcableErrSubcode.toNat + rpt.packetcableErrDescr.length
  else if ct = 0 then spec
  else if ct = 1 then
    spec + decimalWidth rpt.srcPortEnd.toNat + decimalWidth rpt.dstPortEnd.toNat +
      decimalWidth rpt.priority.toNat + decimalWidth rpt.state.toNat +
      decimalWidth rpt.action.toNat
  else application

theorem toString_length (n : Nat) : (toString n).length = decimalWidth n := by
  rw [← String.length_toList, Nat.toString_eq_ofList_toDigits, String.toList_ofList, decimalWidth]

theorem responseHead_length (gateId : UInt32) (gateCmd : String) (applicationId : Nat) :
    (responseHead gateId gateCmd applicationId).length =
      62 + decimalWidth gateId.toNat + gateCmd.length + decimalWidth applicationId := by
  rw [← String.length_toList]
  unfold responseHead
  simp only [String.toList_append, String.reduceToList, List.length_append, List.length_cons,
    List.length_nil, String.length_toList, toString_length]
  omega

/-- How long the line of a report is. -/
theorem writeReport_length (rpt : PcmmRpt) (ct : Int) :
    (writeReport rpt ct).text.length = rpt.formWidth ct + rpt.fieldsWidth ct := by
  have zero : decimalWidth 0 = 1 := rfl
  unfold writeReport PcmmRpt.formWidth PcmmRpt.fieldsWidth
  by_cases sound : rpt.packetcableErrDescr = "NIL"
  · rw [if_pos sound, if_neg (not_not.mpr sound), if_neg (not_not.mpr sound)]
    by_cases legacy : ct = 0
    · rw [if_pos legacy, if_pos legacy, if_pos legacy, ← String.length_toList]
      unfold Response.text
      simp only [String.toList_append, String.reduceToList, List.length_append, List.length_cons,
        List.length_nil, String.length_toList, toString_length, responseHead_length]
      omega
    rw [if_neg legacy, if_neg legacy, if_neg legacy]
    by_cases extended : ct = 1
    · rw [if_pos extended, if_pos extended, if_pos extended, ← String.length_toList]
      unfold Response.text
      simp only [String.toList_append, String.reduceToList, List.length_append, List.length_cons,
        List.length_nil, String.length_toList, toString_length, responseHead_length]
      omega
    rw [if_neg extended, if_neg extended, if_neg extended, ← String.length_toList]
    unfold Response.text
    simp only [String.toList_append, String.reduceToList, List.length_append, List.length_cons,
      List.length_nil, String.length_toList, responseHead_length]
    omega
  · rw [if_neg sound, if_pos sound, if_pos sound, ← String.length_toList]
    unfold Response.text
    simp only [String.toList_append, String.reduceToList, List.length_append, List.length_cons,
      List.length_nil, String.length_toList, toString_length, responseHead_length]
    omega

/-- The widths of the members that every form has, and of an error. -/
theorem PcmmRpt.Tabled.gateWidth_le {rpt : PcmmRpt} (tabled : rpt.Tabled) :
    decimalWidth rpt.gateId.toNat + rpt.gateCmd.length ≤ 25 := by
  have gateId := decimalWidth_uint32 rpt.gateId.toNat_lt
  have gateCmd := tabled.gateCmd_length
  omega

theorem PcmmRpt.Tabled.errorWidth_le {rpt : PcmmRpt} (tabled : rpt.Tabled) :
    decimalWidth rpt.packetcableErrCode.toNat + decimalWidth rpt.packetcableErrSubcode.toNat +
      rpt.packetcableErrDescr.length ≤ 45 := by
  have code := decimalWidth_uint16 rpt.packetcableErrCode.toNat_lt
  have subcode := decimalWidth_uint16 rpt.packetcableErrSubcode.toNat_lt
  have descr := tabled.errDescr_length
  omega

theorem specWidth_le (rpt : PcmmRpt) :
    decimalWidth rpt.flags.toNat + decimalWidth rpt.cls.toNat + decimalWidth rpt.t1.toNat +
      decimalWidth rpt.t2.toNat + decimalWidth rpt.t3.toNat + decimalWidth rpt.t4.toNat +
      decimalWidth rpt.classifierId.toNat + decimalWidth rpt.srcPortStart.toNat +
      decimalWidth rpt.dstPortStart.toNat ≤ 41 := by
  have flags := decimalWidth_uint8 rpt.flags.toNat_lt
  have cls := decimalWidth_uint8 rpt.cls.toNat_lt
  have t1 := decimalWidth_uint16 rpt.t1.toNat_lt
  have t2 := decimalWidth_uint16 rpt.t2.toNat_lt
  have t3 := decimalWidth_uint16 rpt.t3.toNat_lt
  have t4 := decimalWidth_uint16 rpt.t4.toNat_lt
  have classifierId := decimalWidth_uint16 rpt.classifierId.toNat_lt
  have srcPort := decimalWidth_uint16 rpt.srcPortStart.toNat_lt
  have dstPort := decimalWidth_uint16 rpt.dstPortStart.toNat_lt
  omega

theorem portsWidth_le (rpt : PcmmRpt) :
    decimalWidth rpt.srcPortEnd.toNat + decimalWidth rpt.dstPortEnd.toNat +
      decimalWidth rpt.priority.toNat + decimalWidth rpt.state.toNat +
      decimalWidth rpt.action.toNat ≤ 19 := by
  have srcPort := decimalWidth_uint16 rpt.srcPortEnd.toNat_lt
  have dstPort := decimalWidth_uint16 rpt.dstPortEnd.toNat_lt
  have priority := decimalWidth_uint8 rpt.priority.toNat_lt
  have state := decimalWidth_uint8 rpt.state.toNat_lt
  have action := decimalWidth_uint8 rpt.action.toNat_lt
  omega

/-- The longest line of each form. -/
theorem PcmmRpt.Tabled.line_le {rpt : PcmmRpt} (tabled : rpt.Tabled) (ct : Int) :
    rpt.formWidth ct + rpt.fieldsWidth ct ≤ 349 ∧
      (rpt.packetcableErrDescr ≠ "NIL" ∨ ct ≠ 0 ∧ ct ≠ 1 ->
        rpt.formWidth ct + rpt.fieldsWidth ct ≤ 164) := by
  have gate := tabled.gateWidth_le
  have application := decimalWidth_uint16 rpt.applicationId.toNat_lt
  have error := tabled.errorWidth_le
  have spec := specWidth_le rpt
  have ports := portsWidth_le rpt
  unfold PcmmRpt.formWidth PcmmRpt.fieldsWidth
  by_cases sound : rpt.packetcableErrDescr = "NIL"
  · rw [if_neg (not_not.mpr sound), if_neg (not_not.mpr sound)]
    by_cases legacy : ct = 0
    · rw [if_pos legacy, if_pos legacy]
      refine ⟨by omega, fun other => ?_⟩
      rcases other with bad | ⟨no, _⟩
      · exact absurd sound bad
      · exact absurd legacy no
    rw [if_neg legacy, if_neg legacy]
    by_cases extended : ct = 1
    · rw [if_pos extended, if_pos extended]
      refine ⟨by omega, fun other => ?_⟩
      rcases other with bad | ⟨_, no⟩
      · exact absurd sound bad
      · exact absurd extended no
    rw [if_neg extended, if_neg extended]
    exact ⟨by omega, fun _ => by omega⟩
  · rw [if_pos sound, if_pos sound]
    exact ⟨by omega, fun _ => by omega⟩

/-! ## Times -/

/-- The digits in front of the points. -/
def Timings.digits (timings : Timings) : Nat :=
  decimalWidth timings.build.whole + decimalWidth timings.wait.whole +
    decimalWidth timings.read.whole

def Timings.NonNegative (timings : Timings) : Prop :=
  timings.build.negative = false ∧ timings.wait.negative = false ∧ timings.read.negative = false

theorem digitChar_printable {n : Nat} (small : n < 10) : isPrintable (Nat.digitChar n) = true := by
  revert n
  decide

theorem Seconds.fraction_printable (seconds : Seconds) :
    seconds.fraction.all isPrintable = true := by
  have bound := seconds.micros.isLt
  refine List.all_eq_true.mpr fun c member => ?_
  rcases List.mem_map.mp member with ⟨digit, inside, rfl⟩
  refine digitChar_printable ?_
  simp only [List.mem_cons, List.not_mem_nil, or_false] at inside
  omega

theorem Seconds.text_printable {seconds : Seconds} (positive : seconds.negative = false) :
    printable seconds.text = true := by
  have whole := printable_toString seconds.whole
  rw [printable, Nat.toString_eq_ofList_toDigits, String.toList_ofList] at whole
  have point : isPrintable '.' = true := by decide
  rw [printable, Seconds.text, String.toList_ofList, JsonText.fixedText, positive,
    JsonText.signText, if_neg Bool.false_ne_true, List.nil_append, List.all_append, List.all_cons,
    whole, point, seconds.fraction_printable]
  rfl

theorem Seconds.text_length {seconds : Seconds} (positive : seconds.negative = false) :
    seconds.text.length = decimalWidth seconds.whole + 7 := by
  rw [← String.length_toList, Seconds.text, String.toList_ofList, JsonText.fixedText, positive,
    JsonText.signText, if_neg Bool.false_ne_true, List.nil_append, List.length_append,
    List.length_cons, decimalWidth]
  rfl

theorem metricAttach_size {timings : Timings} (positive : timings.NonNegative) :
    (metricAttach timings).utf8ByteSize = 68 + timings.digits := by
  rcases positive with ⟨build, wait, read⟩
  have plain : printable (metricAttach timings) = true := by
    unfold metricAttach
    simp only [printable_append, Seconds.text_printable build, Seconds.text_printable wait,
      Seconds.text_printable read, Bool.and_true]
    decide
  rw [printable_size plain, ← String.length_toList]
  unfold metricAttach Timings.digits
  simp only [String.toList_append, String.reduceToList, List.length_append, List.length_cons,
    List.length_nil, String.length_toList, Seconds.text_length build, Seconds.text_length wait,
    Seconds.text_length read]
  omega

/-! ## Arrays -/

/-- The handlers that read a response, each with the size of its array `response`. -/
inductive Reader where
  | gctl04
  | gctlRequest
  deriving DecidableEq, Repr

def Reader.size : Reader -> Nat
  | .gctl04 => 200
  | .gctlRequest => 400

/-- The line of a report as `fgets` in `gctl_async_get_decision` returns it. -/
def lineRead (decoded : Decoded) : String :=
  .ofList ((fgets 400 (tagged (writeReport decoded.rpt decoded.classifierType).text 0)).map
    Prod.fst)

/-- The line is not cut, and fits in `response`; the times fit in `metrics`.  Each has
its null byte. -/
structure ReportFits (reader : Reader) (decoded : Decoded) (timings : Timings) : Prop where
  whole : lineRead decoded = (writeReport decoded.rpt decoded.classifierType).text
  response : (lineRead decoded).utf8ByteSize < reader.size
  metrics : (metricAttach timings).utf8ByteSize < (lineRead decoded).utf8ByteSize

/-- Which reports the array `response` has room for. -/
def Reader.Room (reader : Reader) (decoded : Decoded) : Prop :=
  match reader with
  | .gctlRequest => True
  | .gctl04 =>
      decoded.rpt.packetcableErrDescr ≠ "NIL" ∨
        decoded.classifierType ≠ 0 ∧ decoded.classifierType ≠ 1 ∨
          decoded.classifierType = 0 ∧ decoded.rpt.fieldsWidth 0 ≤ 15

theorem writeReport_printable {rpt : PcmmRpt} (tabled : rpt.Tabled) (ct : Int) :
    printable (writeReport rpt ct).text = true := by
  have gateCmd : printable rpt.gateCmd = true := by
    rcases tabled.gateCmd with ⟨code, text⟩
    rw [text]
    exact pcmmOtoact_printable code
  have errDescr : printable rpt.packetcableErrDescr = true := by
    rcases tabled.errDescr with ⟨code, text⟩
    rw [text]
    exact pcmmOtoerr_printable code
  unfold writeReport
  split
  · split
    · unfold Response.text responseHead
      simp only [printable_append, printable_toString, gateCmd, Bool.and_true]
      decide
    split
    · unfold Response.text responseHead
      simp only [printable_append, printable_toString, gateCmd, Bool.and_true]
      decide
    · unfold Response.text responseHead
      simp only [printable_append, printable_toString, gateCmd, Bool.and_true]
      decide
  · unfold Response.text responseHead
    simp only [printable_append, printable_toString, gateCmd, errDescr, Bool.and_true]
    decide

theorem lineRead_eq {decoded : Decoded} (tabled : decoded.rpt.Tabled) :
    lineRead decoded = (writeReport decoded.rpt decoded.classifierType).text := by
  have long := (tabled.line_le decoded.classifierType).1
  rw [← writeReport_length] at long
  rw [lineRead, fgets_line (writeReport_printable tabled _) (by omega), tagged, List.map_map]
  have same : Prod.fst ∘ (fun c : Char => (c, (0 : Nat))) = id := rfl
  rw [same, List.map_id, String.ofList_toList]

theorem lineRead_size {decoded : Decoded} (tabled : decoded.rpt.Tabled) :
    (lineRead decoded).utf8ByteSize = decoded.rpt.formWidth decoded.classifierType +
      decoded.rpt.fieldsWidth decoded.classifierType := by
  rw [lineRead_eq tabled, printable_size (writeReport_printable tabled _), writeReport_length]

theorem room_iff {decoded : Decoded} (tabled : decoded.rpt.Tabled) (reader : Reader) :
    (lineRead decoded).utf8ByteSize < reader.size ↔ reader.Room decoded := by
  rw [lineRead_size tabled]
  rcases tabled.line_le decoded.classifierType with ⟨long, plain⟩
  cases reader with
  | gctlRequest => exact ⟨fun _ => trivial, fun _ => Nat.lt_of_le_of_lt long (by decide)⟩
  | gctl04 =>
      unfold Reader.size Reader.Room
      dsimp only
      by_cases other : decoded.rpt.packetcableErrDescr ≠ "NIL" ∨
          decoded.classifierType ≠ 0 ∧ decoded.classifierType ≠ 1
      · exact ⟨fun _ => or_assoc.mp (Or.inl other),
          fun _ => Nat.lt_of_le_of_lt (plain other) (by decide)⟩
      · rcases not_or.mp other with ⟨sound, classifier⟩
        have form : decoded.classifierType = 0 ∨ decoded.classifierType = 1 := by omega
        unfold PcmmRpt.formWidth
        rw [if_neg sound]
        rcases form with legacy | extended
        · rw [if_pos legacy, legacy]
          constructor
          · intro fits
            exact Or.inr (Or.inr ⟨rfl, by omega⟩)
          · rintro (bad | ⟨no, _⟩ | ⟨_, fits⟩)
            · exact absurd bad sound
            · exact absurd rfl no
            · omega
        · rw [extended, if_neg (by decide), if_pos rfl]
          constructor
          · intro fits
            omega
          · rintro (bad | ⟨_, no⟩ | ⟨impossible, _⟩)
            · exact absurd bad sound
            · exact absurd rfl no
            · cases impossible

/-- Exactly when a report fits: `gctl_04` has no room for a classifier, apart from a
legacy one with hardly a digit in it, and the line has to be longer than the times. -/
theorem reportFits_iff {reader : Reader} {decoded : Decoded} {timings : Timings}
    (produced : Produced decoded) (positive : timings.NonNegative) :
    ReportFits reader decoded timings ↔ reader.Room decoded ∧
      68 + timings.digits < decoded.rpt.formWidth decoded.classifierType +
        decoded.rpt.fieldsWidth decoded.classifierType := by
  have tabled := produced.tabled
  have size := lineRead_size tabled
  have times := metricAttach_size positive
  constructor
  · intro fits
    have metrics := fits.metrics
    exact ⟨(room_iff tabled reader).mp fits.response, by omega⟩
  · rintro ⟨room, long⟩
    exact ⟨lineRead_eq tabled, (room_iff tabled reader).mpr room, by omega⟩

/-- The response to a Gate-Set in the array of `gctl_request`. -/
theorem setAck_reportFits :
    ReportFits .gctlRequest (gateSetAck.foldl applyObject .initial) idleFate.gate.timings :=
  (reportFits_iff (produced_of_known (by decide +kernel) (by decide +kernel) (by decide))
    ⟨rfl, rfl, rfl⟩).mpr ⟨trivial, by decide +kernel⟩

/-- In that of `gctl_04`, which sends the Gate-Sets, it is too long. -/
theorem setAck_not_fits :
    Produced (gateSetAck.foldl applyObject .initial) ∧ idleFate.gate.timings.NonNegative ∧
      ¬ ReportFits .gctl04 (gateSetAck.foldl applyObject .initial) idleFate.gate.timings := by
  have produced : Produced (gateSetAck.foldl applyObject .initial) :=
    produced_of_known (by decide +kernel) (by decide +kernel) (by decide)
  refine ⟨produced, ⟨rfl, rfl, rfl⟩, fun fits => ?_⟩
  have response := fits.response
  have long : 200 ≤ (lineRead (gateSetAck.foldl applyObject .initial)).utf8ByteSize := by
    rw [lineRead_size produced.tabled]
    decide +kernel
  have size : Reader.gctl04.size = 200 := rfl
  omega

end PolicyServer
