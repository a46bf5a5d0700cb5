import PolicyServer.ReportBuffers

namespace PolicyServer

open Lib
open Lib.JsonText

/-!
# Reports as bodies

The line of a report opens an object that `METRIC_ATTACH` closes: the braces of the
two texts balance in every form (`reportText_toList`).  What a client reads under the
names of the fields is compared with the record.
-/

/-! ## Members -/

def numberField (key : String) (n : Nat) : Field where
  key
  text := Nat.toDigits 10 n
  value := .num n 0

def textField (key text : String) : Field where
  key
  text := quoted text.toList
  value := .str text

def secondsField (key : String) (seconds : Seconds) : Field where
  key
  text := fixedText seconds.negative seconds.whole seconds.fraction
  value := fixedValue seconds.negative seconds.whole seconds.fraction

def objectField (key : String) (first : Field) (more : List Field) : Field where
  key
  text := objectText first more
  value := .obj ((first :: more).map Field.member)

theorem digitChar_isDigit {n : Nat} (small : n < 10) : (Nat.digitChar n).isDigit = true := by
  revert n
  decide

section Fields

variable {key : String} (plain : clean key.toList = true)

include plain

theorem numberField_isRead (n : Nat) : (numberField key n).IsRead :=
  ⟨plain, reads_digits n⟩

theorem textField_isRead {text : String} (cleanText : clean text.toList = true) :
    (textField key text).IsRead :=
  ⟨plain, reads_string cleanText⟩

theorem secondsField_isRead (seconds : Seconds) : (secondsField key seconds).IsRead := by
  refine ⟨plain, reads_fixed _ _ (by exact List.cons_ne_nil _ _) fun c member => ?_⟩
  have bound := seconds.micros.isLt
  rcases List.mem_map.mp member with ⟨digit, inside, rfl⟩
  simp only [List.mem_cons, List.not_mem_nil, or_false] at inside
  exact digitChar_isDigit (by omega)

theorem objectField_isRead {first : Field} {more : List Field} (isRead : first.IsRead)
    (others : forall field, field ∈ more -> field.IsRead) :
    (objectField key first more).IsRead :=
  ⟨plain, reads_object isRead others⟩

end Fields

/-! ## The object of a response -/

/-- The text of a `PacketCableError`. -/
def packetcableError (errCode errSubcode : UInt16) (errDescr : String) : String :=
  toString errCode.toNat ++ "::" ++ toString errSubcode.toNat ++ ", '" ++ errDescr ++ "'"

/-- The members that a form has behind the three that all forms have. -/
def Response.special : Response -> List Field
  | .legacyClassifier _ _ _ flags cls t1 t2 t3 t4 classifierId srcPortStart dstPortStart =>
      [objectField "spec" (numberField "flags" flags.toNat)
        [numberField "class" cls.toNat, numberField "t1" t1.toNat, numberField "t2" t2.toNat,
          numberField "t3" t3.toNat, numberField "t4" t4.toNat,
          numberField "classifier_id" classifierId.toNat,
          numberField "src_port_start" srcPortStart.toNat,
          numberField "src_port_end" dstPortStart.toNat]]
  | .extendedClassifier _ _ _ flags cls t1 t2 t3 t4 classifierId srcPortStart srcPortEnd
      dstPortStart dstPortEnd priority state action =>
      [objectField "spec" (numberField "flags" flags.toNat)
        [numberField "class" cls.toNat, numberField "t1" t1.toNat, numberField "t2" t2.toNat,
          numberField "t3" t3.toNat, numberField "t4" t4.toNat,
          numberField "classifier_id" classifierId.toNat,
          numberField "src_port_start" srcPortStart.toNat,
          numberField "src_port_end" srcPortEnd.toNat,
          numberField "dst_port_start" dstPortStart.toNat,
          numberField "dst_port_end" dstPortEnd.toNat, numberField "priority" priority.toNat,
          numberField "state" state.toNat, numberField "action" action.toNat]]
  | .default _ _ _ => []
  | .error _ _ errCode errSubcode errDescr =>
      [textField "PacketCableError" (packetcableError errCode errSubcode errDescr)]

/-- What all forms begin with; an error has no application id. -/
def Response.head : Response -> UInt32 × String × Nat
  | .legacyClassifier gateId gateCmd applicationId .. => (gateId, gateCmd, applicationId.toNat)
  | .extendedClassifier gateId gateCmd applicationId .. => (gateId, gateCmd, applicationId.toNat)
  | .default gateId gateCmd applicationId => (gateId, gateCmd, applicationId.toNat)
  | .error gateId gateCmd .. => (gateId, gateCmd, 0)

def Response.output (response : Response) : Field :=
  objectField "output" (numberField "cops-gate-id" response.head.1.toNat)
    (textField "GateCmd" response.head.2.1 :: numberField "ApplicationId" response.head.2.2 ::
      response.special)

def Timings.fields (timings : Timings) : List Field :=
  [secondsField "build-time" timings.build, secondsField "wait-time" timings.wait,
    secondsField "read-time" timings.read]

/-- The body of a report. -/
def reportText (response : Response) (timings : Timings) : String :=
  response.text ++ metricAttach timings

theorem metricAttach_toList (timings : Timings) :
    (metricAttach timings).toList =
      ',' :: ' ' :: (fieldsText (secondsField "build-time" timings.build)
        [secondsField "wait-time" timings.wait, secondsField "read-time" timings.read] ++
          ['\x7d']) := by
  unfold metricAttach
  simp only [Seconds.text, fieldsText, Field.chars, memberChars, secondsField,
    String.toList_append, String.toList_ofList, String.reduceToList, List.append_assoc,
    List.cons_append, List.nil_append]

set_option maxRecDepth 4000 in
/-- The line of a report is an object that is not closed. -/
theorem responseText_toList (response : Response) :
    response.text.toList = '\x7b' :: response.output.chars := by
  cases response with
  | legacyClassifier | extendedClassifier | default =>
      unfold Response.text responseHead
      simp only [Response.output, Response.head, Response.special,
        objectField, numberField, textField, objectText, fieldsText, Field.chars,
        memberChars, quoted, String.toList_append, Nat.toString_eq_repr, Nat.toList_repr,
        String.reduceToList, List.append_assoc, List.cons_append, List.nil_append]
  | error =>
      unfold Response.text responseHead
      simp only [Response.output, Response.head, Response.special, packetcableError,
        objectField, numberField, textField, objectText, fieldsText, Field.chars,
        memberChars, quoted, String.toList_append, Nat.toString_eq_repr, Nat.toList_repr,
        String.reduceToList, List.append_assoc, List.cons_append, List.nil_append]

theorem reportText_toList (response : Response) (timings : Timings) :
    (reportText response timings).toList = objectText response.output timings.fields := by
  rw [reportText, String.toList_append, responseText_toList, metricAttach_toList]
  simp only [Timings.fields, objectText, fieldsText, List.append_assoc, List.cons_append]

/-! ## What a client reads -/

theorem pcmmOtoact_clean (code : UInt8) : clean (pcmmOtoact code).toList = true := by
  unfold pcmmOtoact
  split <;> decide

theorem pcmmOtoerr_clean (code : UInt8) : clean (pcmmOtoerr code).toList = true := by
  unfold pcmmOtoerr
  split <;> decide

theorem packetcableError_clean (errCode errSubcode : UInt16) (code : UInt8) :
    clean (packetcableError errCode errSubcode (pcmmOtoerr code)).toList = true := by
  unfold packetcableError
  simp only [String.toList_append, clean_append, clean_toString, pcmmOtoerr_clean, Bool.and_true]
  decide

theorem special_isRead {rpt : PcmmRpt} (tabled : rpt.Tabled) (ct : Int) {field : Field}
    (member : field ∈ (writeReport rpt ct).special) : field.IsRead := by
  have keys : forall key, key ∈ ["spec", "flags", "class", "t1", "t2", "t3", "t4",
      "classifier_id", "src_port_start", "src_port_end", "dst_port_start", "dst_port_end",
      "priority", "state", "action", "PacketCableError"] -> clean key.toList = true := by decide
  unfold writeReport at member
  split at member
  · split at member
    · rw [Response.special, List.mem_singleton] at member
      rw [member]
      refine objectField_isRead (keys _ (by decide)) (numberField_isRead (keys _ (by decide)) _) ?_
      simp only [List.forall_mem_cons, List.not_mem_nil, false_implies, implies_true, and_true]
      and_intros <;> exact numberField_isRead (keys _ (by decide)) _
    split at member
    · rw [Response.special, List.mem_singleton] at member
      rw [member]
      refine objectField_isRead (keys _ (by decide)) (numberField_isRead (keys _ (by decide)) _) ?_
      simp only [List.forall_mem_cons, List.not_mem_nil, false_implies, implies_true, and_true]
      and_intros <;> exact numberField_isRead (keys _ (by decide)) _
    · cases member
  · rw [Response.special, List.mem_singleton] at member
    rcases tabled.errDescr with ⟨code, text⟩
    rw [member, text]
    exact textField_isRead (keys _ (by decide)) (packetcableError_clean _ _ code)

theorem writeReport_head_gateCmd (rpt : PcmmRpt) (ct : Int) :
    (writeReport rpt ct).head.2.1 = rpt.gateCmd := by
  unfold writeReport
  split
  · split
    · rfl
    split <;> rfl
  · rfl

theorem output_isRead {rpt : PcmmRpt} (tabled : rpt.Tabled) (ct : Int) :
    (writeReport rpt ct).output.IsRead := by
  have keys : forall key, key ∈ ["output", "cops-gate-id", "GateCmd", "ApplicationId"] ->
      clean key.toList = true := by decide
  refine objectField_isRead (keys _ (by decide)) (numberField_isRead (keys _ (by decide)) _) ?_
  simp only [List.forall_mem_cons]
  refine ⟨?_, numberField_isRead (keys _ (by decide)) _,
    fun field member => special_isRead tabled ct member⟩
  rcases tabled.gateCmd with ⟨code, text⟩
  rw [writeReport_head_gateCmd, text]
  exact textField_isRead (keys _ (by decide)) (pcmmOtoact_clean code)

/-- Every report and every time make an object. -/
theorem reportText_parse {rpt : PcmmRpt} (tabled : rpt.Tabled) (ct : Int) (timings : Timings) :
    parse (reportText (writeReport rpt ct) timings) =
      some (.obj (((writeReport rpt ct).output :: timings.fields).map Field.member)) := by
  have keys : forall key, key ∈ ["build-time", "wait-time", "read-time"] ->
      clean key.toList = true := by decide
  refine parse_of_reads ?_
  rw [reportText_toList]
  refine reads_object (output_isRead tabled ct) ?_
  simp only [Timings.fields, List.forall_mem_cons, List.not_mem_nil, false_implies, implies_true,
    and_true]
  exact ⟨secondsField_isRead (keys _ (by decide)) _, secondsField_isRead (keys _ (by decide)) _,
    secondsField_isRead (keys _ (by decide)) _⟩

/-! ## What the record has -/

/-- The members that are named after the fields of a report, each with its field. -/
def reportMembers (rpt : PcmmRpt) : List (List String × Value) :=
  [(["output", "cops-gate-id"], .num rpt.gateId.toNat 0),
    (["output", "GateCmd"], .str rpt.gateCmd),
    (["output", "ApplicationId"], .num rpt.applicationId.toNat 0),
    (["output", "spec", "flags"], .num rpt.flags.toNat 0),
    (["output", "spec", "class"], .num rpt.cls.toNat 0),
    (["output", "spec", "t1"], .num rpt.t1.toNat 0),
    (["output", "spec", "t2"], .num rpt.t2.toNat 0),
    (["output", "spec", "t3"], .num rpt.t3.toNat 0),
    (["output", "spec", "t4"], .num rpt.t4.toNat 0),
    (["output", "spec", "classifier_id"], .num rpt.classifierId.toNat 0),
    (["output", "spec", "src_port_start"], .num rpt.srcPortStart.toNat 0),
    (["output", "spec", "src_port_end"], .num rpt.srcPortEnd.toNat 0),
    (["output", "spec", "dst_port_start"], .num rpt.dstPortStart.toNat 0),
    (["output", "spec", "dst_port_end"], .num rpt.dstPortEnd.toNat 0),
    (["output", "spec", "priority"], .num rpt.priority.toNat 0),
    (["output", "spec", "state"], .num rpt.state.toNat 0),
    (["output", "spec", "action"], .num rpt.action.toNat 0)]

/-- The numerals in front of and behind the colons of a `PacketCableError`. -/
def errCodes (text : String) : Nat × Nat :=
  let code := text.toList.takeWhile Char.isDigit
  let subcode := (text.toList.drop (code.length + 2)).takeWhile Char.isDigit
  (Nat.ofDigitChars 10 code 0, Nat.ofDigitChars 10 subcode 0)

/-- The members that a form has. -/
def reportPaths (rpt : PcmmRpt) (ct : Int) : List (List String) :=
  let head := ["cops-gate-id", "GateCmd", "ApplicationId"].map fun key => ["output", key]
  let spec := ["flags", "class", "t1", "t2", "t3", "t4", "classifier_id", "src_port_start",
    "src_port_end"].map fun key => ["output", "spec", key]
  let ports := ["dst_port_start", "dst_port_end", "priority", "state", "action"].map fun key =>
    ["output", "spec", key]
  if rpt.packetcableErrDescr ≠ "NIL" then head ++ [["output", "PacketCableError"]]
  else if ct = 0 then head ++ spec
  else if ct = 1 then head ++ spec ++ ports
  else head

/-- A value has the members of its form, and those named after a field have the field. -/
structure SaysReport (rpt : PcmmRpt) (ct : Int) (value : Value) : Prop where
  has : forall path, path ∈ reportPaths rpt ct -> (value.find path).isSome = true
  members : forall entry, entry ∈ reportMembers rpt -> forall found,
    value.find entry.1 = some found -> found = entry.2
  codes : forall found, value.find ["output", "PacketCableError"] = some found ->
    Exists fun text => found = .str text ∧
      errCodes text = (rpt.packetcableErrCode.toNat, rpt.packetcableErrSubcode.toNat)

theorem errCodes_packetcableError (errCode errSubcode : UInt16) (errDescr : String) :
    errCodes (packetcableError errCode errSubcode errDescr) =
      (errCode.toNat, errSubcode.toNat) := by
  have first := toDigits_isDigit errCode.toNat
  have second := toDigits_isDigit errSubcode.toNat
  unfold errCodes packetcableError
  simp only [String.toList_append, Nat.toString_eq_repr, Nat.toList_repr, String.reduceToList,
    List.append_assoc, List.cons_append, List.nil_append]
  rw [List.takeWhile_append_of_pos first, List.takeWhile_cons_of_neg (by decide), List.append_nil,
    List.drop_append, List.drop_of_length_le (Nat.le_add_right _ 2), List.nil_append,
    Nat.add_sub_cancel_left, List.drop_succ_cons, List.drop_succ_cons, List.drop_zero,
    List.takeWhile_append_of_pos second, List.takeWhile_cons_of_neg (by decide), List.append_nil,
    Nat.ofDigitChars_ten_toDigits, Nat.ofDigitChars_ten_toDigits]

section Said

variable {value field : Value} {path : List String}

theorem said_of_found (there : value.find path = some field) :
    forall found, value.find path = some found -> found = field := by
  intro found same
  rw [there] at same
  exact (Option.some.inj same).symm

theorem said_of_absent (absent : value.find path = none) :
    forall found, value.find path = some found -> found = field := by
  intro found there
  rw [absent] at there
  cases there

/-- Without an error there are no codes to read. -/
theorem saysReport_of_sound {rpt : PcmmRpt} {ct : Int}
    (has : forall path, path ∈ reportPaths rpt ct -> (value.find path).isSome = true)
    (members : forall entry, entry ∈ reportMembers rpt -> forall found,
      value.find entry.1 = some found -> found = entry.2)
    (absent : value.find ["output", "PacketCableError"] = none) : SaysReport rpt ct value := by
  refine ⟨has, members, fun found there => ?_⟩
  rw [absent] at there
  cases there

end Said

/-- The value that the body of a report has. -/
def Response.value (response : Response) (timings : Timings) : Value :=
  .obj ((response.output :: timings.fields).map Field.member)

/-- The two slips of the forms: the legacy one has the destination port under
`src_port_end`, and an error has 0 for its application. -/
def PcmmRpt.SaidBy (rpt : PcmmRpt) (ct : Int) : Prop :=
  if rpt.packetcableErrDescr ≠ "NIL" then rpt.applicationId = 0
  else ct = 0 -> rpt.srcPortEnd = rpt.dstPortStart

instance (rpt : PcmmRpt) (ct : Int) : Decidable (rpt.SaidBy ct) :=
  inferInstanceAs (Decidable (if rpt.packetcableErrDescr ≠ "NIL" then rpt.applicationId = 0
    else ct = 0 -> rpt.srcPortEnd = rpt.dstPortStart))

/-! ### The forms one by one -/

section Forms

variable {rpt : PcmmRpt} {ct : Int} (timings : Timings)

theorem saysReport_legacy_iff (sound : rpt.packetcableErrDescr = "NIL") :
    SaysReport rpt 0 ((writeReport rpt 0).value timings) ↔ rpt.srcPortEnd = rpt.dstPortStart := by
  rw [writeReport, if_pos sound, if_pos rfl]
  constructor
  · intro said
    have member : (["output", "spec", "src_port_end"], Value.num rpt.srcPortEnd.toNat 0) ∈
        reportMembers rpt := by
      simp only [reportMembers, List.mem_cons, true_or, or_true]
    have same := said.members _ member (.num rpt.dstPortStart.toNat 0) rfl
    have same : (rpt.dstPortStart.toNat : Int) = rpt.srcPortEnd.toNat := (Value.num.inj same).1
    exact UInt16.toNat_inj.mp (by omega)
  · intro same
    refine saysReport_of_sound ?_ ?_ rfl
    · rw [reportPaths, if_neg (not_not.mpr sound), if_pos rfl]
      simp only [List.map_cons, List.map_nil, List.cons_append, List.nil_append,
        List.forall_mem_cons, List.not_mem_nil, false_implies, implies_true, and_true]
      and_intros <;> rfl
    · simp only [reportMembers, List.forall_mem_cons, List.not_mem_nil, false_implies,
        implies_true, and_true, same]
      and_intros
      all_goals first | exact said_of_found rfl | exact said_of_absent rfl

theorem saysReport_extended (sound : rpt.packetcableErrDescr = "NIL") :
    SaysReport rpt 1 ((writeReport rpt 1).value timings) := by
  rw [writeReport, if_pos sound, if_neg (by decide), if_pos rfl]
  refine saysReport_of_sound ?_ ?_ rfl
  · rw [reportPaths, if_neg (not_not.mpr sound), if_neg (by decide), if_pos rfl]
    simp only [List.map_cons, List.map_nil, List.cons_append, List.nil_append,
      List.forall_mem_cons, List.not_mem_nil, false_implies, implies_true, and_true]
    and_intros <;> rfl
  · simp only [reportMembers, List.forall_mem_cons, List.not_mem_nil, false_implies,
      implies_true, and_true]
    and_intros
    all_goals exact said_of_found rfl

theorem saysReport_default (sound : rpt.packetcableErrDescr = "NIL") (noLegacy : ct ≠ 0)
    (noExtended : ct ≠ 1) : SaysReport rpt ct ((writeReport rpt ct).value timings) := by
  rw [writeReport, if_pos sound, if_neg noLegacy, if_neg noExtended]
  refine saysReport_of_sound ?_ ?_ rfl
  · rw [reportPaths, if_neg (not_not.mpr sound), if_neg noLegacy, if_neg noExtended]
    simp only [List.map_cons, List.map_nil, List.forall_mem_cons, List.not_mem_nil,
      false_implies, implies_true, and_true]
    and_intros <;> rfl
  · simp only [reportMembers, List.forall_mem_cons, List.not_mem_nil, false_implies,
      implies_true, and_true]
    and_intros
    all_goals first | exact said_of_found rfl | exact said_of_absent rfl

theorem saysReport_error_iff (failed : rpt.packetcableErrDescr ≠ "NIL") :
    SaysReport rpt ct ((writeReport rpt ct).value timings) ↔ rpt.applicationId = 0 := by
  rw [writeReport, if_neg failed]
  constructor
  · intro said
    have member : (["output", "ApplicationId"], Value.num rpt.applicationId.toNat 0) ∈
        reportMembers rpt := by
      simp only [reportMembers, List.mem_cons, true_or, or_true]
    have same := said.members _ member (.num 0 0) rfl
    have same : (0 : Int) = rpt.applicationId.toNat := (Value.num.inj same).1
    have zero : (0 : UInt16).toNat = 0 := rfl
    exact UInt16.toNat_inj.mp (by omega)
  · intro none
    refine ⟨?_, ?_, ?_⟩
    · rw [reportPaths, if_pos failed]
      simp only [List.map_cons, List.map_nil, List.cons_append, List.nil_append,
        List.forall_mem_cons, List.not_mem_nil, false_implies, implies_true, and_true]
      and_intros <;> rfl
    · simp only [reportMembers, List.forall_mem_cons, List.not_mem_nil, false_implies,
        implies_true, and_true, none]
      and_intros
      all_goals first | exact said_of_found rfl | exact said_of_absent rfl
    · intro found there
      refine ⟨_, (Option.some.inj there).symm, errCodes_packetcableError _ _ _⟩

end Forms

/-- A client that reads the body of a report finds the fields of the report in it. -/
def ReadsReport (decoded : Decoded) (timings : Timings) : Prop :=
  Exists fun value =>
    parse (reportText (writeReport decoded.rpt decoded.classifierType) timings) = some value ∧
      SaysReport decoded.rpt decoded.classifierType value

theorem readsReport_value_iff {decoded : Decoded} (timings : Timings)
    (produced : Produced decoded) : ReadsReport decoded timings ↔
      SaysReport decoded.rpt decoded.classifierType
        ((writeReport decoded.rpt decoded.classifierType).value timings) := by
  have parses := reportText_parse produced.tabled decoded.classifierType timings
  constructor
  · rintro ⟨value, parsed, said⟩
    rw [parses] at parsed
    have same : (writeReport decoded.rpt decoded.classifierType).value timings = value :=
      Option.some.inj parsed
    rw [same]
    exact said
  · intro said
    exact ⟨_, parses, said⟩

/-- Every body is an object, and it has the fields of its report, apart from the two
slips. -/
theorem readsReport_iff {decoded : Decoded} (timings : Timings) (produced : Produced decoded) :
    ReadsReport decoded timings ↔ decoded.rpt.SaidBy decoded.classifierType := by
  rw [readsReport_value_iff timings produced, PcmmRpt.SaidBy]
  generalize decoded.classifierType = ct
  by_cases sound : decoded.rpt.packetcableErrDescr = "NIL"
  · rw [if_neg (not_not.mpr sound)]
    by_cases legacy : ct = 0
    · subst legacy
      rw [saysReport_legacy_iff timings sound]
      exact ⟨fun same _ => same, fun same => same rfl⟩
    · refine ⟨fun _ zero => absurd zero legacy, fun _ => ?_⟩
      by_cases extended : ct = 1
      · subst extended
        exact saysReport_extended timings sound
      · exact saysReport_default timings sound legacy extended
  · rw [if_pos sound]
    exact saysReport_error_iff timings sound

/-- Without the classifier and the gate spec, the response to a Gate-Set is read back. -/
theorem gateAck_read :
    ReadsReport ((gateSetAck.take 3).foldl applyObject .initial) idleFate.gate.timings :=
  (readsReport_iff idleFate.gate.timings
    (produced_of_known (by decide +kernel) (by decide +kernel) (by decide))).mpr (by decide +kernel)

/-- With them, the destination port 81 is under `src_port_end`. -/
theorem setAck_not_read :
    Produced (gateSetAck.foldl applyObject .initial) ∧
      ¬ ReadsReport (gateSetAck.foldl applyObject .initial) idleFate.gate.timings := by
  have produced : Produced (gateSetAck.foldl applyObject .initial) :=
    produced_of_known (by decide +kernel) (by decide +kernel) (by decide)
  have sound : (gateSetAck.foldl applyObject .initial).rpt.packetcableErrDescr = "NIL" := by
    decide +kernel
  have legacy : (gateSetAck.foldl applyObject .initial).classifierType = 0 := by decide +kernel
  refine ⟨produced, ?_⟩
  rw [readsReport_value_iff idleFate.gate.timings produced, legacy, saysReport_legacy_iff _ sound]
  decide +kernel

end PolicyServer
