import PolicyServer.ReportWalk

namespace PolicyServer

open Lib

/-!
# What a report decides

The fields of the record that decide where a response goes and what form it
takes are each set by one kind of object, so behind a body of known objects
each of them is what the last object of its kind says, or its initial value.
`decodeAll_field` is that argument once; the file and the form of a response
follow from its instances.
-/

/-! ## Kinds of objects -/

/-- What `ps_pcmm_report` does with a known object. -/
inductive ObjectKind where
  | gateId
  | gateSpec
  | legacyClassifier
  | extendedClassifier
  | transaction
  | application
  | error
  | gateState
  | ignored
  deriving DecidableEq, Repr

def objectKind (major minor : UInt8) : ObjectKind :=
  if pcmmIsGateid major minor then .gateId
  else if pcmmIsGatespec major minor then .gateSpec
  else if pcmmIsClassifier major then
    match minor.toNat with
    | 1 => .legacyClassifier
    | 2 => .extendedClassifier
    | _ => .ignored
  else
    match major.toNat with
    | 1 => .transaction
    | 2 => .application
    | 14 => .error
    | 15 => .gateState
    | _ => .ignored

def ObjectKind.decode (decoded : Decoded) (block : Memory) : ObjectKind -> Decoded
  | .gateId => { decoded with rpt := { decoded.rpt with gateId := atog block } }
  | .gateSpec => { decoded with rpt := pcmmDecodeGate decoded.rpt block }
  | .legacyClassifier =>
      { decoded with
        rpt := (pcmmDecodeClassifier decoded.rpt block).1
        classifierType := (pcmmDecodeClassifier decoded.rpt block).2 }
  | .extendedClassifier =>
      { decoded with
        rpt := (pcmmDecodeExtended decoded.rpt block).1
        classifierType := (pcmmDecodeExtended decoded.rpt block).2 }
  | .transaction =>
      { decoded with
        rpt := pcmmDecodeTransaction decoded.rpt (unpackU16 block 0) (unpackU16 block 2) }
  | .application =>
      { decoded with
        rpt := pcmmDecodeApplication decoded.rpt (unpackU16 block 0) (unpackU16 block 2) }
  | .error =>
      { decoded with
        rpt := pcmmDecodeError decoded.rpt (unpackU16 block 0) (unpackU16 block 2) }
  | .gateState =>
      { decoded with reportRequired := pcmmGatestateRpt (unpackU16 block 0) (unpackU16 block 2) }
  | .ignored => decoded

theorem psPcmmDecode_eq (decoded : Decoded) (block : Memory) (major minor : UInt8) :
    psPcmmDecode decoded block major minor = (objectKind major minor).decode decoded block := by
  unfold psPcmmDecode objectKind
  split
  · rfl
  split
  · rfl
  split
  · generalize minor.toNat = stype
    match stype with
    | 0 | 1 | 2 | _ + 3 => rfl
  · generalize major.toNat = snum
    match snum with
    | 0 | 1 | 2 | 3 | 4 | 5 | 6 | 7 | 8 | 9 | 10 | 11 | 12 | 13 | 14 | 15 | _ + 16 => rfl

variable {least : Nat}

def Object.kind (object : Object least) : ObjectKind :=
  objectKind object.major object.minor

namespace Object

/-- The first two bytes of a body. -/
def code (object : Object least) : UInt16 :=
  unpackU16 (Memory.behind object.body (fun _ => 0)) 0

/-- The next two. -/
def subcode (object : Object least) : UInt16 :=
  unpackU16 (Memory.behind object.body (fun _ => 0)) 2

/-- The first four bytes as one number. -/
def identifier (object : Object least) : UInt32 :=
  unpackN (Memory.behind object.body (fun _ => 0)) 0

end Object

namespace Object.StoredAt

variable {object : PcmmObject} {report : Memory} {idx : Nat}

theorem byte (stored : object.StoredAt report idx) {i : Nat} (small : i < 4) :
    report.shift (idx + 4) i = Memory.behind object.body (fun _ => 0) i := by
  have holds := Memory.behind_holds object.body (fun _ => 0)
  have same := stored.body.agree holds (Nat.lt_of_lt_of_le small object.enough)
  rwa [Nat.zero_add] at same

theorem code_eq (stored : object.StoredAt report idx) :
    unpackU16 (report.shift (idx + 4)) 0 = object.code :=
  unpackU16_congr (stored.byte (by decide)) (stored.byte (by decide))

theorem subcode_eq (stored : object.StoredAt report idx) :
    unpackU16 (report.shift (idx + 4)) 2 = object.subcode :=
  unpackU16_congr (stored.byte (by decide)) (stored.byte (by decide))

theorem identifier_eq (stored : object.StoredAt report idx) :
    atog (report.shift (idx + 4)) = object.identifier :=
  unpackN_congr (stored.byte (by decide)) (stored.byte (by decide)) (stored.byte (by decide))
    (stored.byte (by decide))

end Object.StoredAt

/-! ## The last object of a kind -/

/-- The last object of a kind in a list. -/
def lastOf (kind : ObjectKind) (objects : List PcmmObject) : Option PcmmObject :=
  objects.reverse.find? (fun object => object.kind = kind)

theorem lastOf_cons (kind : ObjectKind) (object : PcmmObject) (objects : List PcmmObject) :
    lastOf kind (object :: objects) =
      (lastOf kind objects).or (if object.kind = kind then some object else none) := by
  simp only [lastOf, List.reverse_cons, List.find?_append, List.find?_cons, List.find?_nil]
  by_cases same : object.kind = kind
  · simp only [same, decide_true, if_true]
  · simp only [same, decide_false, if_false]

/-- A field that only objects of one kind set holds what the last of them says. -/
theorem decodeAll_field {Field : Type} (field : Decoded -> Field) (kind : ObjectKind)
    (value : PcmmObject -> Field) {report : Memory}
    (sets : forall (object : PcmmObject) idx decoded, object.StoredAt report idx ->
      field (object.kind.decode decoded (report.shift (idx + 4))) =
        if object.kind = kind then value object else field decoded)
    {objects : List PcmmObject} (known : forall object, object ∈ objects -> object.Known)
    {idx : Nat} (holds : report.Holds idx (encode objects)) (decoded : Decoded) :
    field (decodeAll report idx decoded objects) =
      ((lastOf kind objects).map value).getD (field decoded) := by
  induction objects generalizing idx decoded with
  | nil => rfl
  | cons object objects inductionHypothesis =>
      have stored := storedAt_of_holds [] holds
      rw [encode_cons] at holds
      have later := (Memory.holds_append.mp holds).2
      rw [object.bytes_length] at later
      rw [decodeAll, decodeObject, if_pos (known object List.mem_cons_self), psPcmmDecode_eq,
        inductionHypothesis (fun other member => known other (List.mem_cons_of_mem _ member)) later]
      have first := sets object idx decoded stored
      unfold Object.kind at first
      rw [first, lastOf_cons]
      unfold Object.kind
      cases lastOf kind objects with
      | some last => rfl
      | none =>
          by_cases same : objectKind object.major object.minor = kind
          · simp only [same, if_true, Option.none_or, Option.map_some, Option.map_none,
              Option.getD_some, Option.getD_none]
          · simp only [same, if_false, Option.none_or, Option.map_none, Option.getD_none]

section Fields

variable {report : Memory} {objects : List PcmmObject} {idx : Nat}

theorem decodeAll_transactionId (known : forall object, object ∈ objects -> object.Known)
    (holds : report.Holds idx (encode objects)) (decoded : Decoded) :
    (decodeAll report idx decoded objects).rpt.transactionId =
      ((lastOf .transaction objects).map Object.code).getD decoded.rpt.transactionId := by
  refine decodeAll_field (fun decoded => decoded.rpt.transactionId) .transaction Object.code ?_
    known holds decoded
  intro object idx decoded stored
  rw [← stored.code_eq]
  cases object.kind <;> rfl

theorem decodeAll_gateId (known : forall object, object ∈ objects -> object.Known)
    (holds : report.Holds idx (encode objects)) (decoded : Decoded) :
    (decodeAll report idx decoded objects).rpt.gateId =
      ((lastOf .gateId objects).map Object.identifier).getD decoded.rpt.gateId := by
  refine decodeAll_field (fun decoded => decoded.rpt.gateId) .gateId Object.identifier ?_
    known holds decoded
  intro object idx decoded stored
  rw [← stored.identifier_eq]
  cases object.kind <;> rfl

theorem decodeAll_reportRequired (known : forall object, object ∈ objects -> object.Known)
    (holds : report.Holds idx (encode objects)) (decoded : Decoded) :
    (decodeAll report idx decoded objects).reportRequired =
      ((lastOf .gateState objects).map
        (fun object => pcmmGatestateRpt object.code object.subcode)).getD
          decoded.reportRequired := by
  refine decodeAll_field (fun decoded => decoded.reportRequired) .gateState
    (fun object => pcmmGatestateRpt object.code object.subcode) ?_ known holds decoded
  intro object idx decoded stored
  simp only [← stored.code_eq, ← stored.subcode_eq]
  cases object.kind <;> rfl

/-- Code, sub-code and description come from one object together. -/
theorem decodeAll_error (known : forall object, object ∈ objects -> object.Known)
    (holds : report.Holds idx (encode objects)) (decoded : Decoded) :
    ((decodeAll report idx decoded objects).rpt.packetcableErrCode,
      (decodeAll report idx decoded objects).rpt.packetcableErrSubcode,
      (decodeAll report idx decoded objects).rpt.packetcableErrDescr) =
      ((lastOf .error objects).map
        (fun object => (object.code, object.subcode, pcmmOtoerr object.code.toUInt8))).getD
          (decoded.rpt.packetcableErrCode, decoded.rpt.packetcableErrSubcode,
            decoded.rpt.packetcableErrDescr) := by
  refine decodeAll_field (fun decoded => (decoded.rpt.packetcableErrCode,
    decoded.rpt.packetcableErrSubcode, decoded.rpt.packetcableErrDescr)) .error
    (fun object => (object.code, object.subcode, pcmmOtoerr object.code.toUInt8)) ?_
    known holds decoded
  intro object idx decoded stored
  simp only [← stored.code_eq, ← stored.subcode_eq]
  cases object.kind <;> rfl

end Fields

/-! ## Where the response goes -/

/-- The file `gctl_async_get_decision` polls for a transaction. -/
def gctlDecisionFile (id : UInt16) : String :=
  "data/yrpt_" ++ toString id.toNat ++ ".txt"

/-- No Gate State object, or a last one that gives no reason of its own. -/
def Reportable (objects : List PcmmObject) : Prop :=
  forall object, lastOf .gateState objects = some object ->
    object.subcode = 0 ∨ object.subcode = 65535

instance (objects : List PcmmObject) : Decidable (Reportable objects) :=
  match found : lastOf .gateState objects with
  | none => isTrue (fun object last => by rw [found] at last; cases last)
  | some object =>
      decidable_of_iff (object.subcode = 0 ∨ object.subcode = 65535)
        ⟨fun reason other last => by rw [found] at last; cases last; exact reason,
          fun reportable => reportable object found⟩

theorem reportRequired_iff {report : Memory} {objects : List PcmmObject}
    (known : forall object, object ∈ objects -> object.Known)
    (holds : report.Holds 0 (encode objects)) :
    (decodeAll report 0 .initial objects).reportRequired = false ↔ Reportable objects := by
  rw [decodeAll_reportRequired known holds]
  unfold Reportable
  cases lastOf .gateState objects with
  | none =>
      constructor
      · intro _ object last
        cases last
      · intro _
        rfl
  | some object =>
      simp only [Option.map_some, Option.getD_some, pcmmGatestateRpt, Bool.not_eq_false',
        Bool.or_eq_true, beq_iff_eq, Option.some.injEq]
      constructor
      · intro reason other last
        exact last ▸ reason
      · intro reportable
        exact reportable object rfl

/-- A response whose last Transaction object echoes `t` goes to the file that
is polled for `t`, unless its last Gate State object gives a reason, and then
it goes nowhere.  Transaction 0 is left out where the report names a gate. -/
theorem response_reaches_file (objects : List PcmmObject) (buf : Memory) (ptr : Nat) (t : UInt16)
    (known : forall object, object ∈ objects -> object.Known)
    (stored : buf.Holds ptr (encode objects)) (fits : totalSize objects + 4 < 65536)
    (pointer : ptr < 65536)
    (echoes : (lastOf .transaction objects).map Object.code = some t)
    (named : t ≠ 0 ∨ ((lastOf .gateId objects).map Object.identifier).getD 0 = 0) :
    Exists fun decoded => Decodes (buf.shift ptr) (totalSize objects) decoded ∧
      psPcmmReport buf ptr (rptLength (totalSize objects)) =
        some (ptr + totalSize objects,
          if Reportable objects then
            some (.write (gctlDecisionFile t)
              (writeReport decoded.rpt decoded.classifierType).text)
          else none) := by
  have holds : (buf.shift ptr).Holds 0 (encode objects) := Memory.shift_holds.mpr stored
  have clean : forall object, object ∈ objects -> object.Clean :=
    fun object member => Or.inl (known object member)
  have decodes := decodes_of_clean clean holds (by omega)
  have nonempty : 0 < totalSize objects := by
    apply totalSize_pos
    rintro rfl
    cases echoes
  have transaction := decodeAll_transactionId known holds .initial
  have gate := decodeAll_gateId known holds .initial
  have required := reportRequired_iff known holds
  rw [echoes, Option.getD_some] at transaction
  refine ⟨_, decodes, ?_⟩
  rw [psPcmmReport_of_decodes decodes nonempty fits pointer]
  -- The orphan file takes transaction 0 with a gate, which `named` excludes.
  have notOrphan : ¬ ((decodeAll (buf.shift ptr) 0 .initial objects).rpt.transactionId = 0 ∧
      (decodeAll (buf.shift ptr) 0 .initial objects).rpt.gateId ≠ 0) := by
    rintro ⟨zero, gated⟩
    rw [transaction] at zero
    rw [gate] at gated
    exact named.elim (fun nonzero => nonzero zero) gated
  by_cases reportable : Reportable objects
  · rw [if_pos reportable, Decoded.action, required.mpr reportable, if_neg Bool.false_ne_true,
      psPcmmReportDecision, if_neg notOrphan, transaction]
    rfl
  · have skipped : (decodeAll (buf.shift ptr) 0 .initial objects).reportRequired = true := by
      apply Bool.eq_true_of_not_eq_false
      intro written
      exact reportable (required.mp written)
    rw [if_neg reportable, Decoded.action, if_pos skipped]

/-- A PCMM object with a body of one word. -/
def wordObject (major high low high' low' : UInt8) : PcmmObject :=
  .ofWord major 1 high low high' low' (Nat.le_refl 4)

/-- A gate is accepted: an AMID and a gate id stand around the Transaction object of
transaction 7, an older one in front, and a Gate State object without a reason behind. -/
def acceptedBody : List PcmmObject :=
  [wordObject 1 0 9 0 4, wordObject 2 0 5 0 3, wordObject 1 0 7 0 5, wordObject 4 0 0 1 2,
    wordObject 15 0 4 0 0]

theorem response_reaches_file_seven :
    Exists fun decoded =>
      Decodes ((Memory.behind (encode acceptedBody) (fun _ => 0)).shift 0) 40 decoded ∧
        psPcmmReport (Memory.behind (encode acceptedBody) (fun _ => 0)) 0 44 =
          some (40, some (.write "data/yrpt_7.txt"
            (writeReport decoded.rpt decoded.classifierType).text)) :=
  response_reaches_file acceptedBody (Memory.behind (encode acceptedBody) (fun _ => 0)) 0 7
    (by decide) (Memory.behind_holds _ _) (by decide) (by decide) (by decide) (Or.inl (by decide))

/-- Three bodies with a Transaction object for the polled file that do not
reach it: a Gate State object with reason 1, transaction 0 with gate 1, and a
second Transaction object. -/
theorem response_misses_file :
    psPcmmReport (Memory.behind (encode [wordObject 1 0 7 0 8, wordObject 15 0 4 0 1])
        (fun _ => 0)) 0 20 = some (16, none) ∧
      (psPcmmReport (Memory.behind (encode [wordObject 1 0 0 0 8, wordObject 4 0 0 0 1])
        (fun _ => 0)) 0 20).map (fun result => result.2) =
          some (some (.append "data/__orphan__" "cops-gate-id: 1, GateCmd: GATE-INFO-ACK\n")) ∧
      (psPcmmReport (Memory.behind (encode [wordObject 1 0 7 0 8, wordObject 1 0 9 0 8])
        (fun _ => 0)) 0 20).map (fun result => result.2) =
          some (some (.write "data/yrpt_9.txt"
            "\x7b\"output\": \x7b\"cops-gate-id\": 0, \"GateCmd\": \"GATE-INFO-ACK\", \"ApplicationId\": 0\x7d")) := by
  refine ⟨by decide, by decide, by decide⟩

/-! ## The form of the response -/

/-- With an Error object in the body, the response is an error response with
the code and sub-code of the last one exactly when the low byte of the code is
an entry of the error table. -/
theorem error_response_iff (objects : List PcmmObject) (report : Memory) (last : PcmmObject)
    (known : forall object, object ∈ objects -> object.Known)
    (holds : report.Holds 0 (encode objects)) (small : totalSize objects < 65536)
    (found : lastOf .error objects = some last) :
    (Exists fun decoded => Decodes report (totalSize objects) decoded ∧
        Exists fun gateId => Exists fun gateCmd => Exists fun errDescr =>
          writeReport decoded.rpt decoded.classifierType =
            .error gateId gateCmd last.code last.subcode errDescr) ↔
      (1 ≤ last.code.toNat % 256 ∧ last.code.toNat % 256 ≤ 26 ∨ last.code.toNat % 256 = 127) := by
  have clean : forall object, object ∈ objects -> object.Clean :=
    fun object member => Or.inl (known object member)
  have decodes := decodes_of_clean clean holds small
  have error := decodeAll_error known holds .initial
  rw [found, Option.map_some, Option.getD_some] at error
  rcases Prod.mk.inj error with ⟨code, error⟩
  rcases Prod.mk.inj error with ⟨subcode, descr⟩
  rw [← UInt16.toNat_toUInt8, ← pcmmOtoerr_ne_nil_iff]
  constructor
  · rintro ⟨decoded, ends, gateId, gateCmd, errDescr, rendered⟩ silent
    rw [ends.unique decodes] at rendered
    rw [writeReport, descr, if_pos silent] at rendered
    split at rendered
    · cases rendered
    · split at rendered
      · cases rendered
      · cases rendered
  · intro entry
    refine ⟨_, decodes, (decodeAll report 0 .initial objects).rpt.gateId,
      (decodeAll report 0 .initial objects).rpt.gateCmd, pcmmOtoerr last.code.toUInt8, ?_⟩
    rw [writeReport, descr, if_neg entry, code, subcode]

/-- A gate is refused: two Error objects among others. -/
def refusedBody : List PcmmObject :=
  [wordObject 1 0 7 0 6, wordObject 14 0 9 0 1, wordObject 2 0 5 0 3, wordObject 14 0 2 0 0,
    wordObject 4 0 0 1 2]

theorem error_response_unknownGate :
    (Exists fun decoded => Decodes (Memory.behind (encode refusedBody) (fun _ => 0)) 40 decoded ∧
        Exists fun gateId => Exists fun gateCmd => Exists fun errDescr =>
          writeReport decoded.rpt decoded.classifierType = .error gateId gateCmd 2 0 errDescr) ↔
      (1 ≤ 2 % 256 ∧ 2 % 256 ≤ 26 ∨ 2 % 256 = 127) :=
  error_response_iff refusedBody (Memory.behind (encode refusedBody) (fun _ => 0))
    (wordObject 14 0 2 0 0) (by decide) (Memory.behind_holds _ _) (by decide) (by decide)

/-- Error code 27 has no entry in the table, so the refusal is rendered in the
default form, as a success is. -/
theorem rejected_rendered_as_accepted :
    Exists fun decoded =>
      Decodes (Memory.behind (encode [wordObject 1 0 7 0 6, wordObject 14 0 27 0 0]) (fun _ => 0)) 16
        decoded ∧
        writeReport decoded.rpt decoded.classifierType = .default 0 "GATE-SET-ERR" 0 := by
  have known : forall object, object ∈ [wordObject 1 0 7 0 6, wordObject 14 0 27 0 0] ->
      object.Known := by decide
  have holds := Memory.behind_holds (encode [wordObject 1 0 7 0 6, wordObject 14 0 27 0 0])
    (fun _ => 0)
  have decodes := decodes_of_clean (fun object member => Or.inl (known object member)) holds
    (by decide)
  exact ⟨_, decodes, by decide⟩

end PolicyServer
