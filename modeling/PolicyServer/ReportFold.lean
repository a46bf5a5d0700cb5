import Mathlib.Tactic.IntervalCases
import PolicyServer.Progress
import PolicyServer.ReportWalk

namespace PolicyServer

open Lib

/-!
# A report as a fold

What a report of known objects says, without a buffer and without a walk: every
object writes its fields, the big-endian numbers of its body, over what the ones
before it left (`applyObject`).  `psPcmmReport_folds` is that `ps_pcmm_report`
takes exactly one iteration for each object, at its own boundary, and ends with
this fold.
-/

/-! ## Fields of a body -/

/-- The byte at an offset. -/
def octet (body : List UInt8) (offset : Nat) : UInt8 :=
  body[offset]?.getD 0

/-- The value of bytes with the most significant first. -/
def bigEndian (bytes : List UInt8) : Nat :=
  bytes.foldl (fun value byte => value * 256 + byte.toNat) 0

def field16 (body : List UInt8) (offset : Nat) : UInt16 :=
  UInt16.ofNat (bigEndian [octet body offset, octet body (offset + 1)])

def field32 (body : List UInt8) (offset : Nat) : UInt32 :=
  UInt32.ofNat (bigEndian [octet body offset, octet body (offset + 1), octet body (offset + 2),
    octet body (offset + 3)])

/-- A known object, by what its tags stand for. -/
inductive ReportKind where
  | gateId
  | gateSpec
  | legacyClassifier
  | extendedClassifier
  | transaction
  | application
  | error
  | gateState
  | ignored
  deriving DecidableEq, Repr

def reportKind (major minor : UInt8) : ReportKind :=
  match major.toNat, minor.toNat with
  | 4, 1 => .gateId
  | 5, 1 => .gateSpec
  | 6, 1 => .legacyClassifier
  | 6, 2 => .extendedClassifier
  | 1, _ => .transaction
  | 2, _ => .application
  | 14, _ => .error
  | 15, _ => .gateState
  | _, _ => .ignored

/-- What an object adds to what has been collected. -/
def applyObject (decoded : Decoded) (object : PcmmObject) : Decoded :=
  let body := object.body
  match reportKind object.major object.minor with
  | .gateId => { decoded with rpt := { decoded.rpt with gateId := field32 body 0 } }
  | .gateSpec =>
      { decoded with
        rpt := { decoded.rpt with
          flags := octet body 0
          tosf := octet body 1
          tosm := octet body 2
          cls := octet body 3
          t1 := field16 body 4
          t2 := field16 body 6
          t3 := field16 body 8
          t4 := field16 body 10 } }
  | .legacyClassifier =>
      { decoded with
        classifierType := 0
        rpt := { decoded.rpt with
          protoId := field16 body 0
          tosf := octet body 2
          tosm := octet body 3
          srcIp := field32 body 4
          dstIp := field32 body 8
          srcPortStart := field16 body 12
          dstPortStart := field16 body 14 } }
  | .extendedClassifier =>
      { decoded with
        classifierType := 1
        rpt := { decoded.rpt with
          protoId := field16 body 0
          tosf := octet body 2
          tosm := octet body 3
          srcIp := field32 body 4
          srcMk := field32 body 8
          dstIp := field32 body 12
          dstMk := field32 body 16
          srcPortStart := field16 body 20
          srcPortEnd := field16 body 22
          dstPortStart := field16 body 24
          dstPortEnd := field16 body 26
          classifierId := field16 body 28
          priority := octet body 30
          state := octet body 31
          action := octet body 32 } }
  | .transaction =>
      { decoded with
        rpt := { decoded.rpt with
          transactionId := field16 body 0
          gateCmd := pcmmOtoact (field16 body 2).toUInt8 } }
  | .application =>
      { decoded with
        rpt := { decoded.rpt with
          applicationTag := field16 body 0
          applicationId := field16 body 2 } }
  | .error =>
      { decoded with
        rpt := { decoded.rpt with
          packetcableErrCode := field16 body 0
          packetcableErrSubcode := field16 body 2
          packetcableErrDescr := pcmmOtoerr (field16 body 0).toUInt8 } }
  | .gateState =>
      { decoded with reportRequired := !(field16 body 2 == 0 || field16 body 2 == 65535) }
  | .ignored => decoded

/-- The fields that the decoder of an object takes are in its body. -/
def Object.Long (object : PcmmObject) : Prop :=
  fieldLength object.major object.minor ≤ object.body.length

instance (object : PcmmObject) : Decidable object.Long :=
  inferInstanceAs (Decidable (_ ≤ _))

/-! ## The readers see the fields -/

theorem unpackU16_shown (body : List UInt8) (offset : Nat) :
    unpackU16 (shown body) offset = field16 body offset := by
  have high := (octet body offset).toNat_lt
  have low := (octet body (offset + 1)).toNat_lt
  have value : bigEndian [octet body offset, octet body (offset + 1)] =
      (octet body offset).toNat * 256 + (octet body (offset + 1)).toNat := by
    simp only [bigEndian, List.foldl_cons, List.foldl_nil, Nat.zero_mul, Nat.zero_add]
  apply UInt16.toNat_inj.mp
  rw [unpackU16_toNat, field16, value, UInt16.toNat_ofNat_of_lt' (by
    show _ < 65536
    omega)]
  rfl

theorem unpackN_shown (body : List UInt8) (offset : Nat) :
    unpackN (shown body) offset = field32 body offset := by
  have first := (octet body offset).toNat_lt
  have second := (octet body (offset + 1)).toNat_lt
  have third := (octet body (offset + 2)).toNat_lt
  have fourth := (octet body (offset + 3)).toNat_lt
  have value : bigEndian [octet body offset, octet body (offset + 1), octet body (offset + 2),
      octet body (offset + 3)] =
      (octet body offset).toNat * 16777216 + (octet body (offset + 1)).toNat * 65536 +
        (octet body (offset + 2)).toNat * 256 + (octet body (offset + 3)).toNat := by
    simp only [bigEndian, List.foldl_cons, List.foldl_nil]
    omega
  apply UInt32.toNat_inj.mp
  rw [unpackN_toNat, field32, value, UInt32.toNat_ofNat_of_lt' (by
    show _ < 4294967296
    omega)]
  rfl

theorem byte_shown (body : List UInt8) (offset : Nat) : shown body offset = octet body offset :=
  rfl

theorem uint8_beq_toNat (byte literal : UInt8) : (byte == literal) = (byte.toNat == literal.toNat) := by
  rw [Bool.eq_iff_iff, beq_iff_eq, beq_iff_eq, UInt8.toNat_inj]

/-- The tags of a known object. -/
theorem tags_of_known {major minor : UInt8} (known : pcmmKnown major minor = true) :
    1 ≤ major.toNat ∧ major.toNat ≤ 19 ∧ (minor.toNat = 1 ∨ minor.toNat = 2) := by
  simp only [pcmmKnown, uint8_beq_toNat, Bool.not_eq_true', Bool.or_eq_false_iff,
    beq_eq_false_iff_ne, decide_eq_false_iff_not, UInt8.toNat_zero] at known
  omega

/-- The branches of the loop are taken by the kind of the object. -/
theorem psPcmmDecode_shown (decoded : Decoded) {object : PcmmObject} (known : object.Known) :
    psPcmmDecode decoded (shown object.body) object.major object.minor =
      applyObject decoded object := by
  rcases tags_of_known known with ⟨least, most, minors⟩
  simp only [psPcmmDecode, applyObject, reportKind, pcmmIsGateid, pcmmIsGatespec, pcmmIsClassifier,
    uint8_beq_toNat, pcmmDecodeGate, pcmmDecodeClassifier, pcmmDecodeExtended, atog,
    pcmmDecodeTransaction, pcmmDecodeApplication, pcmmDecodeError, pcmmGatestateRpt,
    unpackU16_shown, unpackN_shown, byte_shown]
  generalize object.major.toNat = major at *
  generalize object.minor.toNat = minor at *
  interval_cases major <;> rcases minors with rfl | rfl <;> rfl

/-- What the walk makes of a stored object is what the object says. -/
theorem decodeObject_eq {report : Memory} {idx : Nat} {object : PcmmObject} (decoded : Decoded)
    (known : object.Known) (long : object.Long) (stored : object.StoredAt report idx) :
    decodeObject report idx decoded object = applyObject decoded object := by
  rw [decodeObject, if_pos known, ← psPcmmDecode_shown decoded known]
  refine psPcmmDecode_congr decoded object.major object.minor fun i small => ?_
  have inside : i < object.body.length := Nat.lt_of_lt_of_le small long
  rw [Memory.shift, stored.body i inside, shown, List.getElem?_eq_getElem inside]
  rfl

/-! ## The walk -/

section Walk

variable {report : Memory} {endIdx : Nat}

/-- As many iterations as there are objects, from a boundary. -/
theorem after_objects {objects : List PcmmObject} (idx : Nat) (decoded : Decoded)
    (known : forall object, object ∈ objects -> object.Known)
    (long : forall object, object ∈ objects -> object.Long)
    (holds : report.Holds idx (encode objects)) (inside : idx + totalSize objects ≤ endIdx)
    (small : endIdx < 65536) :
    Loop.after (reportGuard endIdx) (reportBody report) objects.length ⟨idx, decoded⟩ =
      some ⟨idx + totalSize objects, objects.foldl applyObject decoded⟩ := by
  induction objects generalizing idx decoded with
  | nil => rfl
  | cons object objects inductionHypothesis =>
      rw [totalSize_cons] at inside ⊢
      have positive := object.size_pos
      have stored := storedAt_of_holds [] holds
      rw [totalSize_nil, Nat.add_zero] at stored
      rw [encode_cons] at holds
      have later := (Memory.holds_append.mp holds).2
      rw [object.bytes_length] at later
      have its := known object List.mem_cons_self
      have within : idx < endIdx := by omega
      rw [List.length_cons, Loop.after_succ _ (reportGuard_iff.mpr within)
        (reportBody_known decoded its stored within small),
        decodeObject_eq decoded its (long object List.mem_cons_self) stored,
        inductionHypothesis (idx + object.size) (applyObject decoded object)
          (fun other member => known other (List.mem_cons_of_mem _ member))
          (fun other member => long other (List.mem_cons_of_mem _ member)) later (by omega),
        Nat.add_assoc, List.foldl_cons]

/-- The first objects, as many as there are iterations. -/
theorem after_take {objects : List PcmmObject}
    (known : forall object, object ∈ objects -> object.Known)
    (long : forall object, object ∈ objects -> object.Long)
    (holds : report.Holds 0 (encode objects)) (small : totalSize objects < 65536) {k : Nat}
    (within : k ≤ objects.length) :
    Loop.after (reportGuard (totalSize objects)) (reportBody report) k .initial =
      some ⟨totalSize (objects.take k), (objects.take k).foldl applyObject .initial⟩ := by
  have sum := totalSize_take_drop objects k
  have front : report.Holds 0 (encode (objects.take k)) := by
    rw [← List.take_append_drop k objects, encode_append] at holds
    exact (Memory.holds_append.mp holds).1
  have inside : 0 + totalSize (objects.take k) ≤ totalSize objects := by omega
  have walked := after_objects 0 .initial
    (fun object member => known object (List.mem_of_mem_take member))
    (fun object member => long object (List.mem_of_mem_take member)) front inside small
  rwa [List.length_take_of_le within, Nat.zero_add] at walked

/-- Behind the last of them it stands at the end. -/
theorem folded_done (objects : List PcmmObject) :
    reportGuard (totalSize objects) ⟨totalSize objects, objects.foldl applyObject .initial⟩ =
      false :=
  reportGuard_done_iff.mpr (Nat.le_refl _)

theorem decodes_of_long {objects : List PcmmObject}
    (known : forall object, object ∈ objects -> object.Known)
    (long : forall object, object ∈ objects -> object.Long)
    (holds : report.Holds 0 (encode objects)) (small : totalSize objects < 65536) :
    Decodes report (totalSize objects) (objects.foldl applyObject .initial) := by
  have last := after_take known long holds small (Nat.le_refl objects.length)
  rw [List.take_length] at last
  exact ⟨_, ⟨objects.length, Loop.run_of_after last (folded_done objects)⟩, rfl⟩

end Walk

/-- `ps_pcmm_report` on these objects: after `k` iterations it stands behind the
`k`-th object with the fold of the first `k`, the last of them ends the loop, and
the index of the caller is behind all of them. -/
structure Folds (buf : Memory) (ptr : Nat) (rptLength : UInt16) (objects : List PcmmObject) :
    Prop where
  visits : forall k, k ≤ objects.length ->
    Loop.after (reportGuard (sizeT (rptLength.toNat - 4))) (reportBody (buf.shift ptr)) k .initial =
      some ⟨totalSize (objects.take k), (objects.take k).foldl applyObject .initial⟩
  entered : forall k, k < objects.length ->
    reportGuard (sizeT (rptLength.toNat - 4))
      ⟨totalSize (objects.take k), (objects.take k).foldl applyObject .initial⟩ = true
  ends : reportGuard (sizeT (rptLength.toNat - 4))
    ⟨totalSize objects, objects.foldl applyObject .initial⟩ = false
  result : psPcmmReport buf ptr rptLength =
    some (ptr + (rptLength.toNat - 4), (objects.foldl applyObject .initial).action)

/-- Every object of a report of known objects is decoded once, in order, at its
own boundary. -/
theorem psPcmmReport_folds {buf : Memory} {ptr : Nat} {rptLength : UInt16}
    {objects : List PcmmObject} (nonempty : objects ≠ [])
    (known : forall object, object ∈ objects -> object.Known)
    (long : forall object, object ∈ objects -> object.Long)
    (stored : buf.Holds ptr (encode objects))
    (length : rptLength.toNat = totalSize objects + 4)
    (fits : ptr + totalSize objects ≤ bufferSize) : Folds buf ptr rptLength objects := by
  have bound := rptLength.toNat_lt
  have small : totalSize objects + 4 < 65536 := by omega
  have counted : rptLength = PolicyServer.rptLength (totalSize objects) := by
    apply UInt16.toNat_inj.mp
    rw [PolicyServer.rptLength, UInt16.toNat_ofNat_of_lt' small, length]
  have endIdx : sizeT (rptLength.toNat - 4) = totalSize objects := by
    rw [counted, sizeT_rptLength small]
  have report : (buf.shift ptr).Holds 0 (encode objects) := Memory.shift_holds.mpr stored
  have visits : forall k, k ≤ objects.length ->
      Loop.after (reportGuard (totalSize objects)) (reportBody (buf.shift ptr)) k .initial =
        some ⟨totalSize (objects.take k), (objects.take k).foldl applyObject .initial⟩ :=
    fun k within => after_take known long report (by omega) within
  have decodes := decodes_of_long known long report (by omega)
  have room : ptr + totalSize objects < 65536 :=
    Nat.lt_of_le_of_lt fits (by decide)
  refine ⟨endIdx ▸ visits, ?_, endIdx ▸ folded_done objects, ?_⟩
  · intro k within
    rw [endIdx]
    apply reportGuard_iff.mpr
    show totalSize (objects.take k) < totalSize objects
    have sum := totalSize_take_drop objects k
    have size := (objects[k]).size_pos
    rw [List.drop_eq_getElem_cons within, totalSize_cons] at sum
    omega
  · rw [counted, psPcmmReport_of_decodes decodes (totalSize_pos nonempty) small (by omega),
      ← counted, length, Nat.add_sub_cancel]

/-- The responses of a CMTS to a Gate-Set, with a legacy classifier in front of a
gate spec: both have ToS fields. -/
def gateSetAck : List PcmmObject :=
  [{ major := 1, minor := 1, body := [0, 7, 0, 5]
     aligned := ⟨1, rfl⟩, enough := Nat.le_add_left 4 0, fits := Nat.le_of_ble_eq_true rfl },
    { major := 2, minor := 1, body := [13, 146, 0, 0]
      aligned := ⟨1, rfl⟩, enough := Nat.le_add_left 4 0, fits := Nat.le_of_ble_eq_true rfl },
    { major := 4, minor := 1, body := [0, 0, 1, 2]
      aligned := ⟨1, rfl⟩, enough := Nat.le_add_left 4 0, fits := Nat.le_of_ble_eq_true rfl },
    { major := 6, minor := 1, body := [0, 6, 1, 2, 10, 0, 0, 1, 10, 0, 0, 2, 0, 80, 0, 81, 0, 1, 64, 0]
      aligned := ⟨5, rfl⟩, enough := Nat.le_add_left 4 16, fits := Nat.le_of_ble_eq_true rfl },
    { major := 5, minor := 1, body := [1, 8, 255, 0, 0, 30, 0, 0, 0, 0, 0, 60]
      aligned := ⟨3, rfl⟩, enough := Nat.le_add_left 4 8, fits := Nat.le_of_ble_eq_true rfl }]

/-- The gate spec wins. -/
theorem gateSetAck_folds :
    Folds (Memory.write (fun _ => 0) 12 (encode gateSetAck)) 12 68 gateSetAck ∧
      (gateSetAck.foldl applyObject .initial).rpt.tosf = 8 :=
  ⟨psPcmmReport_folds (by decide) (by decide +kernel) (by decide +kernel)
    (Memory.write_holds _ 12 _) (by decide) (by decide), by decide +kernel⟩

end PolicyServer
