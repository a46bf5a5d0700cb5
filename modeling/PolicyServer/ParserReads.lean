import PolicyServer.Lib.Reading
import PolicyServer.ParserTermination

namespace PolicyServer

open Lib

/-!
# What the parsers read

The readers, decoders and object loops of the receiver again, byte by byte, so
that the places they read from are known; run on a memory each has the value of
its namesake.  Nothing compares a length field with the bytes received, so where
the loops read is decided by the places the length fields lead to, and by the
fields of the decoders there.  `readsInside_iff` says when all of it is in the
buffer.
-/

/-! ## Readers -/

def readU16 (i : Nat) : Reading UInt16 := do
  let high <- .byte i
  let low <- .byte (i + 1)
  return high.toUInt16 <<< 8 ||| low.toUInt16

def readN (i : Nat) : Reading UInt32 := do
  let first <- .byte i
  let second <- .byte (i + 1)
  let third <- .byte (i + 2)
  let fourth <- .byte (i + 3)
  return first.toUInt32 <<< 24 ||| second.toUInt32 <<< 16 ||| third.toUInt32 <<< 8 |||
    fourth.toUInt32

def readU8It (ptr : Nat) : Reading (UInt8 × Nat) := do
  let value <- .byte ptr
  return (value, sizeT (ptr + 1))

def readU16It (ptr : Nat) : Reading (UInt16 × Nat) := do
  let value <- readU16 ptr
  return (value, sizeT (ptr + 2))

/-- `memcpy` takes eight bytes, of which `ntohl` looks at four. -/
def readAtog : Reading UInt32 := do
  let low <- readN 0
  let _high <- readN 4
  return low

/-! ## Decoders -/

def readGate (report : PcmmRpt) : Reading PcmmRpt := do
  let flags <- .byte 0
  let tosf <- .byte 1
  let tosm <- .byte 2
  let cls <- .byte 3
  let t1 <- readU16 4
  let t2 <- readU16 6
  let t3 <- readU16 8
  let t4 <- readU16 10
  return { report with flags, tosf, tosm, cls, t1, t2, t3, t4 }

def readLegacy (report : PcmmRpt) : Reading (PcmmRpt × Int) := do
  let protoId <- readU16 0
  let tosf <- .byte 2
  let tosm <- .byte 3
  let srcIp <- readN 4
  let dstIp <- readN 8
  let srcPortStart <- readU16 12
  let dstPortStart <- readU16 14
  return ({ report with protoId, tosf, tosm, srcIp, dstIp, srcPortStart, dstPortStart }, 0)

def readExtended (report : PcmmRpt) : Reading (PcmmRpt × Int) := do
  let protoId <- readU16 0
  let tosf <- .byte 2
  let tosm <- .byte 3
  let srcIp <- readN 4
  let srcMk <- readN 8
  let dstIp <- readN 12
  let dstMk <- readN 16
  let srcPortStart <- readU16 20
  let srcPortEnd <- readU16 22
  let dstPortStart <- readU16 24
  let dstPortEnd <- readU16 26
  let classifierId <- readU16 28
  let priority <- .byte 30
  let state <- .byte 31
  let action <- .byte 32
  return ({ report with
    protoId, tosf, tosm, srcIp, srcMk, dstIp, dstMk, srcPortStart, srcPortEnd, dstPortStart,
    dstPortEnd, classifierId, priority, state, action }, 1)

def readDecode (decoded : Decoded) (major minor : UInt8) : Reading Decoded :=
  if pcmmIsGateid major minor then do
    let gateId <- readAtog
    return { decoded with rpt := { decoded.rpt with gateId } }
  else if pcmmIsGatespec major minor then do
    let rpt <- readGate decoded.rpt
    return { decoded with rpt }
  else if pcmmIsClassifier major then
    match minor.toNat with
    | 1 => do
        let (rpt, classifierType) <- readLegacy decoded.rpt
        return { decoded with rpt, classifierType }
    | 2 => do
        let (rpt, classifierType) <- readExtended decoded.rpt
        return { decoded with rpt, classifierType }
    | _ => return decoded
  else do
    let code <- readU16 0
    let subc <- readU16 2
    return match major.toNat with
      | 1 => { decoded with rpt := pcmmDecodeTransaction decoded.rpt code subc }
      | 2 => { decoded with rpt := pcmmDecodeApplication decoded.rpt code subc }
      | 14 => { decoded with rpt := pcmmDecodeError decoded.rpt code subc }
      | 15 => { decoded with reportRequired := pcmmGatestateRpt code subc }
      | _ => decoded

/-! ## Iterations -/

def readReport (state : ReportState) : Reading ReportState := do
  let (len, idx) <- readU16It state.rptIdx
  let (major, idx) <- readU8It idx
  let (minor, idx) <- readU8It idx
  if !pcmmKnown major minor then
    return { state with rptIdx := idx }
  else
    let decoded <- (readDecode state.decoded major minor).behind idx
    return { rptIdx := sizeT (idx + (len.toNat - 4 : Int)), decoded }

/-- The four bytes copied into `handle`. -/
def readHandle : Reading (List UInt8) := do
  let first <- .byte 0
  let second <- .byte 1
  let third <- .byte 2
  let fourth <- .byte 3
  return [first, second, third, fourth]

/-- What an iteration of the object loop comes to: the next one, or a call of
`ps_pcmm_report`, which reads for itself. -/
inductive Iteration where
  | next (state : DispatchState)
  | report (idx : Nat) (len : UInt16)

def readObject (opc : UInt8) (state : DispatchState) : Reading Iteration := do
  let (len, idx) <- readU16It state.idx
  let (cnv, idx) <- readU8It idx
  let (ctv, idx) <- readU8It idx
  if !copsClassOk cnv ctv then
    return .next { state with idx }
  else if cnv == 9 && opc == 3 then
    return .report idx len
  else if cnv == 1 && !state.self.uuidReceived then
    let handle <- readHandle.behind idx
    return .next { state with
      idx := sizeT (idx + 4)
      self := { handle, uuidReceived := true }
      acts := state.acts ++ [.handle idx handle] }
  else if cnv == 8 then
    return .next { state with idx, acts := state.acts ++ [.packetCableError idx] }
  else
    return .next { state with idx }

section Values

variable {memory : Memory}

theorem eval_readGate (report : PcmmRpt) :
    (readGate report).eval memory = pcmmDecodeGate report memory := rfl

theorem eval_readLegacy (report : PcmmRpt) :
    (readLegacy report).eval memory = pcmmDecodeClassifier report memory := rfl

theorem eval_readExtended (report : PcmmRpt) :
    (readExtended report).eval memory = pcmmDecodeExtended report memory := rfl

theorem eval_readAtog : readAtog.eval memory = atog memory := rfl

/-- The value is that of the decoders. -/
theorem eval_readDecode (decoded : Decoded) (major minor : UInt8) :
    (readDecode decoded major minor).eval memory = psPcmmDecode decoded memory major minor := by
  unfold readDecode psPcmmDecode
  cases pcmmIsGateid major minor with
  | true => rfl
  | false =>
      cases pcmmIsGatespec major minor with
      | true => rfl
      | false =>
          cases pcmmIsClassifier major with
          | true =>
              rcases minor.toNat with _ | _ | _ | more <;> rfl
          | false => rfl

theorem eval_readU8It (ptr : Nat) : (readU8It ptr).eval memory = unpackU8It memory ptr := rfl

theorem eval_readU16It (ptr : Nat) : (readU16It ptr).eval memory = unpackU16It memory ptr := rfl

/-- The value of an iteration is that of the loop's. -/
theorem eval_readReport (state : ReportState) :
    reportBody memory state = some ((readReport state).eval memory) := by
  cases known : pcmmKnown (memory (sizeT (state.rptIdx + 2)))
      (memory (sizeT (sizeT (state.rptIdx + 2) + 1))) with
  | false =>
      simp only [readReport, reportBody, Reading.eval_bind, eval_readU8It, eval_readU16It,
        unpackU8It, unpackU16It, known, Bool.not_false, if_true, Reading.eval_pure]
  | true =>
      simp only [readReport, reportBody, Reading.eval_bind, eval_readU8It, eval_readU16It,
        unpackU8It, unpackU16It, known, Bool.not_true, Bool.false_eq_true, if_false,
        Reading.eval_behind, eval_readDecode, Reading.eval_pure]

theorem eval_readObject (opc : UInt8) (state : DispatchState) :
    dispatchBody memory opc state =
      match (readObject opc state).eval memory with
      | .next after => some after
      | .report idx len => (psPcmmReport memory idx len).map fun result =>
          { state with
            idx := result.1
            acts := state.acts ++ [.report idx len (memory.read idx (len.toNat - 4))]
            files := state.files ++ result.2.toList } := by
  cases classed : copsClassOk (memory (sizeT (state.idx + 2)))
      (memory (sizeT (sizeT (state.idx + 2) + 1))) with
  | false =>
      simp only [readObject, dispatchBody, Reading.eval_bind, eval_readU8It, eval_readU16It,
        unpackU8It, unpackU16It, classed, Bool.not_false, if_true, Reading.eval_pure]
  | true =>
      cases report : memory (sizeT (state.idx + 2)) == 9 && opc == 3 with
      | true =>
          simp only [readObject, dispatchBody, Reading.eval_bind, eval_readU8It, eval_readU16It,
            unpackU8It, unpackU16It, classed, report, Bool.not_true, Bool.false_eq_true, if_false,
            if_true, Reading.eval_pure]
          cases psPcmmReport memory (sizeT (sizeT (sizeT (state.idx + 2) + 1) + 1))
            (unpackU16 memory state.idx) <;> rfl
      | false =>
          cases handle : memory (sizeT (state.idx + 2)) == 1 && !state.self.uuidReceived <;>
            cases error : memory (sizeT (state.idx + 2)) == 8 <;>
            simp only [readObject, dispatchBody, Reading.eval_bind, eval_readU8It, eval_readU16It,
              unpackU8It, unpackU16It, classed, report, handle, error, Bool.not_true,
              Bool.false_eq_true, if_false, if_true, Reading.eval_behind, Reading.eval_pure] <;>
            rfl

end Values

/-! ## How far they read -/

/-- How many bytes of its body the decoder of an object reads. -/
def decodeExtent (major minor : UInt8) : Nat :=
  if pcmmIsGateid major minor then 8
  else if pcmmIsGatespec major minor then 12
  else if pcmmIsClassifier major then
    match minor.toNat with
    | 1 => 16
    | 2 => 33
    | _ => 0
  else 4

/-- How many bytes an iteration of `ps_pcmm_report` reads. -/
def reportExtent (report : Memory) (idx : Nat) : Nat :=
  if knownAt report idx then 4 + decodeExtent (report (idx + 2)) (report (idx + 3)) else 4

/-- How many bytes an iteration of the object loop reads for itself. -/
def dispatchExtent (buf : Memory) (opc : UInt8) (uuidReceived : Bool) (idx : Nat) : Nat :=
  if actAt buf opc uuidReceived idx = some .handle then 8 else 4

section Extents

variable {memory : Memory} {bound : Nat}

theorem below_readU16_iff {i : Nat} : (readU16 i).Below memory bound ↔ i + 2 ≤ bound := by
  simp only [readU16, Reading.below_bind_iff, Reading.below_byte_iff, Reading.below_pure_iff, and_true]
  omega

theorem below_readN_iff {i : Nat} : (readN i).Below memory bound ↔ i + 4 ≤ bound := by
  simp only [readN, Reading.below_bind_iff, Reading.below_byte_iff, Reading.below_pure_iff, and_true]
  omega

theorem below_readGate_iff {report : PcmmRpt} :
    (readGate report).Below memory bound ↔ 12 ≤ bound := by
  simp only [readGate, Reading.below_bind_iff, Reading.below_byte_iff, Reading.below_pure_iff,
    below_readU16_iff, and_true]
  omega

theorem below_readLegacy_iff {report : PcmmRpt} :
    (readLegacy report).Below memory bound ↔ 16 ≤ bound := by
  simp only [readLegacy, Reading.below_bind_iff, Reading.below_byte_iff,
    Reading.below_pure_iff, below_readU16_iff, below_readN_iff, and_true]
  omega

theorem below_readExtended_iff {report : PcmmRpt} :
    (readExtended report).Below memory bound ↔ 33 ≤ bound := by
  simp only [readExtended, Reading.below_bind_iff, Reading.below_byte_iff, Reading.below_pure_iff,
    below_readU16_iff, below_readN_iff, and_true]
  omega

theorem below_readAtog_iff : readAtog.Below memory bound ↔ 8 ≤ bound := by
  simp only [readAtog, Reading.below_bind_iff, Reading.below_pure_iff, below_readN_iff, and_true]
  omega

theorem below_readDecode_iff {decoded : Decoded} {major minor : UInt8} :
    (readDecode decoded major minor).Below memory bound ↔ decodeExtent major minor ≤ bound := by
  unfold readDecode decodeExtent
  cases pcmmIsGateid major minor with
  | true =>
      simp only [if_true, Reading.below_bind_iff, Reading.below_pure_iff, below_readAtog_iff,
        and_true]
  | false =>
      cases pcmmIsGatespec major minor with
      | true =>
          simp only [Bool.false_eq_true, if_false, if_true, Reading.below_bind_iff,
            Reading.below_pure_iff, below_readGate_iff, and_true]
      | false =>
          cases pcmmIsClassifier major with
          | true =>
              rcases minor.toNat with _ | _ | _ | more
              · exact ⟨fun _ => Nat.zero_le _, fun _ => Reading.below_pure_iff.mpr trivial⟩
              · simp only [Bool.false_eq_true, if_false, if_true, Reading.below_bind_iff,
                  Reading.below_pure_iff, below_readLegacy_iff, and_true]
              · simp only [Bool.false_eq_true, if_false, if_true, Reading.below_bind_iff,
                  Reading.below_pure_iff, below_readExtended_iff, and_true]
              · exact ⟨fun _ => Nat.zero_le _, fun _ => Reading.below_pure_iff.mpr trivial⟩
          | false =>
              simp only [Bool.false_eq_true, if_false, Reading.below_bind_iff,
                Reading.below_pure_iff, below_readU16_iff, and_true]
              omega

/-- A known object has fields. -/
theorem decodeExtent_pos {major minor : UInt8} (known : pcmmKnown major minor = true) :
    0 < decodeExtent major minor := by
  have minors : minor.toNat = 1 ∨ minor.toNat = 2 := by
    simp only [pcmmKnown, Bool.not_eq_true', Bool.or_eq_false_iff, beq_eq_false_iff_ne,
      decide_eq_false_iff_not] at known
    have positive : minor.toNat ≠ 0 := fun zero => known.1.2 (UInt8.toNat_inj.mp zero)
    omega
  unfold decodeExtent
  cases pcmmIsGateid major minor with
  | true => exact Nat.succ_pos 7
  | false =>
      cases pcmmIsGatespec major minor with
      | true => exact Nat.succ_pos 11
      | false =>
          cases pcmmIsClassifier major with
          | true => rcases minors with one | two <;> simp only [*] <;> decide
          | false => exact Nat.succ_pos 3

theorem below_readU8It_iff {ptr : Nat} : (readU8It ptr).Below memory bound ↔ ptr < bound := by
  simp only [readU8It, Reading.below_bind_iff, Reading.below_byte_iff, Reading.below_pure_iff,
    and_true]

theorem below_readU16It_iff {ptr : Nat} :
    (readU16It ptr).Below memory bound ↔ ptr + 2 ≤ bound := by
  simp only [readU16It, Reading.below_bind_iff, below_readU16_iff, Reading.below_pure_iff,
    and_true]

theorem below_readHandle_iff : readHandle.Below memory bound ↔ 4 ≤ bound := by
  simp only [readHandle, Reading.below_bind_iff, Reading.below_byte_iff, Reading.below_pure_iff,
    and_true]
  omega

theorem below_readReport_iff {state : ReportState}
    (small : state.rptIdx + 4 < 18446744073709551616) :
    (readReport state).Below memory bound ↔
      state.rptIdx + reportExtent memory state.rptIdx ≤ bound := by
  have word : sizeT (state.rptIdx + 2) = state.rptIdx + 2 := sizeT_add_two (by omega)
  have major : sizeT ((state.rptIdx + 2 : Nat) + 1) = state.rptIdx + 3 := sizeT_succ (by omega)
  have minor : sizeT ((state.rptIdx + 3 : Nat) + 1) = state.rptIdx + 4 := sizeT_succ (by omega)
  cases known : pcmmKnown (memory (state.rptIdx + 2)) (memory (state.rptIdx + 3)) with
  | false =>
      simp only [readReport, Reading.below_bind_iff, below_readU16It_iff, below_readU8It_iff,
        eval_readU16It, eval_readU8It, unpackU16It, unpackU8It, reportExtent, knownAt, word, major,
        minor, known, Bool.not_false, Bool.false_eq_true, if_true, if_false,
        Reading.below_pure_iff, and_true]
      omega
  | true =>
      have positive := decodeExtent_pos known
      have body : ((readDecode state.decoded (memory (state.rptIdx + 2))
            (memory (state.rptIdx + 3))).behind (state.rptIdx + 4)).Below memory bound ↔
          state.rptIdx + 4 + decodeExtent (memory (state.rptIdx + 2)) (memory (state.rptIdx + 3)) ≤
            bound :=
        Reading.below_behind_iff positive fun _ => below_readDecode_iff
      simp only [readReport, Reading.below_bind_iff, below_readU16It_iff, below_readU8It_iff,
        eval_readU16It, eval_readU8It, unpackU16It, unpackU8It, reportExtent, knownAt, word, major,
        minor, known, Bool.not_true, Bool.false_eq_true, if_true, if_false, body,
        Reading.below_pure_iff, and_true]
      omega

theorem below_readObject_iff {opc : UInt8} {state : DispatchState}
    (small : state.idx + 4 < 18446744073709551616) :
    (readObject opc state).Below memory bound ↔
      state.idx + dispatchExtent memory opc state.self.uuidReceived state.idx ≤ bound := by
  have word : sizeT (state.idx + 2) = state.idx + 2 := sizeT_add_two (by omega)
  have cnv : sizeT ((state.idx + 2 : Nat) + 1) = state.idx + 3 := sizeT_succ (by omega)
  have ctv : sizeT ((state.idx + 3 : Nat) + 1) = state.idx + 4 := sizeT_succ (by omega)
  have header : state.idx + 2 ≤ bound ∧ state.idx + 2 < bound ∧ state.idx + 3 < bound ↔
      state.idx + 4 ≤ bound := by
    omega
  have copied : (readHandle.behind (state.idx + 4)).Below memory bound ↔
      state.idx + 4 + 4 ≤ bound :=
    Reading.below_behind_iff (Nat.succ_pos 3) fun _ => below_readHandle_iff
  unfold dispatchExtent actAt actKind
  cases classed : copsClassOk (memory (state.idx + 2)) (memory (state.idx + 3)) with
  | false =>
      simp only [readObject, Reading.below_bind_iff, below_readU16It_iff, below_readU8It_iff,
        eval_readU16It, eval_readU8It, unpackU16It, unpackU8It, word, cnv, ctv, classed,
        Bool.not_false, if_true, Reading.below_pure_iff, and_true, header, reduceCtorEq, if_false]
  | true =>
      cases report : memory (state.idx + 2) == 9 && opc == 3 <;>
        cases handle : memory (state.idx + 2) == 1 && !state.self.uuidReceived <;>
        cases error : memory (state.idx + 2) == 8 <;>
        simp only [readObject, Reading.below_bind_iff, below_readU16It_iff, below_readU8It_iff,
          eval_readU16It, eval_readU8It, unpackU16It, unpackU8It, word, cnv, ctv, classed, report,
          handle, error, Bool.not_true, Bool.false_eq_true, if_true, if_false, copied,
          Reading.below_pure_iff, and_true, header, Option.some.injEq, reduceCtorEq] <;>
        omega


end Extents

/-! ## Inside the buffer -/

/-- Every iteration of the object loop, and of the loop of `ps_pcmm_report` where
it is called, reads inside the buffer. -/
structure ReadsInside (buf : Memory) (opc : UInt8) (bytes : Nat) (session : Session) : Prop where
  objects : forall state,
    Loop.Visits (dispatchGuard bytes) (dispatchBody buf opc) (dispatchStart session) state ->
    state.idx < bytes -> (readObject opc state).Below buf bufferSize
  reports : forall state,
    Loop.Visits (dispatchGuard bytes) (dispatchBody buf opc) (dispatchStart session) state ->
    state.idx < bytes -> actAt buf opc state.self.uuidReceived state.idx = some .report ->
    forall walk,
      Loop.Visits (reportGuard (reportEnd buf state.idx)) (reportBody (buf.shift (state.idx + 4)))
        .initial walk ->
      walk.rptIdx < reportEnd buf state.idx ->
      ((readReport walk).behind (state.idx + 4)).Below buf bufferSize

/-- Every object that is reached has its header in the buffer, a handle that is
taken too, and every PCMM object of a report its header and the fields of its
decoder. -/
structure ObjectsInside (buf : Memory) (opc : UInt8) (bytes : Nat) (uuidReceived : Bool) :
    Prop where
  objects : forall idx uuid, DispatchReaches buf opc bytes uuidReceived idx uuid -> idx < bytes ->
    idx + dispatchExtent buf opc uuid idx ≤ bufferSize
  reports : forall idx uuid, DispatchReaches buf opc bytes uuidReceived idx uuid -> idx < bytes ->
    actAt buf opc uuid idx = some .report ->
    forall rptIdx, ReportReaches (buf.shift (idx + 4)) (reportEnd buf idx) rptIdx ->
      rptIdx < reportEnd buf idx ->
      idx + 4 + (rptIdx + reportExtent (buf.shift (idx + 4)) rptIdx) ≤ bufferSize

section Inside

variable {buf : Memory} {opc : UInt8} {bytes : Nat} {self : Session}

theorem four_le_reportExtent (report : Memory) (idx : Nat) : 4 ≤ reportExtent report idx := by
  unfold reportExtent
  split <;> omega

/-- Where an iteration of `ps_pcmm_report` reads, behind a pointer. -/
theorem below_behind_readReport_iff {ptr bound : Nat} {walk : ReportState}
    (small : walk.rptIdx + 4 < 18446744073709551616) :
    ((readReport walk).behind ptr).Below buf bound ↔
      ptr + (walk.rptIdx + reportExtent (buf.shift ptr) walk.rptIdx) ≤ bound := by
  have extent := four_le_reportExtent (buf.shift ptr) walk.rptIdx
  exact Reading.below_behind_iff (by omega) fun _ => below_readReport_iff small

/-- An iteration that reads inside the buffer is far from the top of `size_t`. -/
theorem rptIdx_of_below {ptr : Nat} {walk : ReportState}
    (below : ((readReport walk).behind ptr).Below buf bufferSize) : walk.rptIdx < bufferSize := by
  have first : walk.rptIdx ∈ (readReport walk).places (buf.shift ptr) := by
    rw [readReport, Reading.places_bind]
    exact List.mem_append_left _ List.mem_cons_self
  have small := below (ptr + walk.rptIdx) (by
    rw [Reading.places_behind]
    exact List.mem_map_of_mem first)
  omega

theorem objectsInside_of_readsInside (small : bytes ≤ 4294967296)
    (reads : ReadsInside buf opc bytes self) :
    ObjectsInside buf opc bytes self.uuidReceived where
  objects := by
    intro idx uuid reaches inside
    rcases visits_of_dispatchReaches small reaches with ⟨state, rfl, rfl, visits⟩
    exact (below_readObject_iff (by omega)).mp (reads.objects state visits inside)
  reports := by
    intro idx uuid reaches inside report rptIdx led within
    rcases visits_of_dispatchReaches small reaches with ⟨state, rfl, rfl, visits⟩
    have walks := reads.reports state visits inside report
    have far : forall walk : ReportState, walk.rptIdx < bufferSize ->
        walk.rptIdx + 4 < 18446744073709551616 ∧
          walk.rptIdx + reportStride (buf.shift (state.idx + 4)) walk.rptIdx <
            18446744073709551616 := by
      intro walk close
      have short := reportStride_lt (buf.shift (state.idx + 4)) walk.rptIdx
      unfold bufferSize at close
      omega
    rcases visits_of_reportReaches (fun walk visits within =>
        (far walk (rptIdx_of_below (walks walk visits within))).2) led with ⟨walk, rfl, visits⟩
    have below := walks walk visits within
    exact (below_behind_readReport_iff (far walk (rptIdx_of_below below)).1).mp below

theorem readsInside_of_objectsInside (small : bytes ≤ 4294967296)
    (inside : ObjectsInside buf opc bytes self.uuidReceived) :
    ReadsInside buf opc bytes self where
  objects := by
    intro state visits entered
    exact (below_readObject_iff (by omega)).mpr
      (inside.objects _ _ (dispatchReaches_of_visits small visits) entered)
  reports := by
    intro state visits entered report walk walked within
    have ends := inside.reports _ _ (dispatchReaches_of_visits small visits) entered report
    have close : forall rptIdx,
        ReportReaches (buf.shift (state.idx + 4)) (reportEnd buf state.idx) rptIdx ->
        rptIdx < reportEnd buf state.idx -> rptIdx < bufferSize := by
      intro rptIdx led within
      have enough := ends rptIdx led within
      have extent := four_le_reportExtent (buf.shift (state.idx + 4)) rptIdx
      omega
    have led : ReportReaches (buf.shift (state.idx + 4)) (reportEnd buf state.idx) walk.rptIdx := by
      refine reportReaches_of_visits (fun rptIdx led within => ?_) walked
      have near := close rptIdx led within
      have short := reportStride_lt (buf.shift (state.idx + 4)) rptIdx
      unfold bufferSize at near
      omega
    have near := close walk.rptIdx led within
    refine (below_behind_readReport_iff ?_).mpr (ends walk.rptIdx led within)
    unfold bufferSize at near
    omega

/-- What lies behind the buffer does not matter to a report that is read inside. -/
theorem psPcmmReport_congr {left right : Memory} {ptr bound : Nat} {rptLength : UInt16}
    (inside : forall walk,
      Loop.Visits (reportGuard (sizeT (rptLength.toNat - 4))) (reportBody (left.shift ptr)) .initial
        walk ->
      reportGuard (sizeT (rptLength.toNat - 4)) walk = true ->
      ((readReport walk).behind ptr).Below left bound)
    (same : forall i, i < bound -> left i = right i) :
    psPcmmReport left ptr rptLength = psPcmmReport right ptr rptLength := by
  have iterations : forall walk,
      Loop.Visits (reportGuard (sizeT (rptLength.toNat - 4))) (reportBody (left.shift ptr)) .initial
        walk ->
      reportGuard (sizeT (rptLength.toNat - 4)) walk = true ->
      reportBody (left.shift ptr) walk = reportBody (right.shift ptr) walk := by
    intro walk visits entered
    have values := Reading.eval_congr ((readReport walk).behind ptr)
      fun place member => same place (inside walk visits entered place member)
    rw [Reading.eval_behind, Reading.eval_behind] at values
    rw [eval_readReport, eval_readReport, values]
  simp only [psPcmmReport, Loop.run_congr iterations]

end Inside

/-- The parsers read inside the buffer exactly if what the length fields lead to
lies in it. -/
theorem readsInside_iff (buf : Memory) (opc : UInt8) (bytes : UInt32) (self : Session) :
    ReadsInside buf opc bytes.toNat self ↔
      ObjectsInside buf opc bytes.toNat self.uuidReceived :=
  ⟨objectsInside_of_readsInside (Nat.le_of_lt bytes.toNat_lt),
    readsInside_of_objectsInside (Nat.le_of_lt bytes.toNat_lt)⟩

/-- A Report-State whose report claims 65535 bytes, and its Transaction ID 65528. -/
def overlongReport : List UInt8 :=
  [16, 3, 128, 10, 0, 0, 0, 20, 255, 255, 9, 1, 255, 248, 1, 1, 0, 7, 0, 5]

/-- Behind it the walk goes on past the end of the buffer. -/
theorem overlongReport_reads_outside :
    ¬ ReadsInside (Memory.write (fun _ => 0) 0 overlongReport) 3 20 ⟨[0, 0, 0, 0], true⟩ := by
  intro reads
  have objects := (objectsInside_of_readsInside (by decide) reads).reports 8 true .first (by decide)
    (by decide)
  have past := objects _ (.next .first (by decide)) (by decide)
  revert past
  decide

end PolicyServer
