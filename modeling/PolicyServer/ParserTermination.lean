import PolicyServer.Receive

namespace PolicyServer

open Lib

/-!
# Where the parsers get to

Both object loops of the receiver advance by what the bytes say: the loop of
`ps_recvd` by the length of a Client-Specific-Info object in a report, and the
loop of `ps_pcmm_report` by the length of every object it knows.  `DispatchReaches`
and `ReportReaches` are the places the length fields lead to, as a matter of the
bytes alone; `MessageEnds` and `ReportEnds` are that they lead out.

A length of 0 leads nowhere.  A ClientSI length below 4 makes the end of the walk
a number close to 2^64, so there the index may also run over the top of
`size_t`.  `parsersTerminate_iff` says that nothing else keeps a loop from
advancing at every iteration, and from ending.
-/

theorem sizeT_add {left right : Nat} (small : left + right < 18446744073709551616) :
    sizeT (left + right) = left + right := by
  unfold sizeT
  omega

theorem sizeT_lt (value : Int) : sizeT value < 18446744073709551616 := by
  unfold sizeT
  omega

/-- An index carried over the top is smaller than before. -/
theorem sizeT_add_of_lt {left right : Nat} (further : left < sizeT (left + right))
    (short : right < 65536) : sizeT (left + right) = left + right := by
  unfold sizeT at *
  omega

/-! ## The walk over a report -/

/-- The header at an index is that of an object the walk knows. -/
def knownAt (report : Memory) (idx : Nat) : Bool :=
  pcmmKnown (report (sizeT (idx + 2))) (report (sizeT (sizeT (idx + 2) + 1)))

/-- How far an iteration goes. -/
def reportStride (report : Memory) (idx : Nat) : Nat :=
  if knownAt report idx then (unpackU16 report idx).toNat else 4

/-- The places that the length fields of a report lead to. -/
inductive ReportReaches (report : Memory) (endIdx : Nat) : Nat -> Prop
  | first : ReportReaches report endIdx 0
  | next {idx : Nat} (before : ReportReaches report endIdx idx) (inside : idx < endIdx) :
      ReportReaches report endIdx (idx + reportStride report idx)

/-- The places that they lead to where an index over the top of `size_t` starts again at
the bottom. -/
inductive ReportWraps (report : Memory) (endIdx : Nat) : Nat -> Prop
  | first : ReportWraps report endIdx 0
  | next {idx : Nat} (before : ReportWraps report endIdx idx) (inside : idx < endIdx) :
      ReportWraps report endIdx (sizeT (idx + reportStride report idx))

/-- The length fields of a report lead out of it. -/
def ReportEnds (report : Memory) (endIdx : Nat) : Prop :=
  Exists fun idx => ReportWraps report endIdx idx ∧ endIdx ≤ idx

/-- An object the walk knows, of length 0. -/
def Empty (report : Memory) (idx : Nat) : Prop :=
  knownAt report idx = true ∧ unpackU16 report idx = 0

/-- No object that the walk gets to is empty, or leads over the top of `size_t`. -/
def ReportSound (report : Memory) (endIdx : Nat) : Prop :=
  forall idx, ReportReaches report endIdx idx -> idx < endIdx ->
    ¬ Empty report idx ∧ idx + reportStride report idx < 18446744073709551616

theorem reportStride_pos_iff {report : Memory} {idx : Nat} :
    0 < reportStride report idx ↔ ¬ Empty report idx := by
  unfold reportStride Empty
  cases known : knownAt report idx with
  | false =>
      simp only [Bool.false_eq_true, if_false, false_and, not_false_iff, iff_true]
      decide
  | true =>
      simp only [if_true, true_and, ← UInt16.toNat_inj]
      exact Nat.pos_iff_ne_zero

theorem reportStride_lt (report : Memory) (idx : Nat) : reportStride report idx < 65536 := by
  have length := (unpackU16 report idx).toNat_lt
  unfold reportStride
  split
  · exact length
  · decide

/-- One iteration moves the index by its stride. -/
theorem reportBody_index (report : Memory) (state : ReportState) :
    Exists fun decoded => reportBody report state =
      some ⟨sizeT (state.rptIdx + reportStride report state.rptIdx), decoded⟩ := by
  have behind : sizeT (sizeT (sizeT (state.rptIdx + 2) + 1) + 1) = sizeT (state.rptIdx + 4) := by
    unfold sizeT
    omega
  have next : sizeT (sizeT (state.rptIdx + 4) + ((unpackU16 report state.rptIdx).toNat - 4 : Int)) =
      sizeT (state.rptIdx + (unpackU16 report state.rptIdx).toNat) := by
    unfold sizeT
    omega
  cases known : knownAt report state.rptIdx with
  | false =>
      refine ⟨state.decoded, ?_⟩
      rw [knownAt] at known
      simp only [reportBody, unpackU16It, unpackU8It, reportStride, knownAt, known, behind,
        Bool.not_false, Bool.false_eq_true, if_true, if_false]
      rfl
  | true =>
      rw [knownAt] at known
      refine ⟨psPcmmDecode state.decoded (report.shift (sizeT (state.rptIdx + 4)))
        (report (sizeT (state.rptIdx + 2))) (report (sizeT (sizeT (state.rptIdx + 2) + 1))), ?_⟩
      simp only [reportBody, unpackU16It, unpackU8It, reportStride, knownAt, known, behind, next,
        Bool.not_true, Bool.false_eq_true, if_true, if_false]

section Report

variable {report : Memory} {endIdx : Nat}

theorem reportReaches_of_visits
    (below : forall idx, ReportReaches report endIdx idx -> idx < endIdx ->
      idx + reportStride report idx < 18446744073709551616) {state : ReportState}
    (visits : Loop.Visits (reportGuard endIdx) (reportBody report) .initial state) :
    ReportReaches report endIdx state.rptIdx := by
  refine visits.invariant (fun state => ReportReaches report endIdx state.rptIdx) ?_ .first
  intro state after reaches entered moved
  have inside := reportGuard_iff.mp entered
  rcases reportBody_index report state with ⟨decoded, same⟩
  rw [same, sizeT_add (below _ reaches inside)] at moved
  cases moved
  exact .next reaches inside

theorem visits_of_reportReaches
    (below : forall state,
      Loop.Visits (reportGuard endIdx) (reportBody report) .initial state ->
      state.rptIdx < endIdx ->
      state.rptIdx + reportStride report state.rptIdx < 18446744073709551616)
    {idx : Nat} (reaches : ReportReaches report endIdx idx) :
    Exists fun state => state.rptIdx = idx ∧
      Loop.Visits (reportGuard endIdx) (reportBody report) .initial state := by
  induction reaches with
  | first => exact ⟨_, rfl, .here⟩
  | next before inside inductionHypothesis =>
      rcases inductionHypothesis with ⟨state, rfl, visits⟩
      rcases reportBody_index report state with ⟨collected, moved⟩
      rw [sizeT_add (below state visits inside)] at moved
      exact ⟨_, rfl, .next visits (reportGuard_iff.mpr inside) moved⟩

/-- An iteration that advances has not gone over the top. -/
theorem stride_of_advances {state : ReportState}
    (advances : Loop.Advances (reportGuard endIdx) (reportBody report) ReportState.rptIdx .initial)
    (visits : Loop.Visits (reportGuard endIdx) (reportBody report) .initial state)
    (inside : state.rptIdx < endIdx) :
    0 < reportStride report state.rptIdx ∧
      state.rptIdx + reportStride report state.rptIdx < 18446744073709551616 := by
  rcases advances state visits (reportGuard_iff.mpr inside) with ⟨after, moved, further⟩
  rcases reportBody_index report state with ⟨collected, same⟩
  rw [same] at moved
  cases moved
  have plain := sizeT_add_of_lt further (reportStride_lt report state.rptIdx)
  have top := sizeT_lt (state.rptIdx + reportStride report state.rptIdx)
  dsimp only at further
  rw [plain] at further top
  exact ⟨Nat.lt_add_right_iff_pos.mp further, top⟩

/-- The loop advances exactly if what it gets to is sound. -/
theorem report_advances_iff :
    Loop.Advances (reportGuard endIdx) (reportBody report) ReportState.rptIdx .initial ↔
      ReportSound report endIdx := by
  constructor
  · intro advances idx reaches inside
    rcases visits_of_reportReaches
        (fun state visits inside => (stride_of_advances advances visits inside).2) reaches with
      ⟨state, rfl, visits⟩
    rcases stride_of_advances advances visits inside with ⟨positive, below⟩
    exact ⟨reportStride_pos_iff.mp positive, below⟩
  · intro sound state visits entered
    have reaches := reportReaches_of_visits (fun idx reaches inside => (sound idx reaches inside).2)
      visits
    rcases sound _ reaches (reportGuard_iff.mp entered) with ⟨nonempty, below⟩
    rcases reportBody_index report state with ⟨collected, same⟩
    refine ⟨_, same, ?_⟩
    rw [sizeT_add below]
    exact Nat.lt_add_of_pos_right (reportStride_pos_iff.mpr nonempty)

/-- A sound walk ends. -/
theorem report_exits_of_sound (sound : ReportSound report endIdx) :
    Exists fun last => Loop.Exits (reportGuard endIdx) (reportBody report) .initial last :=
  (report_advances_iff.mpr sound).exits fun _ => reportGuard_iff.mp

/-- `ps_pcmm_report` returns exactly if its loop does. -/
theorem psPcmmReport_isSome_iff {buf : Memory} {ptr : Nat} {rptLength : UInt16} :
    (psPcmmReport buf ptr rptLength).isSome = true ↔
      Exists fun last => Loop.Exits (reportGuard (sizeT (rptLength.toNat - 4)))
        (reportBody (buf.shift ptr)) .initial last := by
  by_cases empty : sizeT (rptLength.toNat - 4) = 0
  · constructor
    · intro _
      exact ⟨_, Loop.exits_of_done (decide_eq_false (empty ▸ Nat.lt_irrefl 0))⟩
    · intro _
      rw [psPcmmReport, if_pos empty]
      rfl
  · have finished : (psPcmmReport buf ptr rptLength).isSome =
        (Loop.run (reportGuard (sizeT (rptLength.toNat - 4))) (reportBody (buf.shift ptr))
          (sizeT (rptLength.toNat - 4)) .initial).isSome := by
      simp only [psPcmmReport, if_neg empty]
      cases Loop.run (reportGuard (sizeT (rptLength.toNat - 4))) (reportBody (buf.shift ptr))
        (sizeT (rptLength.toNat - 4)) .initial <;> rfl
    rw [finished, Option.isSome_iff_exists]
    exact exists_congr fun last => reportWalk_iff _ _ last

theorem reportWraps_of_visits {state : ReportState}
    (visits : Loop.Visits (reportGuard endIdx) (reportBody report) .initial state) :
    ReportWraps report endIdx state.rptIdx := by
  refine visits.invariant (fun state => ReportWraps report endIdx state.rptIdx) ?_ .first
  intro state after wraps entered moved
  rcases reportBody_index report state with ⟨decoded, same⟩
  rw [same] at moved
  cases moved
  exact .next wraps (reportGuard_iff.mp entered)

theorem visits_of_reportWraps {idx : Nat} (wraps : ReportWraps report endIdx idx) :
    Exists fun state => state.rptIdx = idx ∧
      Loop.Visits (reportGuard endIdx) (reportBody report) .initial state := by
  induction wraps with
  | first => exact ⟨_, rfl, .here⟩
  | next before inside inductionHypothesis =>
      rcases inductionHypothesis with ⟨state, rfl, visits⟩
      rcases reportBody_index report state with ⟨collected, moved⟩
      exact ⟨_, rfl, .next visits (reportGuard_iff.mpr inside) moved⟩

/-- The loop returns exactly if the length fields lead out of the report. -/
theorem report_exits_iff :
    (Exists fun last => Loop.Exits (reportGuard endIdx) (reportBody report) .initial last) ↔
      ReportEnds report endIdx := by
  constructor
  · rintro ⟨last, exits⟩
    exact ⟨last.rptIdx, reportWraps_of_visits exits.visits, reportGuard_done_iff.mp exits.done⟩
  · rintro ⟨idx, wraps, past⟩
    rcases visits_of_reportWraps wraps with ⟨state, rfl, visits⟩
    exact ⟨state, visits.exits (reportGuard_done_iff.mpr past)⟩

theorem psPcmmReport_ends_iff {buf : Memory} {ptr : Nat} {rptLength : UInt16} :
    (psPcmmReport buf ptr rptLength).isSome = true ↔
      ReportEnds (buf.shift ptr) (sizeT (rptLength.toNat - 4)) :=
  psPcmmReport_isSome_iff.trans report_exits_iff

/-- A length below 65536 keeps the walk far from the top of `size_t`. -/
theorem reportSound_iff (small : endIdx ≤ 65536) :
    ReportSound report endIdx ↔
      forall idx, ReportReaches report endIdx idx -> idx < endIdx -> ¬ Empty report idx := by
  constructor
  · intro sound idx reaches inside
    exact (sound idx reaches inside).1
  · intro nonempty idx reaches inside
    have short := reportStride_lt report idx
    exact ⟨nonempty idx reaches inside, by omega⟩

/-- An object of length 0 that is reached keeps the walk for ever. -/
theorem not_empty_of_exits {last : ReportState} {idx : Nat} (small : endIdx ≤ 65536)
    (exits : Loop.Exits (reportGuard endIdx) (reportBody report) .initial last)
    (reaches : ReportReaches report endIdx idx) (inside : idx < endIdx) :
    ¬ Empty report idx := by
  intro empty
  have short : forall state : ReportState, state.rptIdx < endIdx ->
      state.rptIdx + reportStride report state.rptIdx < 18446744073709551616 := by
    intro state within
    have stride := reportStride_lt report state.rptIdx
    omega
  rcases visits_of_reportReaches (fun state _ => short state) reaches with ⟨state, rfl, visits⟩
  have stride : reportStride report state.rptIdx = 0 :=
    Nat.eq_zero_of_not_pos fun positive => reportStride_pos_iff.mp positive empty
  refine Loop.not_exits_of_trap (fun other => other.rptIdx = state.rptIdx) ?_ ?_ rfl
    (visits.exits_iff.mp exits)
  · intro other same
    exact reportGuard_iff.mpr (same ▸ inside)
  · intro other after same moved
    rcases reportBody_index report other with ⟨collected, stays⟩
    rw [stays, same, stride, sizeT_add (by omega)] at moved
    cases moved
    rfl

/-- In a body as long as a length field can say, the walk ends exactly if it is sound. -/
theorem report_exits_iff_sound (small : endIdx ≤ 65536) :
    (Exists fun last => Loop.Exits (reportGuard endIdx) (reportBody report) .initial last) ↔
      ReportSound report endIdx := by
  constructor
  · rintro ⟨last, exits⟩
    exact (reportSound_iff small).mpr fun idx reaches inside =>
      not_empty_of_exits small exits reaches inside
  · exact report_exits_of_sound

/-- Where it returns, the caller's index has moved by the whole length. -/
theorem psPcmmReport_after {buf : Memory} {idx after : Nat} {rptLength : UInt16}
    {file : Option FileAction} (small : idx < 4294967296)
    (returns : psPcmmReport buf (idx + 4) rptLength = some (after, file)) :
    after = idx + rptLength.toNat := by
  have bound := rptLength.toNat_lt
  have advanced : sizeT ((idx + 4 : Nat) + (rptLength.toNat - 4 : Int)) =
      idx + rptLength.toNat := by
    unfold sizeT
    omega
  by_cases empty : sizeT (rptLength.toNat - 4) = 0
  · rw [psPcmmReport, if_pos empty] at returns
    cases returns
    unfold sizeT at empty
    omega
  · simp only [psPcmmReport, if_neg empty, advanced] at returns
    cases walked : Loop.run (reportGuard (sizeT (rptLength.toNat - 4)))
        (reportBody (buf.shift (idx + 4))) (sizeT (rptLength.toNat - 4)) .initial with
    | none =>
        rw [walked] at returns
        cases returns
    | some last =>
        rw [walked] at returns
        cases returns
        rfl

end Report

/-! ## The objects of a message -/

/-- The branch taken at an index. -/
def actAt (buf : Memory) (opc : UInt8) (uuidReceived : Bool) (idx : Nat) : Option ActKind :=
  actKind opc uuidReceived (buf (idx + 2)) (buf (idx + 3))

/-- How far an iteration goes. -/
def dispatchStride (buf : Memory) (opc : UInt8) (uuidReceived : Bool) (idx : Nat) : Nat :=
  match actAt buf opc uuidReceived idx with
  | some .report => (unpackU16 buf idx).toNat
  | some .handle => 8
  | some .packetCableError | none => 4

/-- The walk that a Client-Specific-Info object in a report starts: its end. -/
def reportEnd (buf : Memory) (idx : Nat) : Nat :=
  sizeT ((unpackU16 buf idx).toNat - 4)

/-- The places that the objects of a message lead to, as long as the reports among them
lead out again. -/
inductive DispatchReaches (buf : Memory) (opc : UInt8) (bytes : Nat) (uuidReceived : Bool) :
    Nat -> Bool -> Prop
  | first : DispatchReaches buf opc bytes uuidReceived 8 uuidReceived
  | next {idx : Nat} {uuid : Bool} (before : DispatchReaches buf opc bytes uuidReceived idx uuid)
      (inside : idx < bytes)
      (ends : actAt buf opc uuid idx = some .report ->
        ReportEnds (buf.shift (idx + 4)) (reportEnd buf idx)) :
      DispatchReaches buf opc bytes uuidReceived (idx + dispatchStride buf opc uuid idx)
        (uuid || actAt buf opc uuid idx == some .handle)

/-- The objects of a message lead to its end. -/
def MessageEnds (buf : Memory) (opc : UInt8) (bytes : Nat) (uuidReceived : Bool) : Prop :=
  Exists fun idx => Exists fun uuid =>
    DispatchReaches buf opc bytes uuidReceived idx uuid ∧ bytes ≤ idx

section Dispatch

variable {buf : Memory} {opc : UInt8} {bytes : Nat} {self : Session} {state after : DispatchState}

/-- One iteration moves the index by its stride. -/
theorem dispatchBody_index (small : state.idx < 4294967296)
    (moved : dispatchBody buf opc state = some after) :
    after.idx = state.idx + dispatchStride buf opc state.self.uuidReceived state.idx ∧
      after.self.uuidReceived = (state.self.uuidReceived ||
        actAt buf opc state.self.uuidReceived state.idx == some .handle) := by
  rw [dispatchBody_eq (by omega)] at moved
  unfold dispatchStride actAt
  cases kind : actKind opc state.self.uuidReceived (buf (state.idx + 2)) (buf (state.idx + 3)) with
  | none =>
      rw [kind] at moved
      cases moved
      exact ⟨rfl, (Bool.or_false _).symm⟩
  | some branch =>
      rw [kind] at moved
      cases branch with
      | report =>
          rcases Option.map_eq_some_iff.mp moved with ⟨result, returns, rfl⟩
          exact ⟨psPcmmReport_after small returns, (Bool.or_false _).symm⟩
      | handle =>
          cases moved
          exact ⟨rfl, (Bool.or_true _).symm⟩
      | packetCableError =>
          cases moved
          exact ⟨rfl, (Bool.or_false _).symm⟩

/-- An iteration is finished exactly if the report in it leads out again. -/
theorem dispatchBody_isSome_iff (small : state.idx < 4294967296) :
    (dispatchBody buf opc state).isSome = true ↔
      (actAt buf opc state.self.uuidReceived state.idx = some .report ->
        ReportEnds (buf.shift (state.idx + 4)) (reportEnd buf state.idx)) := by
  rw [dispatchBody_eq (by omega)]
  unfold actAt
  cases kind : actKind opc state.self.uuidReceived (buf (state.idx + 2)) (buf (state.idx + 3)) with
  | none => exact ⟨fun _ impossible => absurd impossible (by decide), fun _ => rfl⟩
  | some branch =>
      cases branch with
      | report =>
          dsimp only
          rw [Option.isSome_map, psPcmmReport_ends_iff]
          exact ⟨fun ends _ => ends, fun ends => ends rfl⟩
      | handle | packetCableError =>
          exact ⟨fun _ impossible => absurd impossible (by decide), fun _ => rfl⟩

theorem dispatchReaches_of_visits (small : bytes ≤ 4294967296)
    (visits : Loop.Visits (dispatchGuard bytes) (dispatchBody buf opc) (dispatchStart self) state) :
    DispatchReaches buf opc bytes self.uuidReceived state.idx state.self.uuidReceived := by
  refine visits.invariant (fun state =>
    DispatchReaches buf opc bytes self.uuidReceived state.idx state.self.uuidReceived) ?_ .first
  intro state after reaches entered moved
  have inside := dispatchGuard_iff.mp entered
  have below : state.idx < 4294967296 := by omega
  rw [(dispatchBody_index below moved).1, (dispatchBody_index below moved).2]
  refine .next reaches inside ((dispatchBody_isSome_iff below).mp ?_)
  rw [moved]
  rfl

theorem visits_of_dispatchReaches (small : bytes ≤ 4294967296) {idx : Nat} {uuid : Bool}
    (reaches : DispatchReaches buf opc bytes self.uuidReceived idx uuid) :
    Exists fun state : DispatchState => state.idx = idx ∧ state.self.uuidReceived = uuid ∧
      Loop.Visits (dispatchGuard bytes) (dispatchBody buf opc) (dispatchStart self) state := by
  induction reaches with
  | first => exact ⟨_, rfl, rfl, .here⟩
  | next before inside ends inductionHypothesis =>
      rcases inductionHypothesis with ⟨state, rfl, rfl, visits⟩
      have below : state.idx < 4294967296 := by omega
      rcases Option.isSome_iff_exists.mp ((dispatchBody_isSome_iff below).mpr ends) with
        ⟨after, moved⟩
      rcases dispatchBody_index below moved with ⟨idx, uuid⟩
      exact ⟨after, idx, uuid, .next visits (dispatchGuard_iff.mpr inside) moved⟩

/-- The object loop returns exactly if the objects lead to the end of the message. -/
theorem dispatchLoop_ends_iff (small : bytes < 4294967296) :
    (dispatchLoop buf opc bytes self).isSome = true ↔
      MessageEnds buf opc bytes self.uuidReceived := by
  rw [Option.isSome_iff_exists]
  constructor
  · rintro ⟨last, finished⟩
    have exits := (dispatchLoop_iff small).mp finished
    exact ⟨last.idx, last.self.uuidReceived,
      dispatchReaches_of_visits (Nat.le_of_lt small) exits.visits,
      dispatchGuard_done_iff.mp exits.done⟩
  · rintro ⟨idx, uuid, reaches, past⟩
    rcases visits_of_dispatchReaches (Nat.le_of_lt small) reaches with ⟨state, rfl, rfl, visits⟩
    have exits := visits.exits (dispatchGuard_done_iff.mpr past)
    exact ⟨state, (dispatchLoop_iff small).mpr exits⟩

end Dispatch

/-! ## Termination -/

/-- Both loops end, and every iteration of either advances. -/
structure ParsersTerminate (buf : Memory) (opc : UInt8) (bytes : Nat) (session : Session) : Prop where
  advances : Loop.Advances (dispatchGuard bytes) (dispatchBody buf opc) DispatchState.idx
    (dispatchStart session)
  exits : Exists fun last =>
    Loop.Exits (dispatchGuard bytes) (dispatchBody buf opc) (dispatchStart session) last
  reports : forall state,
    Loop.Visits (dispatchGuard bytes) (dispatchBody buf opc) (dispatchStart session) state ->
    state.idx < bytes -> actAt buf opc state.self.uuidReceived state.idx = some .report ->
    Loop.Advances (reportGuard (reportEnd buf state.idx)) (reportBody (buf.shift (state.idx + 4)))
        ReportState.rptIdx .initial ∧
      Exists fun last => Loop.Exits (reportGuard (reportEnd buf state.idx))
        (reportBody (buf.shift (state.idx + 4))) .initial last

/-- No Client-Specific-Info object of a report that is reached has length 0, and
the walk over its body is sound. -/
def LengthsSound (buf : Memory) (opc : UInt8) (bytes : Nat) (uuidReceived : Bool) : Prop :=
  forall idx uuid, DispatchReaches buf opc bytes uuidReceived idx uuid -> idx < bytes ->
    actAt buf opc uuid idx = some .report ->
      unpackU16 buf idx ≠ 0 ∧ ReportSound (buf.shift (idx + 4)) (reportEnd buf idx)

section Termination

variable {buf : Memory} {opc : UInt8} {bytes : Nat} {self : Session}

theorem dispatchStride_pos {uuid : Bool} {idx : Nat}
    (sound : actAt buf opc uuid idx = some .report -> unpackU16 buf idx ≠ 0) :
    0 < dispatchStride buf opc uuid idx := by
  unfold dispatchStride
  cases kind : actAt buf opc uuid idx with
  | none => exact Nat.succ_pos 3
  | some branch =>
      cases branch with
      | report => exact Nat.pos_of_ne_zero fun zero => sound kind (UInt16.toNat_inj.mp zero)
      | handle => exact Nat.succ_pos 7
      | packetCableError => exact Nat.succ_pos 3

theorem parsersTerminate_of_lengthsSound (small : bytes ≤ 4294967296)
    (sound : LengthsSound buf opc bytes self.uuidReceived) :
    ParsersTerminate buf opc bytes self := by
  have advances : Loop.Advances (dispatchGuard bytes) (dispatchBody buf opc) DispatchState.idx
      (dispatchStart self) := by
    intro state visits entered
    have inside := dispatchGuard_iff.mp entered
    have below : state.idx < 4294967296 := by omega
    have lengths := sound _ _ (dispatchReaches_of_visits small visits) inside
    have returns := (dispatchBody_isSome_iff below).mpr fun report =>
      report_exits_iff.mp (report_exits_of_sound (lengths report).2)
    rcases Option.isSome_iff_exists.mp returns with ⟨after, moved⟩
    refine ⟨after, moved, ?_⟩
    rw [(dispatchBody_index below moved).1]
    exact Nat.lt_add_of_pos_right (dispatchStride_pos fun report => (lengths report).1)
  refine ⟨advances, advances.exits fun _ => dispatchGuard_iff.mp, ?_⟩
  intro state visits inside report
  have walk := (sound _ _ (dispatchReaches_of_visits small visits) inside report).2
  exact ⟨report_advances_iff.mpr walk, report_exits_of_sound walk⟩

theorem lengthsSound_of_parsersTerminate (small : bytes ≤ 4294967296)
    (terminates : ParsersTerminate buf opc bytes self) :
    LengthsSound buf opc bytes self.uuidReceived := by
  intro idx uuid reaches inside report
  rcases visits_of_dispatchReaches small reaches with ⟨state, rfl, rfl, visits⟩
  have below : state.idx < 4294967296 := by omega
  rcases terminates.advances state visits (dispatchGuard_iff.mpr inside) with
    ⟨after, moved, further⟩
  rw [(dispatchBody_index below moved).1] at further
  refine ⟨?_, report_advances_iff.mp (terminates.reports state visits inside report).1⟩
  intro zero
  rw [dispatchStride, report] at further
  dsimp only at further
  rw [zero] at further
  exact Nat.lt_irrefl _ further

end Termination

/-- The object loops end, each iteration having advanced, exactly if no length
that leads on is 0.  By the time the objects are looked at `bytes` is the length
of the message. -/
theorem parsersTerminate_iff (buf : Memory) (opc : UInt8) (bytes : UInt32) (self : Session) :
    ParsersTerminate buf opc bytes.toNat self ↔
      LengthsSound buf opc bytes.toNat self.uuidReceived :=
  ⟨lengthsSound_of_parsersTerminate (Nat.le_of_lt bytes.toNat_lt),
    parsersTerminate_of_lengthsSound (Nat.le_of_lt bytes.toNat_lt)⟩

/-- A Report-State whose report has a Transaction ID of length 0. -/
def emptyObjectReport : List UInt8 :=
  [16, 3, 128, 10, 0, 0, 0, 16, 0, 8, 9, 1, 0, 0, 1, 1]

/-- `ps_recvd` does not return from it. -/
theorem emptyObjectReport_hangs :
    psRecvd (fun _ => 0) ⟨[0, 0, 0, 0], true⟩ ⟨emptyObjectReport, []⟩ = none ∧
      ¬ ParsersTerminate (Memory.write (fun _ => 0) 0 emptyObjectReport) 3 16
        ⟨[0, 0, 0, 0], true⟩ := by
  refine ⟨Option.isNone_iff_eq_none.mp (by decide +kernel), fun terminates => ?_⟩
  have sound := lengthsSound_of_parsersTerminate (by decide) terminates 8 true .first (by decide)
    (by decide)
  exact (sound.2 0 .first (by decide)).1 ⟨by decide, by decide⟩

end PolicyServer
