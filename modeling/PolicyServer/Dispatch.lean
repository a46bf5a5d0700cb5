import PolicyServer.Framing
import PolicyServer.ParserTermination

namespace PolicyServer

open Lib

/-!
# Dispatching a message's own objects

The object loop of `ps_recvd` steps over a header and goes on in the body
behind it, except where the branch it took has moved the index.  So a word of a
body is looked at as a header, and acted upon if its tags say so.

`ownActs` is what the message asks for, `ownSession` what it leaves behind.
`dispatch_exact_iff` says for which messages the loop does just that: those in
which no word it gets to see would be acted upon, whose first Handle object, if
the loop takes it, has a handle in it, and whose Client-Specific-Info objects
`ps_pcmm_report` returns from.
-/

/-! ## What a message asks for -/

namespace Object

/-- An object of this C-Num, with one of the C-Types 1 to 3. -/
def isA (cnum : Nat) (object : CopsObject) : Bool :=
  object.major.toNat == cnum && decide (1 ≤ object.minor.toNat) && decide (object.minor.toNat ≤ 3)

end Object

/-- The act an object asks for, if its header is at `start`. -/
def ownAct (opc : UInt8) (uuidReceived : Bool) (start : Nat) (object : CopsObject) : Option Act :=
  if object.isA 9 && opc == 3 then some (.report (start + 4) object.length object.body)
  else if object.isA 1 && !uuidReceived then some (.handle (start + 4) (object.body.take 4))
  else if object.isA 8 then some (.packetCableError (start + 4))
  else none

/-- The acts a message's objects ask for, of which the first starts at `start`. -/
def ownActs (opc : UInt8) : (uuidReceived : Bool) -> (start : Nat) -> List CopsObject -> List Act
  | _, _, [] => []
  | uuidReceived, start, object :: objects =>
      (ownAct opc uuidReceived start object).toList ++
        ownActs opc (uuidReceived || object.isA 1) (start + object.size) objects

/-- The session once the message has been received: a handle is taken from the
first Handle object unless there is one already. -/
def ownSession (self : Session) (objects : List CopsObject) : Session :=
  if self.uuidReceived then self
  else
    match objects.find? (Object.isA 1) with
    | none => self
    | some object => { handle := object.body.take 4, uuidReceived := true }

/-- `ps_recvd`, with exactly this message in the socket, returns its opcode and
does exactly what its objects ask for. -/
def DispatchedExactly (stack : Memory) (self : Session) (frame : Frame)
    (objects : List CopsObject) : Prop :=
  Exists fun received =>
    psRecvd stack self { queue := frame.bytes, arrivals := [] } = some received ∧
      received.opcode = frame.opcode ∧
      received.acts = ownActs frame.opcode self.uuidReceived 8 objects ∧
      received.self = ownSession self objects

/-! ## When it gets that -/

/-- No word of these bytes would be acted upon. -/
def Silent (opc : UInt8) (uuidReceived : Bool) (words : List UInt8) : Prop :=
  forall tags, tags ∈ wordTags words -> actKind opc uuidReceived tags.1 tags.2 = none

instance (opc : UInt8) (uuidReceived : Bool) (words : List UInt8) :
    Decidable (Silent opc uuidReceived words) :=
  List.decidableBAll (fun tags : UInt8 × UInt8 => actKind opc uuidReceived tags.1 tags.2 = none)
    (wordTags words)

/-- The condition on one object: `ps_pcmm_report` steps over the body of a
Client-Specific-Info object in a report if no length in it holds it up, a handle that
is taken is stepped over too, and every other word is looked at. -/
def Clear (buf : Memory) (opc : UInt8) (uuidReceived : Bool) (start : Nat) (object : CopsObject) :
    Prop :=
  if object.isA 9 && opc == 3 then ReportSound (buf.shift (start + 4)) object.body.length
  else if object.isA 1 && !uuidReceived then
    4 ≤ object.body.length ∧ Silent opc true (object.body.drop 4)
  else Silent opc uuidReceived object.body

/-- The condition on the objects of a message, of which the first starts at
`start` in the buffer. -/
def Unambiguous (buf : Memory) (opc : UInt8) :
    (uuidReceived : Bool) -> (start : Nat) -> List CopsObject -> Prop
  | _, _, [] => True
  | uuidReceived, start, object :: objects =>
      Clear buf opc uuidReceived start object ∧
        Unambiguous buf opc (uuidReceived || object.isA 1) (start + object.size) objects

/-- `ps_pcmm_report` returns from an object exactly if no length in it holds it up. -/
theorem psPcmmReport_object_iff {buf : Memory} {ptr : Nat} (object : CopsObject) :
    (psPcmmReport buf ptr object.length).isSome = true ↔
      ReportSound (buf.shift ptr) object.body.length := by
  have fits : object.size < 65536 := object.fits
  have size : object.size = object.body.length + 4 := rfl
  have endIdx : sizeT (object.length.toNat - 4) = object.body.length := by
    rw [object.length_toNat]
    unfold sizeT
    omega
  rw [psPcmmReport_isSome_iff, endIdx]
  exact report_exits_iff_sound (by omega)

instance (buf : Memory) (ptr : Nat) (object : CopsObject) :
    Decidable (ReportSound (buf.shift ptr) object.body.length) :=
  decidable_of_iff ((psPcmmReport buf ptr object.length).isSome = true)
    (psPcmmReport_object_iff object)

instance (buf : Memory) (opc : UInt8) (uuidReceived : Bool) (start : Nat) (object : CopsObject) :
    Decidable (Clear buf opc uuidReceived start object) :=
  inferInstanceAs (Decidable (
    if object.isA 9 && opc == 3 then ReportSound (buf.shift (start + 4)) object.body.length
    else if object.isA 1 && !uuidReceived then
      4 ≤ object.body.length ∧ Silent opc true (object.body.drop 4)
    else Silent opc uuidReceived object.body))

instance Unambiguous.decide (buf : Memory) (opc : UInt8) :
    (uuidReceived : Bool) -> (start : Nat) -> (objects : List CopsObject) ->
      Decidable (Unambiguous buf opc uuidReceived start objects)
  | _, _, [] => isTrue trivial
  | uuidReceived, start, object :: objects =>
      have := decide buf opc (uuidReceived || object.isA 1) (start + object.size) objects
      inferInstanceAs (Decidable (_ ∧ _))

/-! ## Kinds of headers -/

theorem copsClassOk_of_num {cnv ctv : UInt8}
    (num : cnv.toNat = 1 ∨ cnv.toNat = 8 ∨ cnv.toNat = 9) :
    copsClassOk cnv ctv = (decide (1 ≤ ctv.toNat) && decide (ctv.toNat ≤ 3)) := by
  unfold copsClassOk
  generalize ctv.toNat = ctype
  have large : forall more, ¬ more + 4 ≤ 3 := by
    intro more
    omega
  rcases num with value | value | value <;> rw [value]
  all_goals
    rcases ctype with _ | _ | _ | _ | more
    · rfl
    · rfl
    · rfl
    · rfl
    · rw [decide_eq_false (large more), Bool.and_false]
      rfl

theorem isA_eq (object : CopsObject) {cnum : Nat} (num : cnum = 1 ∨ cnum = 8 ∨ cnum = 9) :
    object.isA cnum =
      (copsClassOk object.major object.minor && object.major == UInt8.ofNat cnum) := by
  have small : cnum < UInt8.size := by
    have size : UInt8.size = 256 := rfl
    omega
  have same : (object.major == UInt8.ofNat cnum) = (object.major.toNat == cnum) := by
    rw [Bool.eq_iff_iff, beq_iff_eq, beq_iff_eq, ← UInt8.toNat_inj, UInt8.toNat_ofNat_of_lt' small]
  unfold Object.isA
  rw [same]
  cases equal : object.major.toNat == cnum with
  | false => rw [Bool.and_false, Bool.false_and, Bool.false_and]
  | true =>
      have value : object.major.toNat = cnum := beq_iff_eq.mp equal
      rw [copsClassOk_of_num (value ▸ num), Bool.and_true, Bool.true_and]

/-- The branch an object's own header takes. -/
theorem actKind_object (opc : UInt8) (uuidReceived : Bool) (object : CopsObject) :
    actKind opc uuidReceived object.major object.minor =
      if object.isA 9 && opc == 3 then some .report
      else if object.isA 1 && !uuidReceived then some .handle
      else if object.isA 8 then some .packetCableError
      else none := by
  rw [isA_eq object (Or.inr (Or.inr rfl)), isA_eq object (Or.inl rfl),
    isA_eq object (Or.inr (Or.inl rfl)), actKind]
  cases copsClassOk object.major object.minor with
  | false => rfl
  | true => rfl

/-! ## Steps over words -/

section Steps

variable {buf : Memory} {opc : UInt8} {bytes : Nat} (state : DispatchState)

/-- A header that nothing is done about is stepped over. -/
theorem visits_unacted (inside : state.idx < bytes) (small : bytes < 65536)
    (unacted : actKind opc state.self.uuidReceived (buf (state.idx + 2)) (buf (state.idx + 3)) =
      none) :
    Loop.Visits (dispatchGuard bytes) (dispatchBody buf opc) state
      { state with idx := state.idx + 4 } := by
  refine .next .here (dispatchGuard_iff.mpr inside) ?_
  rw [dispatchBody_eq (by omega), unacted]

/-- So are the words of a silent body. -/
theorem visits_silent {words : List UInt8} (aligned : 4 ∣ words.length)
    (holds : buf.Holds state.idx words) (inside : state.idx + words.length ≤ bytes)
    (small : bytes < 65536) (silent : Silent opc state.self.uuidReceived words) :
    Loop.Visits (dispatchGuard bytes) (dispatchBody buf opc) state
      { state with idx := state.idx + words.length } := by
  exact visits_aligned (fun idx => { state with idx })
    (fun cnv ctv => actKind opc state.self.uuidReceived cnv ctv = none)
    (fun idx inside unacted => visits_unacted { state with idx } inside small unacted)
    aligned holds inside silent

/-- The session behind one object. -/
def sessionAfter (self : Session) (object : CopsObject) : Session :=
  if object.isA 1 && !self.uuidReceived then
    { handle := object.body.take 4, uuidReceived := true }
  else self

theorem sessionAfter_uuid (self : Session) (object : CopsObject) :
    (sessionAfter self object).uuidReceived = (self.uuidReceived || object.isA 1) := by
  unfold sessionAfter
  cases object.isA 1 <;> cases uuid : self.uuidReceived <;>
    simp only [uuid, Bool.not_true, Bool.not_false, Bool.and_true, Bool.and_false, Bool.true_or,
      Bool.false_or, Bool.false_eq_true, if_true, if_false]

theorem isA_one_of_nine {object : CopsObject} (nine : object.isA 9 = true) :
    object.isA 1 = false := by
  simp only [Object.isA, Bool.and_eq_true, beq_iff_eq] at nine
  simp only [Object.isA, nine.1.1]
  rfl

variable {object : CopsObject}

theorem end_of_report {after : Nat} {file : Option FileAction}
    (small : state.idx + object.size < 65536)
    (returns : psPcmmReport buf (state.idx + 4) object.length = some (after, file)) :
    after = state.idx + object.size := by
  have positive := object.size_pos
  have index := psPcmmReport_index returns (object.length_toNat ▸ positive) (by omega)
  rw [object.length_toNat] at index
  omega

theorem read_body (stored : object.StoredAt buf state.idx) :
    buf.read (state.idx + 4) (object.length.toNat - 4) = object.body := by
  have length : object.length.toNat - 4 = object.body.length := by
    rw [object.length_toNat, Object.size]
    omega
  rw [length]
  exact Memory.read_of_holds stored.body

/-- A Handle object in memory: four bytes of handle, and the words behind them. -/
theorem handle_stored {idx : Nat} (stored : object.StoredAt buf idx)
    (enough : 4 ≤ object.body.length) :
    buf.read (idx + 4) 4 = object.body.take 4 ∧ buf.Holds (idx + 8) (object.body.drop 4) ∧
      4 ∣ (object.body.drop 4).length ∧
        idx + 8 + (object.body.drop 4).length = idx + object.size := by
  have four : (object.body.take 4).length = 4 := List.length_take_of_le enough
  have holds := stored.body
  rw [← List.take_append_drop 4 object.body] at holds
  rcases Memory.holds_append.mp holds with ⟨taken, rest⟩
  have handleBytes := Memory.read_of_holds taken
  rw [four] at handleBytes rest
  have whole := object.aligned
  have size : object.size = object.body.length + 4 := rfl
  refine ⟨handleBytes, rest, ?_, ?_⟩
  · rw [List.length_drop]
    omega
  · rw [List.length_drop]
    omega

/-- The loop gets over a clear object, having done what the object asks for. -/
theorem visits_own (stored : object.StoredAt buf state.idx)
    (clear : Clear buf opc state.self.uuidReceived state.idx object)
    (inside : state.idx + object.size ≤ bytes) (small : bytes < 65536) :
    Exists fun files => Loop.Visits (dispatchGuard bytes) (dispatchBody buf opc) state
      { idx := state.idx + object.size
        self := sessionAfter state.self object
        acts := state.acts ++ (ownAct opc state.self.uuidReceived state.idx object).toList
        files := files } := by
  have positive := object.size_pos
  have entered : dispatchGuard bytes state = true := dispatchGuard_iff.mpr (by omega)
  have header : dispatchBody buf opc state = _ := dispatchBody_eq (by omega)
  rw [stored.major, stored.minor, stored.length, actKind_object] at header
  have end_eq : state.idx + object.size = state.idx + 4 + object.body.length := by
    rw [Object.size]
    omega
  unfold Clear at clear
  unfold ownAct sessionAfter
  by_cases report : (object.isA 9 && opc == 3) = true
  · rw [if_pos report] at clear header ⊢
    have notHandle := isA_one_of_nine (Bool.and_eq_true_iff.mp report).1
    rcases Option.isSome_iff_exists.mp ((psPcmmReport_object_iff object).mpr clear) with
      ⟨⟨after, file⟩, returns⟩
    rw [returns, Option.map_some, end_of_report state (by omega) returns, read_body state stored]
      at header
    rw [notHandle]
    exact ⟨_, .next .here entered header⟩
  rw [if_neg report] at clear header ⊢
  by_cases handle : (object.isA 1 && !state.self.uuidReceived) = true
  · rw [if_pos handle] at clear header ⊢
    rcases clear with ⟨enough, silent⟩
    rw [if_pos handle]
    rcases handle_stored stored enough with ⟨taken, rest, aligned, place⟩
    rw [taken] at header
    have first := Loop.Visits.next .here entered header
    have fits : state.idx + 8 + (object.body.drop 4).length ≤ bytes := place ▸ inside
    have later := visits_silent
      { state with
        idx := state.idx + 8
        self := { handle := object.body.take 4, uuidReceived := true }
        acts := state.acts ++ [.handle (state.idx + 4) (object.body.take 4)] }
      aligned rest fits small silent
    rw [← place]
    exact ⟨_, first.trans later⟩
  rw [if_neg handle] at clear header ⊢
  have fits : state.idx + 4 + object.body.length ≤ bytes := end_eq ▸ inside
  rw [if_neg handle, end_eq]
  by_cases error : object.isA 8 = true
  · rw [if_pos error] at header ⊢
    have first := Loop.Visits.next .here entered header
    have later := visits_silent
      { state with
        idx := state.idx + 4
        acts := state.acts ++ [.packetCableError (state.idx + 4)] }
      object.aligned stored.body fits small clear
    exact ⟨_, first.trans later⟩
  · rw [if_neg error] at header ⊢
    have first := Loop.Visits.next .here entered header
    have later := visits_silent { state with idx := state.idx + 4 } object.aligned stored.body fits
      small clear
    rw [Option.toList_none, List.append_nil]
    exact ⟨_, first.trans later⟩

/-- The loop gets over clear objects, having done what they ask for. -/
theorem visits_objects_own {objects : List CopsObject}
    (holds : buf.Holds state.idx (encode objects))
    (unambiguous : Unambiguous buf opc state.self.uuidReceived state.idx objects)
    (inside : state.idx + totalSize objects ≤ bytes) (small : bytes < 65536) :
    Exists fun files => Loop.Visits (dispatchGuard bytes) (dispatchBody buf opc) state
      { idx := state.idx + totalSize objects
        self := objects.foldl sessionAfter state.self
        acts := state.acts ++ ownActs opc state.self.uuidReceived state.idx objects
        files := files } := by
  induction objects generalizing state with
  | nil =>
      refine ⟨state.files, ?_⟩
      rw [ownActs, List.append_nil]
      exact .here
  | cons object objects inductionHypothesis =>
      rw [totalSize_cons] at inside
      have stored := storedAt_of_holds [] holds
      rw [encode_cons] at holds
      have later := (Memory.holds_append.mp holds).2
      rw [object.bytes_length] at later
      rcases visits_own state stored unambiguous.1 (by omega) small with ⟨files, first⟩
      have rest := unambiguous.2
      rw [← sessionAfter_uuid] at rest
      have fits : state.idx + object.size + totalSize objects ≤ bytes := by omega
      rcases inductionHypothesis
        { idx := state.idx + object.size
          self := sessionAfter state.self object
          acts := state.acts ++ (ownAct opc state.self.uuidReceived state.idx object).toList
          files := files } later rest fits with ⟨files', second⟩
      refine ⟨files', ?_⟩
      have visits := first.trans second
      dsimp only at visits
      rw [sessionAfter_uuid, List.append_assoc, Nat.add_assoc] at visits
      exact visits

end Steps

/-- Taking the objects one by one leaves the session with the first handle. -/
theorem foldl_sessionAfter (self : Session) (objects : List CopsObject) :
    objects.foldl sessionAfter self = ownSession self objects := by
  have received : forall (objects : List CopsObject) (self : Session),
      self.uuidReceived = true -> objects.foldl sessionAfter self = self := by
    intro objects
    induction objects with
    | nil => exact fun _ _ => rfl
    | cons object objects inductionHypothesis =>
        intro self uuid
        have kept : sessionAfter self object = self := by
          simp only [sessionAfter, uuid, Bool.not_true, Bool.and_false, Bool.false_eq_true, if_false]
        rw [List.foldl_cons, kept]
        exact inductionHypothesis self uuid
  unfold ownSession
  cases uuid : self.uuidReceived with
  | true => exact received objects self uuid
  | false =>
      rw [if_neg Bool.false_ne_true]
      induction objects with
      | nil => rfl
      | cons object objects inductionHypothesis =>
          rw [List.foldl_cons]
          cases handle : object.isA 1 with
          | true =>
              rw [List.find?_cons_of_pos handle]
              simp only [sessionAfter, handle, uuid, Bool.not_false, Bool.and_true, if_true]
              exact received objects _ rfl
          | false =>
              rw [List.find?_cons_of_neg (Bool.eq_false_iff.mp handle), ← inductionHypothesis]
              simp only [sessionAfter, handle, Bool.false_and, Bool.false_eq_true, if_false]

/-! ## What the acts give away -/

def Act.ptr : Act -> Nat
  | .report ptr _ _ => ptr
  | .handle ptr _ => ptr
  | .packetCableError ptr => ptr

/-- An object's act is done behind its own header. -/
theorem ownActs_ptr {opc : UInt8} {uuidReceived : Bool} {start : Nat} {objects : List CopsObject}
    {act : Act} (member : act ∈ ownActs opc uuidReceived start objects) : start + 4 ≤ act.ptr := by
  induction objects generalizing uuidReceived start with
  | nil => cases member
  | cons object objects inductionHypothesis =>
      rcases List.mem_append.mp member with own | later
      · have place : act.ptr = start + 4 := by
          have asked := Option.mem_toList.mp own
          unfold ownAct at asked
          split at asked
          · cases asked
            rfl
          split at asked
          · cases asked
            rfl
          split at asked
          · cases asked
            rfl
          · cases asked
        exact Nat.le_of_eq place.symm
      · have far := inductionHypothesis later
        have positive := object.size_pos
        omega

section Gives

variable {buf : Memory} {opc : UInt8} {bytes : Nat}

/-- A header that is acted upon leaves its act behind. -/
theorem acts_of_acted {state after : DispatchState} {kind : ActKind} (small : state.idx < 65536)
    (acted : actKind opc state.self.uuidReceived (buf (state.idx + 2)) (buf (state.idx + 3)) =
      some kind)
    (moved : dispatchBody buf opc state = some after) :
    Exists fun act => after.acts = state.acts ++ [act] ∧ act.ptr = state.idx + 4 := by
  rw [dispatchBody_eq (by omega), acted] at moved
  cases kind with
  | report =>
      rcases Option.map_eq_some_iff.mp moved with ⟨result, _, rfl⟩
      exact ⟨_, rfl, rfl⟩
  | handle | packetCableError =>
      cases moved
      exact ⟨_, rfl, rfl⟩

/-- The loop never takes an act back. -/
theorem acts_prefix {state last : DispatchState} (small : bytes < 65536)
    (visits : Loop.Visits (dispatchGuard bytes) (dispatchBody buf opc) state last) :
    state.acts <+: last.acts := by
  refine visits.invariant (fun last => state.acts <+: last.acts) ?_ (List.prefix_refl _)
  intro before after kept entered moved
  refine kept.trans ?_
  have inside := dispatchGuard_iff.mp entered
  cases kind : actKind opc before.self.uuidReceived (buf (before.idx + 2)) (buf (before.idx + 3)) with
  | none =>
      rw [dispatchBody_eq (by omega), kind] at moved
      cases moved
      exact List.prefix_refl _
  | some kind' =>
      rcases acts_of_acted (by omega) kind moved with ⟨act, acts, _⟩
      exact ⟨[act], acts.symm⟩

/-- Words the loop has walked over are silent, if all it has done since was
done further on. -/
theorem silent_of_exits {words : List UInt8} (aligned : 4 ∣ words.length)
    (state : DispatchState) {last : DispatchState} (holds : buf.Holds state.idx words)
    (inside : state.idx + words.length ≤ bytes) (small : bytes < 65536)
    (exits : Loop.Exits (dispatchGuard bytes) (dispatchBody buf opc) state last)
    {later : List Act} (acts : last.acts = state.acts ++ later)
    (far : forall act, act ∈ later -> state.idx + words.length + 4 ≤ act.ptr) :
    Silent opc state.self.uuidReceived words := by
  induction words, aligned using wordInduction generalizing state with
  | nil =>
      intro tags member
      cases member
  | word first second major minor rest _ _ inductionHypothesis =>
      simp only [List.length_cons] at inside far
      rcases Memory.holds_word.mp holds with ⟨_, _, atMajor, atMinor, holds⟩
      have entered : dispatchGuard bytes state = true := dispatchGuard_iff.mpr (by omega)
      have unacted : actKind opc state.self.uuidReceived (buf (state.idx + 2))
          (buf (state.idx + 3)) = none := by
        cases kind : actKind opc state.self.uuidReceived (buf (state.idx + 2))
            (buf (state.idx + 3)) with
        | none => rfl
        | some kind' =>
            exfalso
            cases moved : dispatchBody buf opc state with
            | none => exact Loop.not_exits_of_stuck entered moved exits
            | some after =>
                -- Its act would be the next one, but that is too far on.
                rcases acts_of_acted (by omega) kind moved with ⟨act, there, place⟩
                have kept := acts_prefix small ((Loop.exits_step_iff entered moved).mp exits).visits
                rw [there, acts] at kept
                have member : act ∈ later :=
                  ((List.prefix_append_right_inj _).mp kept).subset List.mem_cons_self
                have beyond := far act member
                omega
      have moved : dispatchBody buf opc state = some { state with idx := state.idx + 4 } := by
        rw [dispatchBody_eq (by omega), unacted]
      have fits : state.idx + 4 + rest.length ≤ bytes := by omega
      have beyond : forall act, act ∈ later -> state.idx + 4 + rest.length + 4 ≤ act.ptr := by
        intro act member
        have there := far act member
        omega
      have silent := inductionHypothesis { state with idx := state.idx + 4 } holds fits
        ((Loop.exits_step_iff entered moved).mp exits) acts beyond
      intro tags member
      rcases List.mem_cons.mp member with same | there
      · rw [same, ← unacted, atMajor, atMinor]
      · exact silent tags there

/-- An object the loop has walked over is clear, if it has done what the object
asks for there and all else further on. -/
theorem clear_of_exits {object : CopsObject} (state : DispatchState) {last : DispatchState}
    (stored : object.StoredAt buf state.idx) (inside : state.idx + object.size ≤ bytes)
    (small : bytes < 65536)
    (exits : Loop.Exits (dispatchGuard bytes) (dispatchBody buf opc) state last)
    {later : List Act}
    (acts : last.acts =
      state.acts ++ ((ownAct opc state.self.uuidReceived state.idx object).toList ++ later))
    (far : forall act, act ∈ later -> state.idx + object.size + 4 ≤ act.ptr) :
    Clear buf opc state.self.uuidReceived state.idx object := by
  have positive := object.size_pos
  have entered : dispatchGuard bytes state = true := dispatchGuard_iff.mpr (by omega)
  have header : dispatchBody buf opc state = _ := dispatchBody_eq (by omega)
  rw [stored.major, stored.minor, stored.length, actKind_object] at header
  have size : object.size = object.body.length + 4 := rfl
  unfold ownAct at acts
  unfold Clear
  by_cases report : (object.isA 9 && opc == 3) = true
  · rw [if_pos report] at header ⊢
    rw [← psPcmmReport_object_iff]
    cases returns : psPcmmReport buf (state.idx + 4) object.length with
    | some result => rfl
    | none =>
        rw [returns] at header
        exact absurd exits (Loop.not_exits_of_stuck entered header)
  rw [if_neg report] at acts header ⊢
  by_cases handle : (object.isA 1 && !state.self.uuidReceived) = true
  · rw [if_pos handle] at acts header ⊢
    have exits' := (Loop.exits_step_iff entered header).mp exits
    have kept := acts_prefix small exits'.visits
    dsimp only at kept
    rw [acts] at kept
    -- The handle that was taken is the one in the body.
    have taken := List.head_eq_of_cons_eq
      (List.prefix_iff_eq_take.mp ((List.prefix_append_right_inj _).mp kept))
    have length := congrArg List.length (Act.handle.inj taken).2
    rw [Memory.read_length, List.length_take] at length
    have enough : 4 ≤ object.body.length := by omega
    refine ⟨enough, ?_⟩
    rcases handle_stored stored enough with ⟨_, rest, aligned, place⟩
    have fits : state.idx + 8 + (object.body.drop 4).length ≤ bytes := place ▸ inside
    have beyond : forall act, act ∈ later ->
        state.idx + 8 + (object.body.drop 4).length + 4 ≤ act.ptr := by
      rw [place]
      exact far
    rw [taken] at exits'
    refine silent_of_exits aligned _ rest fits small exits' ?_ beyond
    rw [acts]
    exact (List.append_assoc _ _ _).symm
  rw [if_neg handle] at acts header ⊢
  have fits : state.idx + 4 + object.body.length ≤ bytes := by omega
  have beyond : forall act, act ∈ later -> state.idx + 4 + object.body.length + 4 ≤ act.ptr := by
    intro act member
    have there := far act member
    omega
  by_cases error : object.isA 8 = true
  · rw [if_pos error] at acts header
    have exits' := (Loop.exits_step_iff entered header).mp exits
    apply silent_of_exits object.aligned _ stored.body fits small exits' _ beyond
    rw [acts]
    exact (List.append_assoc _ _ _).symm
  · rw [if_neg error] at acts header
    have exits' := (Loop.exits_step_iff entered header).mp exits
    exact silent_of_exits object.aligned { state with idx := state.idx + 4 } stored.body fits small
      exits' acts beyond

/-- A list of objects that the loop has walked over, having done just what they
ask for, is unambiguous. -/
theorem unambiguous_of_exits {objects : List CopsObject} (state : DispatchState)
    {last : DispatchState} (holds : buf.Holds state.idx (encode objects))
    (inside : state.idx + totalSize objects ≤ bytes) (small : bytes < 65536)
    (exits : Loop.Exits (dispatchGuard bytes) (dispatchBody buf opc) state last)
    (acts : last.acts = state.acts ++ ownActs opc state.self.uuidReceived state.idx objects) :
    Unambiguous buf opc state.self.uuidReceived state.idx objects := by
  induction objects generalizing state with
  | nil => trivial
  | cons object objects inductionHypothesis =>
      rw [totalSize_cons] at inside
      have stored := storedAt_of_holds [] holds
      rw [encode_cons] at holds
      have rest := (Memory.holds_append.mp holds).2
      rw [object.bytes_length] at rest
      have clear := clear_of_exits state stored (by omega) small exits acts
        (fun act member => ownActs_ptr member)
      refine ⟨clear, ?_⟩
      rcases visits_own state stored clear (by omega) small with ⟨files, visits⟩
      have later := inductionHypothesis _ rest (by dsimp only; omega) (visits.exits_iff.mp exits)
      dsimp only at later
      rw [sessionAfter_uuid] at later
      apply later
      rw [acts, List.append_assoc]
      rfl

end Gives

/-! ## Whole messages -/

/-- The buffer, and the objects of a frame in it. -/
theorem frameBuffer_objects (stack : Memory) {frame : Frame} {objects : List CopsObject}
    (tiled : frame.body = encode objects) :
    (frameBuffer stack frame).Holds 8 (encode objects) ∧ frame.size = 8 + totalSize objects := by
  constructor
  · exact tiled ▸ (frameBuffer_storedIn stack frame).body
  · rw [Frame.size, tiled, encode_length, Nat.add_comm]

/-- An unambiguous message is dispatched, and to the right acts. -/
theorem deliver_of_unambiguous (stack : Memory) (self : Session) {frame : Frame}
    {objects : List CopsObject} (tiled : frame.body = encode objects)
    (unambiguous :
      Unambiguous (frameBuffer stack frame) frame.opcode self.uuidReceived 8 objects) :
    Exists fun last => deliver stack self frame = some last ∧
      last.acts = ownActs frame.opcode self.uuidReceived 8 objects ∧
        last.self = ownSession self objects := by
  rcases frameBuffer_objects stack tiled with ⟨holds, size⟩
  have small := frame.size_lt
  rcases visits_objects_own (dispatchStart self) holds unambiguous (Nat.le_of_eq size.symm) small
    with ⟨files, visits⟩
  have done : dispatchGuard frame.size
      { idx := 8 + totalSize objects
        self := objects.foldl sessionAfter self
        acts := ownActs frame.opcode self.uuidReceived 8 objects
        files := files } = false := by
    rw [← size]
    exact dispatchGuard_done_iff.mpr (Nat.le_refl _)
  have exits := visits.exits done
  exact ⟨_, (dispatchLoop_iff (by omega)).mpr exits, rfl, foldl_sessionAfter self objects⟩

/-- For every session and every frame of well-formed objects: the object loop
acts on exactly the message's own objects if and only if the message is
unambiguous. -/
theorem dispatch_exact_iff (stack : Memory) (self : Session) (frame : Frame)
    (objects : List CopsObject) (tiled : frame.body = encode objects) :
    DispatchedExactly stack self frame objects ↔
      Unambiguous (frameBuffer stack frame) frame.opcode self.uuidReceived 8 objects := by
  have received := psRecvd_of_queued stack self frame []
  rw [List.append_nil] at received
  constructor
  · rintro ⟨result, returns, _, acts, _⟩
    rw [received] at returns
    rcases Option.map_eq_some_iff.mp returns with ⟨last, finished, rfl⟩
    rcases frameBuffer_objects stack tiled with ⟨holds, size⟩
    have small := frame.size_lt
    have exits := (dispatchLoop_iff (by omega)).mp finished
    exact unambiguous_of_exits (dispatchStart self) holds (Nat.le_of_eq size.symm) small exits acts
  · intro unambiguous
    rcases deliver_of_unambiguous stack self tiled unambiguous with ⟨last, delivers, acts, session⟩
    refine ⟨receivedFrame frame { queue := [], arrivals := [] } last, ?_, rfl, acts, session⟩
    rw [received, delivers, Option.map_some]

/-- A Handle object. -/
def handleObject (first second third fourth : UInt8) : CopsObject :=
  .ofWord 1 1 first second third fourth (Nat.zero_le 4)

/-- A Client-Specific-Info object with a Transaction object in it. -/
def transactionInfo (transactionId gateCmd : UInt8) : CopsObject where
  major := 9
  minor := 1
  body := [0, 8, 1, 1, 0, transactionId, 0, gateCmd]
  aligned := ⟨2, rfl⟩
  enough := Nat.zero_le 8
  fits := (by decide : 12 < 65536)

/-- A Report-State message for a handle. -/
def reportState (first second third fourth : UInt8) : Frame :=
  .pcmm 3 (encode [handleObject first second third fourth, transactionInfo 7 8])
    (by decide : 28 < 65536)

theorem dispatch_exact_reportState :
    DispatchedExactly (fun _ => 0) ⟨[0, 0, 0, 1], true⟩ (reportState 0 0 0 1)
        [handleObject 0 0 0 1, transactionInfo 7 8] ↔
      Unambiguous (frameBuffer (fun _ => 0) (reportState 0 0 0 1)) 3 true 8
        [handleObject 0 0 0 1, transactionInfo 7 8] :=
  dispatch_exact_iff (fun _ => 0) ⟨[0, 0, 0, 1], true⟩ (reportState 0 0 0 1)
    [handleObject 0 0 0 1, transactionInfo 7 8] rfl

/-- A client handle 00 08 09 01 is taken for a Client-Specific-Info object, and
the header of the real one for its body, so that the real one is not reported. -/
theorem handle_dispatched_as_info :
    ¬ DispatchedExactly (fun _ => 0) ⟨[0, 8, 9, 1], true⟩ (reportState 0 8 9 1)
      [handleObject 0 8 9 1, transactionInfo 7 8] := by
  rintro ⟨received, returns, _, acts, _⟩
  have evaluated : (psRecvd (fun _ => 0) ⟨[0, 8, 9, 1], true⟩
      { queue := (reportState 0 8 9 1).bytes, arrivals := [] }).map Received.acts =
      some [.report 16 8 [0, 12, 9, 1]] := by decide
  rw [returns, Option.map_some, acts] at evaluated
  exact absurd evaluated (by decide)

end PolicyServer
