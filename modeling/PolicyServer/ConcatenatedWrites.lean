import PolicyServer.HandlerAnswers
import PolicyServer.WireDeterminism

namespace PolicyServer

open Lib

/-!
# Where `concat` and `concat_c8` store

Both store a byte of 0 behind the bytes that they copy, at an index that their callers
take from the call before; neither is given the size of the array.  The size is worked
out in front, in `ps_proxy` for the whole message, in `gctl_04` for what is copied.
Here the stores into the two arrays are listed with their places, and the lists are run
on the arrays to give what the model of the handlers has in them.

`inside_iff`: all places are inside exactly if the array is that of `ps_proxy`, or the
handler has not come to the first of its calls.
-/

/-- `concat` or `concat_c8`; or bytes stored at the index, which goes behind them. -/
inductive Piece where
  | concat (src : List UInt8)
  | store (bytes : List UInt8)

namespace Piece

/-- The bytes that the index goes behind. -/
def content : Piece -> List UInt8
  | .concat src => src
  | .store bytes => bytes

/-- The bytes that are stored. -/
def stored : Piece -> List UInt8
  | .concat src => src ++ [0]
  | .store bytes => bytes

def next (ptr : Nat) : Piece -> Nat
  | .concat src => sizeT (ptr + (Int32.ofNat src.length).toInt)
  | .store bytes => ptr + bytes.length

/-- An array and the index into it, after a piece. -/
def apply (state : Buffer × Nat) (piece : Piece) : Buffer × Nat :=
  (state.1.write state.2 piece.stored, piece.next state.2)

theorem apply_concat (state : Buffer × Nat) (src : List UInt8) :
    apply state (.concat src) = PolicyServer.concat state.1 state.2 src :=
  rfl

theorem apply_store (state : Buffer × Nat) (bytes : List UInt8) :
    apply state (.store bytes) = (state.1.write state.2 bytes, state.2 + bytes.length) :=
  rfl

theorem stored_length_le (piece : Piece) :
    piece.stored.length ≤ piece.content.length + 1 := by
  cases piece with
  | concat src => exact Nat.le_of_eq List.length_append
  | store bytes => exact Nat.le_succ _

/-- The conversion to `int` does not change a small number. -/
theorem next_eq {ptr : Nat} {piece : Piece}
    (short : ptr + piece.content.length < 2147483648) :
    piece.next ptr = ptr + piece.content.length := by
  cases piece with
  | concat src =>
      have count : (Int32.ofNat src.length).toInt = src.length := by
        apply Int32.toInt_ofNat_of_lt
        exact Nat.lt_of_le_of_lt (Nat.le_add_left _ _) short
      change sizeT (ptr + (Int32.ofNat src.length).toInt) = ptr + src.length
      rw [count, sizeT]
      have low : ptr + src.length < 2147483648 := short
      omega
  | store bytes => rfl

end Piece

/-! ## The places of a chain -/

/-- What the pieces store, each from where the one before it leaves the index. -/
def stores : Nat -> List Piece -> List (Nat × List UInt8)
  | _, [] => []
  | ptr, piece :: pieces => (ptr, piece.stored) :: stores (piece.next ptr) pieces

/-- The bytes of a chain, without those of 0. -/
def contents (pieces : List Piece) : List UInt8 := pieces.flatMap Piece.content

theorem contents_cons_length (piece : Piece) (pieces : List Piece) :
    (contents (piece :: pieces)).length = piece.content.length + (contents pieces).length := by
  rw [contents, List.flatMap_cons, List.length_append]
  rfl

/-- An array of the source, and the pieces that are put into it. -/
structure Destination where
  size : Nat
  pieces : List Piece

namespace Destination

def writing (dst : Destination) : Writing Unit := Writing.puts () (stores 0 dst.pieces)

/-- Every byte that is stored has its place in the array. -/
def Inside (dst : Destination) : Prop := dst.writing.Each fun _ place => place < dst.size

/-- What the pieces leave of the array, once it is cleared. -/
def array (dst : Destination) : Buffer :=
  (dst.pieces.foldl Piece.apply (Buffer.cleared dst.size, 0)).1

theorem stores_run (pieces : List Piece) (buffer : Buffer) (ptr : Nat) :
    (stores ptr pieces).foldl (fun buffer store => buffer.write store.1 store.2) buffer =
      (pieces.foldl Piece.apply (buffer, ptr)).1 := by
  induction pieces generalizing buffer ptr with
  | nil => rfl
  | cons piece pieces inductionHypothesis => exact inductionHypothesis _ _

theorem writing_run (dst : Destination) :
    dst.writing.run (Buffer.cleared dst.size) = some dst.array := by
  rw [writing, Writing.run_puts, stores_run]
  rfl

/-- The places are inside exactly if the array counts no byte outside. -/
theorem inside_iff_outside (dst : Destination) : dst.Inside ↔ dst.array.outside = 0 := by
  have counted := Writing.run_outside_iff dst.writing_run
  rw [Buffer.cleared_length] at counted
  exact counted.symm

theorem stores_append {pieces : List Piece} {ptr : Nat} (more : List Piece)
    (short : ptr + (contents pieces).length < 2147483648) :
    stores ptr (pieces ++ more) =
      stores ptr pieces ++ stores (ptr + (contents pieces).length) more := by
  induction pieces generalizing ptr with
  | nil => rfl
  | cons piece pieces inductionHypothesis =>
      rw [contents_cons_length] at short ⊢
      have moved : piece.next ptr = ptr + piece.content.length := Piece.next_eq (by omega)
      rw [List.cons_append, stores, stores, moved, inductionHypothesis (by omega), Nat.add_assoc]
      rfl

/-- No piece stores behind the first byte behind the chain. -/
theorem stores_before {pieces : List Piece} {ptr : Nat}
    (short : ptr + (contents pieces).length < 2147483648) (store : Nat × List UInt8)
    (member : store ∈ stores ptr pieces) :
    store.1 + store.2.length ≤ ptr + (contents pieces).length + 1 := by
  induction pieces generalizing ptr with
  | nil => cases member
  | cons piece pieces inductionHypothesis =>
      rw [contents_cons_length] at short ⊢
      have moved : piece.next ptr = ptr + piece.content.length := Piece.next_eq (by omega)
      rcases List.mem_cons.mp member with rfl | later
      · have most := piece.stored_length_le
        dsimp only
        omega
      · rw [moved] at later
        have behind := inductionHypothesis (by omega) later
        omega

/-- A chain with `concat` at its end stores behind what is copied, and no further.  The
last piece can be of any length. -/
theorem stores_of_short {pieces : List Piece} (size : Nat) (src : List UInt8)
    (short : (contents pieces).length < 2147483648) :
    (writing { size, pieces := pieces ++ [.concat src] }).Stores ()
        ((contents pieces).length + src.length) ∧
      (writing { size, pieces := pieces ++ [.concat src] }).Each fun _ place =>
        place ≤ (contents pieces).length + src.length := by
  have short' : 0 + (contents pieces).length < 2147483648 := by
    rwa [Nat.zero_add]
  have split : stores 0 (pieces ++ [.concat src]) =
      stores 0 pieces ++ [((contents pieces).length, src ++ [0])] := by
    rw [stores_append _ short', Nat.zero_add]
    rfl
  unfold writing
  dsimp only
  rw [Writing.stores_puts_iff, Writing.each_puts_iff, split]
  constructor
  · refine ⟨rfl, ((contents pieces).length, src ++ [0]),
      List.mem_append_right _ (List.mem_singleton_self _), Nat.le_add_right _ _, ?_⟩
    rw [List.length_append, List.length_singleton]
    exact Nat.lt_succ_self _
  · intro store member place _ most
    rcases List.mem_append.mp member with earlier | last
    · have before := stores_before short' store earlier
      omega
    · rw [List.mem_singleton.mp last, List.length_append, List.length_singleton] at most
      exact Nat.le_of_lt_succ most

end Destination

/-! ## The calls of `gctl_04` and `ps_proxy` -/

/-- The array `data` of `gctl_04`. -/
def joined (gc : Gctl) (gate envelope classifier : Buffer) : Destination where
  size := gctlPolicyDecisionSize 16 gc.envelopeSize gc.classifierSize
  pieces := [.concat (gate.bytes.take 16), .concat (envelope.bytes.take gc.envelopeSize),
    .concat (classifier.bytes.take gc.classifierSize)]

/-- `gctl_04` up to its calls of `concat_c8`; `none` where it does not come to them. -/
def gctl04Data (locals : Locals) (input : Option Json) (behind : Memory) : Option Destination :=
  (gctlReadPolicy locals input behind (Buffer.cleared 320) (Buffer.cleared 92)).bind fun policy =>
    let gc := policy.gc
    if gc.failed then none
    else
      (pcmmGate (Buffer.cleared 16) gc.gate.direction (toU8 gc.gate.priority)
        (toU8 gc.gate.preemption) (toU8 gc.gate.dscpTosOvwr) (toU8 gc.gate.dscpTosMask)
        gc.gate.timer1 gc.gate.timer2 gc.gate.timer3 gc.gate.timer4).map fun gate =>
          joined gc gate policy.envelope policy.classifier

/-- The stores of `pack_ctl_objs`. -/
def ctlObjsPieces (handle context decision command application subscriber : List UInt8)
    (decisionLength : UInt16) : List Piece :=
  [.concat handle, .concat context, .concat decision, .store (packU16Be decisionLength),
    .store [6], .store [4], .concat command, .concat application, .concat subscriber]

/-- The calls of `ps_proxy` in front of its last one, and what that one copies. -/
def gatePieces (op : GateOp) (gateId : Int64) (request : List UInt8) :
    List Piece × List UInt8 :=
  let ctlGid := pcmmGateIdentifier gateId.toUInt64.toUInt32
  match op with
  | .set => (if gateId ≠ 0 then [.concat ctlGid] else [], request)
  | .info | .del => ([], ctlGid)

/-- The array `decision` of `ps_proxy`, once it has the subscriber object. -/
def decided (handle : List UInt8) (op : GateOp) (gc : Gctl) (ip : String)
    (request : List UInt8) (txnId : UInt16) (subscriber : List UInt8) : Destination :=
  let (gate, src) := gatePieces op gc.gateId request
  { size := msgSize op gc ip request.length
    pieces :=
      ctlObjsPieces (ctlHnd gc handle) copsContext copsDecision
        (pcmmTransactionIdentifier txnId op.code) (pcmmApplicationIdentifier 0 3474) subscriber
        (UInt16.ofNat (decSize op gc ip request.length)) ++ gate ++ [.concat src] }

/-- An array that is filled with `concat` or `concat_c8`: `data` of a GATE-SET request,
or `decision` of a call of `ps_proxy`, where the handle has four bytes to copy. -/
inductive Concatenation where
  | data (locals : Locals) (input : Option Json) (behind : Memory)
  | decision (addr : UInt32) (session : Session) (four : 4 ≤ session.handle.length) (op : GateOp)
      (gc : Gctl) (request : List UInt8) (txnId : UInt16)

namespace Concatenation

/-- The array with the calls; `none` where they are not made. -/
def destination : Concatenation -> Option Destination
  | .data locals input behind => gctl04Data locals input behind
  | .decision addr session _ op gc request txnId =>
      gc.subscriberId.bind fun ip => (ctlSub addr ip).map fun subscriber =>
        decided session.handle op gc ip request txnId subscriber.bytes

/-- Every byte that the calls store is in the array. -/
def Inside (concatenation : Concatenation) : Prop :=
  forall dst, concatenation.destination = some dst -> dst.Inside

/-- The array at the end of the handler and of `ps_proxy`. -/
def array : Concatenation -> Option Buffer
  | .data locals input behind =>
      (gctl04Payload locals input behind).bind fun
        | .refused _ => none
        | .payload _ filled => some filled
  | .decision addr session _ op gc request txnId =>
      (psProxy addr session op gc request txnId).map Built.decision

/-- The array is that of `ps_proxy`, or the request of the handler is not read to its
end, is refused or has no direction. -/
def Spared : Concatenation -> Prop
  | .data _ input _ => policyRead input = false ∨ policyAccepted input = false ∨
      gctlOtos (objGet (objGet input "gate") "gate-spec") "direction" = none
  | .decision .. => True

end Concatenation

/-! ## The lists are what the calls store -/

theorem joinParts_eq_array (gc : Gctl) (gate envelope classifier : Buffer) :
    joinParts gc gate envelope classifier = (joined gc gate envelope classifier).array :=
  rfl

theorem packCtlObjs_eq_pieces (dst : Buffer)
    (handle context decision command application subscriber : List UInt8)
    (decisionLength : UInt16) :
    packCtlObjs dst handle context decision command application subscriber decisionLength =
      (ctlObjsPieces handle context decision command application subscriber
        decisionLength).foldl Piece.apply (dst, 0) := by
  unfold packCtlObjs ctlObjsPieces concatC8
  simp only [List.foldl_cons, List.foldl_nil, Piece.apply_concat, Piece.apply_store]
  rfl

theorem psProxyGate_eq_pieces (op : GateOp) (gateId : Int64) (request : List UInt8)
    (packed : Buffer × Nat) :
    psProxyGate op gateId request packed =
      (((gatePieces op gateId request).1 ++
        [Piece.concat (gatePieces op gateId request).2]).foldl Piece.apply packed).1 := by
  cases op with
  | set =>
      by_cases there : gateId ≠ 0
      · simp only [psProxyGate, gatePieces, if_pos there]
        rfl
      · simp only [psProxyGate, gatePieces, if_neg there]
        rfl
  | info | del => rfl

theorem psProxyBuild_decision (handle : List UInt8) (op : GateOp) (gc : Gctl) (ip : String)
    (request : List UInt8) (txnId : UInt16) (subscriber : Buffer) :
    (psProxyBuild handle op gc ip request txnId subscriber).decision =
      (decided handle op gc ip request txnId subscriber.bytes).array := by
  change psProxyGate op gc.gateId request (packCtlObjs _ _ _ _ _ _ _ _) = _
  rw [packCtlObjs_eq_pieces, psProxyGate_eq_pieces, ← List.foldl_append]
  unfold Destination.array decided
  dsimp only
  rw [List.append_assoc]

/-- The lists, run on the arrays, are what the handler and `ps_proxy` have in them. -/
theorem Concatenation.destination_array (concatenation : Concatenation) :
    concatenation.destination.map Destination.array = concatenation.array := by
  cases concatenation with
  | data locals input behind =>
      unfold destination array gctl04Data gctl04Payload
      dsimp only
      rw [Option.map_bind, Option.bind_assoc]
      congr 1
      funext policy
      dsimp only [Function.comp]
      split
      · rfl
      · rw [Option.map_map, Option.bind_map, Option.map_eq_bind]
        simp only [joinParts_eq_array]
        rfl
  | decision addr session four op gc request txnId =>
      unfold destination array psProxy
      dsimp only
      rw [Option.map_bind, Option.map_bind]
      congr 1
      funext ip
      dsimp only [Function.comp]
      rw [Option.map_map, Option.map_map]
      congr 1
      funext subscriber
      exact (psProxyBuild_decision _ _ _ _ _ _ _).symm

/-! ## The room for the calls -/

theorem ctlObjsPieces_length {handle subscriber : List UInt8} (handle8 : handle.length = 8)
    (op : GateOp) (txnId decisionLength : UInt16) :
    (contents (ctlObjsPieces handle copsContext copsDecision
        (pcmmTransactionIdentifier txnId op.code) (pcmmApplicationIdentifier 0 3474) subscriber
        decisionLength)).length = 44 + subscriber.length := by
  have objects : contents (ctlObjsPieces handle copsContext copsDecision
      (pcmmTransactionIdentifier txnId op.code) (pcmmApplicationIdentifier 0 3474) subscriber
      decisionLength) = frontPart handle op decisionLength txnId subscriber := by
    simp only [contents, ctlObjsPieces, frontPart, List.flatMap_cons, List.flatMap_nil,
      Piece.content, List.append_assoc, List.append_nil]
  rw [objects, frontPart_length handle8]

theorem gatePieces_length (op : GateOp) (gateId : Int64) (request : List UInt8) :
    (contents (gatePieces op gateId request).1).length ≤ 8 ∧
      (contents (gatePieces op gateId request).1).length +
        (gatePieces op gateId request).2.length + 16 = ctlMod op gateId request.length := by
  cases op with
  | set =>
      by_cases there : gateId ≠ 0
      · simp only [gatePieces, ctlMod, if_pos there]
        refine ⟨Nat.le_refl _, ?_⟩
        change 8 + request.length + 16 = _
        omega
      · simp only [gatePieces, ctlMod, if_neg there]
        refine ⟨Nat.zero_le _, ?_⟩
        change 0 + request.length + 16 = _
        omega
  | info | del => exact ⟨Nat.zero_le _, rfl⟩

/-- The array of `ps_proxy` has eight bytes more than are copied. -/
theorem decided_inside {handle subscriber : List UInt8} {ip : String} (op : GateOp) (gc : Gctl)
    (request : List UInt8) (txnId : UInt16) (four : 4 ≤ handle.length)
    (whole : subscriber.length = addrLen ip) :
    (decided handle op gc ip request txnId subscriber).Inside := by
  rcases gatePieces_length op gc.gateId request with ⟨small, counted⟩
  have address := addrLen_le ip
  generalize objects : ctlObjsPieces (ctlHnd gc handle) copsContext copsDecision
    (pcmmTransactionIdentifier txnId op.code) (pcmmApplicationIdentifier 0 3474) subscriber
    (UInt16.ofNat (decSize op gc ip request.length)) = front
  have front44 : (contents front).length = 44 + addrLen ip := by
    rw [← objects, ctlObjsPieces_length (ctlHnd_length gc four), whole]
  have copied : (contents (front ++ (gatePieces op gc.gateId request).1)).length =
      44 + addrLen ip + (contents (gatePieces op gc.gateId request).1).length := by
    rw [contents, List.flatMap_append, List.length_append, ← contents, ← contents, front44]
  have short : (contents (front ++ (gatePieces op gc.gateId request).1)).length < 2147483648 := by
    omega
  have room : (contents (front ++ (gatePieces op gc.gateId request).1)).length +
      (gatePieces op gc.gateId request).2.length < msgSize op gc ip request.length := by
    rw [msgSize, decSize, copied]
    omega
  unfold decided
  dsimp only
  rw [objects]
  intro part place stored
  have most := (Destination.stores_of_short _ _ short).2 part place stored
  exact Nat.lt_of_le_of_lt most room

/-- The array of `gctl_04` has as many bytes as are copied, and the last byte of 0 is
right behind it. -/
theorem joined_stores {gc : Gctl} {gate envelope classifier : Buffer}
    (gate16 : gate.bytes.length = 16) (envelopes : gc.envelopeSize ≤ envelope.bytes.length)
    (classifiers : gc.classifierSize ≤ classifier.bytes.length)
    (small : gc.envelopeSize < 65536) :
    (joined gc gate envelope classifier).writing.Stores ()
        (joined gc gate envelope classifier).size ∧
      (joined gc gate envelope classifier).writing.Each fun _ place =>
        place ≤ (joined gc gate envelope classifier).size := by
  have long : (gate.bytes.take 16).length = 16 := by
    rw [List.length_take, gate16]
    rfl
  have long' : (envelope.bytes.take gc.envelopeSize).length = gc.envelopeSize := by
    rw [List.length_take, Nat.min_eq_left envelopes]
  have long'' : (classifier.bytes.take gc.classifierSize).length = gc.classifierSize := by
    rw [List.length_take, Nat.min_eq_left classifiers]
  have front : (contents [.concat (gate.bytes.take 16),
      .concat (envelope.bytes.take gc.envelopeSize)]).length = 16 + gc.envelopeSize := by
    rw [contents_cons_length, contents_cons_length]
    change (gate.bytes.take 16).length + ((envelope.bytes.take gc.envelopeSize).length + 0) = _
    rw [long, long', Nat.add_zero]
  have stored := Destination.stores_of_short (joined gc gate envelope classifier).size
    (classifier.bytes.take gc.classifierSize) (by rw [front]; omega)
  rw [front, long''] at stored
  exact stored

theorem pcmmGate_length {dst gate : Buffer} {dir : Option String}
    {pri preempt overwrite mask : UInt8} {t1 t2 t3 t4 : Int32}
    (made : pcmmGate dst dir pri preempt overwrite mask t1 t2 t3 t4 = some gate) :
    gate.bytes.length = dst.bytes.length := by
  rcases Option.map_eq_some_iff.mp made with ⟨flags, _, rfl⟩
  simp only [Buffer.write_length]

section Requests

variable {locals : Locals} {input : Option Json} {behind : Memory}

/-- The requests for which `gctl_04` comes to its calls. -/
theorem gctl04Data_isSome :
    (gctl04Data locals input behind).isSome =
      (policyRead input && policyAccepted input &&
        (gctlOtos (objGet (objGet input "gate") "gate-spec") "direction").isSome) := by
  have prepared := @gctl04Payload_isSome locals input behind
  have same := (Concatenation.data locals input behind).destination_array
  have there := congrArg Option.isSome same
  rw [Option.isSome_map, Concatenation.destination, Concatenation.array] at there
  rw [there]
  cases prepares : gctl04Payload locals input behind with
  | none =>
      rw [prepares, Option.isSome_none] at prepared
      rw [Option.bind_none, Option.isSome_none]
      grind
  | some result =>
      rw [prepares, Option.isSome_some] at prepared
      cases result with
      | refused reason =>
          rw [gctl04Payload_refused prepares, Bool.and_false, Bool.false_and]
          rfl
      | payload gc filled =>
          rw [(gctl04Payload_accepted prepares).1, Bool.not_true, Bool.false_or] at prepared
          rw [(gctl04Payload_accepted prepares).1, Bool.and_true, ← prepared]
          rfl

/-- Where it comes to them, they store one byte right behind the array. -/
theorem gctl04Data_stores {dst : Destination}
    (calls : gctl04Data locals input behind = some dst) :
    dst.writing.Stores () dst.size ∧ dst.writing.Each fun _ place => place ≤ dst.size := by
  rcases Option.bind_eq_some_iff.mp calls with ⟨policy, reads, calls⟩
  dsimp only at calls
  split at calls
  · cases calls
  · rename_i sound
    rcases Option.map_eq_some_iff.mp calls with ⟨gate, made, rfl⟩
    rcases gctlReadPolicy_sizes reads (Bool.eq_false_iff.mpr sound) with
      ⟨long, long', _, most, _, most', _⟩
    have gate16 := pcmmGate_length made
    rw [Buffer.cleared_length] at gate16
    exact joined_stores gate16 (long ▸ most) (long' ▸ most') (by omega)

theorem gctl04Data_overruns {dst : Destination}
    (calls : gctl04Data locals input behind = some dst) : ¬ dst.Inside := by
  intro inside
  exact Nat.lt_irrefl _ (inside () dst.size (gctl04Data_stores calls).1)

end Requests

/-! ## Which calls stay inside -/

namespace Concatenation

/-- Every place is inside exactly if the model of the source counts no byte outside. -/
theorem inside_iff_array (concatenation : Concatenation) :
    concatenation.Inside ↔
      forall filled, concatenation.array = some filled -> filled.outside = 0 := by
  rw [← concatenation.destination_array]
  constructor
  · intro inside filled found
    rcases Option.map_eq_some_iff.mp found with ⟨dst, calls, rfl⟩
    exact dst.inside_iff_outside.mp (inside dst calls)
  · intro counted dst calls
    exact dst.inside_iff_outside.mpr (counted dst.array (by rw [calls, Option.map_some]))

theorem data_inside_iff (locals : Locals) (input : Option Json) (behind : Memory) :
    (data locals input behind).Inside ↔ gctl04Data locals input behind = none := by
  constructor
  · intro inside
    cases calls : gctl04Data locals input behind with
    | none => rfl
    | some dst => exact absurd (inside dst calls) (gctl04Data_overruns calls)
  · intro none dst calls
    rw [destination, none] at calls
    cases calls

theorem decision_inside (addr : UInt32) (session : Session) (four : 4 ≤ session.handle.length)
    (op : GateOp) (gc : Gctl) (request : List UInt8) (txnId : UInt16) :
    (decision addr session four op gc request txnId).Inside := by
  intro dst calls
  rcases Option.bind_eq_some_iff.mp calls with ⟨ip, _, calls⟩
  rcases Option.map_eq_some_iff.mp calls with ⟨subscriber, made, rfl⟩
  exact decided_inside op gc request txnId four (ctlSub_length made)

/-- The calls of `concat` and `concat_c8` stay inside their array in `ps_proxy`, for every
operation, gate id, address and request; in `gctl_04`, for no request that is accepted and
has a direction. -/
theorem inside_iff (concatenation : Concatenation) :
    concatenation.Inside ↔ concatenation.Spared := by
  cases concatenation with
  | data locals input behind =>
      rw [data_inside_iff, ← Option.isNone_iff_eq_none, ← Option.not_isSome, gctl04Data_isSome,
        Spared]
      simp only [Bool.not_eq_true', Bool.and_eq_false_iff, Option.isSome_eq_false_iff,
        Option.isNone_iff_eq_none, or_assoc]
  | decision addr session four op gc request txnId =>
      exact iff_of_true (decision_inside addr session four op gc request txnId) trivial

/-- An accepted request with one classifier: 60 bytes are copied into an array of 60. -/
theorem data_not_inside :
    policyRead (some (gateSetRequest [classifierWith 5])) = true ∧
      policyAccepted (some (gateSetRequest [classifierWith 5])) = true ∧
        (data clearedLocals (some (gateSetRequest [classifierWith 5]))
          (fun _ => 0)).destination.map Destination.size = some 60 ∧
          ¬ (data clearedLocals (some (gateSetRequest [classifierWith 5]))
            (fun _ => 0)).Inside := by
  have size : (data clearedLocals (some (gateSetRequest [classifierWith 5]))
      (fun _ => 0)).destination.map Destination.size = some 60 := by decide +kernel
  refine ⟨by decide +kernel, by decide +kernel, size, fun inside => ?_⟩
  rcases Option.map_eq_some_iff.mp size with ⟨dst, calls, _⟩
  exact gctl04Data_overruns calls (inside dst calls)

end Concatenation

end PolicyServer
