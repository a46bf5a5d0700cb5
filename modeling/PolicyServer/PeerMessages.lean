import PolicyServer.HandlerAnswers
import PolicyServer.OutgoingStream
import PolicyServer.ReportFold

namespace PolicyServer

open Lib

/-!
# What the other end reads and sends

A peer takes the messages off a connection by their length fields, as `ps_recvd` does,
and finds the transaction of a decision behind the tags of the ClientSI object.  It
answers with a Report-State: COPS objects that the object loop has nothing to do with,
and among them one ClientSI object of known PCMM objects.  `PeerReport.received` is that
`ps_recvd` makes of such a message exactly what its objects say.
-/

/-! ## Taking messages off a connection -/

/-- The message in front of a stream; `none` as long as it has not arrived whole. -/
def takeMessage {α : Type} (byte : α -> UInt8) (stream : List α) : Option (List α × List α) :=
  let size := (unpackN (Memory.behind (stream.map byte) fun _ => 0) 4).toNat
  if 8 ≤ stream.length ∧ 8 ≤ size ∧ size ≤ stream.length then
    some (stream.take size, stream.drop size)
  else none

section TakeMessage

variable {α : Type} {byte : α -> UInt8} {message rest part : List α}

/-- The length field is read where the header is there. -/
theorem unpackN_of_header (frame : Frame) {bytes : List UInt8} (header : frame.header <+: bytes) :
    (unpackN (Memory.behind bytes fun _ => 0) 4).toNat = frame.size := by
  rcases header with ⟨more, rfl⟩
  have holds := Memory.behind_holds (frame.header ++ more) fun _ => 0
  have fields := (Memory.holds_append.mp holds).1
  rcases Memory.holds_append.mp fields with ⟨_, fields⟩
  have length := unpackN_of_holds (Memory.holds_append.mp fields).2
  exact (congrArg UInt32.toNat length).trans frame.length_toNat

theorem takeMessage_frame (isFrame : IsFrame (message.map byte)) (rest : List α) :
    takeMessage byte (message ++ rest) = some (message, rest) := by
  rcases isFrame with ⟨frame, same⟩
  have header : frame.header <+: (message ++ rest).map byte := by
    rw [List.map_append, same]
    exact (List.prefix_append _ frame.body).trans (List.prefix_append _ _)
  have size : message.length = frame.size := by
    rw [← frame.bytes_length, ← same, List.length_map]
  have positive := frame.size_pos
  have there : 8 ≤ (message ++ rest).length ∧ 8 ≤ frame.size ∧
      frame.size ≤ (message ++ rest).length := by
    rw [List.length_append]
    omega
  rw [takeMessage, unpackN_of_header frame header, if_pos there, ← size, List.take_left,
    List.drop_left]

theorem takeMessage_part (isFrame : IsFrame (message.map byte)) (front : part <+: message)
    (rest : part ≠ message) : takeMessage byte part = none := by
  rcases isFrame with ⟨frame, same⟩
  have size : message.length = frame.size := by
    rw [← frame.bytes_length, ← same, List.length_map]
  have shorter : part.length < message.length := by
    refine Nat.lt_of_le_of_ne front.length_le ?_
    intro equal
    exact rest (front.eq_of_length equal)
  unfold takeMessage
  apply if_neg
  rintro ⟨eight, _, fits⟩
  have header : frame.header <+: part.map byte := by
    rcases front with ⟨more, rfl⟩
    rw [List.map_append] at same
    have long : frame.header.length ≤ (part.map byte).length := by
      rw [frame.header_length, List.length_map]
      exact eight
    have both : frame.header <+: part.map byte ++ more.map byte := by
      rw [same]
      exact List.prefix_append _ _
    exact List.prefix_of_prefix_length_le both (List.prefix_append _ _) long
  rw [unpackN_of_header frame header] at fits
  omega

end TakeMessage

/-- Messages are read by their length fields. -/
def messageReader : WordReader IsFrame where
  next := takeMessage id
  finds := fun word rest isFrame =>
    takeMessage_frame ((List.map_id word).symm ▸ isFrame) rest
  waits := fun word _ isFrame front rest =>
    takeMessage_part ((List.map_id word).symm ▸ isFrame) front rest

namespace SockWrite

/-- The kernel takes the message whole. -/
def TakenWhole (call : SockWrite) : Prop :=
  sockWrite call.connection [] call.msg call.bytes = call.msg

instance (call : SockWrite) : Decidable call.TakenWhole :=
  inferInstanceAs (Decidable (_ = _))

end SockWrite

/-- The messages that were taken whole. -/
def wholeMessages (calls : List SockWrite) : List (List UInt8) :=
  (calls.filter fun call => call.TakenWhole).map SockWrite.msg

instance (call : SockWrite) : Decidable (messageWriters.Whole call) :=
  inferInstanceAs (Decidable call.TakenWhole)

/-- Whatever the kernel takes of each message: up to the first that it takes in part, the
peer reads those it took whole, in their order; and where it takes nothing more behind
one that it took in part, the peer reads these and no others. -/
theorem messages_read_back (calls : List SockWrite) :
    (forall before after, calls = before ++ after ->
      (forall call, call ∈ before -> ¬ call.TakenInPart) ->
        wholeMessages before <+: messageReader.read (onConnection calls)) ∧
    ((forall before call after, calls = before ++ call :: after -> call.TakenInPart ->
        forall later, later ∈ after -> later.NotTaken) ->
      messageReader.read (onConnection calls) = wholeMessages calls) := by
  constructor
  · rintro before after rfl uncut
    rw [onConnection_eq]
    exact Writers.whole_prefix_read messageReader frames_delimited after
      fun call member cut => uncut call member (call.cut_iff.mp cut)
  · intro spared
    rw [onConnection_eq]
    refine Writers.read_of_spared messageReader frames_delimited ?_
    intro before call after same cut
    apply List.flatMap_eq_nil_iff.mpr
    intro later member
    exact later.put_eq_nil_iff.mpr (spared before call after same (call.cut_iff.mp cut) later member)

/-- A Client-Accept that is taken in part, behind a Keep-Alive. -/
theorem messages_read_back_short :
    messageReader.read (onConnection [wholeKeepalive, shortAccept]) = [copsKeepalive] := by
  have spared : forall before call after, [wholeKeepalive, shortAccept] = before ++ call :: after ->
      call.TakenInPart -> forall later, later ∈ after -> later.NotTaken := by
    intro before call after same part later member
    match before, same with
    | [], same =>
        cases same
        rcases part.2 with ⟨bytes, taken, _, few⟩
        cases taken
        exact absurd few (by decide)
    | [_], same =>
        cases same
        cases member
    | _ :: _ :: [], same => cases same
    | _ :: _ :: _ :: _, same => cases same
  exact (messages_read_back [wholeKeepalive, shortAccept]).2 spared

/-! ## The transaction of a decision -/

/-- Handle, Context, Decision Flags and ClientSI Decision Data. -/
def decisionTags : List (UInt8 × UInt8) :=
  [(1, 1), (2, 1), (6, 1), (6, 4)]

/-- The transaction id that a peer finds in a message: the objects of a decision, and in
the last of them a Transaction object. -/
def decisionTransaction (message : List UInt8) : Option UInt16 :=
  match walk 4 (message.drop 8) with
  | some ([handle, context, flags, info], _) =>
      if [handle, context, flags, info].map (fun object => (object.major, object.minor)) =
          decisionTags then
        match walk 1 info.body with
        | some ([transaction], _) =>
            if (transaction.major, transaction.minor) = (1, 1) then
              some (field16 transaction.body 0)
            else none
        | _ => none
      else none
  | _ => none

/-- The transaction is found in the objects of a decision. -/
theorem decisionTransaction_of_records {handle behind : List UInt8} {txnId code : UInt16}
    {header : List UInt8} (eight : header.length = 8) (four : handle.length = 4)
    (fits : (pcmmTransactionIdentifier txnId code ++ behind).length + 4 < 65536) :
    decisionTransaction (header ++ (decisionRecords handle
      (pcmmTransactionIdentifier txnId code ++ behind)).flatMap Record.bytes) = some txnId := by
  have records := walk_records (fun _ member => decisionRecords_fit four fits member) []
  rw [List.append_nil] at records
  have control : pcmmTransactionIdentifier txnId code ++ behind =
      ({ major := 1, minor := 1, body := packU16Be txnId ++ packU16Be code } : Record).bytes ++
        behind := rfl
  have small : (Record.mk 1 1 (packU16Be txnId ++ packU16Be code)).size < 65536 :=
    (by decide : 8 < 65536)
  have inner := walk_cons small 0 behind
  have echoed : field16 (packU16Be txnId ++ packU16Be code) 0 = txnId := by
    rw [← unpackU16_shown]
    apply unpackU16_of_holds
    have holds := Memory.behind_holds (packU16Be txnId ++ packU16Be code) fun _ => 0
    exact (Memory.holds_append.mp holds).1
  have four' : (decisionRecords handle (pcmmTransactionIdentifier txnId code ++ behind)).length =
      4 := rfl
  rw [four'] at records
  unfold decisionTransaction
  rw [← eight, List.drop_left, records]
  simp only [decisionRecords, control, inner, walk, Option.map_some, List.map_cons, List.map_nil,
    decisionTags, echoed, if_true]

/-- A Client-Accept has one timer or two, and no transaction. -/
theorem decisionTransaction_clientAccept (kaTimer acTimer : UInt32) :
    decisionTransaction (copsClientAccept kaTimer acTimer) = none := by
  have small (major : UInt8) (timer : UInt32) :
      (Record.mk major 1 (packU32Be timer)).size < 65536 := (by decide : 8 < 65536)
  have bytes (major : UInt8) (timer : UInt32) : (Record.mk major 1 (packU32Be timer)).bytes =
      [0, 8, major, 1] ++ packU32Be timer := by
    have eight : packU16Be (UInt16.ofNat (4 + 4)) = [0, 8] := by decide
    rw [Record.bytes, Record.size, packU32Be_length, eight]
    rfl
  have short (behind : List UInt8) (few : walk 3 behind = none) :
      walk 4 ([0, 8, 10, 1] ++ packU32Be kaTimer ++ behind) = none := by
    rw [← bytes, walk_cons (small 10 kaTimer), few, Option.map_none]
  have behind (size : UInt32) (objects : List UInt8) :
      ([16, 7] ++ packU16Be pcmmClientType ++ packU32Be size ++ objects).drop 8 = objects :=
    List.drop_left' rfl
  have objects : walk 4 ((copsClientAccept kaTimer acTimer).drop 8) = none := by
    rw [copsClientAccept, List.append_assoc, behind]
    by_cases zero : acTimer = 0
    · rw [if_pos zero]
      exact short [] rfl
    · rw [if_neg zero, ← bytes 15, ← List.append_nil (Record.bytes _)]
      apply short
      rw [walk_cons (small 15 acTimer)]
      rfl
  rw [decisionTransaction, objects]

/-- The objects of a decision, whatever the subscriber object is made of. -/
theorem decisionBody_records {handle subscriber : List UInt8} {ip : String} (op : GateOp)
    (gc : Gctl) (request : List UInt8) (txnId : UInt16) (four : handle.length = 4)
    (whole : subscriber.length = addrLen ip) :
    Exists fun behind =>
      (pcmmTransactionIdentifier txnId op.code ++ behind).length + 4 =
          decSize op gc ip request.length ∧
        decisionBody (copsHandle handle) op gc ip request txnId subscriber =
          (decisionRecords handle (pcmmTransactionIdentifier txnId op.code ++ behind)).flatMap
            Record.bytes := by
  refine ⟨pcmmApplicationIdentifier 0 3474 ++ (subscriber ++ gatePart op gc.gateId request), ?_⟩
  have gate := gatePart_length op gc.gateId request
  have transaction : (pcmmTransactionIdentifier txnId op.code).length = 8 := rfl
  have application : (pcmmApplicationIdentifier 0 3474).length = 8 := rfl
  have size : (pcmmTransactionIdentifier txnId op.code ++ (pcmmApplicationIdentifier 0 3474 ++
      (subscriber ++ gatePart op gc.gateId request))).length + 4 =
        decSize op gc ip request.length := by
    simp only [List.length_append, transaction, application, whole, decSize]
    omega
  refine ⟨size, ?_⟩
  have eight : copsHandle handle = ({ major := 1, minor := 1, body := handle } : Record).bytes := by
    rw [copsHandle, Record.bytes, Record.size, four, List.take_of_length_le (Nat.le_of_eq four)]
    rfl
  have wrapped : (Record.mk 6 4 (pcmmTransactionIdentifier txnId op.code ++
      (pcmmApplicationIdentifier 0 3474 ++ (subscriber ++ gatePart op gc.gateId request)))).bytes =
        packU16Be (UInt16.ofNat (decSize op gc ip request.length)) ++ ([6, 4] ++
          (pcmmTransactionIdentifier txnId op.code ++ (pcmmApplicationIdentifier 0 3474 ++
            (subscriber ++ gatePart op gc.gateId request)))) := by
    rw [Record.bytes, Record.size, size]
  simp only [decisionRecords, List.flatMap_cons, List.flatMap_nil, List.append_nil]
  rw [decisionBody, frontPart, eight, wrapped]
  simp only [List.append_assoc]
  rfl

/-- A decision carries the transaction it was made for. -/
theorem psProxy_transaction {addr : UInt32} {self : Session} {op : GateOp} {gc : Gctl}
    {request : List UInt8} {txnId : UInt16} {built : Built} (four : self.handle.length = 4)
    (short : request.length ≤ 428) (sends : gc.dryRun = 0)
    (builds : psProxy addr self op gc request txnId = some built) :
    decisionTransaction built.message.bytes = some txnId := by
  rcases psProxy_parts builds with ⟨ip, subscriber, _, sub, rfl⟩
  have whole := ctlSub_length sub
  have size := decSize_le op gc ip request.length
  have fits : decSize op gc ip request.length < 65536 := by omega
  have real : ctlHnd gc self.handle = copsHandle self.handle := by
    rw [ctlHnd, sends, if_pos (by decide)]
  rcases decisionBody_records op gc request txnId four whole with ⟨behind, counted, records⟩
  rw [psProxyBuild_message four whole fits, real, records]
  exact decisionTransaction_of_records rfl four (counted ▸ fits)

/-- What a handler has made of a request, when it comes to the draw of its transaction. -/
structure Order where
  handler : GateHandler
  getps : Option String -> Option Session
  four : forall ip session, getps ip = some session -> session.handle.length = 4
  input : Option Json
  behind : Memory
  locals : Locals
  sends : gctlOtoi input "dry_run" = 0

/-- The bytes that `sock_write` is called with. -/
def Order.message (order : Order) (txnId : UInt16) : Option (List UInt8) :=
  (order.handler.message order.getps order.input order.behind txnId order.locals).map
    fun built => built.message.bytes

theorem Order.outgoing {order : Order} {txnId : UInt16} {message : List UInt8}
    (made : order.message txnId = some message) : IsOutgoing message := by
  rcases Option.map_eq_some_iff.mp made with ⟨built, builds, rfl⟩
  exact .decision order.handler order.getps order.four order.input order.behind txnId order.locals
    built builds order.sends

theorem Order.transaction {order : Order} {txnId : UInt16} {message : List UInt8}
    (made : order.message txnId = some message) : decisionTransaction message = some txnId := by
  rcases order with ⟨handler, getps, four, input, behind, locals, sends⟩
  rcases Option.map_eq_some_iff.mp made with ⟨built, builds, rfl⟩
  cases handler with
  | gctl04 =>
      rcases Option.bind_eq_some_iff.mp builds with ⟨prepared, prepares, rest⟩
      cases prepared with
      | refused => cases rest
      | payload gc data =>
          rcases Option.bind_eq_some_iff.mp rest with ⟨client, found, proxied⟩
          have read := (gctl04Payload_accepted prepares).2
          exact psProxy_transaction (four _ client found) (gctl04Payload_short prepares)
            (read.dryRun.trans sends) proxied
  | gctl07 | gctl10 =>
      rcases Option.bind_eq_some_iff.mp builds with ⟨ps, found, proxied⟩
      exact psProxy_transaction (four _ ps found) (Nat.zero_le _) sends proxied

/-! ## The answer of a peer -/

/-- An object of a report that the object loop steps over, whether the session has its
handle or not. -/
def SteppedOver (object : CopsObject) : Prop :=
  object.isA 9 = false ∧ Silent 3 true object.body ∧
    if object.isA 1 then 4 ≤ object.body.length else Silent 3 false object.body

instance (object : CopsObject) : Decidable (SteppedOver object) :=
  inferInstanceAs (Decidable (_ ∧ _ ∧
    if object.isA 1 then 4 ≤ object.body.length else Silent 3 false object.body))

/-- A Report-State with one ClientSI object of known objects. -/
structure PeerReport where
  front : List CopsObject
  info : CopsObject
  behind : List CopsObject
  objects : List PcmmObject
  quiet : forall object, object ∈ front ++ behind -> SteppedOver object
  isInfo : info.isA 9 = true
  tiled : info.body = encode objects
  filled : objects ≠ []
  known : forall object, object ∈ objects -> object.Known
  long : forall object, object ∈ objects -> object.Long
  fits : (encode (front ++ info :: behind)).length + 8 < 65536

namespace PeerReport

def frame (report : PeerReport) : Frame :=
  .pcmm 3 (encode (report.front ++ report.info :: report.behind)) report.fits

/-- What the objects say, one after the other. -/
def decoded (report : PeerReport) : Decoded :=
  report.objects.foldl applyObject .initial

/-- The transaction that is answered. -/
def transaction (report : PeerReport) : UInt16 :=
  report.decoded.rpt.transactionId

end PeerReport

section Walk

variable {buf : Memory} {bytes : Nat} (state : DispatchState)

theorem silent_drop {opc : UInt8} {uuidReceived : Bool} {words : List UInt8}
    (silent : Silent opc uuidReceived words) : Silent opc uuidReceived (words.drop 4) := by
  intro tags member
  apply silent tags
  match words, member with
  | _ :: _ :: _ :: _ :: _, member => exact List.mem_cons_of_mem _ member

/-- A quiet object is stepped over, and no file is written. -/
theorem visits_quiet {object : CopsObject} (stored : object.StoredAt buf state.idx)
    (quiet : SteppedOver object) (inside : state.idx + object.size ≤ bytes)
    (small : bytes < 65536) :
    Exists fun self => Exists fun acts =>
      Loop.Visits (dispatchGuard bytes) (dispatchBody buf 3) state
        { state with idx := state.idx + object.size, self, acts } := by
  rcases quiet with ⟨other, silent, unheld⟩
  have positive := object.size_pos
  have entered : dispatchGuard bytes state = true := dispatchGuard_iff.mpr (by omega)
  have header : dispatchBody buf 3 state = _ := dispatchBody_eq (by omega)
  rw [stored.major, stored.minor, actKind_object, other] at header
  simp only [Bool.false_and, Bool.false_eq_true, if_false] at header
  by_cases handle : (object.isA 1 && !state.self.uuidReceived) = true
  · rw [if_pos handle] at header
    rw [if_pos (Bool.and_eq_true_iff.mp handle).1] at unheld
    rcases handle_stored stored unheld with ⟨taken, rest, aligned, place⟩
    rw [taken] at header
    have first := Loop.Visits.next .here entered header
    have later := visits_silent
      { state with
        idx := state.idx + 8
        self := { handle := object.body.take 4, uuidReceived := true }
        acts := state.acts ++ [.handle (state.idx + 4) (object.body.take 4)] }
      aligned rest (place ▸ inside) small (silent_drop silent)
    rw [← place]
    exact ⟨_, _, first.trans later⟩
  rw [if_neg handle] at header
  have silent : Silent 3 state.self.uuidReceived object.body := by
    cases held : state.self.uuidReceived with
    | true => exact silent
    | false =>
        rw [held, Bool.not_false, Bool.and_true] at handle
        rwa [if_neg handle] at unheld
  have size : state.idx + object.size = state.idx + 4 + object.body.length := by
    rw [Object.size]
    omega
  rw [size]
  by_cases error : object.isA 8 = true
  · rw [if_pos error] at header
    have first := Loop.Visits.next .here entered header
    have later := visits_silent
      { state with
        idx := state.idx + 4
        acts := state.acts ++ [.packetCableError (state.idx + 4)] }
      object.aligned stored.body (by dsimp only; omega) small silent
    exact ⟨_, _, first.trans later⟩
  · rw [if_neg error] at header
    have first := Loop.Visits.next .here entered header
    have later := visits_silent { state with idx := state.idx + 4 } object.aligned stored.body
      (by dsimp only; omega) small silent
    exact ⟨_, _, first.trans later⟩

theorem visits_quiets {objects : List CopsObject}
    (holds : buf.Holds state.idx (encode objects))
    (quiet : forall object, object ∈ objects -> SteppedOver object)
    (inside : state.idx + totalSize objects ≤ bytes) (small : bytes < 65536) :
    Exists fun self => Exists fun acts =>
      Loop.Visits (dispatchGuard bytes) (dispatchBody buf 3) state
        { state with idx := state.idx + totalSize objects, self, acts } := by
  induction objects generalizing state with
  | nil => exact ⟨state.self, state.acts, .here⟩
  | cons object objects inductionHypothesis =>
      rw [totalSize_cons] at inside ⊢
      have stored := storedAt_of_holds [] holds
      rw [encode_cons] at holds
      have later := (Memory.holds_append.mp holds).2
      rw [object.bytes_length] at later
      rcases visits_quiet state stored (quiet object List.mem_cons_self) (by omega) small with
        ⟨self, acts, first⟩
      rcases inductionHypothesis { state with idx := state.idx + object.size, self, acts }
        later (fun other member => quiet other (List.mem_cons_of_mem _ member))
        (by dsimp only; omega) with ⟨self', acts', rest⟩
      dsimp only at rest
      rw [Nat.add_assoc] at rest
      exact ⟨self', acts', first.trans rest⟩

/-- The ClientSI object is handed to `ps_pcmm_report`, which leaves what it decides. -/
theorem visits_info {object : CopsObject} {objects : List PcmmObject}
    (stored : object.StoredAt buf state.idx) (isInfo : object.isA 9 = true)
    (tiled : object.body = encode objects) (filled : objects ≠ [])
    (known : forall object, object ∈ objects -> object.Known)
    (long : forall object, object ∈ objects -> object.Long)
    (inside : state.idx + object.size ≤ bytes) (small : bytes < 65536) :
    Exists fun acts => Loop.Visits (dispatchGuard bytes) (dispatchBody buf 3) state
      { state with
        idx := state.idx + object.size
        acts := acts
        files := state.files ++ (objects.foldl applyObject .initial).action.toList } := by
  have positive := object.size_pos
  have size : object.size = totalSize objects + 4 := by
    rw [Object.size, tiled, encode_length]
  have fits := object.fits
  have body : object.body.length = totalSize objects := by rw [tiled, encode_length]
  have entered : dispatchGuard bytes state = true := dispatchGuard_iff.mpr (by omega)
  have header : dispatchBody buf 3 state = _ := dispatchBody_eq (by omega)
  rw [stored.major, stored.minor, stored.length, actKind_object, isInfo] at header
  have report : (buf.shift (state.idx + 4)).Holds 0 (encode objects) :=
    Memory.shift_holds.mpr (tiled ▸ stored.body)
  have decodes := decodes_of_long known long report (by omega)
  have counted : object.length = rptLength (totalSize objects) := by
    rw [Object.length, size]
    rfl
  have returns := psPcmmReport_of_decodes decodes (totalSize_pos filled) (by omega)
    (by omega : state.idx + 4 < 65536)
  rw [counted, if_pos (by rfl), returns] at header
  have moved : state.idx + 4 + totalSize objects = state.idx + object.size := by omega
  dsimp only [Option.map_some] at header
  rw [moved] at header
  exact ⟨_, .next .here entered header⟩

end Walk

/-- `ps_recvd` takes a report off the queue, whatever follows it, and leaves behind the file
that the report's own objects decide on. -/
theorem PeerReport.received (report : PeerReport) (stack : Memory) (self : Session)
    (more : List UInt8) :
    Exists fun received =>
      psRecvd stack self { queue := report.frame.bytes ++ more, arrivals := [] } = some received ∧
        received.opcode = 3 ∧ received.socket = { queue := more, arrivals := [] } ∧
          received.files = report.decoded.action.toList := by
  have tiled : report.frame.body = encode (report.front ++ report.info :: report.behind) := rfl
  rcases frameBuffer_objects stack tiled with ⟨holds, size⟩
  have small := report.frame.size_lt
  have sizes : totalSize (report.front ++ report.info :: report.behind) =
      totalSize report.front + (report.info.size + totalSize report.behind) := by
    rw [totalSize_append, totalSize_cons]
  have info := storedAt_of_holds report.front holds
  rw [encode_append, encode_cons] at holds
  rcases Memory.holds_append.mp holds with ⟨front, rest⟩
  have behind := (Memory.holds_append.mp rest).2
  rw [encode_length, report.info.bytes_length] at behind
  have quiet : forall object, object ∈ report.front -> SteppedOver object :=
    fun object member => report.quiet object (List.mem_append_left _ member)
  have quiet' : forall object, object ∈ report.behind -> SteppedOver object :=
    fun object member => report.quiet object (List.mem_append_right _ member)
  have start : (dispatchStart self).idx = 8 := rfl
  rcases visits_quiets (dispatchStart self) front quiet (by omega) small with
    ⟨self₁, acts₁, first⟩
  rw [start] at first
  rcases visits_info
    { dispatchStart self with idx := 8 + totalSize report.front, self := self₁, acts := acts₁ }
    info report.isInfo report.tiled report.filled report.known report.long (by dsimp only; omega)
    small with ⟨acts₂, second⟩
  rcases visits_quiets
    { dispatchStart self with
      idx := 8 + totalSize report.front + report.info.size
      self := self₁
      acts := acts₂
      files := [] ++ report.decoded.action.toList }
    behind quiet' (by dsimp only; omega) small with ⟨self₃, acts₃, third⟩
  have visits := first.trans (second.trans third)
  have done : dispatchGuard report.frame.size
      { dispatchStart self with
        idx := 8 + totalSize report.front + report.info.size + totalSize report.behind
        self := self₃
        acts := acts₃
        files := [] ++ report.decoded.action.toList } = false := by
    apply dispatchGuard_done_iff.mpr
    dsimp only
    omega
  have exits := visits.exits done
  have finished := (dispatchLoop_iff (by omega)).mpr exits
  have delivers : deliver stack self report.frame = some _ := finished
  have received := psRecvd_of_queued stack self report.frame more
  rw [delivers, Option.map_some] at received
  exact ⟨_, received, rfl, rfl, rfl⟩

/-! ## Other messages of a peer -/

/-- Only a Report-State leaves files behind. -/
theorem visits_files {buf : Memory} {opc : UInt8} {bytes : Nat} {state last : DispatchState}
    (other : opc ≠ 3) (small : bytes < 65536)
    (visits : Loop.Visits (dispatchGuard bytes) (dispatchBody buf opc) state last) :
    last.files = state.files := by
  refine visits.invariant (fun last => last.files = state.files) ?_ rfl
  intro before after kept entered moved
  have inside := dispatchGuard_iff.mp entered
  rw [dispatchBody_eq (by omega)] at moved
  have unreported : actKind opc before.self.uuidReceived (buf (before.idx + 2))
      (buf (before.idx + 3)) ≠ some .report := by
    unfold actKind
    rw [beq_eq_false_iff_ne.mpr other, Bool.and_false]
    simp only [Bool.false_eq_true, if_false]
    repeat' split
    all_goals nofun
  cases kind : actKind opc before.self.uuidReceived (buf (before.idx + 2)) (buf (before.idx + 3)) with
  | none =>
      rw [kind] at moved
      cases moved
      exact kept
  | some kind' =>
      rw [kind] at moved
      cases kind' with
      | report => exact absurd kind unreported
      | handle | packetCableError =>
          cases moved
          exact kept

/-- A message that is no report is taken off the queue, and leaves no file behind. -/
theorem received_of_other {stack : Memory} {self : Session} {frame : Frame} {more : List UInt8}
    {received : Received} (other : frame.opcode ≠ 3)
    (returns : psRecvd stack self { queue := frame.bytes ++ more, arrivals := [] } =
      some received) :
    received.opcode = frame.opcode ∧ received.socket = { queue := more, arrivals := [] } ∧
      received.files = [] := by
  rw [psRecvd_of_queued] at returns
  rcases Option.map_eq_some_iff.mp returns with ⟨last, delivers, rfl⟩
  have small := frame.size_lt
  have exits := (dispatchLoop_iff (by omega)).mp delivers
  exact ⟨rfl, rfl, visits_files other small exits.visits⟩

end PolicyServer
