import PolicyServer.Lib.Buffer
import PolicyServer.Address
import PolicyServer.Cops
import PolicyServer.Receive
import PolicyServer.Walk

namespace PolicyServer

open Lib

/-!
# Gate control messages

The writers of `cops.c` and `pcmm.c`, and `ps_proxy`, which makes a decision of
them.  The sizes are worked out in front by the operation, the gate id and the
kind of the subscriber's address; the objects are then stored one behind the
other, where `concat` clears the byte behind each.  `psProxy_wellFormed` is that
the two agree.
-/

/-! ## Objects of eight bytes -/

/-- `cops_oid`, and `pcmm_oid` as well. -/
def copsOid (num type : UInt8) : List UInt8 :=
  packU16Be 8 ++ [num, type]

def copsHandle (handle : List UInt8) : List UInt8 :=
  copsOid 1 1 ++ handle.take 4

def copsContext : List UInt8 :=
  copsOid 2 1 ++ (packU16Be 8 ++ packU16Be 0)

def copsDecision : List UInt8 :=
  copsOid 6 1 ++ (packU16Be 1 ++ packU16Be 1)

def pcmmTransactionIdentifier (transactionId gateCommandType : UInt16) : List UInt8 :=
  copsOid 1 1 ++ (packU16Be transactionId ++ packU16Be gateCommandType)

def pcmmApplicationIdentifier (appTag appType : UInt16) : List UInt8 :=
  copsOid 2 1 ++ (packU16Be appTag ++ packU16Be appType)

def pcmmSubscriber4Identifier (ipRepr : UInt32) : List UInt8 :=
  copsOid 3 1 ++ packU32Be ipRepr

def pcmmGateIdentifier (gateId : UInt32) : List UInt8 :=
  copsOid 4 1 ++ packU32Be gateId

/-- `pcmm_subscriber6_identifier`. -/
def pcmmSubscriber6Identifier (dst : Buffer) (subId : String) (ipLen : UInt8) : Option Buffer :=
  (packIp6 subId).map fun bytes =>
    (dst.write 0 (packU16Be ipLen.toUInt16 ++ [3, 2])).write 4 bytes

/-! ## Putting them together -/

/-- `concat`: the bytes, a 0 behind them, and the index moved on. -/
def concat (dst : Buffer) (ptr : Nat) (src : List UInt8) : Buffer × Nat :=
  (dst.write ptr (src ++ [0]), sizeT (ptr + (Int32.ofNat src.length).toInt))

/-- `concat_c8`, which does the same. -/
def concatC8 (dst : Buffer) (ptr : Nat) (src : List UInt8) : Buffer × Nat :=
  concat dst ptr src

/-- `pack_ctl_objs`. -/
def packCtlObjs (dst : Buffer) (handle context decision command application subscriber : List UInt8)
    (decisionLength : UInt16) : Buffer × Nat :=
  let (dst, i) := concatC8 dst 0 handle
  let (dst, i) := concatC8 dst i context
  let (dst, i) := concatC8 dst i decision
  let dst := dst.write i (packU16Be decisionLength)
  let i := i + 2
  let dst := dst.write i [6]
  let i := i + 1
  let dst := dst.write i [4]
  let i := i + 1
  let (dst, i) := concatC8 dst i command
  let (dst, i) := concatC8 dst i application
  concatC8 dst i subscriber

/-- `new_cops_message`, given data. -/
def newCopsMessage (dst : Buffer) (opcode : UInt8) (data : List UInt8) (length : Nat) : Buffer :=
  (dst.write 0
    ([16, opcode] ++ (packU16Be pcmmClientType ++ packU32Be (UInt32.ofNat length)))).write 8
      (data.take (length - 8))

/-- The operations that a decision asks for. -/
inductive GateOp where
  | set
  | info
  | del
  deriving DecidableEq, Repr

def GateOp.code : GateOp -> UInt16
  | .set => 4
  | .info => 7
  | .del => 10

/-- `pcmm_gate_t`. -/
structure PcmmGate where
  dscpTosOvwr : Int32
  dscpTosMask : Int32
  preemption : Int32
  priority : Int32
  timer1 : Int32
  timer2 : Int32
  timer3 : Int32
  timer4 : Int32
  direction : Option String
  deriving DecidableEq, Repr

/-- `gctl_t`. -/
structure Gctl where
  subscriberId : Option String
  cmtsIp : Option String
  gate : PcmmGate
  applicationId : Int32
  gateId : Int64
  dryRun : Int32
  envelopeSize : Nat
  classifierSize : Nat
  failed : Bool
  failop : Int32
  deriving DecidableEq, Repr

def addrLen (ip : String) : Nat :=
  if isIp6 ip then 20 else 8

/-- `mod`. -/
def ctlMod (op : GateOp) (gateId : Int64) (len : Nat) : Nat :=
  match op with
  | .set => (if gateId ≠ 0 then 8 else 0) + (16 + len)
  | .info | .del => 24

/-- `dec_size`. -/
def decSize (op : GateOp) (gc : Gctl) (ip : String) (len : Nat) : Nat :=
  addrLen ip + ctlMod op gc.gateId len + 4

/-- `msg_size`. -/
def msgSize (op : GateOp) (gc : Gctl) (ip : String) (len : Nat) : Nat :=
  decSize op gc ip len + 32

/-- The subscriber object in its array; `none` for an address without groups. -/
def ctlSub (addr : UInt32) (ip : String) : Option Buffer :=
  if isIp6 ip then pcmmSubscriber6Identifier (Buffer.cleared (addrLen ip)) ip 20
  else some ((Buffer.cleared (addrLen ip)).write 0 (pcmmSubscriber4Identifier (ip4Toi addr ip)))

/-- The handle object in its array, which stays cleared in dry run mode. -/
def ctlHnd (gc : Gctl) (handle : List UInt8) : List UInt8 :=
  if gc.dryRun ≠ 1 then copsHandle handle else List.replicate 8 0

/-- What `ps_proxy` has built when it comes to `sock_write`. -/
structure Built where
  subscriber : Buffer
  decision : Buffer
  message : Buffer
  deriving DecidableEq, Repr

/-- The gate id and the request data behind the other objects. -/
def psProxyGate (op : GateOp) (gateId : Int64) (request : List UInt8) (packed : Buffer × Nat) :
    Buffer :=
  let (decision, ptr) := packed
  let ctlGid := pcmmGateIdentifier gateId.toUInt64.toUInt32
  match op with
  | .set =>
      let (decision, ptr) := if gateId ≠ 0 then concatC8 decision ptr ctlGid else (decision, ptr)
      (concat decision ptr request).1
  | .info | .del => (concat decision ptr ctlGid).1

/-- The two arrays of `ps_proxy`, once it has the subscriber object. -/
def psProxyBuild (handle : List UInt8) (op : GateOp) (gc : Gctl) (ip : String)
    (request : List UInt8) (txnId : UInt16) (subscriber : Buffer) : Built :=
  let size := msgSize op gc ip request.length
  let (decision, ptr) :=
    packCtlObjs (Buffer.cleared size) (ctlHnd gc handle) copsContext copsDecision
      (pcmmTransactionIdentifier txnId op.code) (pcmmApplicationIdentifier 0 3474)
      subscriber.bytes (UInt16.ofNat (decSize op gc ip request.length))
  let decision := psProxyGate op gc.gateId request (decision, ptr)
  { subscriber, decision, message := newCopsMessage (Buffer.cleared size) 2 decision.bytes size }

/-- `ps_proxy` up to `sock_write`, where `addr` is what the local of `ip4_toi`
holds before; `none` where it reads from a null pointer. -/
def psProxy (addr : UInt32) (self : Session) (op : GateOp) (gc : Gctl) (request : List UInt8)
    (txnId : UInt16) : Option Built :=
  gc.subscriberId.bind fun ip =>
    (ctlSub addr ip).map (psProxyBuild self.handle op gc ip request txnId)

/-! ## The arrays are filled exactly -/

theorem concat_filled {front src : List UInt8} {room ptr : Nat} (next : ptr = front.length)
    (small : front.length + src.length < 2147483648) (fits : src.length < room) :
    concat (Buffer.filled front room) ptr src =
      (Buffer.filled (front ++ src) (room - src.length), ptr + src.length) := by
  have count : (Int32.ofNat src.length).toInt = src.length := by
    apply Int32.toInt_ofNat_of_lt
    omega
  have moved : sizeT (ptr + (Int32.ofNat src.length).toInt) = ptr + src.length := by
    rw [count, sizeT]
    omega
  rw [concat, Buffer.filled_terminated next fits, moved]

/-- The objects in front of the gate id, in an array with room for more. -/
theorem packCtlObjs_filled {handle context decision command application subscriber : List UInt8}
    {room : Nat} (decisionLength : UInt16) (handle8 : handle.length = 8)
    (context8 : context.length = 8) (decision8 : decision.length = 8)
    (command8 : command.length = 8) (application8 : application.length = 8)
    (small : subscriber.length ≤ 20) (fits : subscriber.length + 44 < room) :
    packCtlObjs (Buffer.cleared room) handle context decision command application subscriber
        decisionLength =
      (Buffer.filled (handle ++ context ++ decision ++ packU16Be decisionLength ++ [6] ++ [4] ++
          command ++ application ++ subscriber) (room - (44 + subscriber.length)),
        44 + subscriber.length) := by
  unfold packCtlObjs concatC8 Buffer.cleared
  simp (disch := simp only [List.length_append, List.length_nil, List.length_singleton,
      packU16Be_length, handle8, context8, decision8, command8, application8] <;> omega) only
    [concat_filled, Buffer.filled_write]
  simp only [List.nil_append, handle8, context8, decision8, command8, application8,
    packU16Be_length, List.length_singleton, Nat.sub_sub, Nat.zero_add]

/-- The header of a message. -/
def messageHeader (opcode : UInt8) (length : Nat) : List UInt8 :=
  [16, opcode] ++ (packU16Be pcmmClientType ++ packU32Be (UInt32.ofNat length))

theorem newCopsMessage_filled (opcode : UInt8) {body : List UInt8} {length : Nat}
    (size : length = body.length + 8) (more : List UInt8) :
    newCopsMessage (Buffer.cleared length) opcode (body ++ more) length =
      Buffer.filled (messageHeader opcode length ++ body) 0 := by
  have header : (messageHeader opcode length).length = 8 := rfl
  have data : (body ++ more).take (length - 8) = body := by
    rw [size, Nat.add_sub_cancel, List.take_left]
  have room : 8 ≤ length := by omega
  have rest : body.length ≤ length - 8 := by omega
  have none : length - 8 - body.length = 0 := by omega
  unfold newCopsMessage Buffer.cleared
  rw [data]
  change ((Buffer.filled [] length).write 0 (messageHeader opcode length)).write 8 body = _
  have start : 0 = ([] : List UInt8).length := rfl
  rw [Buffer.filled_write start room, header, List.nil_append,
    Buffer.filled_write header.symm rest, none]

/-! ## What is built -/

/-- The gate id and the payload of the operations. -/
def gatePart (op : GateOp) (gateId : Int64) (request : List UInt8) : List UInt8 :=
  match op with
  | .set =>
      (if gateId ≠ 0 then pcmmGateIdentifier gateId.toUInt64.toUInt32 else []) ++ request
  | .info | .del => pcmmGateIdentifier gateId.toUInt64.toUInt32

theorem gatePart_length (op : GateOp) (gateId : Int64) (request : List UInt8) :
    (gatePart op gateId request).length + 16 = ctlMod op gateId request.length := by
  cases op with
  | set =>
      by_cases there : gateId ≠ 0
      · simp only [gatePart, ctlMod, if_pos there, List.length_append]
        have eight : (pcmmGateIdentifier gateId.toUInt64.toUInt32).length = 8 := rfl
        omega
      · simp only [gatePart, ctlMod, if_neg there, List.nil_append]
        omega
  | info | del => rfl

/-- The objects in front of the gate id. -/
def frontPart (hnd : List UInt8) (op : GateOp) (dec : UInt16) (txnId : UInt16)
    (subscriber : List UInt8) : List UInt8 :=
  hnd ++ copsContext ++ copsDecision ++ packU16Be dec ++ [6] ++ [4] ++
    pcmmTransactionIdentifier txnId op.code ++ pcmmApplicationIdentifier 0 3474 ++ subscriber

/-- The body of a decision. -/
def decisionBody (hnd : List UInt8) (op : GateOp) (gc : Gctl) (ip : String)
    (request : List UInt8) (txnId : UInt16) (subscriber : List UInt8) : List UInt8 :=
  frontPart hnd op (UInt16.ofNat (decSize op gc ip request.length)) txnId subscriber ++
    gatePart op gc.gateId request

theorem ctlHnd_length (gc : Gctl) {handle : List UInt8} (four : 4 ≤ handle.length) :
    (ctlHnd gc handle).length = 8 := by
  unfold ctlHnd
  split
  · simp only [copsHandle, copsOid, List.length_append, List.length_take, packU16Be_length,
      List.length_cons, List.length_nil]
    omega
  · exact List.length_replicate

theorem addrLen_le (ip : String) : addrLen ip ≤ 20 := by
  unfold addrLen
  split
  · exact Nat.le_refl _
  · decide

section Built

variable {handle subscriber request : List UInt8} {op : GateOp} {gc : Gctl} {ip : String}

theorem frontPart_length {hnd : List UInt8} (hnd8 : hnd.length = 8) (dec txnId : UInt16) :
    (frontPart hnd op dec txnId subscriber).length = 44 + subscriber.length := by
  have context : copsContext.length = 8 := rfl
  have decision : copsDecision.length = 8 := rfl
  have transaction : (pcmmTransactionIdentifier txnId op.code).length = 8 := rfl
  have application : (pcmmApplicationIdentifier 0 3474).length = 8 := rfl
  simp only [frontPart, List.length_append, hnd8, context, decision, transaction, application,
    packU16Be_length, List.length_singleton]

theorem decisionBody_length {hnd : List UInt8} (hnd8 : hnd.length = 8)
    (whole : subscriber.length = addrLen ip) (txnId : UInt16) :
    (decisionBody hnd op gc ip request txnId subscriber).length + 8 =
      msgSize op gc ip request.length := by
  have gate := gatePart_length op gc.gateId request
  rw [decisionBody, List.length_append, frontPart_length hnd8, whole, msgSize, decSize]
  omega

/-- The gate id and the payload, stored behind what is in front. -/
theorem gatePart_filled (op : GateOp) (gateId : Int64) (request : List UInt8) {front : List UInt8}
    {room ptr : Nat} (next : ptr = front.length)
    (small : front.length + (gatePart op gateId request).length < 2147483648)
    (fits : (gatePart op gateId request).length < room) :
    psProxyGate op gateId request (Buffer.filled front room, ptr) =
      Buffer.filled (front ++ gatePart op gateId request)
        (room - (gatePart op gateId request).length) := by
  have eight : (pcmmGateIdentifier gateId.toUInt64.toUInt32).length = 8 := rfl
  cases op with
  | set =>
      by_cases there : gateId ≠ 0
      · simp only [gatePart, if_pos there, List.length_append, eight] at small fits ⊢
        simp only [psProxyGate, if_pos there, concatC8]
        rw [concat_filled next (by omega) (by omega), concat_filled
          (by rw [next, List.length_append]) (by rw [List.length_append]; omega) (by omega), eight,
          List.append_assoc, Nat.sub_sub]
      · simp only [gatePart, if_neg there, List.nil_append] at small fits ⊢
        simp only [psProxyGate, if_neg there]
        rw [concat_filled next small fits]
  | info | del =>
      simp only [gatePart, psProxyGate] at small fits ⊢
      rw [concat_filled next small fits]

/-- The two arrays are filled with the decision: the bytes left of the first are
those of the header, which is only in the second. -/
theorem psProxyBuild_filled (four : handle.length = 4) (whole : subscriber.length = addrLen ip)
    (fits : decSize op gc ip request.length < 65536) (txnId : UInt16) (past : Nat) :
    psProxyBuild handle op gc ip request txnId { bytes := subscriber, outside := past } =
      { subscriber := { bytes := subscriber, outside := past }
        decision := Buffer.filled
          (decisionBody (ctlHnd gc handle) op gc ip request txnId subscriber) 8
        message := Buffer.filled
          (messageHeader 2 (msgSize op gc ip request.length) ++
            decisionBody (ctlHnd gc handle) op gc ip request txnId subscriber) 0 } := by
  have hnd8 := ctlHnd_length gc four.ge
  have gate := gatePart_length op gc.gateId request
  have short := addrLen_le ip
  have size : (decisionBody (ctlHnd gc handle) op gc ip request txnId subscriber).length + 8 =
      msgSize op gc ip request.length := decisionBody_length hnd8 whole txnId
  have sizes : msgSize op gc ip request.length =
      addrLen ip + ctlMod op gc.gateId request.length + 36 := rfl
  have small : addrLen ip + ctlMod op gc.gateId request.length + 4 < 65536 := fits
  generalize decimal : UInt16.ofNat (decSize op gc ip request.length) = dec
  have packed : packCtlObjs (Buffer.cleared (msgSize op gc ip request.length)) (ctlHnd gc handle)
      copsContext copsDecision (pcmmTransactionIdentifier txnId op.code)
      (pcmmApplicationIdentifier 0 3474) subscriber dec =
        (Buffer.filled (frontPart (ctlHnd gc handle) op dec txnId subscriber)
          (msgSize op gc ip request.length - (44 + subscriber.length)), 44 + subscriber.length) :=
    packCtlObjs_filled dec hnd8 rfl rfl rfl rfl (by omega) (by omega)
  have front : (frontPart (ctlHnd gc handle) op dec txnId subscriber).length =
      44 + subscriber.length := frontPart_length hnd8 dec txnId
  have room : msgSize op gc ip request.length - (44 + subscriber.length) -
      (gatePart op gc.gateId request).length = 8 := by omega
  have enough : (gatePart op gc.gateId request).length <
      msgSize op gc ip request.length - (44 + subscriber.length) := by omega
  have narrow : (frontPart (ctlHnd gc handle) op dec txnId subscriber).length +
      (gatePart op gc.gateId request).length < 2147483648 := by omega
  have decision := gatePart_filled op gc.gateId request front.symm narrow enough
  rw [room] at decision
  have message := newCopsMessage_filled 2 size.symm (List.replicate 8 0)
  unfold decisionBody at message ⊢
  rw [decimal] at message ⊢
  unfold psProxyBuild
  dsimp only
  rw [decimal, packed]
  dsimp only
  rw [decision, ← message]
  rfl

end Built

/-! ## What the receiver reads -/

def gateRecord (gateId : Int64) : Record where
  major := 4
  minor := 1
  body := packU32Be gateId.toUInt64.toUInt32

/-- The gate id, which a decision to set has if it is not 0. -/
def gateRecords (op : GateOp) (gateId : Int64) : List Record :=
  match op with
  | .set => if gateId ≠ 0 then [gateRecord gateId] else []
  | .info | .del => [gateRecord gateId]

/-- What stands behind the objects. -/
def payloadOf (op : GateOp) (request : List UInt8) : List UInt8 :=
  match op with
  | .set => request
  | .info | .del => []

theorem gatePart_eq (op : GateOp) (gateId : Int64) (request : List UInt8) :
    gatePart op gateId request =
      (gateRecords op gateId).flatMap Record.bytes ++ payloadOf op request := by
  cases op with
  | set =>
      by_cases there : gateId ≠ 0
      · simp only [gatePart, gateRecords, payloadOf, if_pos there, List.flatMap_cons,
          List.flatMap_nil, List.append_nil]
        rfl
      · simp only [gatePart, gateRecords, payloadOf, if_neg there, List.flatMap_nil]
  | info | del => rfl

/-- The subscriber object of an address. -/
inductive IsSubscriber (ip : String) : Record -> Prop
  | ipv4 (value : UInt32) (valid : inetPton4 ip = some value) :
      IsSubscriber ip { major := 3, minor := 1, body := packU32Be value }
  | ipv6 (bytes : List UInt8) (valid : isIp6 ip = true) (packs : packIp6 ip = some bytes) :
      IsSubscriber ip
        { major := 3, minor := 2, body := bytes ++ List.replicate (16 - bytes.length) 0 }

/-- A literal address: IPv4, or IPv6 with at least one group. -/
def ValidSubscriber (ip : String) : Prop :=
  isIp4 ip = true ∨ isIp6 ip = true ∧ tokens ip ≠ []

/-- A valid address becomes its object. -/
theorem ctlSub_of_valid {ip : String} (valid : ValidSubscriber ip) (addr : UInt32) :
    Exists fun record => IsSubscriber ip record ∧ record.size = addrLen ip ∧
      ctlSub addr ip = some { bytes := record.bytes, outside := 0 } := by
  rcases valid with ipv4 | ⟨ipv6, groups⟩
  · have value : Exists fun value => inetPton4 ip = some value := ⟨_, if_pos ipv4⟩
    rcases value with ⟨value, reads⟩
    have long : addrLen ip = 8 := by
      rw [addrLen, not_isIp6_of_isIp4 ipv4]
      rfl
    refine ⟨_, .ipv4 value reads, long.symm, ?_⟩
    rw [ctlSub, not_isIp6_of_isIp4 ipv4, long, ip4Toi, reads]
    rfl
  · rcases packIp6_of_tokens groups with ⟨bytes, packs⟩
    have short := packIp6_length (tokens_length ipv6) packs
    have long : addrLen ip = 20 := by
      rw [addrLen, ipv6]
      rfl
    refine ⟨_, .ipv6 bytes ipv6 packs, ?_, ?_⟩
    · rw [Record.size, List.length_append, List.length_replicate, long]
      omega
    · have front : 0 = ([] : List UInt8).length := rfl
      have four : 4 = (packU16Be 20 ++ [3, 2]).length := rfl
      have left : 20 - (packU16Be 20 ++ [3, 2]).length = 16 := rfl
      have width : (20 : UInt8).toUInt16 = 20 := rfl
      have padded : bytes.length + (16 - bytes.length) + 4 = 20 := by omega
      rw [ctlSub, if_pos ipv6, pcmmSubscriber6Identifier, packs, Option.map_some, long, width,
        Buffer.cleared, Buffer.filled_write front (by decide), List.nil_append, left,
        Buffer.filled_write four short, Buffer.filled, Record.bytes, Record.size,
        List.length_append, List.length_replicate, padded, List.append_assoc, List.append_assoc]
      rfl

/-- A decision as its receiver reads it. -/
structure DecodesAs (handle : List UInt8) (op : GateOp) (gc : Gctl) (ip : String)
    (request : List UInt8) (txnId : UInt16) (message : List UInt8) : Prop where
  size : message.length = msgSize op gc ip request.length
  header : message.take 4 = [16, 2] ++ packU16Be pcmmClientType
  length : forall rest, (unpackN (Memory.behind message rest) 4).toNat = message.length
  objects : Exists fun control =>
    walk 4 (message.drop 8) =
        some ([{ major := 1, minor := 1, body := handle },
          { major := 2, minor := 1, body := [0, 8, 0, 0] },
          { major := 6, minor := 1, body := [0, 1, 0, 1] },
          { major := 6, minor := 4, body := control }], []) ∧
      Exists fun subscriber => IsSubscriber ip subscriber ∧
        walk (3 + (gateRecords op gc.gateId).length) control =
          some ([{ major := 1, minor := 1, body := packU16Be txnId ++ packU16Be op.code },
            { major := 2, minor := 1, body := packU16Be 0 ++ packU16Be 3474 },
            subscriber] ++ gateRecords op gc.gateId, payloadOf op request)

section Reading

variable {handle request : List UInt8} {op : GateOp} {gc : Gctl} {ip : String} {txnId : UInt16}

/-- The objects in the ClientSI object. -/
def controlRecords (op : GateOp) (gateId : Int64) (txnId : UInt16) (subscriber : Record) :
    List Record :=
  [{ major := 1, minor := 1, body := packU16Be txnId ++ packU16Be op.code },
    { major := 2, minor := 1, body := packU16Be 0 ++ packU16Be 3474 },
    subscriber] ++ gateRecords op gateId

/-- The body of the ClientSI object. -/
def controlPart (op : GateOp) (gateId : Int64) (request : List UInt8) (txnId : UInt16)
    (subscriber : Record) : List UInt8 :=
  (controlRecords op gateId txnId subscriber).flatMap Record.bytes ++ payloadOf op request

/-- The objects of a decision. -/
def decisionRecords (handle control : List UInt8) : List Record :=
  [{ major := 1, minor := 1, body := handle },
    { major := 2, minor := 1, body := [0, 8, 0, 0] },
    { major := 6, minor := 1, body := [0, 1, 0, 1] },
    { major := 6, minor := 4, body := control }]

theorem controlPart_eq (op : GateOp) (gateId : Int64) (request : List UInt8) (txnId : UInt16)
    (subscriber : Record) :
    controlPart op gateId request txnId subscriber =
      pcmmTransactionIdentifier txnId op.code ++ (pcmmApplicationIdentifier 0 3474 ++
        (subscriber.bytes ++ gatePart op gateId request)) := by
  rw [controlPart, controlRecords, List.flatMap_append, List.append_assoc, ← gatePart_eq]
  simp only [List.flatMap_cons, List.flatMap_nil, List.append_nil, List.append_assoc]
  rfl

theorem controlPart_length {subscriber : Record} (whole : subscriber.size = addrLen ip) :
    (controlPart op gc.gateId request txnId subscriber).length + 4 =
      decSize op gc ip request.length := by
  have gate := gatePart_length op gc.gateId request
  have transaction : (pcmmTransactionIdentifier txnId op.code).length = 8 := rfl
  have application : (pcmmApplicationIdentifier 0 3474).length = 8 := rfl
  rw [controlPart_eq, List.length_append, List.length_append, List.length_append, transaction,
    application, Record.bytes_length, whole, decSize]
  omega

/-- The body of a decision is its objects, one behind the other. -/
theorem decisionBody_eq (four : handle.length = 4) {subscriber : Record}
    (whole : subscriber.size = addrLen ip) :
    decisionBody (copsHandle handle) op gc ip request txnId subscriber.bytes =
      (decisionRecords handle (controlPart op gc.gateId request txnId subscriber)).flatMap
        Record.bytes := by
  have eight : copsHandle handle =
      ({ major := 1, minor := 1, body := handle } : Record).bytes := by
    rw [copsHandle, Record.bytes, Record.size, four, List.take_of_length_le (Nat.le_of_eq four)]
    rfl
  have size : (controlPart op gc.gateId request txnId subscriber).length + 4 =
      decSize op gc ip request.length := controlPart_length whole
  have wrapped : (Record.mk 6 4 (controlPart op gc.gateId request txnId subscriber)).bytes =
      packU16Be (UInt16.ofNat (decSize op gc ip request.length)) ++ ([6, 4] ++
        controlPart op gc.gateId request txnId subscriber) := by
    rw [Record.bytes, Record.size, size]
  simp only [decisionRecords, List.flatMap_cons, List.flatMap_nil, List.append_nil]
  rw [decisionBody, frontPart, eight, wrapped, controlPart_eq]
  simp only [List.append_assoc]
  rfl

theorem gateRecords_fit (op : GateOp) (gateId : Int64) {record : Record}
    (member : record ∈ gateRecords op gateId) : record.size < 65536 := by
  have same : record = gateRecord gateId := by
    unfold gateRecords at member
    split at member
    · split at member
      · exact List.mem_singleton.mp member
      · cases member
    all_goals exact List.mem_singleton.mp member
  rw [same]
  exact (by decide : 8 < 65536)

theorem controlRecords_fit (op : GateOp) (gateId : Int64) (txnId : UInt16) {subscriber : Record}
    (small : subscriber.size < 65536) {record : Record}
    (member : record ∈ controlRecords op gateId txnId subscriber) : record.size < 65536 := by
  rcases List.mem_append.mp member with first | gate
  · rcases List.mem_cons.mp first with rfl | first
    · exact (by decide : 8 < 65536)
    rcases List.mem_cons.mp first with rfl | first
    · exact (by decide : 8 < 65536)
    · exact List.mem_singleton.mp first ▸ small
  · exact gateRecords_fit op gateId gate

theorem decisionRecords_fit {handle control : List UInt8} (four : handle.length = 4)
    (fits : control.length + 4 < 65536) {record : Record}
    (member : record ∈ decisionRecords handle control) : record.size < 65536 := by
  unfold decisionRecords at member
  rcases List.mem_cons.mp member with rfl | member
  · rw [Record.size, four]
    decide
  rcases List.mem_cons.mp member with rfl | member
  · exact (by decide : 8 < 65536)
  rcases List.mem_cons.mp member with rfl | member
  · exact (by decide : 8 < 65536)
  · exact List.mem_singleton.mp member ▸ fits

/-- A decision to its receiver. -/
theorem decodes_of_filled (txnId : UInt16) (four : handle.length = 4) {subscriber : Record}
    (address : IsSubscriber ip subscriber) (whole : subscriber.size = addrLen ip)
    (fits : decSize op gc ip request.length < 65536) :
    DecodesAs handle op gc ip request txnId
      (messageHeader 2 (msgSize op gc ip request.length) ++
        decisionBody (copsHandle handle) op gc ip request txnId subscriber.bytes) := by
  have eight : (copsHandle handle).length = 8 := by
    rw [copsHandle, List.length_append, List.length_take, four]
    rfl
  have body : (decisionBody (copsHandle handle) op gc ip request txnId subscriber.bytes).length +
      8 = msgSize op gc ip request.length :=
    decisionBody_length eight (subscriber.bytes_length.trans whole) txnId
  have header : (messageHeader 2 (msgSize op gc ip request.length)).length = 8 := rfl
  have size : (messageHeader 2 (msgSize op gc ip request.length) ++
      decisionBody (copsHandle handle) op gc ip request txnId subscriber.bytes).length =
        msgSize op gc ip request.length := by
    rw [List.length_append, header]
    omega
  refine ⟨size, rfl, ?_, controlPart op gc.gateId request txnId subscriber, ?_, subscriber,
    address, ?_⟩
  · intro rest
    have small : msgSize op gc ip request.length < 4294967296 := by
      rw [msgSize]
      omega
    rw [size]
    have holds := Memory.behind_holds (messageHeader 2 (msgSize op gc ip request.length) ++
      decisionBody (copsHandle handle) op gc ip request txnId subscriber.bytes) rest
    have fields := (Memory.holds_append.mp holds).1
    rcases Memory.holds_append.mp (Memory.holds_append.mp fields).2 with ⟨_, length⟩
    exact (congrArg UInt32.toNat (unpackN_of_holds length)).trans
      (UInt32.toNat_ofNat_of_lt' small)
  · have control : (controlPart op gc.gateId request txnId subscriber).length + 4 =
        decSize op gc ip request.length := controlPart_length whole
    have records := walk_records
      (fun _ member => decisionRecords_fit four (control ▸ fits) member) []
    rw [List.append_nil, ← decisionBody_eq four whole] at records
    rw [List.drop_append_of_le_length (Nat.le_of_eq header.symm),
      List.drop_of_length_le (Nat.le_of_eq header), List.nil_append]
    exact records
  · have small : subscriber.size < 65536 := by
      have short := addrLen_le ip
      omega
    have records := walk_records
      (fun _ member => controlRecords_fit op gc.gateId txnId small member) (payloadOf op request)
    have count : (controlRecords op gc.gateId txnId subscriber).length =
        3 + (gateRecords op gc.gateId).length := by
      rw [controlRecords, List.length_append]
      rfl
    rw [count] at records
    exact records

end Reading

/-- For a literal address and every payload that fits, `ps_proxy` builds a
decision that its receiver reads as meant, and stores nothing outside its
arrays. -/
theorem psProxy_wellFormed (addr : UInt32) (self : Session) (op : GateOp) (gc : Gctl)
    (request : List UInt8) (txnId : UInt16) (ip : String) (four : self.handle.length = 4)
    (real : gc.dryRun ≠ 1) (present : gc.subscriberId = some ip) (valid : ValidSubscriber ip)
    (fits : decSize op gc ip request.length < 65536) :
    Exists fun built => psProxy addr self op gc request txnId = some built ∧
      DecodesAs self.handle op gc ip request txnId built.message.bytes ∧
        built.decision.bytes.length = msgSize op gc ip request.length ∧
          built.subscriber.outside = 0 ∧ built.decision.outside = 0 ∧ built.message.outside = 0 := by
  rcases ctlSub_of_valid valid addr with ⟨subscriber, address, whole, made⟩
  have long := subscriber.bytes_length.trans whole
  have builds := psProxyBuild_filled four long fits txnId 0
  have handle : ctlHnd gc self.handle = copsHandle self.handle := if_pos real
  have built : psProxy addr self op gc request txnId =
      some (psProxyBuild self.handle op gc ip request txnId
        { bytes := subscriber.bytes, outside := 0 }) := by
    rw [psProxy, present, Option.bind_some, made, Option.map_some]
  rw [builds] at built
  refine ⟨_, built, ?_, ?_, rfl, rfl, rfl⟩
  · dsimp only
    rw [handle, Buffer.filled_full]
    exact decodes_of_filled txnId four address whole fits
  · rw [Buffer.filled_length]
    exact decisionBody_length (ctlHnd_length gc four.ge) long txnId

/-- A request that has only what `ps_proxy` reads of it. -/
def gctlFor (ip : String) (gateId : Int64) : Gctl where
  subscriberId := some ip
  cmtsIp := none
  gate :=
    { dscpTosOvwr := 0, dscpTosMask := 0, preemption := 0, priority := 0, timer1 := 0
      timer2 := 0, timer3 := 0, timer4 := 0, direction := none }
  applicationId := 0
  gateId := gateId
  dryRun := 0
  envelopeSize := 0
  classifierSize := 0
  failed := false
  failop := 0

theorem psProxy_wellFormed_ipv6 :
    Exists fun built =>
      psProxy 0 { handle := [1, 2, 3, 4], uuidReceived := true } .set
          (gctlFor "2600::1:a" 7) [9, 9, 9] 21 = some built ∧
        DecodesAs [1, 2, 3, 4] .set (gctlFor "2600::1:a" 7) "2600::1:a" [9, 9, 9] 21
            built.message.bytes ∧
          built.decision.bytes.length = 83 ∧
            built.subscriber.outside = 0 ∧ built.decision.outside = 0 ∧
              built.message.outside = 0 :=
  psProxy_wellFormed 0 { handle := [1, 2, 3, 4], uuidReceived := true } .set
    (gctlFor "2600::1:a" 7) [9, 9, 9] 21 "2600::1:a" rfl (by decide) rfl
    (Or.inr (by decide)) (by decide)

end PolicyServer
