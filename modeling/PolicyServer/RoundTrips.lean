import Mathlib.Tactic.IntervalCases
import PolicyServer.PolicyPayload
import PolicyServer.Report

namespace PolicyServer

open Lib

/-!
# Objects read back by the server that packs them

The packers of `pcmm.c` write offsets by hand, and its decoders walk an index.
`Outgoing` has the objects that both know, with the values their packers are
given; `Outgoing.read` is what the record of a report should then say, the values
reduced to the widths they have on the wire.  Every packer is one write at the
object's place, whatever the array holds there, and `decode_encode` reads it back.

Two things are packed and not read: the priority of a legacy classifier with its
reserved bytes, and the high byte of a gate command, whose text is recorded.
-/

/-- A call of a packer, with the place of the object in its array. -/
inductive Outgoing where
  | gate (dir : String) (pri preempt overwrite mask : UInt8) (t1 t2 t3 t4 : Int32)
  | legacyClassifier (ptr : Nat) (protocol : UInt16) (field mask : Int32) (srcIp : String)
      (dstIp : Option String) (srcPort dstPort priority reserved : Int32)
  | extendedClassifier (ptr : Nat) (protocol : UInt16) (srcIp srcMask : String)
      (srcPortS srcPortE : Int32) (dstIp : Option String) (dstMask : String)
      (dstPortS dstPortE priority field mask classId actState action : Int32)
  | transactionIdentifier (transactionId gateCommandType : UInt16)
  | applicationIdentifier (appTag appType : UInt16)
  | gateIdentifier (gateId : UInt32)
  deriving DecidableEq

namespace Outgoing

/-- The packer of an object, run on an array; `addr` is for `ip4_toi`. -/
def encode (addr : IpField -> UInt32) (dst : Buffer) : Outgoing -> Option Buffer
  | gate dir pri preempt overwrite mask t1 t2 t3 t4 =>
      pcmmGate dst (some dir) pri preempt overwrite mask t1 t2 t3 t4
  | legacyClassifier ptr protocol field mask srcIp dstIp srcPort dstPort priority reserved =>
      pcmmLegacyClassifier addr dst ptr protocol field mask (some srcIp) dstIp srcPort dstPort
        priority reserved
  | extendedClassifier ptr protocol srcIp srcMask srcPortS srcPortE dstIp dstMask dstPortS dstPortE
      priority field mask classId actState action =>
      pcmmExtendedClassifier addr dst ptr protocol (some srcIp) (some srcMask) srcPortS srcPortE
        dstIp (some dstMask) dstPortS dstPortE priority field mask classId actState action
  | transactionIdentifier transactionId gateCommandType =>
      some (dst.write 0 (pcmmTransactionIdentifier transactionId gateCommandType))
  | applicationIdentifier appTag appType =>
      some (dst.write 0 (pcmmApplicationIdentifier appTag appType))
  | gateIdentifier gateId => some (dst.write 0 (pcmmGateIdentifier gateId))

/-- Where the object starts in its array. -/
def place : Outgoing -> Nat
  | legacyClassifier ptr .. | extendedClassifier ptr .. => ptr
  | _ => 0

/-- The bytes that the callers keep for the object. -/
def slot : Outgoing -> Nat
  | gate .. => 16
  | legacyClassifier .. => ClassifierKind.legacy.size
  | extendedClassifier .. => ClassifierKind.extended.size
  | _ => 8

/-- The addresses and masks are IPv4 literals; the destination may be missing. -/
def Literal : Outgoing -> Prop
  | legacyClassifier _ _ _ _ srcIp dstIp .. =>
      isIp4 srcIp = true ∧ dstIp.all isIp4 = true
  | extendedClassifier _ _ srcIp srcMask _ _ dstIp dstMask .. =>
      (isIp4 srcIp = true ∧ isIp4 srcMask = true) ∧ dstIp.all isIp4 = true ∧ isIp4 dstMask = true
  | _ => True

/-- The value of an address, 0 for one that is missing. -/
def addressValue (ip : Option String) : UInt32 :=
  (ip.bind inetPton4).getD 0

/-- A value in one and in two bytes. -/
def wire8 (value : Int32) : UInt8 := UInt8.ofInt value.toInt
def wire16 (value : Int32) : UInt16 := UInt16.ofInt value.toInt

/-- The flags of a gate: its direction, and whether its ToS field is enabled. -/
def gateFlags (dir : String) (overwrite : UInt8) : UInt8 :=
  UInt8.ofNat ((if dir = "upstream" then 1 else 0) + 2 * (overwrite.toNat % 2))

/-- The session class of a gate: three bits of priority and one of preemption. -/
def sessionClass (pri preempt : UInt8) : UInt8 :=
  UInt8.ofNat (pri.toNat % 8 + 8 * (preempt.toNat % 2))

/-- What is collected once the object has been read. -/
def read (decoded : Decoded) : Outgoing -> Decoded
  | gate dir pri preempt overwrite mask t1 t2 t3 t4 =>
      { decoded with
        rpt := { decoded.rpt with
          flags := gateFlags dir overwrite
          tosf := overwrite
          tosm := mask
          cls := sessionClass pri preempt
          t1 := wire16 t1
          t2 := wire16 t2
          t3 := wire16 t3
          t4 := wire16 t4 } }
  | legacyClassifier _ protocol field mask srcIp dstIp srcPort dstPort _ _ =>
      { decoded with
        classifierType := 0
        rpt := { decoded.rpt with
          protoId := protocol
          tosf := wire8 field
          tosm := wire8 mask
          srcIp := addressValue (some srcIp)
          dstIp := addressValue dstIp
          srcPortStart := wire16 srcPort
          dstPortStart := wire16 dstPort } }
  | extendedClassifier _ protocol srcIp srcMask srcPortS srcPortE dstIp dstMask dstPortS dstPortE
      priority field mask classId actState action =>
      { decoded with
        classifierType := 1
        rpt := { decoded.rpt with
          protoId := protocol
          tosf := wire8 field
          tosm := wire8 mask
          srcIp := addressValue (some srcIp)
          srcMk := addressValue (some srcMask)
          dstIp := addressValue dstIp
          dstMk := addressValue (some dstMask)
          srcPortStart := wire16 srcPortS
          srcPortEnd := wire16 srcPortE
          dstPortStart := wire16 dstPortS
          dstPortEnd := wire16 dstPortE
          classifierId := wire16 classId
          priority := wire8 priority
          state := wire8 actState
          action := wire8 action } }
  | transactionIdentifier transactionId gateCommandType =>
      { decoded with
        rpt := { decoded.rpt with
          transactionId := transactionId
          gateCmd := pcmmOtoact (UInt8.ofNat gateCommandType.toNat) } }
  | applicationIdentifier appTag appType =>
      { decoded with
        rpt := { decoded.rpt with
          applicationTag := appTag
          applicationId := appType } }
  | gateIdentifier gateId => { decoded with rpt := { decoded.rpt with gateId := gateId } }

/-! ## Every packer is one write -/

/-- The tags of an object. -/
def tags : Outgoing -> UInt8 × UInt8
  | gate .. => (5, 1)
  | legacyClassifier .. => (6, 1)
  | extendedClassifier .. => (6, 2)
  | transactionIdentifier .. => (1, 1)
  | applicationIdentifier .. => (2, 1)
  | gateIdentifier .. => (4, 1)

/-- The fields as the packers store them. -/
def body : Outgoing -> List UInt8
  | gate dir pri preempt overwrite mask t1 t2 t3 t4 =>
      [gateFlags dir overwrite] ++ ([overwrite] ++ ([mask] ++ ([sessionClass pri preempt] ++
        (packU16Be (wire16 t1) ++ (packU16Be (wire16 t2) ++ (packU16Be (wire16 t3) ++
          packU16Be (wire16 t4)))))))
  | legacyClassifier _ protocol field mask srcIp dstIp srcPort dstPort priority reserved =>
      packU16Be protocol ++ ([wire8 field] ++ ([wire8 mask] ++
        (packU32Be (addressValue (some srcIp)) ++ (packU32Be (addressValue dstIp) ++
          (packU16Be (wire16 srcPort) ++ (packU16Be (wire16 dstPort) ++ ([wire8 priority] ++
            ([wire8 reserved] ++ ([wire8 reserved] ++ [wire8 reserved])))))))))
  | extendedClassifier _ protocol srcIp srcMask srcPortS srcPortE dstIp dstMask dstPortS dstPortE
      priority field mask classId actState action =>
      packU16Be protocol ++ ([wire8 field] ++ ([wire8 mask] ++
        (packU32Be (addressValue (some srcIp)) ++ (packU32Be (addressValue (some srcMask)) ++
          (packU32Be (addressValue dstIp) ++ (packU32Be (addressValue (some dstMask)) ++
            (packU16Be (wire16 srcPortS) ++ (packU16Be (wire16 srcPortE) ++
              (packU16Be (wire16 dstPortS) ++ (packU16Be (wire16 dstPortE) ++
                (packU16Be (wire16 classId) ++ ([wire8 priority] ++ ([wire8 actState] ++
                  [wire8 action])))))))))))))
  | transactionIdentifier transactionId gateCommandType =>
      packU16Be transactionId ++ packU16Be gateCommandType
  | applicationIdentifier appTag appType => packU16Be appTag ++ packU16Be appType
  | gateIdentifier gateId => packU32Be gateId

theorem toU8_eq (value : Int32) : toU8 value = wire8 value := by
  rw [wire8, ← toU8_ofInt, Int32.ofInt_toInt]

theorem toU16_eq (value : Int32) : toU16 value = wire16 value := by
  rw [wire16, ← toU16_ofInt, Int32.ofInt_toInt]

theorem address_eq {ip : String} (literal : isIp4 ip = true) (addr : UInt32) :
    ip4Toi addr ip = addressValue (some ip) :=
  ip4Toi_of_valid literal addr

theorem optional_eq {ip : Option String} (literal : ip.all isIp4 = true) (addr : UInt32) :
    ip.elim 0 (ip4Toi addr) = addressValue ip := by
  cases ip with
  | none => rfl
  | some ip => exact address_eq literal addr

theorem low_bit (byte : UInt8) : byte &&& 1 = UInt8.ofNat (byte.toNat % 2) := by
  apply UInt8.toNat_inj.mp
  rw [UInt8.toNat_and, UInt8.toNat_one, Nat.and_one_is_mod, UInt8.toNat_ofNat_of_lt']
  exact Nat.lt_trans (Nat.mod_lt _ (by decide)) (by decide)

theorem low_bits (byte : UInt8) : byte &&& 7 = UInt8.ofNat (byte.toNat % 8) := by
  have seven : (7 : UInt8).toNat = 2 ^ 3 - 1 := rfl
  apply UInt8.toNat_inj.mp
  rw [UInt8.toNat_and, seven, Nat.and_two_pow_sub_one_eq_mod, UInt8.toNat_ofNat_of_lt']
  exact Nat.lt_trans (Nat.mod_lt _ (by decide)) (by decide)

theorem vtof_eq_flags (dir : String) (overwrite : UInt8) :
    vtof (some dir) overwrite 0 = some (gateFlags dir overwrite) := by
  rw [vtof, Option.map_some, gateFlags, low_bit overwrite]
  rcases Nat.mod_two_eq_zero_or_one overwrite.toNat with even | odd
  · rw [even]
    split <;> rfl
  · rw [odd]
    split <;> rfl

theorem vtoc_eq_class (pri preempt : UInt8) : vtoc pri preempt 0 = sessionClass pri preempt := by
  rw [vtoc, sessionClass, low_bit preempt, low_bits pri]
  have eight : pri.toNat % 8 < 8 := Nat.mod_lt _ (by decide)
  have two : preempt.toNat % 2 < 2 := Nat.mod_lt _ (by decide)
  generalize pri.toNat % 8 = low at eight ⊢
  generalize preempt.toNat % 2 = bit at two ⊢
  interval_cases bit <;> interval_cases low <;> rfl

/-- The bytes of an object, from its length on. -/
def bytes (object : Outgoing) : List UInt8 :=
  packU16Be (UInt16.ofNat object.slot) ++ ([object.tags.1] ++ ([object.tags.2] ++ object.body))

/-- A packer of a literal object stores its bytes at its place. -/
theorem encode_eq {object : Outgoing} (literal : object.Literal) (addr : IpField -> UInt32)
    (dst : Buffer) : object.encode addr dst = some (dst.write object.place object.bytes) := by
  cases object with
  | gate dir pri preempt overwrite mask t1 t2 t3 t4 =>
      simp only [encode, pcmmGate, vtof_eq_flags, Option.map_some, vtoc_eq_class, toU16_eq, bytes,
        body, tags, slot, place, Buffer.write_append, packU16Be_length, List.length_singleton,
        Nat.zero_add, Nat.reduceAdd]
      rfl
  | legacyClassifier ptr protocol field mask srcIp dstIp srcPort dstPort priority reserved =>
      simp only [encode, pcmmLegacyClassifier, Option.map_some, address_eq literal.1,
        optional_eq literal.2, toU8_eq, toU16_eq, bytes, body, tags, slot, place,
        Buffer.write_append, packU16Be_length, packU32Be_length, List.length_singleton,
        Nat.add_assoc, Nat.reduceAdd]
      rfl
  | extendedClassifier ptr protocol srcIp srcMask srcPortS srcPortE dstIp dstMask dstPortS dstPortE
      priority field mask classId actState action =>
      simp only [encode, pcmmExtendedClassifier, Option.bind_some, Option.map_some,
        address_eq literal.1.1, address_eq literal.1.2, optional_eq literal.2.1,
        address_eq literal.2.2, toU8_eq, toU16_eq, bytes, body, tags, slot, place,
        Buffer.write_append, packU16Be_length, packU32Be_length, List.length_singleton,
        Nat.add_assoc, Nat.reduceAdd]
      rfl
  | transactionIdentifier | applicationIdentifier | gateIdentifier => rfl

/-! ## The decoders see the fields -/

/-- An object in memory is decoded as it should be read. -/
theorem decode_eq {object : Outgoing} {block : Memory} (holds : block.Holds 0 object.body)
    (decoded : Decoded) :
    psPcmmDecode decoded block object.tags.1 object.tags.2 = object.read decoded := by
  cases object with
  | gate dir pri preempt overwrite mask t1 t2 t3 t4 =>
      simp only [body, Memory.holds_append, Memory.holds_cons, Memory.holds_nil, packU16Be_length,
        List.length_singleton, Nat.zero_add, Nat.reduceAdd, and_true] at holds
      rcases holds with ⟨flags, tosf, tosm, cls, first, second, third, fourth⟩
      have decodes : psPcmmDecode decoded block 5 1 =
        { decoded with rpt := pcmmDecodeGate decoded.rpt block } := rfl
      simp only [tags, decodes, pcmmDecodeGate, flags, tosf, tosm, cls, unpackU16_of_holds first,
        unpackU16_of_holds second, unpackU16_of_holds third, unpackU16_of_holds fourth, read]
  | legacyClassifier ptr protocol field mask srcIp dstIp srcPort dstPort priority reserved =>
      simp only [body, Memory.holds_append, Memory.holds_cons, Memory.holds_nil, packU16Be_length,
        packU32Be_length, List.length_singleton, Nat.zero_add, Nat.reduceAdd, and_true] at holds
      rcases holds with ⟨proto, tosf, tosm, source, destination, sourcePort, destinationPort, _⟩
      have decodes : psPcmmDecode decoded block 6 1 =
        { decoded with
          rpt := (pcmmDecodeClassifier decoded.rpt block).1
          classifierType := (pcmmDecodeClassifier decoded.rpt block).2 } := rfl
      simp only [tags, decodes, pcmmDecodeClassifier, unpackU16_of_holds proto, tosf, tosm,
        unpackN_of_holds source, unpackN_of_holds destination, unpackU16_of_holds sourcePort,
        unpackU16_of_holds destinationPort, read]
  | extendedClassifier ptr protocol srcIp srcMask srcPortS srcPortE dstIp dstMask dstPortS dstPortE
      priority field mask classId actState action =>
      simp only [body, Memory.holds_append, Memory.holds_cons, Memory.holds_nil, packU16Be_length,
        packU32Be_length, List.length_singleton, Nat.zero_add, Nat.reduceAdd, and_true] at holds
      rcases holds with ⟨proto, tosf, tosm, source, sourceMask, destination, destinationMask,
        sourcePortS, sourcePortE, destinationPortS, destinationPortE, classifier, prior, state,
        act⟩
      have decodes : psPcmmDecode decoded block 6 2 =
        { decoded with
          rpt := (pcmmDecodeExtended decoded.rpt block).1
          classifierType := (pcmmDecodeExtended decoded.rpt block).2 } := rfl
      simp only [tags, decodes, pcmmDecodeExtended, unpackU16_of_holds proto, tosf, tosm,
        unpackN_of_holds source, unpackN_of_holds sourceMask, unpackN_of_holds destination,
        unpackN_of_holds destinationMask, unpackU16_of_holds sourcePortS,
        unpackU16_of_holds sourcePortE, unpackU16_of_holds destinationPortS,
        unpackU16_of_holds destinationPortE, unpackU16_of_holds classifier, prior, state, act,
        read]
  | transactionIdentifier transactionId gateCommandType =>
      rcases Memory.holds_append.mp holds with ⟨transaction, behind⟩
      have command : block.Holds 2 (packU16Be gateCommandType) := behind
      have decodes : psPcmmDecode decoded block 1 1 =
        { decoded with
          rpt := pcmmDecodeTransaction decoded.rpt (unpackU16 block 0) (unpackU16 block 2) } := rfl
      simp only [tags, decodes, pcmmDecodeTransaction, unpackU16_of_holds transaction,
        unpackU16_of_holds command, read]
      rfl
  | applicationIdentifier appTag appType =>
      rcases Memory.holds_append.mp holds with ⟨tag, behind⟩
      have type : block.Holds 2 (packU16Be appType) := behind
      have decodes : psPcmmDecode decoded block 2 1 =
        { decoded with
          rpt := pcmmDecodeApplication decoded.rpt (unpackU16 block 0) (unpackU16 block 2) } := rfl
      simp only [tags, decodes, pcmmDecodeApplication, unpackU16_of_holds tag,
        unpackU16_of_holds type, read]
  | gateIdentifier gateId =>
      have decodes : psPcmmDecode decoded block 4 1 =
        { decoded with rpt := { decoded.rpt with gateId := atog block } } := rfl
      simp only [tags, decodes, atog, unpackN_of_holds holds, read]

/-- What the loop of `ps_pcmm_report` makes of the object at a place. -/
def decodeAt (decoded : Decoded) (memory : Memory) (start : Nat) : Decoded :=
  psPcmmDecode decoded (memory.shift (start + 4)) (memory (start + 2)) (memory (start + 3))

theorem decodeAt_of_holds {object : Outgoing} {memory : Memory} {start : Nat}
    (holds : memory.Holds start object.bytes) (decoded : Decoded) :
    unpackU16 memory start = UInt16.ofNat object.slot ∧
      decodeAt decoded memory start = object.read decoded := by
  rcases Memory.holds_append.mp holds with ⟨length, behind⟩
  rcases Memory.holds_append.mp behind with ⟨major, behind⟩
  rcases Memory.holds_append.mp behind with ⟨minor, fields⟩
  have first : memory (start + 2) = object.tags.1 := (Memory.holds_cons.mp major).1
  have second : memory (start + 3) = object.tags.2 := (Memory.holds_cons.mp minor).1
  have block : (memory.shift (start + 4)).Holds 0 object.body :=
    Memory.shift_holds.mpr fields
  refine ⟨unpackU16_of_holds length, ?_⟩
  rw [decodeAt, first, second, decode_eq block]

theorem bytes_length_le (object : Outgoing) : object.bytes.length ≤ object.slot := by
  cases object with
  | gate | legacyClassifier | transactionIdentifier | applicationIdentifier | gateIdentifier =>
      exact Nat.le_refl _
  | extendedClassifier => exact (by decide : 37 ≤ 40)

theorem slot_toNat (object : Outgoing) : (UInt16.ofNat object.slot).toNat = object.slot := by
  cases object <;> rfl

/-- Decoding undoes packing: whatever an array holds and whatever follows it, an
object packed at a place with room for its slot has the size of the slot for its
length, and is read back with all the fields that its decoder knows. -/
theorem decode_encode {object : Outgoing} (literal : object.Literal) (addr : IpField -> UInt32)
    {dst : Buffer} (room : object.place + object.slot ≤ dst.bytes.length) (rest : Memory)
    (decoded : Decoded) :
    Exists fun stored => object.encode addr dst = some stored ∧ stored.outside = dst.outside ∧
      (unpackU16 (stored.memory rest) object.place).toNat = object.slot ∧
        decodeAt decoded (stored.memory rest) object.place = object.read decoded := by
  have inside : object.place + object.bytes.length ≤ dst.bytes.length :=
    Nat.le_trans (Nat.add_le_add_left object.bytes_length_le _) room
  have kept : (dst.write object.place object.bytes).outside = dst.outside := by
    rw [Buffer.write_eq inside]
  rcases decodeAt_of_holds (Buffer.write_holds rest inside) decoded with ⟨length, reads⟩
  refine ⟨_, encode_eq literal addr dst, kept, ?_, reads⟩
  rw [length, slot_toNat]

/-- A classifier in the second slot of an array that is not cleared. -/
def webClassifier : Outgoing :=
  .extendedClassifier 40 6 "10.0.0.1" "255.255.255.0" 1024 65536 (some "192.168.1.9")
    "255.255.255.255" 80 443 64 (-1) 255 7 1 2

theorem decode_encode_webClassifier :
    Exists fun stored =>
      webClassifier.encode (fun _ => 7) { bytes := List.replicate 80 9, outside := 0 } =
          some stored ∧ stored.outside = 0 ∧
        (unpackU16 (stored.memory fun _ => 9) 40).toNat = 40 ∧
          decodeAt Decoded.initial (stored.memory fun _ => 9) 40 =
            webClassifier.read Decoded.initial :=
  have literal : webClassifier.Literal := ⟨⟨by decide, by decide⟩, by decide, by decide⟩
  decode_encode literal (fun _ => 7) (by decide) (fun _ => 9) Decoded.initial

/-- The priority of a legacy classifier stays in the object, and two gate
commands with one low byte are one text. -/
theorem legacyPriority_not_read :
    ((legacyClassifier 0 6 0 255 "10.0.0.1" none 80 80 64 0).encode (fun _ => 0)
        (Buffer.cleared 24)).map (fun stored =>
          (stored.memory (fun _ => 0) 20,
            (decodeAt Decoded.initial (stored.memory fun _ => 0) 0).rpt.priority)) =
      some (64, 0) ∧
    ((transactionIdentifier 1 260).encode (fun _ => 0) (Buffer.cleared 8)).map (fun stored =>
          decodeAt Decoded.initial (stored.memory fun _ => 0) 0) =
      ((transactionIdentifier 1 4).encode (fun _ => 0) (Buffer.cleared 8)).map (fun stored =>
          decodeAt Decoded.initial (stored.memory fun _ => 0) 0) := by
  decide +kernel

end Outgoing
end PolicyServer
