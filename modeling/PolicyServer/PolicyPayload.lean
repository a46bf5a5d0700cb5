import PolicyServer.GatePolicy

namespace PolicyServer

open Lib

/-!
# The payload of a GATE-SET

The objects that a request asks for, field by field, are stated here from the
names of the JSON members alone: an integer is reduced to the width of its field,
an address is the one its literal stands for.  `gctl04Payload_layout` is that the
payload which `gctl_04` puts together, with its running offset and its packers of
many arguments, is read back as exactly these objects.
-/

/-! ## The fields of the objects -/

/-- The integer in a member; 0 where there is none. -/
def integer (object : Option Json) (field : String) : Int :=
  match objGet object field with
  | some (.int value) => value
  | _ => 0

/-- An integer in one, two and four bytes. -/
def be8 (value : Int) : List UInt8 := [UInt8.ofInt value]
def be16 (value : Int) : List UInt8 := packU16Be (UInt16.ofInt value)
def be32 (value : Int) : List UInt8 := packU32Be (UInt32.ofInt value)

@[simp] theorem be8_length (value : Int) : (be8 value).length = 1 := rfl

@[simp] theorem be16_length (value : Int) : (be16 value).length = 2 := rfl

@[simp] theorem be32_length (value : Int) : (be32 value).length = 4 := rfl

/-- The address in a member; 0 where there is none. -/
def address4 (object : Option Json) (field : String) : List UInt8 :=
  packU32Be (((gctlOtos object field).bind inetPton4).getD 0)

/-- The groups of an address, and zeros up to sixteen bytes. -/
def address6 (object : Option Json) (field : String) : List UInt8 :=
  let bytes := ((gctlOtos object field).bind packIp6).getD []
  bytes ++ List.replicate (16 - bytes.length) 0

def prefix6 (object : Option Json) (field : String) : UInt8 :=
  ((gctlOtos object field).map prefixLenOf).getD 0

/-- A priority that is 0 once it is read as an `int` stands for 64. -/
def priorityOf (obj : Option Json) : Int :=
  if integer obj "priority" % 4294967296 = 0 then 64 else integer obj "priority"

def legacyRecord (obj : Option Json) : Record where
  major := 6
  minor := 1
  body :=
    be16 (integer obj "protocol") ++ (be8 (integer obj "tos-byte") ++
      (be8 (integer obj "tos-mask") ++ (address4 obj "srcIp" ++ (address4 obj "dstIp" ++
        (be16 (integer obj "srcPort-start") ++ (be16 (integer obj "dstPort-start") ++
          (be8 (priorityOf obj) ++ [0, 0, 0])))))))

def extendedRecord (element obj : Option Json) : Record where
  major := 6
  minor := 2
  body :=
    be16 (integer obj "protocol") ++ (be8 (integer obj "tos-byte") ++
      (be8 (integer obj "tos-mask") ++ (address4 obj "srcIp" ++ (address4 obj "srcIpMask" ++
        (address4 obj "dstIp" ++ (address4 obj "dstIpMask" ++
          (be16 (integer obj "srcPort-start") ++ (be16 (integer obj "srcPort-end") ++
            (be16 (integer obj "dstPort-start") ++ (be16 (integer obj "dstPort-end") ++
              (be16 (integer element "classifier-id") ++ (be8 (priorityOf obj) ++
                (be8 (integer obj "activation-state") ++
                  (be8 (integer obj "action") ++ [0, 0, 0]))))))))))))))

def ipv6Record (element obj : Option Json) : Record where
  major := 6
  minor := 3
  body :=
    [0] ++ (be8 (integer obj "tc-low") ++ (be8 (integer obj "tc-high") ++
      (be8 (integer obj "tc-mask") ++ (be32 (integer obj "flow-label") ++
        (be16 (integer obj "next-hdr") ++ ([prefix6 obj "srcIp6", prefix6 obj "dstIp6"] ++
          (address6 obj "srcIp6" ++ (address6 obj "dstIp6" ++
            (be16 (integer obj "srcPort-start") ++ (be16 (integer obj "srcPort-end") ++
              (be16 (integer obj "dstPort-start") ++ (be16 (integer obj "dstPort-end") ++
                (be16 (integer element "classifier-id") ++ (be8 (priorityOf obj) ++
                  (be8 (integer obj "activation-state") ++
                    (be8 (integer obj "action") ++ [0, 0, 0]))))))))))))))))

/-- The object of a classifier. -/
def classifierRecord (element : Option Json) : ClassifierKind × Option Json -> Record
  | (.legacy, obj) => legacyRecord obj
  | (.extended, obj) => extendedRecord element obj
  | (.ipv6, obj) => ipv6Record element obj

/-! ## Integers -/

theorem gctlOtoi_eq (object : Option Json) (field : String) :
    gctlOtoi object field = Int32.ofInt (integer object field) := by
  unfold gctlOtoi integer
  cases objGet object field with
  | none => rfl
  | some json =>
      cases json with
      | int value => rfl
      | null | bool | real | str | arr | obj => rfl

/-- The bits of an `int`. -/
theorem bits_toNat (value : Int) :
    ((Int32.ofInt value).toUInt32.toNat : Int) = value % 4294967296 := by
  have bits : (Int32.ofInt value).toUInt32.toNat = (BitVec.ofInt 32 value).toNat := rfl
  rw [bits, BitVec.toNat_ofInt]
  omega

theorem toU8_ofInt (value : Int) : toU8 (Int32.ofInt value) = UInt8.ofInt value := by
  have bits := bits_toNat value
  apply UInt8.toNat_inj.mp
  rw [toU8, UInt32.toNat_toUInt8, UInt8.ofInt, UInt8.toNat_ofNat']
  omega

theorem toU16_ofInt (value : Int) : toU16 (Int32.ofInt value) = UInt16.ofInt value := by
  have bits := bits_toNat value
  apply UInt16.toNat_inj.mp
  rw [toU16, UInt32.toNat_toUInt16, UInt16.ofInt, UInt16.toNat_ofNat']
  omega

theorem toUInt32_ofInt (value : Int) : (Int32.ofInt value).toUInt32 = UInt32.ofInt value := by
  have bits := bits_toNat value
  apply UInt32.toNat_inj.mp
  rw [UInt32.ofInt, UInt32.toNat_ofNat']
  omega

theorem ofInt_eq_zero_iff (value : Int) : Int32.ofInt value = 0 ↔ value % 4294967296 = 0 := by
  have bits := bits_toNat value
  constructor
  · intro zero
    rw [zero] at bits
    exact bits.symm
  · intro zero
    rw [zero] at bits
    have none : (Int32.ofInt value).toUInt32 = 0 := UInt32.toNat_inj.mp (Int.ofNat_inj.mp bits)
    exact Int32.toBitVec.inj (congrArg UInt32.toBitVec none)

/-! ## Classifiers are packed as their objects -/

/-- Addresses may be missing where the source allows it, and are literals. -/
theorem ip4Toi_of_valid {ip : String} (valid : isIp4 ip = true) (addr : UInt32) :
    ip4Toi addr ip = (inetPton4 ip).getD 0 := by
  have value : Exists fun value => inetPton4 ip = some value := ⟨_, if_pos valid⟩
  rcases value with ⟨value, reads⟩
  rw [ip4Toi, reads]
  rfl

section Packing

variable {front : List UInt8} {room ptr : Nat}

theorem pcmmLegacyClassifier_filled (addr : IpField -> UInt32) (next : ptr = front.length)
    (fits : 24 ≤ room) (protocol : UInt16) (field mask : Int32) (srcIp : String)
    (dstIp : Option String) (srcPort dstPort priority reserved : Int32) :
    pcmmLegacyClassifier addr (Buffer.filled front room) ptr protocol field mask (some srcIp) dstIp
        srcPort dstPort priority reserved =
      some (Buffer.filled (front ++ (packU16Be 24 ++ ([6, 1] ++ (packU16Be protocol ++
        ([toU8 field, toU8 mask] ++ (packU32Be (ip4Toi (addr .srcIp) srcIp) ++
          (packU32Be (dstIp.elim 0 (ip4Toi (addr .dstIp))) ++ (packU16Be (toU16 srcPort) ++
            (packU16Be (toU16 dstPort) ++ [toU8 priority, toU8 reserved, toU8 reserved,
              toU8 reserved]))))))))) (room - 24)) := by
  subst next
  unfold pcmmLegacyClassifier
  simp (disch := simp only [List.length_append, List.length_singleton, packU16Be_length,
      packU32Be_length] <;> omega) only [Option.map_some, Buffer.filled_write]
  simp only [List.append_assoc, List.length_singleton, packU16Be_length, packU32Be_length,
    Nat.sub_sub]
  rfl

theorem pcmmExtendedClassifier_filled (addr : IpField -> UInt32) (next : ptr = front.length)
    (fits : 40 ≤ room) (protocol : UInt16) (srcIp srcMask : String) (srcPortS srcPortE : Int32)
    (dstIp : Option String) (dstMask : String)
    (dstPortS dstPortE priority field mask classId actState action : Int32) :
    pcmmExtendedClassifier addr (Buffer.filled front room) ptr protocol (some srcIp) (some srcMask)
        srcPortS srcPortE dstIp (some dstMask) dstPortS dstPortE priority field mask classId actState
        action =
      some (Buffer.filled (front ++ (packU16Be 40 ++ ([6, 2] ++ (packU16Be protocol ++
        ([toU8 field, toU8 mask] ++ (packU32Be (ip4Toi (addr .srcIp) srcIp) ++
          (packU32Be (ip4Toi (addr .srcMask) srcMask) ++
            (packU32Be (dstIp.elim 0 (ip4Toi (addr .dstIp))) ++
              (packU32Be (ip4Toi (addr .dstMask) dstMask) ++ (packU16Be (toU16 srcPortS) ++
                (packU16Be (toU16 srcPortE) ++ (packU16Be (toU16 dstPortS) ++
                  (packU16Be (toU16 dstPortE) ++ (packU16Be (toU16 classId) ++
                    ([toU8 priority, toU8 actState, toU8 action] ++ [0, 0, 0]))))))))))))))
                      ) (room - 40)) := by
  subst next
  have behind : 3 ≤ room - 37 := by omega
  have rest : room - 37 - 3 = room - 40 := Nat.sub_sub room 37 3
  unfold pcmmExtendedClassifier
  simp (disch := simp only [List.length_append, List.length_singleton, packU16Be_length,
      packU32Be_length] <;> omega) only [Option.bind_some, Option.map_some, Buffer.filled_write]
  simp only [List.append_assoc, List.length_singleton, packU16Be_length, packU32Be_length,
    Nat.sub_sub]
  rw [Buffer.filled_skip _ behind, rest]
  simp only [List.append_assoc]
  rfl

theorem pcmmIpv6Classifier_filled (next : ptr = front.length) (fits : 64 ≤ room)
    (tcLow tcHigh tcMask flowLabel nhType : Int32) {srcIp6 dstIp6 : String}
    {source destination : List UInt8} (packsSource : packIp6 srcIp6 = some source)
    (packsDestination : packIp6 dstIp6 = some destination) (shortSource : source.length ≤ 16)
    (shortDestination : destination.length ≤ 16)
    (srcPortS srcPortE dstPortS dstPortE classId priority actstate action : Int32) :
    pcmmIpv6Classifier (Buffer.filled front room) ptr tcLow tcHigh tcMask flowLabel nhType
        (some srcIp6) (some dstIp6) srcPortS srcPortE dstPortS dstPortE classId priority actstate
        action =
      some (Buffer.filled (front ++ (packU16Be 64 ++ ([6, 3, 0, toU8 tcLow, toU8 tcHigh,
        toU8 tcMask] ++ (packU32Be flowLabel.toUInt32 ++ (packU16Be (toU16 nhType) ++
          ([prefixLenOf srcIp6, prefixLenOf dstIp6] ++
            (source ++ (List.replicate (16 - source.length) 0 ++
              (destination ++ (List.replicate (16 - destination.length) 0 ++
                (packU16Be (toU16 srcPortS) ++ (packU16Be (toU16 srcPortE) ++
                  (packU16Be (toU16 dstPortS) ++ (packU16Be (toU16 dstPortE) ++
                    (packU16Be (toU16 classId) ++ [toU8 priority, toU8 actstate, toU8 action, 0,
                      0, 0]))))))))))))))) (room - 64)) := by
  subst next
  unfold pcmmIpv6Classifier
  simp (disch := (try simp only [List.length_append, List.length_singleton, packU16Be_length,
      packU32Be_length, List.length_replicate]); try omega) only [Option.bind_some, packsSource,
    packsDestination, Option.map_some, Buffer.filled_write,
    Buffer.filled_behind (16 - source.length), Buffer.filled_behind (16 - destination.length),
    Buffer.filled_behind 1]
  refine congrArg some (congrArg₂ Buffer.filled ?_ ?_)
  · simp only [List.append_assoc]
    rfl
  · simp only [List.length_singleton, packU16Be_length, packU32Be_length]
    omega

end Packing

theorem packed_u8 (object : Option Json) (field : String) :
    toU8 (gctlOtoi object field) = UInt8.ofInt (integer object field) := by
  rw [gctlOtoi_eq, toU8_ofInt]

theorem packed_u16 (object : Option Json) (field : String) :
    toU16 (gctlOtoi object field) = UInt16.ofInt (integer object field) := by
  rw [gctlOtoi_eq, toU16_ofInt]

theorem packed_u32 (object : Option Json) (field : String) :
    (gctlOtoi object field).toUInt32 = UInt32.ofInt (integer object field) := by
  rw [gctlOtoi_eq, toUInt32_ofInt]

theorem packed_priority (obj : Option Json) :
    toU8 (if gctlOtoi obj "priority" = 0 then 64 else gctlOtoi obj "priority") =
      UInt8.ofInt (priorityOf obj) := by
  rw [gctlOtoi_eq, priorityOf]
  by_cases zero : integer obj "priority" % 4294967296 = 0
  · rw [if_pos zero, if_pos ((ofInt_eq_zero_iff _).mpr zero)]
    rfl
  · rw [if_neg zero, if_neg (fun same => zero ((ofInt_eq_zero_iff _).mp same)), toU8_ofInt]

/-- An address that is there and is a literal. -/
theorem packed_address {obj : Option Json} {field ip : String} (there : gctlOtos obj field = some ip)
    (valid : isIp4 ip = true) (addr : UInt32) :
    packU32Be (ip4Toi addr ip) = address4 obj field := by
  rw [ip4Toi_of_valid valid, address4, there]
  rfl

/-- An address that may be missing. -/
theorem packed_optional {obj : Option Json} {field : String}
    (valid : forall ip, gctlOtos obj field = some ip -> isIp4 ip = true) (addr : UInt32) :
    packU32Be ((gctlOtos obj field).elim 0 (ip4Toi addr)) = address4 obj field := by
  cases there : gctlOtos obj field with
  | none =>
      rw [address4, there]
      rfl
  | some ip => exact packed_address there (valid ip there) addr

/-- The members of a classifier that hold an address. -/
def addressFields : ClassifierKind -> List String
  | .legacy => ["srcIp", "dstIp"]
  | .extended => ["srcIp", "srcIpMask", "dstIp", "dstIpMask"]
  | .ipv6 => ["srcIp6", "dstIp6"]

/-- The texts that stand for an address in a classifier. -/
def ClassifierKind.Accepts : ClassifierKind -> String -> Prop
  | .legacy, ip | .extended, ip => isIp4 ip = true
  | .ipv6, ip => IsText6 ip

/-- The addresses of a classifier are such texts, where they are there. -/
def ValidClassifier (classifier : ClassifierKind × Option Json) : Prop :=
  forall field, field ∈ addressFields classifier.1 -> forall ip,
    gctlOtos classifier.2 field = some ip -> classifier.1.Accepts ip

section Reading

variable {front : List UInt8} {room ptr : Nat} {addr : IpField -> UInt32}
  {element obj : Option Json} {kind : ClassifierKind} {after : Buffer}

theorem readLegacy_filled (next : ptr = front.length) (fits : 24 ≤ room)
    (valid : ValidClassifier (.legacy, obj))
    (reads : readClassifier addr (Buffer.filled front room) ptr element obj .legacy = some after) :
    after = Buffer.filled (front ++ (legacyRecord obj).bytes) (room - 24) := by
  have source := valid "srcIp" List.mem_cons_self
  have destination := valid "dstIp" (List.mem_cons_of_mem _ List.mem_cons_self)
  simp only [readClassifier] at reads
  cases there : gctlOtos obj "srcIp" with
  | none =>
      rw [there] at reads
      cases reads
  | some srcIp =>
      rw [there, pcmmLegacyClassifier_filled addr next fits, packed_priority, packed_u16,
        packed_u16, packed_u16, packed_u8, packed_u8, packed_address there (source srcIp there),
        packed_optional destination] at reads
      cases reads
      rfl

theorem readExtended_filled (next : ptr = front.length) (fits : 40 ≤ room)
    (valid : ValidClassifier (.extended, obj))
    (reads : readClassifier addr (Buffer.filled front room) ptr element obj .extended =
      some after) :
    after = Buffer.filled (front ++ (extendedRecord element obj).bytes) (room - 40) := by
  have source := valid "srcIp" List.mem_cons_self
  have sourceMask := valid "srcIpMask" (List.mem_cons_of_mem _ List.mem_cons_self)
  have destination := valid "dstIp"
    (List.mem_cons_of_mem _ (List.mem_cons_of_mem _ List.mem_cons_self))
  have destinationMask := valid "dstIpMask"
    (List.mem_cons_of_mem _ (List.mem_cons_of_mem _ (List.mem_cons_of_mem _ List.mem_cons_self)))
  simp only [readClassifier] at reads
  cases there : gctlOtos obj "srcIp" with
  | none =>
      rw [there] at reads
      cases reads
  | some srcIp =>
      cases masked : gctlOtos obj "srcIpMask" with
      | none =>
          rw [there, masked] at reads
          cases reads
      | some srcMask =>
          cases bounded : gctlOtos obj "dstIpMask" with
          | none =>
              rw [there, masked, bounded] at reads
              cases reads
          | some dstMask =>
              rw [there, masked, bounded, pcmmExtendedClassifier_filled addr next fits,
                packed_priority] at reads
              simp only [packed_u8, packed_u16] at reads
              rw [packed_address there (source srcIp there),
                packed_address masked (sourceMask srcMask masked),
                packed_optional destination,
                packed_address bounded (destinationMask dstMask bounded)] at reads
              cases reads
              rfl

theorem address6_eq {field ip : String} {bytes : List UInt8} (there : gctlOtos obj field = some ip)
    (packs : packIp6 ip = some bytes) :
    address6 obj field = bytes ++ List.replicate (16 - bytes.length) 0 := by
  rw [address6, there, Option.bind_some, packs, Option.getD_some]

theorem address6_length {field ip : String} {bytes : List UInt8} (short : bytes.length ≤ 16)
    (there : gctlOtos obj field = some ip) (packs : packIp6 ip = some bytes) :
    (address6 obj field).length = 16 := by
  rw [address6_eq there packs, List.length_append, List.length_replicate]
  omega

theorem ipv6Record_size {srcIp6 dstIp6 : String} {bytes bytes' : List UInt8}
    (short : bytes.length ≤ 16) (short' : bytes'.length ≤ 16)
    (there : gctlOtos obj "srcIp6" = some srcIp6) (other : gctlOtos obj "dstIp6" = some dstIp6)
    (packs : packIp6 srcIp6 = some bytes) (packs' : packIp6 dstIp6 = some bytes') :
    (ipv6Record element obj).size = 64 := by
  simp only [Record.size, ipv6Record, List.length_append, address6_length short there packs,
    address6_length short' other packs', be8_length, be16_length, be32_length, List.length_cons,
    List.length_nil]

theorem readIpv6_filled (next : ptr = front.length) (fits : 64 ≤ room)
    (valid : ValidClassifier (.ipv6, obj))
    (reads : readClassifier addr (Buffer.filled front room) ptr element obj .ipv6 = some after) :
    after = Buffer.filled (front ++ (ipv6Record element obj).bytes) (room - 64) ∧
      (ipv6Record element obj).size = 64 := by
  have source := valid "srcIp6" List.mem_cons_self
  have destination := valid "dstIp6" (List.mem_cons_of_mem _ List.mem_cons_self)
  simp only [readClassifier] at reads
  cases there : gctlOtos obj "srcIp6" with
  | none =>
      rw [there] at reads
      cases reads
  | some srcIp6 =>
      cases other : gctlOtos obj "dstIp6" with
      | none =>
          rw [there, other] at reads
          cases reads
      | some dstIp6 =>
          rcases tokens_of_text (source srcIp6 there) with ⟨groups, few⟩
          rcases tokens_of_text (destination dstIp6 other) with ⟨groups', few'⟩
          rcases packIp6_of_tokens groups with ⟨bytes, packs⟩
          rcases packIp6_of_tokens groups' with ⟨bytes', packs'⟩
          have short := packIp6_length few packs
          have short' := packIp6_length few' packs'
          rw [there, other, pcmmIpv6Classifier_filled next fits _ _ _ _ _ packs packs' short short',
            packed_priority] at reads
          simp only [packed_u8, packed_u16, packed_u32] at reads
          cases reads
          have size : (ipv6Record element obj).size = 64 :=
            ipv6Record_size short short' there other packs packs'
          refine ⟨congrArg (fun bytes => Buffer.filled (front ++ bytes) (room - 64)) ?_, size⟩
          rw [Record.bytes, size, ipv6Record,
            address6_eq there packs, address6_eq other packs', prefix6, prefix6, there, other]
          have length : UInt16.ofNat 64 = 64 := rfl
          simp only [be8, be16, be32, length, List.append_assoc, List.cons_append, List.nil_append,
            Option.map_some, Option.getD_some]

/-- A classifier is stored as its object. -/
theorem readClassifier_filled (next : ptr = front.length) (fits : kind.size ≤ room)
    (valid : ValidClassifier (kind, obj))
    (reads : readClassifier addr (Buffer.filled front room) ptr element obj kind = some after) :
    after = Buffer.filled (front ++ (classifierRecord element (kind, obj)).bytes)
        (room - kind.size) ∧
      (classifierRecord element (kind, obj)).size = kind.size := by
  cases kind with
  | legacy => exact ⟨readLegacy_filled next fits valid reads, rfl⟩
  | extended => exact ⟨readExtended_filled next fits valid reads, rfl⟩
  | ipv6 => exact readIpv6_filled next fits valid reads

/-- The object of an element of the list; `none` where it is no classifier. -/
def elementRecord (element : Option Json) : Option Record :=
  (classifierOf element).map (classifierRecord element)

/-- The bytes of the objects. -/
def recordBytes (records : List Record) : List UInt8 :=
  records.flatMap Record.bytes

theorem recordBytes_cons (record : Record) (records : List Record) :
    (recordBytes (record :: records)).length = record.size + (recordBytes records).length := by
  rw [recordBytes, List.flatMap_cons, List.length_append, Record.bytes_length, recordBytes]

theorem classifierKind_size (kind : ClassifierKind) : kind.size ≤ 64 ∧ 4 ∣ kind.size := by
  cases kind <;> decide

/-- The kinds of classifiers by their numbers, with their sizes. -/
def IsClassifier (record : Record) : Prop :=
  record.major = 6 ∧ (record.minor = 1 ∧ record.size = 24 ∨ record.minor = 2 ∧ record.size = 40 ∨
    record.minor = 3 ∧ record.size = 64)

theorem isClassifier_of_size
    (size : (classifierRecord element (kind, obj)).size = kind.size) :
    IsClassifier (classifierRecord element (kind, obj)) := by
  cases kind with
  | legacy => exact ⟨rfl, Or.inl ⟨rfl, size⟩⟩
  | extended => exact ⟨rfl, Or.inr (Or.inl ⟨rfl, size⟩)⟩
  | ipv6 => exact ⟨rfl, Or.inr (Or.inr ⟨rfl, size⟩)⟩

theorem IsClassifier.small {record : Record} (classifier : IsClassifier record) :
    24 ≤ record.size ∧ record.size ≤ 64 := by
  rcases classifier with ⟨_, ⟨_, size⟩ | ⟨_, size⟩ | ⟨_, size⟩⟩ <;> omega

/-- A loop that is not refused packs its first element and goes on behind it. -/
theorem readClassifiers_cons {addr : Nat -> IpField -> UInt32} {i : Nat} {element : Option Json}
    {elements : List (Option Json)} {gc after : Gctl} {classifier buffer : Buffer}
    (reads : readClassifiers addr i (element :: elements) gc classifier = some (after, buffer))
    (ok : after.failed = false) :
    Exists fun kind => Exists fun obj => Exists fun stored =>
      classifierOf element = some (kind, obj) ∧
        readClassifier (addr i) classifier gc.classifierSize element obj kind = some stored ∧
          readClassifiers addr (i + 1) elements
            { gc with classifierSize := gc.classifierSize + kind.size } stored =
              some (after, buffer) := by
  rw [readClassifiers] at reads
  split at reads
  · cases reads
    cases ok
  · rename_i kind obj found
    rcases Option.bind_eq_some_iff.mp reads with ⟨stored, packed, rest⟩
    exact ⟨kind, obj, stored, found, packed, rest⟩

/-- The loop stores the objects of the elements one behind the other. -/
theorem readClassifiers_filled {addr : Nat -> IpField -> UInt32} {i : Nat}
    {elements : List (Option Json)} {gc after : Gctl} {front : List UInt8} {room : Nat}
    {buffer : Buffer} (next : gc.classifierSize = front.length)
    (fits : 64 * elements.length ≤ room)
    (valid : forall element, element ∈ elements -> forall classifier,
      classifierOf element = some classifier -> ValidClassifier classifier)
    (reads : readClassifiers addr i elements gc (Buffer.filled front room) = some (after, buffer))
    (ok : after.failed = false) :
    Exists fun records => elements.map elementRecord = records.map some ∧
      4 ∣ (recordBytes records).length ∧
        (forall record, record ∈ records -> IsClassifier record) ∧
          buffer = Buffer.filled (front ++ recordBytes records)
              (room - (recordBytes records).length) ∧
            after = { gc with
              classifierSize := gc.classifierSize + (recordBytes records).length } := by
  induction elements generalizing i gc front room with
  | nil =>
      cases reads
      refine ⟨[], rfl, Nat.dvd_zero 4, ?_, ?_, rfl⟩
      · exact fun _ member => absurd member List.not_mem_nil
      · rw [recordBytes, List.flatMap_nil, List.append_nil]
        rfl
  | cons element elements inductionHypothesis =>
      rcases readClassifiers_cons reads ok with ⟨kind, obj, stored, found, packed, rest⟩
      have sizes := classifierKind_size kind
      rw [List.length_cons] at fits
      have room' : kind.size ≤ room := by omega
      rcases readClassifier_filled next room'
        (valid element List.mem_cons_self (kind, obj) found) packed with ⟨rfl, size⟩
      have next' : gc.classifierSize + kind.size =
          (front ++ (classifierRecord element (kind, obj)).bytes).length := by
        rw [List.length_append, Record.bytes_length, size, next]
      rcases inductionHypothesis next' (by omega)
        (fun other member => valid other (List.mem_cons_of_mem _ member)) rest with
        ⟨records, same, words, each, filled, counted⟩
      have length := recordBytes_cons (classifierRecord element (kind, obj)) records
      refine ⟨classifierRecord element (kind, obj) :: records, ?_, ?_, ?_, ?_, ?_⟩
      · rw [List.map_cons, List.map_cons, same, elementRecord, found, Option.map_some]
      · rw [length, size]
        exact Nat.dvd_add sizes.2 words
      · intro record member
        rcases List.mem_cons.mp member with rfl | member
        · exact isClassifier_of_size size
        · exact each record member
      · rw [filled, length, size, Nat.sub_sub]
        simp only [recordBytes, List.flatMap_cons, List.append_assoc]
      · rw [counted, length, size, Nat.add_assoc]

end Reading

/-! ## The gate specification and the envelope -/

/-- The bits of the flags: the direction, and whether the DSCP field is enabled. -/
def flagsOf (spec : Option Json) (direction : String) : UInt8 :=
  UInt8.ofInt ((if direction = "upstream" then 1 else 0) +
    2 * (integer spec "dscp-tos-overwrite" % 2))

/-- The gate specification; its session class has no member in the request. -/
def gateSpecRecord (spec : Option Json) (direction : String) (sessionClass : UInt8) : Record where
  major := 5
  minor := 1
  body :=
    [flagsOf spec direction] ++ (be8 (integer spec "dscp-tos-overwrite") ++
      (be8 (integer spec "dscp-tos-mask") ++ ([sessionClass] ++ (be16 (integer spec "t1") ++
        (be16 (integer spec "t2") ++ (be16 (integer spec "t3") ++ [0, 0]))))))

def flowSpecRecord (profile : Option Json) : Record where
  major := 7
  minor := 1
  body :=
    [7] ++ (be8 (integer profile "service-number") ++
      ([0, 0] ++ (bitrate ++ (bitrate ++ bitrate))))

/-- The zeros in front of the name of a service class. -/
def scnAlignment (scn : String) : Nat :=
  ((scn.toList.flatMap String.utf8EncodeChar).length + 1) % 4

def serviceClassRecord (scn : String) (behind : Memory) : Record where
  major := 7
  minor := 2
  body :=
    [7, 0, 0] ++ (List.replicate (scnAlignment scn) 0 ++
      ((scnMemory scn behind).read 0 8 ++ List.replicate (5 - scnAlignment scn) 0))

/-- The envelope of a traffic profile. -/
inductive IsEnvelope (traffic : Option Json) (behind : Memory) : Record -> Prop
  | serviceClass (scn : String) (named : gctlOtos traffic "service-class-name" = some scn) :
      IsEnvelope traffic behind (serviceClassRecord scn behind)
  | flowSpec (profile : Json) (unnamed : objGet traffic "service-class-name" = none)
      (given : objGet traffic "flow-spec-profile" = some profile) :
      IsEnvelope traffic behind (flowSpecRecord (some profile))

theorem vtof_eq (spec : Option Json) (direction : String) :
    vtof (some direction) (UInt8.ofInt (integer spec "dscp-tos-overwrite")) 0 =
      some (flagsOf spec direction) := by
  have low : UInt8.ofInt (integer spec "dscp-tos-overwrite") &&& 1 =
      UInt8.ofInt (integer spec "dscp-tos-overwrite" % 2) := by
    apply UInt8.toNat_inj.mp
    rw [UInt8.toNat_and, UInt8.toNat_one, Nat.and_one_is_mod, UInt8.ofInt, UInt8.ofInt,
      UInt8.toNat_ofNat', UInt8.toNat_ofNat']
    omega
  rw [vtof, Option.map_some, flagsOf, low]
  rcases Int.emod_two_eq (integer spec "dscp-tos-overwrite") with even | odd
  · rw [even]
    split <;> rfl
  · rw [odd]
    split <;> rfl

theorem pcmmGate_filled {spec : Option Json} {direction : String} (pri preempt : UInt8) :
    pcmmGate (Buffer.cleared 16) (some direction) pri preempt
        (toU8 (gctlOtoi spec "dscp-tos-overwrite")) (toU8 (gctlOtoi spec "dscp-tos-mask"))
        (gctlOtoi spec "t1") (gctlOtoi spec "t2") (gctlOtoi spec "t3") 0 =
      some (Buffer.filled (gateSpecRecord spec direction (vtoc pri preempt 0)).bytes 0) := by
  have empty : 0 = ([] : List UInt8).length := rfl
  rw [pcmmGate, packed_u8, packed_u8, packed_u16, packed_u16, packed_u16, vtof_eq,
    Option.map_some, Buffer.cleared, Buffer.filled_write empty (by decide)]
  simp (disch := simp only [List.length_append, List.length_singleton, List.length_nil,
      packU16Be_length] <;> omega) only [Buffer.filled_write]
  simp only [List.nil_append, List.append_assoc]
  rfl

theorem pcmmFlowspecEnvelope_filled (profile : Option Json) :
    pcmmFlowspecEnvelope (Buffer.cleared 92) (gctlOtoi profile "service-number") =
      Buffer.filled (flowSpecRecord profile).bytes 0 := by
  have empty : 0 = ([] : List UInt8).length := rfl
  have rates : (bitrate ++ (bitrate ++ bitrate)).length = 84 := rfl
  rw [pcmmFlowspecEnvelope, packed_u8, Buffer.cleared, Buffer.filled_write empty (by decide)]
  simp (disch := simp only [List.length_append, List.length_singleton, List.length_nil,
      packU16Be_length, rates] <;> omega) only [Buffer.filled_write]
  rw [rates]
  simp only [List.nil_append, List.append_assoc, List.length_singleton, packU16Be_length]
  rfl

theorem scnAlignment_le (scn : String) : scnAlignment scn ≤ 3 :=
  Nat.le_of_lt_succ (Nat.mod_lt _ (by decide))

theorem serviceClassRecord_size (scn : String) (behind : Memory) :
    (serviceClassRecord scn behind).size = 20 := by
  have aligned := scnAlignment_le scn
  simp only [Record.size, serviceClassRecord, List.length_append, List.length_replicate,
    Memory.read_length, List.length_cons, List.length_nil]
  omega

theorem pcmmScnEnvelope_filled (scn : String) (behind : Memory) :
    pcmmScnEnvelope (Buffer.cleared 92) scn behind =
      Buffer.filled (serviceClassRecord scn behind).bytes 72 := by
  have empty : 0 = ([] : List UInt8).length := rfl
  have aligned := scnAlignment_le scn
  have behind5 : 5 - scnAlignment scn ≤ 77 - scnAlignment scn := by omega
  have rest : 77 - scnAlignment scn - (5 - scnAlignment scn) = 72 := by omega
  have size := serviceClassRecord_size scn behind
  have length : UInt16.ofNat 20 = 20 := rfl
  unfold pcmmScnEnvelope
  change ((((((((Buffer.cleared 92).write 0 (packU16Be 20)).write 2 [7]).write 3 [2]).write 4
    [7]).write 5 [0]).write 6 [0]).write 7 (List.replicate (scnAlignment scn) 0)).write
      (7 + scnAlignment scn) ((scnMemory scn behind).read 0 8) = _
  rw [Buffer.cleared, Buffer.filled_write empty (by decide)]
  simp (disch := simp only [List.length_append, List.length_singleton, List.length_nil,
      packU16Be_length, List.length_replicate, Memory.read_length] <;> omega) only
    [Buffer.filled_write]
  simp only [packU16Be_length, List.length_singleton, List.length_replicate, Memory.read_length,
    Nat.reduceSub, Nat.sub_right_comm _ (scnAlignment scn)]
  rw [Buffer.filled_skip _ behind5, rest, Record.bytes, size, serviceClassRecord, length]
  simp only [List.nil_append, List.append_assoc, List.cons_append]

/-- What `gctl_read_policy` stores of the traffic profile. -/
theorem readEnvelope_filled {traffic : Option Json} {behind : Memory} {envelope : Buffer}
    {size : Nat} (reads : readEnvelope traffic behind (Buffer.cleared 92) =
      some (some (envelope, size))) :
    Exists fun record => IsEnvelope traffic behind record ∧ record.size = size ∧
      20 ≤ size ∧ size ≤ 92 ∧ 4 ∣ size ∧ Exists fun room =>
        envelope = Buffer.filled record.bytes room := by
  unfold readEnvelope at reads
  split at reads
  · rename_i profile named
    rcases Option.map_eq_some_iff.mp reads with ⟨scn, text, same⟩
    rcases Prod.mk.inj (Option.some.inj same) with ⟨rfl, rfl⟩
    have name : gctlOtos traffic "service-class-name" = some scn := by
      rw [gctlOtos, named, text]
    exact ⟨_, .serviceClass scn name, serviceClassRecord_size scn behind, by decide, by decide,
      by decide, 72, pcmmScnEnvelope_filled scn behind⟩
  · rename_i unnamed
    split at reads
    · rename_i profile given
      rcases Prod.mk.inj (Option.some.inj (Option.some.inj reads)) with ⟨rfl, rfl⟩
      exact ⟨_, .flowSpec profile unnamed given, rfl, by decide, by decide, by decide, 0,
        pcmmFlowspecEnvelope_filled (some profile)⟩
    · cases Option.some.inj reads

/-! ## The parts in one array -/

theorem take_filled {bytes : List UInt8} {size : Nat} (room : Nat) (whole : size = bytes.length) :
    (Buffer.filled bytes room).bytes.take size = bytes := by
  rw [whole, Buffer.filled, List.take_left]

/-- The array is full with the parts, and the last byte of 0 is behind it. -/
theorem joinParts_eq {gc : Gctl} {gate : List UInt8} {envelope classifier : Buffer}
    (gate16 : gate.length = 16) (envelopes : gc.envelopeSize ≤ envelope.bytes.length)
    (classifiers : gc.classifierSize ≤ classifier.bytes.length) (enveloped : 0 < gc.envelopeSize)
    (classified : 0 < gc.classifierSize)
    (small : gc.envelopeSize + gc.classifierSize < 65536) :
    joinParts gc (Buffer.filled gate 0) envelope classifier =
      { bytes := gate ++ envelope.bytes.take gc.envelopeSize ++
          classifier.bytes.take gc.classifierSize
        outside := 1 } := by
  have long : (envelope.bytes.take gc.envelopeSize).length = gc.envelopeSize := by
    rw [List.length_take, Nat.min_eq_left envelopes]
  have long' : (classifier.bytes.take gc.classifierSize).length = gc.classifierSize := by
    rw [List.length_take, Nat.min_eq_left classifiers]
  unfold joinParts concatC8 gctlPolicyDecisionSize Buffer.cleared
  rw [take_filled 0 gate16.symm]
  generalize envelope.bytes.take gc.envelopeSize = profile at long ⊢
  generalize classifier.bytes.take gc.classifierSize = records at long' ⊢
  generalize gc.envelopeSize = esz at long enveloped small ⊢
  generalize gc.classifierSize = csz at long' classified small ⊢
  subst long long'
  have empty : 0 = ([] : List UInt8).length := rfl
  have first : concat (Buffer.filled [] (16 + profile.length + records.length)) 0 gate =
      (Buffer.filled gate (16 + profile.length + records.length - gate.length), gate.length) := by
    rw [concat_filled empty (by rw [List.length_nil]; omega) (by omega), List.nil_append,
      Nat.zero_add]
  have second : concat (Buffer.filled gate
        (16 + profile.length + records.length - gate.length)) gate.length profile =
      (Buffer.filled (gate ++ profile)
          (16 + profile.length + records.length - gate.length - profile.length),
        gate.length + profile.length) :=
    concat_filled rfl (by omega) (by omega)
  have full : records.length =
      16 + profile.length + records.length - gate.length - profile.length := by omega
  have there : gate.length + profile.length = (gate ++ profile).length := List.length_append.symm
  dsimp only
  rw [first]
  dsimp only
  rw [second]
  dsimp only
  rw [concat, Buffer.filled_overrun there full]

/-! ## What is accepted -/

/-- A request that is not refused has an envelope, and goes on to its classifiers. -/
theorem gctlReadPolicy_accepted {locals : Locals} {input : Option Json} {behind : Memory}
    {classifier envelope : Buffer} {policy : Policy}
    (accepted : gctlReadPolicy locals input behind classifier envelope = some policy)
    (ok : policy.gc.failed = false) :
    Exists fun stored => Exists fun size =>
      readEnvelope (objGet (objGet input "gate") "traffic-profile") behind envelope =
          some (some (stored, size)) ∧
        gctlReadClassifiers locals (objGet (objGet input "gate") "classifiers")
            (readGateSpec (objGet (objGet input "gate") "gate-spec")
              { gctlNewRequest locals.gc input with envelopeSize := size }) classifier stored =
          some policy := by
  unfold gctlReadPolicy at accepted
  dsimp only at accepted
  split at accepted
  · cases accepted
    cases ok
  · rcases Option.bind_eq_some_iff.mp accepted with ⟨profile, reads, rest⟩
    cases profile with
    | none =>
        cases rest
        cases ok
    | some profile => exact ⟨profile.1, profile.2, reads, rest⟩

/-- The elements are in a list, or there is none. -/
theorem arrGet_elements {classifiers : Option Json} {clen : Nat}
    (count : getLen classifiers = clen) :
    (Exists fun elements => classifiers = some (.arr elements) ∧ elements.length = clen ∧
        (List.range clen).map (arrGet classifiers) = elements.map some) ∨
      forall i, arrGet classifiers i = none := by
  cases classifiers with
  | none => exact Or.inr fun _ => rfl
  | some json =>
      cases json with
      | arr elements =>
          refine Or.inl ⟨elements, rfl, count, ?_⟩
          rw [← count]
          apply List.ext_getElem?
          intro i
          rw [List.getElem?_map, List.getElem?_map, getLen]
          by_cases inside : i < elements.length
          · rw [List.getElem?_range inside, List.getElem?_eq_getElem inside, Option.map_some,
              Option.map_some, arrGet, List.getElem?_eq_getElem inside]
          · have outside := Nat.le_of_not_lt inside
            rw [List.getElem?_eq_none (by rw [List.length_range]; exact outside),
              List.getElem?_eq_none outside]
            rfl
      | null | bool | int | real | str | obj => exact Or.inr fun _ => rfl

/-- A list of classifiers that is not refused has one to five. -/
theorem gctlReadClassifiers_accepted {locals : Locals} {classifiers : Option Json} {gc : Gctl}
    {classifier envelope : Buffer} {policy : Policy}
    (accepted : gctlReadClassifiers locals classifiers gc classifier envelope = some policy)
    (ok : policy.gc.failed = false) :
    Exists fun elements => classifiers = some (.arr elements) ∧ 1 ≤ elements.length ∧
      elements.length ≤ 5 ∧ policy.envelope = envelope ∧
        readClassifiers locals.classifier 0 (elements.map some) { gc with classifierSize := 0 }
          classifier = some (policy.gc, policy.classifier) := by
  unfold gctlReadClassifiers at accepted
  dsimp only at accepted
  split at accepted
  · cases accepted
    cases ok
  · rename_i count
    rcases Option.map_eq_some_iff.mp accepted with ⟨⟨after, stored⟩, reads, rfl⟩
    have least : getLen classifiers ≠ 0 := fun none => count (Or.inl none)
    have most : getLen classifiers ≤ 5 := Nat.le_of_not_lt fun more => count (Or.inr more)
    rcases arrGet_elements (rfl : getLen classifiers = getLen classifiers) with
      ⟨elements, list, length, same⟩ | nowhere
    · rw [same] at reads
      exact ⟨elements, list, by omega, by omega, rfl, reads⟩
    · cases range : (List.range (getLen classifiers)).map (arrGet classifiers) with
      | nil =>
          have none := congrArg List.length range
          rw [List.length_map, List.length_range] at none
          exact absurd none least
      | cons element elements =>
          have first : element ∈ (List.range (getLen classifiers)).map (arrGet classifiers) :=
            range ▸ List.mem_cons_self
          rcases List.mem_map.mp first with ⟨i, _, same⟩
          rw [range, ← same, nowhere i] at reads
          cases reads
          cases ok

/-! ## The sizes that are stored, whatever the addresses are -/

section Sizes

variable {addr : IpField -> UInt32} {element obj : Option Json} {kind : ClassifierKind}
  {ptr : Nat} {dst after : Buffer}

theorem readClassifier_length
    (reads : readClassifier addr dst ptr element obj kind = some after) :
    after.bytes.length = dst.bytes.length := by
  cases kind with
  | legacy =>
      rcases Option.map_eq_some_iff.mp reads with ⟨srcIp, _, rfl⟩
      simp only [Buffer.write_length]
  | extended =>
      rcases Option.bind_eq_some_iff.mp reads with ⟨srcIp, _, masked⟩
      rcases Option.bind_eq_some_iff.mp masked with ⟨srcMask, _, bounded⟩
      rcases Option.map_eq_some_iff.mp bounded with ⟨dstMask, _, rfl⟩
      simp only [Buffer.write_length]
  | ipv6 =>
      rcases Option.bind_eq_some_iff.mp reads with ⟨srcIp6, _, other⟩
      rcases Option.bind_eq_some_iff.mp other with ⟨dstIp6, _, packs⟩
      rcases Option.bind_eq_some_iff.mp packs with ⟨source, _, packs'⟩
      rcases Option.map_eq_some_iff.mp packs' with ⟨destination, _, rfl⟩
      simp only [Buffer.write_length]

/-- The loop counts the sizes of the elements, and stores in its array. -/
theorem readClassifiers_sizes {addr : Nat -> IpField -> UInt32} {i : Nat}
    {elements : List (Option Json)} {gc after : Gctl} {classifier buffer : Buffer}
    (reads : readClassifiers addr i elements gc classifier = some (after, buffer))
    (ok : after.failed = false) :
    buffer.bytes.length = classifier.bytes.length ∧
      Exists fun total => 24 * elements.length ≤ total ∧ total ≤ 64 * elements.length ∧
        after = { gc with classifierSize := gc.classifierSize + total } := by
  induction elements generalizing i gc classifier with
  | nil =>
      cases reads
      exact ⟨rfl, 0, Nat.le_refl _, Nat.le_refl _, rfl⟩
  | cons element elements inductionHypothesis =>
      rcases readClassifiers_cons reads ok with ⟨kind, obj, stored, found, packed, rest⟩
      rcases inductionHypothesis rest with ⟨long, total, least, most, counted⟩
      have size : 24 ≤ kind.size ∧ kind.size ≤ 64 := by cases kind <;> decide
      refine ⟨long.trans (readClassifier_length packed), kind.size + total, ?_, ?_, ?_⟩
      · rw [List.length_cons]
        omega
      · rw [List.length_cons]
        omega
      · rw [counted, Nat.add_assoc]

theorem readEnvelope_sizes {traffic : Option Json} {behind : Memory} {envelope stored : Buffer}
    {size : Nat} (reads : readEnvelope traffic behind envelope = some (some (stored, size))) :
    stored.bytes.length = envelope.bytes.length ∧ 20 ≤ size ∧ size ≤ 92 := by
  unfold readEnvelope at reads
  split at reads
  · rcases Option.map_eq_some_iff.mp reads with ⟨scn, _, same⟩
    rcases Prod.mk.inj (Option.some.inj same) with ⟨rfl, rfl⟩
    refine ⟨?_, by decide, by decide⟩
    simp only [pcmmScnEnvelope, Buffer.write_length]
  · split at reads
    · rcases Prod.mk.inj (Option.some.inj (Option.some.inj reads)) with ⟨rfl, rfl⟩
      refine ⟨?_, by decide, by decide⟩
      simp only [pcmmFlowspecEnvelope, Buffer.write_length]
    · cases Option.some.inj reads

/-- What an accepted policy has stored. -/
theorem gctlReadPolicy_sizes {locals : Locals} {input : Option Json} {behind : Memory}
    {policy : Policy}
    (accepted : gctlReadPolicy locals input behind (Buffer.cleared 320) (Buffer.cleared 92) =
      some policy)
    (ok : policy.gc.failed = false) :
    policy.envelope.bytes.length = 92 ∧ policy.classifier.bytes.length = 320 ∧
      20 ≤ policy.gc.envelopeSize ∧ policy.gc.envelopeSize ≤ 92 ∧
        24 ≤ policy.gc.classifierSize ∧ policy.gc.classifierSize ≤ 320 ∧
          policy.gc = { readGateSpec (objGet (objGet input "gate") "gate-spec")
              (gctlNewRequest locals.gc input) with
            envelopeSize := policy.gc.envelopeSize
            classifierSize := policy.gc.classifierSize } := by
  rcases gctlReadPolicy_accepted accepted ok with ⟨stored, size, enveloped, read⟩
  rcases readEnvelope_sizes enveloped with ⟨long, least, most⟩
  rcases gctlReadClassifiers_accepted read ok with ⟨elements, _, some', few, same, reads⟩
  rcases readClassifiers_sizes reads ok with ⟨long', total, least', most', counted⟩
  rw [List.length_map] at least' most'
  have envelopeSize : policy.gc.envelopeSize = size := by
    rw [counted]
    rfl
  have classifierSize : policy.gc.classifierSize = total := by
    rw [counted]
    exact Nat.zero_add _
  rw [Buffer.cleared_length] at long long'
  refine ⟨by rw [same, long], long', by omega, by omega, by omega, by omega, ?_⟩
  rw [envelopeSize, classifierSize, counted, Nat.zero_add]
  rfl

/-- The session class, of the two locals that no member of the request sets. -/
def sessionClassOf (locals : Locals) : UInt8 :=
  vtoc (toU8 locals.gc.gate.priority) (toU8 locals.gc.gate.preemption) 0

/-- The payload of an accepted policy is its three parts. -/
theorem gctl04Payload_of_accepted {locals : Locals} {input : Option Json} {behind : Memory}
    {policy : Policy} {direction : String}
    (accepted : gctlReadPolicy locals input behind (Buffer.cleared 320) (Buffer.cleared 92) =
      some policy)
    (ok : policy.gc.failed = false)
    (directed : gctlOtos (objGet (objGet input "gate") "gate-spec") "direction" = some direction) :
    gctl04Payload locals input behind = some (.payload policy.gc {
      bytes := (gateSpecRecord (objGet (objGet input "gate") "gate-spec") direction
          (sessionClassOf locals)).bytes ++ policy.envelope.bytes.take policy.gc.envelopeSize ++
        policy.classifier.bytes.take policy.gc.classifierSize
      outside := 1 }) := by
  rcases gctlReadPolicy_sizes accepted ok with ⟨long, long', least, most, least', most', counted⟩
  generalize specified : gateSpecRecord (objGet (objGet input "gate") "gate-spec") direction
    (sessionClassOf locals) = specification
  have gate : pcmmGate (Buffer.cleared 16) policy.gc.gate.direction (toU8 policy.gc.gate.priority)
      (toU8 policy.gc.gate.preemption) (toU8 policy.gc.gate.dscpTosOvwr)
      (toU8 policy.gc.gate.dscpTosMask) policy.gc.gate.timer1 policy.gc.gate.timer2
      policy.gc.gate.timer3 policy.gc.gate.timer4 = some (Buffer.filled specification.bytes 0) := by
    rw [counted]
    dsimp only [readGateSpec, gctlNewRequest]
    rw [directed, pcmmGate_filled, ← specified]
    rfl
  have gate16 : specification.bytes.length = 16 := by
    rw [specification.bytes_length, ← specified]
    rfl
  have enveloped : 0 < policy.gc.envelopeSize := by omega
  have classified : 0 < policy.gc.classifierSize := by omega
  have small : policy.gc.envelopeSize + policy.gc.classifierSize < 65536 := by omega
  have joined : joinParts policy.gc (Buffer.filled specification.bytes 0) policy.envelope
      policy.classifier =
        { bytes := specification.bytes ++ policy.envelope.bytes.take policy.gc.envelopeSize ++
            policy.classifier.bytes.take policy.gc.classifierSize
          outside := 1 } :=
    joinParts_eq gate16 (long ▸ most) (long' ▸ most') enveloped classified small
  unfold gctl04Payload
  rw [accepted, Option.bind_some]
  dsimp only
  rw [ok, gate, ← joined]
  rfl

end Sizes

/-! ## The payload -/

/-- The payload of a request as its reader finds it. -/
structure PayloadOf (input : Option Json) (behind : Memory) (direction : String) (gc : Gctl)
    (data : List UInt8) : Prop where
  length : data.length = 16 + gc.envelopeSize + gc.classifierSize
  bounded : data.length ≤ 428
  words : 4 ∣ data.length
  objects : Exists fun elements => Exists fun sessionClass => Exists fun envelope =>
    Exists fun records =>
      objGet (objGet input "gate") "classifiers" = some (.arr elements) ∧
        1 ≤ elements.length ∧ elements.length ≤ 5 ∧
          IsEnvelope (objGet (objGet input "gate") "traffic-profile") behind envelope ∧
            envelope.size = gc.envelopeSize ∧
              (elements.map fun element => elementRecord (some element)) = records.map some ∧
                (forall record, record ∈ records -> IsClassifier record) ∧
                  walk (2 + elements.length) data =
                    some (gateSpecRecord (objGet (objGet input "gate") "gate-spec") direction
                      sessionClass :: envelope :: records, [])

theorem recordBytes_bounds {records : List Record}
    (each : forall record, record ∈ records -> IsClassifier record) :
    24 * records.length ≤ (recordBytes records).length ∧
      (recordBytes records).length ≤ 64 * records.length := by
  induction records with
  | nil => exact ⟨Nat.le_refl _, Nat.le_refl _⟩
  | cons record records inductionHypothesis =>
      have bounds := (each record List.mem_cons_self).small
      have others := inductionHypothesis fun other member =>
        each other (List.mem_cons_of_mem _ member)
      rw [recordBytes_cons, List.length_cons]
      omega

/-- Objects in one array are walked in their order. -/
theorem walk_parts {gate envelope : Record} {records : List Record} (small : gate.size ≤ 92)
    (small' : envelope.size ≤ 92) (each : forall record, record ∈ records -> IsClassifier record) :
    walk (2 + records.length) (gate.bytes ++ envelope.bytes ++ recordBytes records) =
      some (gate :: envelope :: records, []) := by
  have fits : forall record, record ∈ gate :: envelope :: records -> record.size < 65536 := by
    intro record member
    rcases List.mem_cons.mp member with rfl | member
    · omega
    rcases List.mem_cons.mp member with rfl | member
    · omega
    · have bounds := (each record member).small
      omega
  have found := walk_records fits []
  rw [List.append_nil, List.length_cons, List.length_cons, Nat.add_assoc,
    Nat.add_comm records.length, List.flatMap_cons, List.flatMap_cons, ← List.append_assoc] at found
  exact found

/-- What an accepted policy has stored, once its addresses are literals. -/
theorem gctlReadPolicy_filled {locals : Locals} {input : Option Json} {behind : Memory}
    {policy : Policy}
    (accepted : gctlReadPolicy locals input behind (Buffer.cleared 320) (Buffer.cleared 92) =
      some policy)
    (ok : policy.gc.failed = false)
    (valid : forall elements, objGet (objGet input "gate") "classifiers" = some (.arr elements) ->
      forall element, element ∈ elements -> forall classifier,
        classifierOf (some element) = some classifier -> ValidClassifier classifier) :
    Exists fun elements => Exists fun envelope => Exists fun records =>
      objGet (objGet input "gate") "classifiers" = some (.arr elements) ∧
        1 ≤ elements.length ∧ elements.length ≤ 5 ∧
          IsEnvelope (objGet (objGet input "gate") "traffic-profile") behind envelope ∧
            (elements.map fun element => elementRecord (some element)) = records.map some ∧
              (forall record, record ∈ records -> IsClassifier record) ∧
                4 ∣ (recordBytes records).length ∧ 4 ∣ envelope.size ∧ 20 ≤ envelope.size ∧
                  envelope.size ≤ 92 ∧
                    (Exists fun room => policy.envelope = Buffer.filled envelope.bytes room) ∧
                      (Exists fun room =>
                        policy.classifier = Buffer.filled (recordBytes records) room) ∧
                        policy.gc = { readGateSpec (objGet (objGet input "gate") "gate-spec")
                            (gctlNewRequest locals.gc input) with
                          envelopeSize := envelope.size
                          classifierSize := (recordBytes records).length } := by
  rcases gctlReadPolicy_accepted accepted ok with ⟨stored, size, enveloped, read⟩
  rcases readEnvelope_filled enveloped with
    ⟨envelope, profile, rfl, least, most, aligned, room, rfl⟩
  rcases gctlReadClassifiers_accepted read ok with ⟨elements, list, some', few, same, reads⟩
  have each : forall element, element ∈ elements.map some -> forall classifier,
      classifierOf element = some classifier -> ValidClassifier classifier := by
    intro element member classifier found
    rcases List.mem_map.mp member with ⟨json, there, rfl⟩
    exact valid elements list json there classifier found
  have room320 : 64 * (elements.map some).length ≤ 320 := by
    rw [List.length_map]
    omega
  have start : ({ readGateSpec (objGet (objGet input "gate") "gate-spec")
      { gctlNewRequest locals.gc input with envelopeSize := envelope.size } with
        classifierSize := 0 } : Gctl).classifierSize = ([] : List UInt8).length := rfl
  rcases readClassifiers_filled start room320 each reads ok with
    ⟨records, kinds, words, classified, filled, counted⟩
  rw [List.map_map] at kinds
  refine ⟨elements, envelope, records, list, some', few, profile, kinds, classified, words,
    aligned, least, most, ⟨room, same⟩, ⟨_, filled⟩, ?_⟩
  rw [counted, Nat.zero_add]
  rfl

/-- The payload of every request that is accepted with literal addresses. -/
theorem gctl04Payload_layout (locals : Locals) (input : Option Json) (behind : Memory)
    (policy : Policy) (direction : String)
    (accepted : gctlReadPolicy locals input behind (Buffer.cleared 320) (Buffer.cleared 92) =
      some policy)
    (ok : policy.gc.failed = false)
    (directed : gctlOtos (objGet (objGet input "gate") "gate-spec") "direction" = some direction)
    (valid : forall elements, objGet (objGet input "gate") "classifiers" = some (.arr elements) ->
      forall element, element ∈ elements -> forall classifier,
        classifierOf (some element) = some classifier -> ValidClassifier classifier) :
    Exists fun data => gctl04Payload locals input behind = some (.payload policy.gc data) ∧
      PayloadOf input behind direction policy.gc data.bytes := by
  rcases gctlReadPolicy_filled accepted ok valid with
    ⟨elements, envelope, records, list, some', few, profile, kinds, classified, words, aligned,
      least, most, ⟨room, stored⟩, ⟨room', filled⟩, counted⟩
  have count : records.length = elements.length := by
    have lengths := congrArg List.length kinds
    rw [List.length_map, List.length_map] at lengths
    exact lengths.symm
  have bounds := recordBytes_bounds classified
  have envelopeSize : policy.gc.envelopeSize = envelope.size := by rw [counted]
  have classifierSize : policy.gc.classifierSize = (recordBytes records).length := by rw [counted]
  have made := gctl04Payload_of_accepted accepted ok directed
  rw [stored, filled, take_filled room (envelopeSize.trans envelope.bytes_length.symm),
    take_filled room' classifierSize] at made
  have size : (gateSpecRecord (objGet (objGet input "gate") "gate-spec") direction
      (sessionClassOf locals)).size = 16 := rfl
  generalize specified : gateSpecRecord (objGet (objGet input "gate") "gate-spec") direction
    (sessionClassOf locals) = specification at made size
  have total : (specification.bytes ++ envelope.bytes ++ recordBytes records).length =
      16 + envelope.size + (recordBytes records).length := by
    rw [List.length_append, List.length_append, specification.bytes_length,
      envelope.bytes_length, size]
  refine ⟨_, made, ?_, ?_, ?_, ?_⟩
  · rw [total, envelopeSize, classifierSize]
  · rw [total]
    omega
  · rw [total]
    exact Nat.dvd_add (Nat.dvd_add (by decide) aligned) words
  · refine ⟨elements, sessionClassOf locals, envelope, records, list, some', few, profile,
      envelopeSize.symm, kinds, classified, ?_⟩
    rw [specified, ← count]
    exact walk_parts (by omega) most classified

/-- Locals that happen to be 0. -/
def clearedLocals : Locals where
  gc := gctlFor "" 0
  classifier := fun _ _ => 0
  subscriber := 0

/-- A request for a gate, with these classifiers. -/
def gateSetRequest (classifiers : List Json) : Json :=
  .obj [("subscriberId", .str "10.0.0.7"), ("cmts_ip", .str "10.0.0.1"),
    ("gate", .obj [("gate-spec", .obj [("direction", .str "upstream"), ("t1", .int 200)]),
      ("traffic-profile", .obj [("service-class-name", .str "usSMI001")]),
      ("classifiers", .arr classifiers)])]

/-- A legacy classifier with a priority. -/
def classifierWith (priority : Int) : Json :=
  .obj [("classifier", .obj [("srcIp", .str "10.0.0.2"), ("protocol", .int 17),
    ("priority", .int priority)])]

def ipv6Classifier : Json :=
  .obj [("classifier-id", .int 3), ("ipv6-classifier", .obj [("srcIp6", .str "2600::1:a/64"),
    ("dstIp6", .str "2600::2"), ("next-hdr", .int 256)])]

theorem classifierWith_valid (priority : Int) (classifier : ClassifierKind × Option Json)
    (found : classifierOf (some (classifierWith priority)) = some classifier) :
    ValidClassifier classifier := by
  cases found
  intro field member ip there
  rcases List.mem_cons.mp member with rfl | member
  · cases there
    exact (by decide : isIp4 (cString "10.0.0.2") = true)
  · rw [List.mem_singleton.mp member] at there
    cases there

theorem ipv6Classifier_valid (classifier : ClassifierKind × Option Json)
    (found : classifierOf (some ipv6Classifier) = some classifier) :
    ValidClassifier classifier := by
  cases found
  intro field member ip there
  rcases List.mem_cons.mp member with rfl | member
  · cases there
    exact ⟨"2600::1:a", ['/', '6', '4'], by decide, by decide, by decide,
      Or.inr ⟨['6', '4'], rfl, rfl⟩⟩
  · rw [List.mem_singleton.mp member] at there
    cases there
    exact ⟨"2600::2", [], by decide, by decide, by decide, Or.inl rfl⟩

theorem gctl04Payload_layout_mixed :
    Exists fun policy : Policy => Exists fun data =>
      gctl04Payload clearedLocals (some (gateSetRequest [classifierWith 5, ipv6Classifier]))
          (fun _ => 0) = some (.payload policy.gc data) ∧
        PayloadOf (some (gateSetRequest [classifierWith 5, ipv6Classifier])) (fun _ => 0) "upstream"
          policy.gc data.bytes := by
  have accepts : (gctlReadPolicy clearedLocals
      (some (gateSetRequest [classifierWith 5, ipv6Classifier])) (fun _ => 0) (Buffer.cleared 320)
      (Buffer.cleared 92)).any (fun policy => !policy.gc.failed) = true := by decide +kernel
  rcases (Option.any_eq_true _ _).mp accepts with ⟨policy, accepted, ok⟩
  refine ⟨policy, gctl04Payload_layout clearedLocals _ (fun _ => 0) policy "upstream" accepted
    (Bool.not_eq_true' _ |>.mp ok) (by decide +kernel) ?_⟩
  intro elements list element member classifier found
  cases list
  rcases List.mem_cons.mp member with rfl | member
  · exact classifierWith_valid 5 classifier found
  · rw [List.mem_singleton.mp member] at found
    exact ipv6Classifier_valid classifier found

/-- The bytes of a payload. -/
def Prepared.data : Prepared -> List UInt8
  | .refused _ => []
  | .payload _ data => data.bytes

/-- A priority of 2 ^ 32 is not 0, but the `int` that is read is: the classifier has
64 where the lowest byte of the number is 0. -/
theorem priority_wrapped :
    (gctl04Payload clearedLocals (some (gateSetRequest [classifierWith 4294967296]))
        (fun _ => 0)).map (fun prepared => prepared.data[56]?) = some (some 64) ∧
      integer (objGet (some (classifierWith 4294967296)) "classifier") "priority" = 4294967296 ∧
        UInt8.ofInt 4294967296 = 0 := by
  refine ⟨by decide +kernel, rfl, rfl⟩

end PolicyServer
