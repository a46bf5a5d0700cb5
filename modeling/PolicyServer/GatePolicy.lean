import PolicyServer.GateMessages

namespace PolicyServer

open Lib

/-!
# Requests for a gate

`gctl_new_request` and `gctl_read_policy` read a JSON request into a `gctl_t` and
the arrays of an envelope and of the classifiers, from which `gctl_04` makes the
payload of a GATE-SET.  A lookup answers a null pointer where there is nothing;
an access through one ends the handler, and its definition here answers `none`.
The locals of the source that are not initialised are arguments.
-/

/-! ## JSON as `yyjson` answers it -/

inductive Json where
  | null
  | bool (value : Bool)
  | int (value : Int)
  | real
  | str (text : String)
  | arr (elements : List Json)
  | obj (members : List (String × Json))

/-- `yyjson_obj_get`. -/
def objGet (object : Option Json) (key : String) : Option Json :=
  match object with
  | some (.obj members) => members.lookup key
  | _ => none

/-- `yyjson_get_len`. -/
def getLen : Option Json -> Nat
  | some (.arr elements) => elements.length
  | some (.obj members) => members.length
  | some (.str text) => text.utf8ByteSize
  | _ => 0

/-- `yyjson_arr_get`. -/
def arrGet (array : Option Json) (i : Nat) : Option Json :=
  match array with
  | some (.arr elements) => elements[i]?
  | _ => none

/-- A text up to its first null byte. -/
def cString (text : String) : String :=
  String.ofList (text.toList.takeWhile (· != '\x00'))

/-- `yyjson_get_str`. -/
def getStr : Option Json -> Option String
  | some (.str text) => some (cString text)
  | _ => none

/-- `gctl_otos`. -/
def gctlOtos (object : Option Json) (field : String) : Option String :=
  getStr (objGet object field)

/-- `gctl_otoi`. -/
def gctlOtoi (object : Option Json) (field : String) : Int32 :=
  match objGet object field with
  | some (.int value) => Int32.ofInt value
  | _ => 0

/-! ## Packers -/

/-- An `int` stored in a byte. -/
def toU8 (value : Int32) : UInt8 := value.toUInt32.toUInt8

/-- An `int` passed as a `uint16_t`. -/
def toU16 (value : Int32) : UInt16 := value.toUInt32.toUInt16

/-- `vtof`; a missing direction is a null pointer. -/
def vtof (direction : Option String) (dscpEnableBit persistenceBit : UInt8) : Option UInt8 :=
  direction.map fun direction =>
    let directionBit : UInt8 := if direction = "upstream" then 1 else 0
    (directionBit &&& 1) <<< 0 ||| (dscpEnableBit &&& 1) <<< 1 ||| (persistenceBit &&& 1) <<< 2

/-- `vtoc`. -/
def vtoc (priorityBit preemptionBit confBit : UInt8) : UInt8 :=
  (priorityBit &&& 7) <<< 0 ||| (preemptionBit &&& 1) <<< 3 ||| (confBit &&& 15) <<< 4

/-- `pcmm_gate`. -/
def pcmmGate (dst : Buffer) (dir : Option String) (pri preempt overwrite mask : UInt8)
    (t1 t2 t3 t4 : Int32) : Option Buffer :=
  (vtof dir overwrite 0).map fun flags =>
    let dst := dst.write 0 (packU16Be 16)
    let dst := dst.write 2 [5]
    let dst := dst.write 3 [1]
    let dst := dst.write 4 [flags]
    let dst := dst.write 5 [overwrite]
    let dst := dst.write 6 [mask]
    let dst := dst.write 7 [vtoc pri preempt 0]
    let dst := dst.write 8 (packU16Be (toU16 t1))
    let dst := dst.write 10 (packU16Be (toU16 t2))
    let dst := dst.write 12 (packU16Be (toU16 t3))
    dst.write 14 (packU16Be (toU16 t4))

/-- The addresses that a classifier converts. -/
inductive IpField where
  | srcIp
  | srcMask
  | dstIp
  | dstMask
  deriving DecidableEq, Repr

/-- `pcmm_legacy_classifier`, where `addr` is what the local of `ip4_toi` holds
before each call. -/
def pcmmLegacyClassifier (addr : IpField -> UInt32) (dst : Buffer) (ptr : Nat) (protocol : UInt16)
    (field mask : Int32) (srcIp dstIp : Option String)
    (srcPort dstPort priority reserved : Int32) : Option Buffer :=
  srcIp.map fun srcIp =>
    let srcipInt := ip4Toi (addr .srcIp) srcIp
    let dstipInt := dstIp.elim 0 (ip4Toi (addr .dstIp))
    let dst := dst.write ptr (packU16Be 24)
    let dst := dst.write (ptr + 2) [6]
    let dst := dst.write (ptr + 3) [1]
    let dst := dst.write (ptr + 4) (packU16Be protocol)
    let dst := dst.write (ptr + 6) [toU8 field]
    let dst := dst.write (ptr + 7) [toU8 mask]
    let dst := dst.write (ptr + 8) (packU32Be srcipInt)
    let dst := dst.write (ptr + 12) (packU32Be dstipInt)
    let dst := dst.write (ptr + 16) (packU16Be (toU16 srcPort))
    let dst := dst.write (ptr + 18) (packU16Be (toU16 dstPort))
    let dst := dst.write (ptr + 20) [toU8 priority]
    let dst := dst.write (ptr + 21) [toU8 reserved]
    let dst := dst.write (ptr + 22) [toU8 reserved]
    dst.write (ptr + 23) [toU8 reserved]

/-- `pcmm_extended_classifier`. -/
def pcmmExtendedClassifier (addr : IpField -> UInt32) (dst : Buffer) (ptr : Nat)
    (protocol : UInt16) (srcIp srcMask : Option String) (srcPortS srcPortE : Int32)
    (dstIp dstMask : Option String) (dstPortS dstPortE priority field mask classId actState
      action : Int32) : Option Buffer :=
  srcIp.bind fun srcIp =>
    srcMask.bind fun srcMask =>
      dstMask.map fun dstMask =>
        let srcipInt := ip4Toi (addr .srcIp) srcIp
        let dstipInt := dstIp.elim 0 (ip4Toi (addr .dstIp))
        let smaskInt := ip4Toi (addr .srcMask) srcMask
        let dmaskInt := ip4Toi (addr .dstMask) dstMask
        let dst := dst.write ptr (packU16Be 40)
        let dst := dst.write (ptr + 2) [6]
        let dst := dst.write (ptr + 3) [2]
        let dst := dst.write (ptr + 4) (packU16Be protocol)
        let dst := dst.write (ptr + 6) [toU8 field]
        let dst := dst.write (ptr + 7) [toU8 mask]
        let dst := dst.write (ptr + 8) (packU32Be srcipInt)
        let dst := dst.write (ptr + 12) (packU32Be smaskInt)
        let dst := dst.write (ptr + 16) (packU32Be dstipInt)
        let dst := dst.write (ptr + 20) (packU32Be dmaskInt)
        let dst := dst.write (ptr + 24) (packU16Be (toU16 srcPortS))
        let dst := dst.write (ptr + 26) (packU16Be (toU16 srcPortE))
        let dst := dst.write (ptr + 28) (packU16Be (toU16 dstPortS))
        let dst := dst.write (ptr + 30) (packU16Be (toU16 dstPortE))
        let dst := dst.write (ptr + 32) (packU16Be (toU16 classId))
        let dst := dst.write (ptr + 34) [toU8 priority]
        let dst := dst.write (ptr + 35) [toU8 actState]
        dst.write (ptr + 36) [toU8 action]

/-- The prefix length of an address of a classifier. -/
def prefixLenOf (ip6 : String) : UInt8 :=
  if ip6 ≠ "::/0" ∧ ip6 ≠ "" then prefixlen ip6 else 0

/-- `pcmm_ipv6_classifier`: no address is both of the texts that are left out, so
both addresses are packed. -/
def pcmmIpv6Classifier (dst : Buffer) (ptr : Nat) (tcLow tcHigh tcMask flowLabel nhType : Int32)
    (srcIp6 dstIp6 : Option String) (srcPortS srcPortE dstPortS dstPortE classId priority actstate
      action : Int32) : Option Buffer :=
  srcIp6.bind fun srcIp6 =>
    dstIp6.bind fun dstIp6 =>
      (packIp6 srcIp6).bind fun source =>
        (packIp6 dstIp6).map fun destination =>
          let dst := dst.write ptr (packU16Be 64)
          let dst := dst.write (ptr + 2) [6]
          let dst := dst.write (ptr + 3) [3]
          let dst := dst.write (ptr + 4) [0]
          let dst := dst.write (ptr + 5) [toU8 tcLow]
          let dst := dst.write (ptr + 6) [toU8 tcHigh]
          let dst := dst.write (ptr + 7) [toU8 tcMask]
          let dst := dst.write (ptr + 8) (packU32Be flowLabel.toUInt32)
          let dst := dst.write (ptr + 12) (packU16Be (toU16 nhType))
          let dst := dst.write (ptr + 14) [prefixLenOf srcIp6]
          let dst := dst.write (ptr + 15) [prefixLenOf dstIp6]
          let dst := dst.write (ptr + 16) source
          let dst := dst.write (ptr + 32) destination
          let dst := dst.write (ptr + 48) (packU16Be (toU16 srcPortS))
          let dst := dst.write (ptr + 50) (packU16Be (toU16 srcPortE))
          let dst := dst.write (ptr + 52) (packU16Be (toU16 dstPortS))
          let dst := dst.write (ptr + 54) (packU16Be (toU16 dstPortE))
          let dst := dst.write (ptr + 56) (packU16Be (toU16 classId))
          let dst := dst.write (ptr + 58) [toU8 priority]
          let dst := dst.write (ptr + 59) [toU8 actstate]
          let dst := dst.write (ptr + 60) [toU8 action]
          dst.write (ptr + 62) (packU16Be 0)

/-- The bytes of the `float`s 10000 and 200, the most significant first. -/
def float10000 : List UInt8 := [70, 28, 64, 0]
def float200 : List UInt8 := [67, 72, 0, 0]

/-- One round of `bitrates`. -/
def bitrate : List UInt8 :=
  float10000 ++ (float200 ++ (float10000 ++ (packU32Be 200 ++ (packU32Be 200 ++
    (float10000 ++ packU32Be 2000)))))

/-- `pcmm_flowspec_envelope`. -/
def pcmmFlowspecEnvelope (dst : Buffer) (serviceNumber : Int32) : Buffer :=
  let dst := dst.write 0 (packU16Be 92)
  let dst := dst.write 2 [7]
  let dst := dst.write 3 [1]
  let dst := dst.write 4 [7]
  let dst := dst.write 5 [toU8 serviceNumber]
  let dst := dst.write 6 [0]
  let dst := dst.write 7 [0]
  dst.write 8 (bitrate ++ (bitrate ++ bitrate))

/-- The bytes of a text in memory, with its null byte and what follows. -/
def scnMemory (scn : String) (behind : Memory) : Memory :=
  Memory.behind (scn.toList.flatMap String.utf8EncodeChar ++ [0]) behind

/-- `pcmm_scn_envelope`, which takes eight bytes of a name of any length. -/
def pcmmScnEnvelope (dst : Buffer) (scn : String) (behind : Memory) : Buffer :=
  let alignment := ((scn.toList.flatMap String.utf8EncodeChar).length + 1) % 4
  let dst := dst.write 0 (packU16Be 20)
  let dst := dst.write 2 [7]
  let dst := dst.write 3 [2]
  let dst := dst.write 4 [7]
  let dst := dst.write 5 [0]
  let dst := dst.write 6 [0]
  let dst := dst.write 7 (List.replicate alignment 0)
  dst.write (7 + alignment) ((scnMemory scn behind).read 0 8)

/-! ## Reading a request -/

/-- The locals that are read before they are initialised: the `gctl_t` of
`gctl_new_request`, and the `in_addr` of `ip4_toi` when it is called for an
address of a classifier and for the subscriber. -/
structure Locals where
  gc : Gctl
  classifier : Nat -> IpField -> UInt32
  subscriber : UInt32

/-- `gctl_new_request`. -/
def gctlNewRequest (gc : Gctl) (input : Option Json) : Gctl :=
  { gc with
    gateId := (gctlOtoi input "gateId").toInt64
    cmtsIp := gctlOtos input "cmts_ip"
    dryRun := gctlOtoi input "dry_run"
    applicationId := gctlOtoi input "appId"
    subscriberId := gctlOtos input "subscriberId"
    failed := false }

/-- `gctl_set_schemaerr`. -/
def gctlSetSchemaerr (gc : Gctl) (reason : Int32) : Gctl :=
  { gc with failed := true, failop := reason }

inductive ClassifierKind where
  | extended
  | legacy
  | ipv6
  deriving DecidableEq, Repr

/-- What is added to `classifier_size`. -/
def ClassifierKind.size : ClassifierKind -> Nat
  | .extended => 40
  | .legacy => 24
  | .ipv6 => 64

/-- The kind of a classifier, and the object that has its fields. -/
def classifierOf (element : Option Json) : Option (ClassifierKind × Option Json) :=
  let extended := objGet element "ext-classifier"
  let legacy := objGet element "classifier"
  let ipv6 := objGet element "ipv6-classifier"
  if extended.isSome then some (.extended, extended)
  else if legacy.isSome then some (.legacy, legacy)
  else if ipv6.isSome then some (.ipv6, ipv6)
  else none

/-- One classifier, stored at `ptr`. -/
def readClassifier (addr : IpField -> UInt32) (dst : Buffer) (ptr : Nat) (element obj : Option Json)
    (kind : ClassifierKind) : Option Buffer :=
  let srcIpv4 := gctlOtos obj "srcIp"
  let dstIpv4 := gctlOtos obj "dstIp"
  let srcPortStart := gctlOtoi obj "srcPort-start"
  let dstPortStart := gctlOtoi obj "dstPort-start"
  let tosField := gctlOtoi obj "tos-byte"
  let tosMask := gctlOtoi obj "tos-mask"
  let protocol := gctlOtoi obj "protocol"
  let priority := if gctlOtoi obj "priority" = 0 then 64 else gctlOtoi obj "priority"
  let srcPortEnd := gctlOtoi obj "srcPort-end"
  let dstPortEnd := gctlOtoi obj "dstPort-end"
  let classAction := gctlOtoi obj "action"
  let classState := gctlOtoi obj "activation-state"
  let classUuid := gctlOtoi element "classifier-id"
  match kind with
  | .legacy =>
      pcmmLegacyClassifier addr dst ptr (toU16 protocol) tosField tosMask srcIpv4 dstIpv4
        srcPortStart dstPortStart priority 0
  | .extended =>
      pcmmExtendedClassifier addr dst ptr (toU16 protocol) srcIpv4 (gctlOtos obj "srcIpMask")
        srcPortStart srcPortEnd dstIpv4 (gctlOtos obj "dstIpMask") dstPortStart dstPortEnd priority
        tosField tosMask classUuid classState classAction
  | .ipv6 =>
      pcmmIpv6Classifier dst ptr (gctlOtoi obj "tc-low") (gctlOtoi obj "tc-high")
        (gctlOtoi obj "tc-mask") (gctlOtoi obj "flow-label") (gctlOtoi obj "next-hdr")
        (gctlOtos obj "srcIp6") (gctlOtos obj "dstIp6") srcPortStart srcPortEnd dstPortStart
        dstPortEnd classUuid priority classState classAction

/-- The loop over the classifiers, from the `i`-th on. -/
def readClassifiers (addr : Nat -> IpField -> UInt32) :
    (i : Nat) -> List (Option Json) -> Gctl -> Buffer -> Option (Gctl × Buffer)
  | _, [], gc, classifier => some (gc, classifier)
  | i, element :: elements, gc, classifier =>
      match classifierOf element with
      | none => some (gctlSetSchemaerr gc 108, classifier)
      | some (kind, obj) =>
          (readClassifier (addr i) classifier gc.classifierSize element obj kind).bind
            (readClassifiers addr (i + 1) elements
              { gc with classifierSize := gc.classifierSize + kind.size })

/-- What `gctl_read_policy` returns and stores. -/
structure Policy where
  gc : Gctl
  classifier : Buffer
  envelope : Buffer

/-- The classifiers of a gate. -/
def gctlReadClassifiers (locals : Locals) (classifiers : Option Json) (gc : Gctl)
    (classifier envelope : Buffer) : Option Policy :=
  let clen := getLen classifiers
  if clen = 0 ∨ 5 < clen then some { gc := gctlSetSchemaerr gc 109, classifier, envelope }
  else
    (readClassifiers locals.classifier 0 ((List.range clen).map (arrGet classifiers))
      { gc with classifierSize := 0 } classifier).map fun (gc, classifier) =>
        { gc, classifier, envelope }

/-- The fields of a gate specification. -/
def readGateSpec (spec : Option Json) (gc : Gctl) : Gctl :=
  { gc with
    gate :=
      { gc.gate with
        timer1 := gctlOtoi spec "t1"
        timer2 := gctlOtoi spec "t2"
        timer3 := gctlOtoi spec "t3"
        timer4 := 0
        dscpTosOvwr := gctlOtoi spec "dscp-tos-overwrite"
        dscpTosMask := gctlOtoi spec "dscp-tos-mask"
        direction := gctlOtos spec "direction" } }

/-- The envelope of a traffic profile, with its size; `none` twice where there is
no profile. -/
def readEnvelope (traffic : Option Json) (behind : Memory) (envelope : Buffer) :
    Option (Option (Buffer × Nat)) :=
  match objGet traffic "service-class-name" with
  | some profile =>
      (getStr (some profile)).map fun scn => some (pcmmScnEnvelope envelope scn behind, 20)
  | none =>
      match objGet traffic "flow-spec-profile" with
      | some profile =>
          some (some (pcmmFlowspecEnvelope envelope (gctlOtoi (some profile) "service-number"), 92))
      | none => some none

/-- `gctl_read_policy`, where `behind` is what follows the name of the service
class in the text of the request. -/
def gctlReadPolicy (locals : Locals) (input : Option Json) (behind : Memory)
    (classifier envelope : Buffer) : Option Policy :=
  let gc := gctlNewRequest locals.gc input
  let gate := objGet input "gate"
  let spec := objGet gate "gate-spec"
  if gate.isNone ∨ spec.isNone then some { gc := gctlSetSchemaerr gc 106, classifier, envelope }
  else
    (readEnvelope (objGet gate "traffic-profile") behind envelope).bind fun profile =>
      match profile with
      | none => some { gc := gctlSetSchemaerr gc 107, classifier, envelope }
      | some (envelope, size) =>
          gctlReadClassifiers locals (objGet gate "classifiers")
            (readGateSpec spec { gc with envelopeSize := size }) classifier envelope

/-! ## The payload -/

/-- A request that is refused, or the payload of its decision. -/
inductive Prepared where
  | refused (reason : Int32)
  | payload (gc : Gctl) (data : Buffer)

/-- `gctl_policy_decision_size`. -/
def gctlPolicyDecisionSize (gsz csz esz : Nat) : Nat := gsz + csz + esz

/-- The three arrays of `gctl_04` in one. -/
def joinParts (gc : Gctl) (gate envelope classifier : Buffer) : Buffer :=
  let len := gctlPolicyDecisionSize 16 gc.envelopeSize gc.classifierSize
  let (data, i) := concatC8 (Buffer.cleared len) 0 (gate.bytes.take 16)
  let (data, i) := concatC8 data i (envelope.bytes.take gc.envelopeSize)
  (concatC8 data i (classifier.bytes.take gc.classifierSize)).1

/-- `gctl_04` up to the lookup of the session. -/
def gctl04Payload (locals : Locals) (input : Option Json) (behind : Memory) : Option Prepared :=
  (gctlReadPolicy locals input behind (Buffer.cleared 320) (Buffer.cleared 92)).bind fun policy =>
    let gc := policy.gc
    if gc.failed then some (.refused (if gc.failop ≠ 0 then gc.failop else 105))
    else
      (pcmmGate (Buffer.cleared 16) gc.gate.direction (toU8 gc.gate.priority)
        (toU8 gc.gate.preemption) (toU8 gc.gate.dscpTosOvwr) (toU8 gc.gate.dscpTosMask)
        gc.gate.timer1 gc.gate.timer2 gc.gate.timer3 gc.gate.timer4).map fun gate =>
          .payload gc (joinParts gc gate policy.envelope policy.classifier)

end PolicyServer
