import PolicyServer.Lib.Writing
import PolicyServer.PolicyPayload

namespace PolicyServer

open Lib

/-!
# Where the packers of a request store

The packers of `gctl_read_policy` store at offsets from a pointer, and nothing checks
what is stored against the array.  Here each packer is given once more as the list of
its stores, in the order of the source and up to the call that does not come back;
run on an array, the list does what the packer does.

Every store is in its slot but those of `pack_ip6`, which stores two bytes for every
token of its text.  `writesConfined_iff`: the stores of a request are confined exactly
if no text that is packed has more than eight tokens.
-/

/-- What the bytes of a classifier are for. -/
inductive SlotPart where
  | fields
  | source
  | destination
  deriving DecidableEq

/-! ## The stores of the packers -/

section Packers

open Writing

/-- The stores of `pcmm_legacy_classifier`. -/
def writeLegacyClassifier (addr : IpField -> UInt32) (ptr : Nat) (protocol : UInt16)
    (field mask : Int32) (srcIp dstIp : Option String)
    (srcPort dstPort priority reserved : Int32) : Writing SlotPart :=
  needing srcIp fun srcIp =>
    let srcipInt := ip4Toi (addr .srcIp) srcIp
    let dstipInt := dstIp.elim 0 (ip4Toi (addr .dstIp))
    puts .fields [(ptr, packU16Be 24), (ptr + 2, [6]), (ptr + 3, [1]),
      (ptr + 4, packU16Be protocol), (ptr + 6, [toU8 field]), (ptr + 7, [toU8 mask]),
      (ptr + 8, packU32Be srcipInt), (ptr + 12, packU32Be dstipInt),
      (ptr + 16, packU16Be (toU16 srcPort)), (ptr + 18, packU16Be (toU16 dstPort)),
      (ptr + 20, [toU8 priority]), (ptr + 21, [toU8 reserved]), (ptr + 22, [toU8 reserved]),
      (ptr + 23, [toU8 reserved])]

/-- The stores of `pcmm_extended_classifier`. -/
def writeExtendedClassifier (addr : IpField -> UInt32) (ptr : Nat) (protocol : UInt16)
    (srcIp srcMask : Option String) (srcPortS srcPortE : Int32) (dstIp dstMask : Option String)
    (dstPortS dstPortE priority field mask classId actState action : Int32) : Writing SlotPart :=
  needing srcIp fun srcIp =>
    needing srcMask fun srcMask =>
      needing dstMask fun dstMask =>
        let srcipInt := ip4Toi (addr .srcIp) srcIp
        let dstipInt := dstIp.elim 0 (ip4Toi (addr .dstIp))
        let smaskInt := ip4Toi (addr .srcMask) srcMask
        let dmaskInt := ip4Toi (addr .dstMask) dstMask
        puts .fields [(ptr, packU16Be 40), (ptr + 2, [6]), (ptr + 3, [2]),
          (ptr + 4, packU16Be protocol), (ptr + 6, [toU8 field]), (ptr + 7, [toU8 mask]),
          (ptr + 8, packU32Be srcipInt), (ptr + 12, packU32Be smaskInt),
          (ptr + 16, packU32Be dstipInt), (ptr + 20, packU32Be dmaskInt),
          (ptr + 24, packU16Be (toU16 srcPortS)), (ptr + 26, packU16Be (toU16 srcPortE)),
          (ptr + 28, packU16Be (toU16 dstPortS)), (ptr + 30, packU16Be (toU16 dstPortE)),
          (ptr + 32, packU16Be (toU16 classId)), (ptr + 34, [toU8 priority]),
          (ptr + 35, [toU8 actState]), (ptr + 36, [toU8 action])]

/-- The stores of `pack_ip6`: none where the text has no token. -/
def writeIp6 (part : SlotPart) (ptr : Nat) (ip6 : String) : Writing SlotPart :=
  needing (packIp6 ip6) fun bytes => puts part [(ptr, bytes)]

/-- The stores of `pcmm_ipv6_classifier`, which has stored its first fields when it
reads the addresses. -/
def writeIpv6Classifier (ptr : Nat) (tcLow tcHigh tcMask flowLabel nhType : Int32)
    (srcIp6 dstIp6 : Option String) (srcPortS srcPortE dstPortS dstPortE classId priority actstate
      action : Int32) : Writing SlotPart :=
  (puts .fields [(ptr, packU16Be 64), (ptr + 2, [6]), (ptr + 3, [3]), (ptr + 4, [0]),
    (ptr + 5, [toU8 tcLow]), (ptr + 6, [toU8 tcHigh]), (ptr + 7, [toU8 tcMask]),
    (ptr + 8, packU32Be flowLabel.toUInt32), (ptr + 12, packU16Be (toU16 nhType))]).andThen
      (needing srcIp6 fun srcIp6 =>
        needing dstIp6 fun dstIp6 =>
          (puts .fields [(ptr + 14, [prefixLenOf srcIp6]),
            (ptr + 15, [prefixLenOf dstIp6])]).andThen
              ((writeIp6 .source (ptr + 16) srcIp6).andThen
                ((writeIp6 .destination (ptr + 32) dstIp6).andThen
                  (puts .fields [(ptr + 48, packU16Be (toU16 srcPortS)),
                    (ptr + 50, packU16Be (toU16 srcPortE)),
                    (ptr + 52, packU16Be (toU16 dstPortS)),
                    (ptr + 54, packU16Be (toU16 dstPortE)),
                    (ptr + 56, packU16Be (toU16 classId)), (ptr + 58, [toU8 priority]),
                    (ptr + 59, [toU8 actstate]), (ptr + 60, [toU8 action]),
                    (ptr + 62, packU16Be 0)]))))

/-- The stores of `pcmm_scn_envelope`, which has stored its first fields when it
reads the name. -/
def writeScnEnvelope (profile : Option Json) (behind : Memory) : Writing Unit :=
  (puts () [(0, packU16Be 20), (2, [7]), (3, [2]), (4, [7]), (5, [0]), (6, [0])]).andThen
    (needing (getStr profile) fun scn =>
      let alignment := ((scn.toList.flatMap String.utf8EncodeChar).length + 1) % 4
      puts () [(7, List.replicate alignment 0), (7 + alignment, (scnMemory scn behind).read 0 8)])

/-- The stores of `pcmm_flowspec_envelope`. -/
def writeFlowspecEnvelope (serviceNumber : Int32) : Writing Unit :=
  puts () [(0, packU16Be 92), (2, [7]), (3, [1]), (4, [7]), (5, [toU8 serviceNumber]), (6, [0]),
    (7, [0]), (8, bitrate ++ (bitrate ++ bitrate))]

variable {addr : IpField -> UInt32} {ptr : Nat} {dst : Buffer}

theorem writeLegacyClassifier_run (protocol : UInt16) (field mask : Int32)
    (srcIp dstIp : Option String) (srcPort dstPort priority reserved : Int32) :
    (writeLegacyClassifier addr ptr protocol field mask srcIp dstIp srcPort dstPort priority
        reserved).run dst =
      pcmmLegacyClassifier addr dst ptr protocol field mask srcIp dstIp srcPort dstPort priority
        reserved := by
  rw [writeLegacyClassifier, pcmmLegacyClassifier, run_needing]
  cases srcIp with
  | none => rfl
  | some srcIp =>
      simp only [Option.bind_some, Option.map_some, run_puts, List.foldl_cons, List.foldl_nil]

theorem writeExtendedClassifier_run (protocol : UInt16) (srcIp srcMask : Option String)
    (srcPortS srcPortE : Int32) (dstIp dstMask : Option String)
    (dstPortS dstPortE priority field mask classId actState action : Int32) :
    (writeExtendedClassifier addr ptr protocol srcIp srcMask srcPortS srcPortE dstIp dstMask
        dstPortS dstPortE priority field mask classId actState action).run dst =
      pcmmExtendedClassifier addr dst ptr protocol srcIp srcMask srcPortS srcPortE dstIp dstMask
        dstPortS dstPortE priority field mask classId actState action := by
  rw [writeExtendedClassifier, pcmmExtendedClassifier, run_needing]
  cases srcIp with
  | none => rfl
  | some srcIp =>
      rw [Option.bind_some, Option.bind_some, run_needing]
      cases srcMask with
      | none => rfl
      | some srcMask =>
          rw [Option.bind_some, Option.bind_some, run_needing]
          cases dstMask with
          | none => rfl
          | some dstMask =>
              simp only [Option.bind_some, Option.map_some, run_puts, List.foldl_cons,
                List.foldl_nil]

theorem writeIpv6Classifier_run (tcLow tcHigh tcMask flowLabel nhType : Int32)
    (srcIp6 dstIp6 : Option String) (srcPortS srcPortE dstPortS dstPortE classId priority actstate
      action : Int32) :
    (writeIpv6Classifier ptr tcLow tcHigh tcMask flowLabel nhType srcIp6 dstIp6 srcPortS srcPortE
        dstPortS dstPortE classId priority actstate action).run dst =
      pcmmIpv6Classifier dst ptr tcLow tcHigh tcMask flowLabel nhType srcIp6 dstIp6 srcPortS
        srcPortE dstPortS dstPortE classId priority actstate action := by
  rw [writeIpv6Classifier, run_andThen, run_puts, Option.bind_some, run_needing]
  cases srcIp6 with
  | none => rfl
  | some srcIp6 =>
      rw [Option.bind_some, run_needing]
      cases dstIp6 with
      | none => rfl
      | some dstIp6 =>
          rw [Option.bind_some, run_andThen, run_puts, Option.bind_some, run_andThen, writeIp6,
            run_needing, pcmmIpv6Classifier, Option.bind_some, Option.bind_some]
          cases packIp6 srcIp6 with
          | none => rfl
          | some source =>
              rw [Option.bind_some, run_puts, Option.bind_some, run_andThen, writeIp6,
                run_needing, Option.bind_some]
              cases packIp6 dstIp6 with
              | none => rfl
              | some destination =>
                  simp only [Option.bind_some, Option.map_some, run_puts, List.foldl_cons,
                    List.foldl_nil]

theorem writeScnEnvelope_run (profile : Option Json) (behind : Memory) :
    (writeScnEnvelope profile behind).run dst =
      (getStr profile).map fun scn => pcmmScnEnvelope dst scn behind := by
  rw [writeScnEnvelope, run_andThen, run_puts, Option.bind_some, run_needing]
  cases getStr profile with
  | none => rfl
  | some scn =>
      simp only [Option.bind_some, Option.map_some, run_puts, List.foldl_cons, List.foldl_nil,
        pcmmScnEnvelope]

end Packers

/-! ## The stores of a request -/

/-- The stores of one classifier. -/
def writeClassifier (addr : IpField -> UInt32) (ptr : Nat) (element obj : Option Json)
    (kind : ClassifierKind) : Writing SlotPart :=
  let srcIpv4 := gctlOtos obj "srcIp"
  let dstIpv4 := gctlOtos obj "dstIp"
  let srcPortStart := gctlOtoi obj "srcPort-start"
  let dstPortStart := gctlOtoi obj "dstPort-start"
  let tosField := gctlOtoi obj "tos-byte"
  let tosMask := gctlOtoi obj "tos-mask"
  let protocol := gctlOtoi obj "protocol"
  let priority := if gctlOtoi obj "priority" = 0 then 64 else gctlOtoi obj "priority"
  let srcPortEnd := gctlOtoi obj "srcPort-end"
  let dstPortEnd := gctlOtoi obj "dstPort-end"
  let classAction := gctlOtoi obj "action"
  let classState := gctlOtoi obj "activation-state"
  let classUuid := gctlOtoi element "classifier-id"
  match kind with
  | .legacy =>
      writeLegacyClassifier addr ptr (toU16 protocol) tosField tosMask srcIpv4 dstIpv4
        srcPortStart dstPortStart priority 0
  | .extended =>
      writeExtendedClassifier addr ptr (toU16 protocol) srcIpv4 (gctlOtos obj "srcIpMask")
        srcPortStart srcPortEnd dstIpv4 (gctlOtos obj "dstIpMask") dstPortStart dstPortEnd priority
        tosField tosMask classUuid classState classAction
  | .ipv6 =>
      writeIpv6Classifier ptr (gctlOtoi obj "tc-low") (gctlOtoi obj "tc-high")
        (gctlOtoi obj "tc-mask") (gctlOtoi obj "flow-label") (gctlOtoi obj "next-hdr")
        (gctlOtos obj "srcIp6") (gctlOtos obj "dstIp6") srcPortStart srcPortEnd dstPortStart
        dstPortEnd classUuid priority classState classAction

/-- The packing of one classifier into its slot. -/
structure Packing where
  place : Nat
  kind : ClassifierKind
  writing : Writing SlotPart

/-- The packings of the loop over the classifiers, from the `i`-th on. -/
def packings (addr : Nat -> IpField -> UInt32) :
    (i : Nat) -> List (Option Json) -> (classifierSize : Nat) -> List Packing
  | _, [], _ => []
  | i, element :: elements, classifierSize =>
      match classifierOf element with
      | none => []
      | some (kind, obj) =>
          let writing := writeClassifier (addr i) classifierSize element obj kind
          { place := classifierSize, kind, writing } ::
            if writing.finished then packings addr (i + 1) elements (classifierSize + kind.size)
            else []

/-- The array behind the packings. -/
def runPackings : List Packing -> Buffer -> Option Buffer
  | [], dst => some dst
  | packing :: rest, dst => (packing.writing.run dst).bind (runPackings rest)

/-- Whether a traffic profile is there and is read to its end. -/
def profileRead (traffic : Option Json) : Bool :=
  match objGet traffic "service-class-name" with
  | some profile => (getStr (some profile)).isSome
  | none => (objGet traffic "flow-spec-profile").isSome

/-- The elements that the loop over the classifiers of a gate goes over. -/
def classifierElements (classifiers : Option Json) : List (Option Json) :=
  let clen := getLen classifiers
  if clen = 0 ∨ 5 < clen then [] else (List.range clen).map (arrGet classifiers)

/-- The elements that the loop of a request goes over. -/
def loopElements (input : Option Json) : List (Option Json) :=
  let gate := objGet input "gate"
  let spec := objGet gate "gate-spec"
  if gate.isNone ∨ spec.isNone then []
  else if profileRead (objGet gate "traffic-profile") then
    classifierElements (objGet gate "classifiers")
  else []

/-- The stores into the envelope. -/
def policyEnvelope (input : Option Json) (behind : Memory) : Writing Unit :=
  let gate := objGet input "gate"
  let spec := objGet gate "gate-spec"
  let traffic := objGet gate "traffic-profile"
  if gate.isNone ∨ spec.isNone then Writing.puts () []
  else
    match objGet traffic "service-class-name" with
    | some profile => writeScnEnvelope (some profile) behind
    | none =>
        match objGet traffic "flow-spec-profile" with
        | some profile => writeFlowspecEnvelope (gctlOtoi (some profile) "service-number")
        | none => Writing.puts () []

/-- The packings of a request. -/
def policyPackings (locals : Locals) (input : Option Json) : List Packing :=
  packings locals.classifier 0 (loopElements input) 0

/-! ## The packers make these stores -/

theorem writeClassifier_run (addr : IpField -> UInt32) (dst : Buffer) (ptr : Nat)
    (element obj : Option Json) (kind : ClassifierKind) :
    (writeClassifier addr ptr element obj kind).run dst =
      readClassifier addr dst ptr element obj kind := by
  cases kind with
  | legacy => exact writeLegacyClassifier_run _ _ _ _ _ _ _ _ _
  | extended => exact writeExtendedClassifier_run _ _ _ _ _ _ _ _ _ _ _ _ _ _ _
  | ipv6 => exact writeIpv6Classifier_run _ _ _ _ _ _ _ _ _ _ _ _ _ _ _

theorem runPackings_eq (addr : Nat -> IpField -> UInt32) (i : Nat) (elements : List (Option Json))
    (gc : Gctl) (dst : Buffer) :
    runPackings (packings addr i elements gc.classifierSize) dst =
      (readClassifiers addr i elements gc dst).map Prod.snd := by
  induction elements generalizing i gc dst with
  | nil => rfl
  | cons element elements inductionHypothesis =>
      unfold packings readClassifiers
      cases classifierOf element with
      | none => rfl
      | some classifier =>
          rcases classifier with ⟨kind, obj⟩
          dsimp only
          rw [runPackings, writeClassifier_run, Option.map_bind]
          cases stored : readClassifier (addr i) dst gc.classifierSize element obj kind with
          | none => rfl
          | some after =>
              have finished : (writeClassifier (addr i) gc.classifierSize element obj
                  kind).finished = true := by
                rw [← Writing.finished_of_run, writeClassifier_run, stored]
                rfl
              rw [Option.bind_some, Option.bind_some, if_pos finished]
              exact inductionHypothesis (i + 1)
                { gc with classifierSize := gc.classifierSize + kind.size } after

/-- The arrays of a policy. -/
def Policy.arrays (policy : Policy) : Buffer × Buffer := (policy.classifier, policy.envelope)

theorem gctlReadClassifiers_arrays (locals : Locals) (classifiers : Option Json) (gc : Gctl)
    (classifier envelope : Buffer) :
    (gctlReadClassifiers locals classifiers gc classifier envelope).map Policy.arrays =
      (runPackings (packings locals.classifier 0 (classifierElements classifiers) 0)
        classifier).map fun classifier => (classifier, envelope) := by
  unfold gctlReadClassifiers classifierElements
  by_cases refused : getLen classifiers = 0 ∨ 5 < getLen classifiers
  · rw [if_pos refused, if_pos refused]
    rfl
  · have runs := runPackings_eq locals.classifier 0
      ((List.range (getLen classifiers)).map (arrGet classifiers)) { gc with classifierSize := 0 }
      classifier
    dsimp only at runs
    rw [if_neg refused, if_neg refused, Option.map_map, runs, Option.map_map]
    rfl

/-- The stores of a request leave what `gctl_read_policy` leaves. -/
theorem gctlReadPolicy_arrays (locals : Locals) (input : Option Json) (behind : Memory)
    (classifier envelope : Buffer) :
    (gctlReadPolicy locals input behind classifier envelope).map Policy.arrays =
      ((policyEnvelope input behind).run envelope).bind fun envelope =>
        (runPackings (policyPackings locals input) classifier).map fun classifier =>
          (classifier, envelope) := by
  unfold gctlReadPolicy policyEnvelope policyPackings loopElements
  dsimp only
  by_cases missing : (objGet input "gate").isNone ∨
      (objGet (objGet input "gate") "gate-spec").isNone
  · rw [if_pos missing, if_pos missing, if_pos missing]
    rfl
  · rw [if_neg missing, if_neg missing, if_neg missing]
    cases named : objGet (objGet (objGet input "gate") "traffic-profile") "service-class-name" with
    | some profile =>
        dsimp only
        rw [writeScnEnvelope_run]
        cases text : getStr (some profile) with
        | none =>
            simp only [readEnvelope, named, text, Option.map_none, Option.bind_none]
        | some scn =>
            have read : profileRead (objGet (objGet input "gate") "traffic-profile") = true := by
              simp only [profileRead, named, text, Option.isSome_some]
            rw [if_pos read]
            simp only [readEnvelope, named, text, Option.map_some, Option.bind_some]
            exact gctlReadClassifiers_arrays locals _ _ classifier _
    | none =>
        dsimp only
        cases given : objGet (objGet (objGet input "gate") "traffic-profile")
            "flow-spec-profile" with
        | none =>
            have unread :
                ¬ profileRead (objGet (objGet input "gate") "traffic-profile") = true := by
              simp only [profileRead, named, given, Option.isSome_none, Bool.false_eq_true,
                not_false_eq_true]
            rw [if_neg unread]
            simp only [readEnvelope, named, given, Option.bind_some]
            rfl
        | some profile =>
            have read : profileRead (objGet (objGet input "gate") "traffic-profile") = true := by
              simp only [profileRead, named, given, Option.isSome_some]
            rw [if_pos read]
            simp only [readEnvelope, named, given, Option.bind_some, Writing.run_puts,
              writeFlowspecEnvelope, List.foldl_cons, List.foldl_nil]
            exact gctlReadClassifiers_arrays locals _ _ classifier _

/-! ## Slots -/

/-- Where a byte of a classifier belongs: in the slot, and a byte of an address in the
sixteen bytes of that address. -/
def InSlot (ptr size : Nat) (part : SlotPart) (place : Nat) : Prop :=
  ptr ≤ place ∧ place < ptr + size ∧
    (part = .source -> ptr + 16 ≤ place ∧ place < ptr + 32) ∧
      (part = .destination -> ptr + 32 ≤ place ∧ place < ptr + 48)

/-- The slot of a packing is in the array, and every byte stored belongs there. -/
structure Packing.Confined (packing : Packing) : Prop where
  room : packing.place + packing.kind.size ≤ 320
  slot : packing.writing.Each (InSlot packing.place packing.kind.size)

/-- Everything that a request stores is where it belongs. -/
structure WritesConfined (locals : Locals) (input : Option Json) (behind : Memory) : Prop where
  envelope : (policyEnvelope input behind).Each fun _ place => place < 92
  classifiers : forall packing, packing ∈ policyPackings locals input -> packing.Confined

/-- No address that is packed has more than eight tokens. -/
def ShortAddresses : ClassifierKind × Option Json -> Prop
  | (.legacy, _) => True
  | (.extended, _) => True
  | (.ipv6, obj) => forall source destination, gctlOtos obj "srcIp6" = some source ->
      gctlOtos obj "dstIp6" = some destination -> (tokens source).length ≤ 8 ∧
        (tokens source ≠ [] -> (tokens destination).length ≤ 8)

/-- Whether the packer of a classifier comes back. -/
def packable : ClassifierKind × Option Json -> Bool
  | (.legacy, obj) => (gctlOtos obj "srcIp").isSome
  | (.extended, obj) => (gctlOtos obj "srcIp").isSome && (gctlOtos obj "srcIpMask").isSome &&
      (gctlOtos obj "dstIpMask").isSome
  | (.ipv6, obj) => (gctlOtos obj "srcIp6").any (fun ip6 => !(tokens ip6).isEmpty) &&
      (gctlOtos obj "dstIp6").any (fun ip6 => !(tokens ip6).isEmpty)

/-- The addresses of the classifiers are short, up to the first classifier that is
not packed. -/
def AddressesFit : List (Option Json) -> Prop
  | [] => True
  | element :: elements =>
      match classifierOf element with
      | none => True
      | some classifier =>
          ShortAddresses classifier ∧ (packable classifier = true -> AddressesFit elements)

section Slots

open Writing

variable {addr : IpField -> UInt32} {ptr : Nat}

theorem writeIp6_finished (part : SlotPart) (ip6 : String) :
    (writeIp6 part ptr ip6).finished = !(tokens ip6).isEmpty := by
  unfold writeIp6 packIp6
  cases tokens ip6 with
  | nil => rfl
  | cons token rest => rfl

/-- Two bytes are stored for every token. -/
theorem writeIp6_each_iff {part : SlotPart} {ip6 : String} {right : SlotPart -> Nat -> Prop} :
    (writeIp6 part ptr ip6).Each right ↔ forall place, ptr ≤ place ->
      place < ptr + 2 * (tokens ip6).length -> right part place := by
  rw [writeIp6, each_needing_iff]
  constructor
  · intro each place least most
    have some' : tokens ip6 ≠ [] := by
      intro empty
      rw [empty] at most
      exact Nat.not_lt_of_ge least most
    refine each_puts_iff.mp (each _ (if_neg some')) _ (List.mem_singleton_self _) place least ?_
    rw [pairs_length]
    exact most
  · intro each bytes packs
    have size : bytes.length = 2 * (tokens ip6).length := by
      unfold packIp6 at packs
      split at packs
      · cases packs
      · cases packs
        exact pairs_length _ _ _
    refine each_puts_iff.mpr fun piece member place least most => ?_
    rw [List.mem_singleton.mp member] at least most
    rw [size] at most
    exact each place least most

theorem source_inSlot_iff {ip6 : String} :
    (writeIp6 .source (ptr + 16) ip6).Each (InSlot ptr 64) ↔ (tokens ip6).length ≤ 8 := by
  rw [writeIp6_each_iff]
  constructor
  · intro each
    by_contra many
    have last := (each (ptr + 32) (by omega) (by omega)).2.2.1 rfl
    omega
  · intro few place least most
    refine ⟨by omega, by omega, fun _ => by omega, fun impossible => ?_⟩
    cases impossible

theorem destination_inSlot_iff {ip6 : String} :
    (writeIp6 .destination (ptr + 32) ip6).Each (InSlot ptr 64) ↔ (tokens ip6).length ≤ 8 := by
  rw [writeIp6_each_iff]
  constructor
  · intro each
    by_contra many
    have last := (each (ptr + 48) (by omega) (by omega)).2.2.2 rfl
    omega
  · intro few place least most
    refine ⟨by omega, by omega, fun impossible => ?_, fun _ => by omega⟩
    cases impossible

theorem fields_inSlot {size : Nat} {pieces : List (Nat × List UInt8)}
    (inside : forall piece, piece ∈ pieces ->
      ptr ≤ piece.1 ∧ piece.1 + piece.2.length ≤ ptr + size) :
    (puts .fields pieces).Each (InSlot ptr size) := by
  refine each_puts_iff.mpr fun piece member place least most => ?_
  have bounds := inside piece member
  refine ⟨by omega, by omega, fun impossible => ?_, fun impossible => ?_⟩
  · cases impossible
  · cases impossible

theorem writeLegacyClassifier_inSlot (protocol : UInt16) (field mask : Int32)
    (srcIp dstIp : Option String) (srcPort dstPort priority reserved : Int32) :
    (writeLegacyClassifier addr ptr protocol field mask srcIp dstIp srcPort dstPort priority
      reserved).Each (InSlot ptr 24) := by
  refine each_needing_iff.mpr fun srcIp _ => fields_inSlot ?_
  simp only [List.forall_mem_cons, List.not_mem_nil, false_implies, implies_true, and_true,
    List.length_singleton, packU16Be_length, packU32Be_length]
  and_intros
  all_goals omega

theorem writeExtendedClassifier_inSlot (protocol : UInt16) (srcIp srcMask : Option String)
    (srcPortS srcPortE : Int32) (dstIp dstMask : Option String)
    (dstPortS dstPortE priority field mask classId actState action : Int32) :
    (writeExtendedClassifier addr ptr protocol srcIp srcMask srcPortS srcPortE dstIp dstMask
      dstPortS dstPortE priority field mask classId actState action).Each (InSlot ptr 40) := by
  refine each_needing_iff.mpr fun srcIp _ => each_needing_iff.mpr fun srcMask _ =>
    each_needing_iff.mpr fun dstMask _ => fields_inSlot ?_
  simp only [List.forall_mem_cons, List.not_mem_nil, false_implies, implies_true, and_true,
    List.length_singleton, packU16Be_length, packU32Be_length]
  and_intros
  all_goals omega

/-- The fields of an IPv6 classifier are in its slot, so its addresses decide. -/
theorem writeIpv6Classifier_inSlot_iff (tcLow tcHigh tcMask flowLabel nhType : Int32)
    (srcIp6 dstIp6 : Option String) (srcPortS srcPortE dstPortS dstPortE classId priority actstate
      action : Int32) :
    (writeIpv6Classifier ptr tcLow tcHigh tcMask flowLabel nhType srcIp6 dstIp6 srcPortS srcPortE
        dstPortS dstPortE classId priority actstate action).Each (InSlot ptr 64) ↔
      forall source destination, srcIp6 = some source -> dstIp6 = some destination ->
        (tokens source).length ≤ 8 ∧
          (tokens source ≠ [] -> (tokens destination).length ≤ 8) := by
  have filled (ip6 : String) : (!(tokens ip6).isEmpty) = true ↔ tokens ip6 ≠ [] := by
    rw [Bool.not_eq_true', List.isEmpty_eq_false_iff]
  constructor
  · intro each source destination hasSource hasDestination
    have inner := (each_andThen_iff.mp each).2 rfl
    have behind := (each_andThen_iff.mp (each_needing_iff.mp (each_needing_iff.mp inner source
      hasSource) destination hasDestination)).2 rfl
    rcases each_andThen_iff.mp behind with ⟨first, second⟩
    refine ⟨source_inSlot_iff.mp first, fun some' => ?_⟩
    have whole : (writeIp6 .source (ptr + 16) source).finished = true :=
      (writeIp6_finished .source source).trans ((filled source).mpr some')
    exact destination_inSlot_iff.mp (each_andThen_iff.mp (second whole)).1
  · intro short
    refine each_andThen_iff.mpr ⟨fields_inSlot ?_, fun _ => each_needing_iff.mpr fun source
      hasSource => each_needing_iff.mpr fun destination hasDestination => ?_⟩
    · simp only [List.forall_mem_cons, List.not_mem_nil, false_implies, implies_true, and_true,
        List.length_singleton, packU16Be_length, packU32Be_length]
      and_intros
      all_goals omega
    · rcases short source destination hasSource hasDestination with
        ⟨fewSource, fewDestination⟩
      refine each_andThen_iff.mpr ⟨fields_inSlot ?_, fun _ => ?_⟩
      · simp only [List.forall_mem_cons, List.not_mem_nil, false_implies, implies_true, and_true,
          List.length_singleton]
        and_intros
        all_goals omega
      · refine each_andThen_iff.mpr ⟨source_inSlot_iff.mpr fewSource, fun whole => ?_⟩
        have some' := (filled source).mp ((writeIp6_finished .source source).symm.trans whole)
        refine each_andThen_iff.mpr ⟨destination_inSlot_iff.mpr (fewDestination some'), fun _ =>
          fields_inSlot ?_⟩
        simp only [List.forall_mem_cons, List.not_mem_nil, false_implies, implies_true, and_true,
          List.length_singleton, packU16Be_length]
        and_intros
        all_goals omega

theorem writeClassifier_inSlot_iff (addr : IpField -> UInt32) (ptr : Nat) (element : Option Json)
    (classifier : ClassifierKind × Option Json) :
    (writeClassifier addr ptr element classifier.2 classifier.1).Each
      (InSlot ptr classifier.1.size) ↔ ShortAddresses classifier := by
  rcases classifier with ⟨kind, obj⟩
  cases kind with
  | legacy => exact iff_of_true (writeLegacyClassifier_inSlot _ _ _ _ _ _ _ _ _) trivial
  | extended =>
      exact iff_of_true (writeExtendedClassifier_inSlot _ _ _ _ _ _ _ _ _ _ _ _ _ _ _) trivial
  | ipv6 => exact writeIpv6Classifier_inSlot_iff _ _ _ _ _ _ _ _ _ _ _ _ _ _ _

theorem writeClassifier_finished (addr : IpField -> UInt32) (ptr : Nat) (element : Option Json)
    (classifier : ClassifierKind × Option Json) :
    (writeClassifier addr ptr element classifier.2 classifier.1).finished =
      packable classifier := by
  rcases classifier with ⟨kind, obj⟩
  cases kind with
  | legacy =>
      rw [writeClassifier, writeLegacyClassifier, finished_needing, packable]
      cases gctlOtos obj "srcIp" with
      | none => rfl
      | some srcIp => rfl
  | extended =>
      rw [writeClassifier, writeExtendedClassifier, finished_needing, packable]
      cases gctlOtos obj "srcIp" with
      | none => rfl
      | some srcIp =>
          cases gctlOtos obj "srcIpMask" with
          | none => rfl
          | some srcMask =>
              cases gctlOtos obj "dstIpMask" with
              | none => rfl
              | some dstMask => rfl
  | ipv6 =>
      rw [writeClassifier, writeIpv6Classifier, finished_andThen, finished_puts, Bool.true_and,
        finished_needing, packable]
      cases gctlOtos obj "srcIp6" with
      | none => rfl
      | some srcIp6 =>
          cases gctlOtos obj "dstIp6" with
          | none => exact (Bool.and_false _).symm
          | some dstIp6 =>
              simp only [Option.any_some, finished_needing, finished_andThen, finished_puts,
                writeIp6_finished, Bool.true_and, Bool.and_true]

end Slots

/-- Every packing of the loop is confined exactly if the addresses fit. -/
theorem packings_confined_iff (addr : Nat -> IpField -> UInt32) (i : Nat)
    {elements : List (Option Json)} {classifierSize : Nat}
    (room : classifierSize + 64 * elements.length ≤ 320) :
    (forall packing, packing ∈ packings addr i elements classifierSize -> packing.Confined) ↔
      AddressesFit elements := by
  induction elements generalizing i classifierSize with
  | nil => exact iff_of_true (fun _ none => by cases none) trivial
  | cons element elements inductionHypothesis =>
      unfold packings AddressesFit
      cases classifierOf element with
      | none => exact iff_of_true (fun _ none => by cases none) trivial
      | some classifier =>
          have size := (classifierKind_size classifier.1).1
          have fits : classifierSize + classifier.1.size + 64 * elements.length ≤ 320 := by
            rw [List.length_cons] at room
            omega
          have rest := inductionHypothesis (i + 1) fits
          have slot := writeClassifier_inSlot_iff (addr i) classifierSize element classifier
          dsimp only
          rw [List.forall_mem_cons, writeClassifier_finished]
          refine and_congr ⟨fun confined => slot.mp confined.slot, fun short =>
            ⟨by dsimp only; omega, slot.mpr short⟩⟩ ?_
          cases packable classifier with
          | false =>
              exact iff_of_true (fun _ none => by cases none) fun impossible => by cases impossible
          | true => exact rest.trans ⟨fun fit _ => fit, fun fit => fit rfl⟩

/-! ## Envelopes -/

theorem writeScnEnvelope_confined (profile : Option Json) (behind : Memory) :
    (writeScnEnvelope profile behind).Each fun _ place => place < 92 := by
  refine Writing.each_andThen_iff.mpr ⟨Writing.each_puts_iff.mpr ?_, fun _ =>
    Writing.each_needing_iff.mpr fun scn _ => Writing.each_puts_iff.mpr ?_⟩
  · simp only [List.forall_mem_cons, List.not_mem_nil, false_implies, implies_true, and_true,
      List.length_singleton, packU16Be_length]
    and_intros
    all_goals omega
  · have aligned := scnAlignment_le scn
    rw [scnAlignment] at aligned
    simp only [List.forall_mem_cons, List.not_mem_nil, false_implies, implies_true, and_true,
      List.length_replicate, Memory.read_length]
    and_intros
    all_goals omega

theorem writeFlowspecEnvelope_confined (serviceNumber : Int32) :
    (writeFlowspecEnvelope serviceNumber).Each fun _ place => place < 92 := by
  have rates : (bitrate ++ (bitrate ++ bitrate)).length = 84 := rfl
  refine Writing.each_puts_iff.mpr ?_
  simp only [List.forall_mem_cons, List.not_mem_nil, false_implies, implies_true, and_true,
    List.length_singleton, packU16Be_length, rates]
  and_intros
  all_goals omega

theorem policyEnvelope_confined (input : Option Json) (behind : Memory) :
    (policyEnvelope input behind).Each fun _ place => place < 92 := by
  have nothing : (Writing.puts () []).Each fun _ place => place < 92 :=
    Writing.each_puts_iff.mpr fun _ none => by cases none
  unfold policyEnvelope
  dsimp only
  split
  · exact nothing
  · split
    · exact writeScnEnvelope_confined _ behind
    · split
      · exact writeFlowspecEnvelope_confined _
      · exact nothing

theorem classifierElements_length (classifiers : Option Json) :
    (classifierElements classifiers).length ≤ 5 := by
  unfold classifierElements
  dsimp only
  split
  · exact Nat.zero_le 5
  · rename_i counted
    rw [List.length_map, List.length_range]
    omega

theorem loopElements_length (input : Option Json) : (loopElements input).length ≤ 5 := by
  unfold loopElements
  dsimp only
  split
  · exact Nat.zero_le 5
  · split
    · exact classifierElements_length _
    · exact Nat.zero_le 5

/-- The stores of a request are confined exactly if no address that is packed has more
than eight tokens. -/
theorem writesConfined_iff (locals : Locals) (input : Option Json) (behind : Memory) :
    WritesConfined locals input behind ↔ AddressesFit (loopElements input) := by
  have few := loopElements_length input
  have room : 0 + 64 * (loopElements input).length ≤ 320 := by omega
  have packed := packings_confined_iff locals.classifier 0 room
  exact ⟨fun confined => packed.mp confined.classifiers, fun fit =>
    ⟨policyEnvelope_confined input behind, packed.mpr fit⟩⟩

/-- A classifier with a destination of seventeen groups. -/
def longClassifier : Json :=
  .obj [("classifier-id", .int 3), ("ipv6-classifier", .obj [("srcIp6", .str "2600::1"),
    ("dstIp6", .str "1:1:1:1:1:1:1:1:1:1:1:1:1:1:1:1:1")])]

/-- Two bytes of a destination of seventeen groups are behind the slot. -/
theorem longAddress_overruns : ¬ WritesConfined clearedLocals
    (some (gateSetRequest [longClassifier])) (fun _ => 0) := by
  intro confined
  have elements : loopElements (some (gateSetRequest [longClassifier])) = [some longClassifier] :=
    rfl
  have room : 0 + 64 * (loopElements (some (gateSetRequest [longClassifier]))).length ≤ 320 := by
    rw [elements]
    decide
  have fit := (packings_confined_iff clearedLocals.classifier 0 room).mp confined.classifiers
  rw [elements] at fit
  have short := fit.1 "2600::1" "1:1:1:1:1:1:1:1:1:1:1:1:1:1:1:1:1" rfl rfl
  have groups : (tokens "1:1:1:1:1:1:1:1:1:1:1:1:1:1:1:1:1").length = 17 := by decide
  have few := short.2 (by decide)
  omega

end PolicyServer
