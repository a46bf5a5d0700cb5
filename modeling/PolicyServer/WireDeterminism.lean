import PolicyServer.PolicyPayload

namespace PolicyServer

open Lib

/-!
# Uninitialised locals on the wire

A handler starts with locals that hold whatever was on the stack.  Two runs of one
request that differ in nothing else should send the same bytes.  The requests for
a gate that is there already do so for every subscriber whose address is a
literal; a GATE-SET never does, since `gctl_read_policy` sets neither the priority
nor the preemption of the session class.
-/

/-! ## The messages of the handlers -/

/-- The message of `gctl_04`, where `getps` is what `lcm_getps` answers; `none`
where the handler returns before it has one. -/
def gctl04Message (locals : Locals) (getps : Option String -> Option Session)
    (input : Option Json) (behind : Memory) (txnId : UInt16) : Option Built :=
  (gctl04Payload locals input behind).bind fun prepared =>
    match prepared with
    | .refused _ => none
    | .payload gc data =>
        (getps gc.cmtsIp).bind fun client =>
          psProxy locals.subscriber client .set gc data.bytes txnId

/-- The message of `gctl_request`. -/
def gctlRequestMessage (locals : Locals) (getps : Option String -> Option Session) (op : GateOp)
    (input : Option Json) (txnId : UInt16) : Option Built :=
  let gc := gctlNewRequest locals.gc input
  (getps gc.cmtsIp).bind fun ps => psProxy locals.subscriber ps op gc [] txnId

/-- The handlers that send a decision. -/
inductive GateHandler where
  | gctl04
  | gctl07
  | gctl10
  deriving DecidableEq, Repr

def GateHandler.message (handler : GateHandler) (getps : Option String -> Option Session)
    (input : Option Json) (behind : Memory) (txnId : UInt16) (locals : Locals) : Option Built :=
  match handler with
  | .gctl04 => gctl04Message locals getps input behind txnId
  | .gctl07 => gctlRequestMessage locals getps .info input txnId
  | .gctl10 => gctlRequestMessage locals getps .del input txnId

/-- Whatever the locals hold, the bytes of the message are the same. -/
def SameBytes (message : Locals -> Option Built) : Prop :=
  forall locals locals' built built', message locals = some built ->
    message locals' = some built' -> built.message.bytes = built'.message.bytes

/-! ## What the subscriber's address leaves open -/

section Subscriber

variable {ip : String} {addr : UInt32} {subscriber : Buffer}

theorem ctlSub_same (valid : ValidSubscriber ip) (addr addr' : UInt32) :
    ctlSub addr ip = ctlSub addr' ip := by
  rcases valid with ipv4 | ⟨ipv6, _⟩
  · rw [ctlSub, ctlSub, ip4Toi_of_valid ipv4, ip4Toi_of_valid ipv4]
  · rw [ctlSub, ctlSub, if_pos ipv6, if_pos ipv6]

theorem ctlSub_length (made : ctlSub addr ip = some subscriber) :
    subscriber.bytes.length = addrLen ip := by
  unfold ctlSub at made
  split at made
  · rcases Option.map_eq_some_iff.mp made with ⟨bytes, _, rfl⟩
    rw [Buffer.write_length, Buffer.write_length, Buffer.cleared_length]
  · rw [← Option.some.inj made, Buffer.write_length, Buffer.cleared_length]

/-- Where an object is made of a text that is no address, it is made of the local. -/
theorem ctlSub_of_invalid (invalid : ¬ ValidSubscriber ip)
    (made : ctlSub addr ip = some subscriber) (addr' : UInt32) :
    ctlSub addr' ip = some { bytes := pcmmSubscriber4Identifier addr', outside := 0 } := by
  have notIpv4 : ¬ isIp4 ip = true := fun ipv4 => invalid (Or.inl ipv4)
  have notIpv6 : ¬ isIp6 ip = true := by
    intro ipv6
    have none : tokens ip = [] := by
      by_contra groups
      exact invalid (Or.inr ⟨ipv6, groups⟩)
    rw [ctlSub, if_pos ipv6, pcmmSubscriber6Identifier, packIp6, if_pos none] at made
    cases made
  have kept : ip4Toi addr' ip = addr' := by
    rw [ip4Toi, inetPton4, if_neg notIpv4, Option.getD_none]
  have long : addrLen ip = 8 := if_neg notIpv6
  have front : 0 = ([] : List UInt8).length := rfl
  have eight : (pcmmSubscriber4Identifier addr').length = 8 := rfl
  rw [ctlSub, if_neg notIpv6, kept, long, Buffer.cleared,
    Buffer.filled_write front (Nat.le_of_eq eight), eight, List.nil_append, Nat.sub_self,
    Buffer.filled, List.replicate_zero, List.append_nil]

theorem pcmmSubscriber4Identifier_apart :
    pcmmSubscriber4Identifier 0 ≠ pcmmSubscriber4Identifier 1 := by decide

end Subscriber

/-! ## The bytes of a message -/

section Message

variable {self : Session} {op : GateOp} {gc gc' : Gctl} {ip : String} {addr : UInt32}
  {request request' : List UInt8} {txnId : UInt16} {subscriber subscriber' : Buffer}
  {built : Built}

theorem psProxy_parts (builds : psProxy addr self op gc request txnId = some built) :
    Exists fun ip => Exists fun subscriber => gc.subscriberId = some ip ∧
      ctlSub addr ip = some subscriber ∧
        built = psProxyBuild self.handle op gc ip request txnId subscriber := by
  rcases Option.bind_eq_some_iff.mp builds with ⟨ip, present, made⟩
  rcases Option.map_eq_some_iff.mp made with ⟨subscriber, sub, same⟩
  exact ⟨ip, subscriber, present, sub, same.symm⟩

theorem psProxy_of_parts (present : gc.subscriberId = some ip)
    (made : ctlSub addr ip = some subscriber) :
    psProxy addr self op gc request txnId =
      some (psProxyBuild self.handle op gc ip request txnId subscriber) := by
  rw [psProxy, present, Option.bind_some, made, Option.map_some]

/-- Of the request, only the gate id and the mode are in the message. -/
theorem psProxyBuild_congr {handle : List UInt8} (gateId : gc.gateId = gc'.gateId)
    (dryRun : gc.dryRun = gc'.dryRun) :
    psProxyBuild handle op gc ip request txnId subscriber =
      psProxyBuild handle op gc' ip request txnId subscriber := by
  unfold psProxyBuild msgSize decSize ctlHnd
  rw [gateId, dryRun]

theorem psProxyBuild_message {handle : List UInt8} (four : handle.length = 4)
    (whole : subscriber.bytes.length = addrLen ip)
    (fits : decSize op gc ip request.length < 65536) :
    (psProxyBuild handle op gc ip request txnId subscriber).message.bytes =
      messageHeader 2 (msgSize op gc ip request.length) ++
        decisionBody (ctlHnd gc handle) op gc ip request txnId subscriber.bytes := by
  have filled := psProxyBuild_filled four whole fits txnId subscriber.outside
  have same := congrArg (fun built : Built => built.message.bytes) filled
  exact same.trans (Buffer.filled_full _)

/-- Messages with the same bytes have the same subscriber objects. -/
theorem subscriber_of_same {handle : List UInt8} (four : handle.length = 4)
    (whole : subscriber.bytes.length = addrLen ip) (whole' : subscriber'.bytes.length = addrLen ip)
    (fits : decSize op gc ip request.length < 65536)
    (same : (psProxyBuild handle op gc ip request txnId subscriber).message.bytes =
      (psProxyBuild handle op gc ip request txnId subscriber').message.bytes) :
    subscriber.bytes = subscriber'.bytes := by
  rw [psProxyBuild_message four whole fits, psProxyBuild_message four whole' fits] at same
  have bodies := List.append_cancel_left same
  unfold decisionBody at bodies
  have fronts := List.append_cancel_right bodies
  unfold frontPart at fronts
  exact List.append_cancel_left fronts

/-- Messages with the same bytes have the same payloads. -/
theorem request_of_same {handle : List UInt8} (four : handle.length = 4)
    (whole : subscriber.bytes.length = addrLen ip) (gateId : gc.gateId = gc'.gateId)
    (dryRun : gc.dryRun = gc'.dryRun) (lengths : request.length = request'.length)
    (fits : decSize .set gc ip request.length < 65536)
    (same : (psProxyBuild handle .set gc ip request txnId subscriber).message.bytes =
      (psProxyBuild handle .set gc' ip request' txnId subscriber).message.bytes) :
    request = request' := by
  rw [← psProxyBuild_congr gateId dryRun] at same
  rw [psProxyBuild_message four whole fits, psProxyBuild_message four whole (lengths ▸ fits),
    ← lengths] at same
  have bodies := List.append_cancel_left same
  unfold decisionBody at bodies
  rw [← lengths] at bodies
  exact List.append_cancel_left (List.append_cancel_left bodies)

end Message

/-! ## A priority that nothing sets -/

def Gctl.withPriority (gc : Gctl) (priority : Int32) : Gctl :=
  { gc with gate := { gc.gate with priority } }

def Policy.withPriority (policy : Policy) (priority : Int32) : Policy :=
  { policy with gc := policy.gc.withPriority priority }

/-- The same locals, but for the priority of the gate. -/
def Locals.withPriority (locals : Locals) (priority : Int32) : Locals :=
  { locals with gc := locals.gc.withPriority priority }

section Priority

variable {locals : Locals} {input : Option Json} {behind : Memory} {gc : Gctl}
  {classifier envelope : Buffer}

theorem readClassifiers_withPriority (addr : Nat -> IpField -> UInt32) (i : Nat)
    (elements : List (Option Json)) (gc : Gctl) (classifier : Buffer) (priority : Int32) :
    readClassifiers addr i elements (gc.withPriority priority) classifier =
      (readClassifiers addr i elements gc classifier).map
        fun read => (read.1.withPriority priority, read.2) := by
  induction elements generalizing i gc classifier with
  | nil => rfl
  | cons element elements inductionHypothesis =>
      rw [readClassifiers, readClassifiers]
      cases found : classifierOf element with
      | none => rfl
      | some chosen =>
          dsimp only
          cases stored : readClassifier (addr i) classifier gc.classifierSize element chosen.2
              chosen.1 with
          | none =>
              have same : readClassifier (addr i) classifier (gc.withPriority priority).classifierSize
                element chosen.2 chosen.1 = none := stored
              rw [same]
              rfl
          | some after =>
              have same : readClassifier (addr i) classifier (gc.withPriority priority).classifierSize
                element chosen.2 chosen.1 = some after := stored
              rw [same]
              exact inductionHypothesis (i + 1)
                { gc with classifierSize := gc.classifierSize + chosen.1.size } after

theorem gctlReadClassifiers_withPriority (locals : Locals) (classifiers : Option Json) (gc : Gctl)
    (classifier envelope : Buffer) (priority : Int32) :
    gctlReadClassifiers (locals.withPriority priority) classifiers (gc.withPriority priority)
        classifier envelope =
      (gctlReadClassifiers locals classifiers gc classifier envelope).map
        fun policy => policy.withPriority priority := by
  unfold gctlReadClassifiers
  dsimp only
  split
  · rfl
  · have read := readClassifiers_withPriority locals.classifier 0
      ((List.range (getLen classifiers)).map (arrGet classifiers)) { gc with classifierSize := 0 }
      classifier priority
    rw [Option.map_map]
    exact (congrArg _ read).trans (Option.map_map _ _ _)

/-- The priority is handed on as it was, and decides nothing. -/
theorem gctlReadPolicy_withPriority (locals : Locals) (input : Option Json) (behind : Memory)
    (classifier envelope : Buffer) (priority : Int32) :
    gctlReadPolicy (locals.withPriority priority) input behind classifier envelope =
      (gctlReadPolicy locals input behind classifier envelope).map
        fun policy => policy.withPriority priority := by
  unfold gctlReadPolicy
  dsimp only
  split
  · rfl
  · cases reads : readEnvelope (objGet (objGet input "gate") "traffic-profile") behind envelope with
    | none => rfl
    | some profile =>
        cases profile with
        | none => rfl
        | some profile =>
            exact gctlReadClassifiers_withPriority locals (objGet (objGet input "gate") "classifiers")
              (readGateSpec (objGet (objGet input "gate") "gate-spec")
                { gctlNewRequest locals.gc input with envelopeSize := profile.2 })
              classifier profile.1 priority

/-- With another priority the payload differs in its session class only. -/
theorem gctl04Payload_withPriority {data : Buffer}
    (made : gctl04Payload locals input behind = some (.payload gc data)) :
    Exists fun direction => Exists fun rest => rest.length ≤ 412 ∧
      forall priority, gctl04Payload (locals.withPriority priority) input behind =
        some (.payload (gc.withPriority priority) {
          bytes := (gateSpecRecord (objGet (objGet input "gate") "gate-spec") direction
            (vtoc (toU8 priority) (toU8 locals.gc.gate.preemption) 0)).bytes ++ rest
          outside := 1 }) := by
  unfold gctl04Payload at made
  rcases Option.bind_eq_some_iff.mp made with ⟨policy, accepted, prepared⟩
  dsimp only at prepared
  by_cases failed : policy.gc.failed = true
  · rw [if_pos failed] at prepared
    cases Option.some.inj prepared
  rw [if_neg failed] at prepared
  rcases Option.map_eq_some_iff.mp prepared with ⟨stored, packed, same⟩
  rcases Prepared.payload.inj same with ⟨rfl, _⟩
  have ok : policy.gc.failed = false := Bool.not_eq_true _ |>.mp failed
  rcases gctlReadPolicy_sizes accepted ok with ⟨long, long', least, most, least', most', counted⟩
  cases directed : gctlOtos (objGet (objGet input "gate") "gate-spec") "direction" with
  | none =>
      have missing : policy.gc.gate.direction = none := by
        rw [counted]
        exact directed
      rw [missing] at packed
      cases packed
  | some direction =>
      refine ⟨direction, policy.envelope.bytes.take policy.gc.envelopeSize ++
        policy.classifier.bytes.take policy.gc.classifierSize, ?_, ?_⟩
      · rw [List.length_append, List.length_take, List.length_take]
        omega
      · intro priority
        have accepted' : gctlReadPolicy (locals.withPriority priority) input behind
            (Buffer.cleared 320) (Buffer.cleared 92) = some (policy.withPriority priority) := by
          rw [gctlReadPolicy_withPriority, accepted, Option.map_some]
        have payload := gctl04Payload_of_accepted accepted' ok directed
        rw [List.append_assoc] at payload
        exact payload

theorem gctl04Payload_short {data : Buffer}
    (made : gctl04Payload locals input behind = some (.payload gc data)) :
    data.bytes.length ≤ 428 := by
  rcases gctl04Payload_withPriority made with ⟨direction, rest, short, payloads⟩
  have same : locals.withPriority locals.gc.gate.priority = locals := rfl
  have payload := payloads locals.gc.gate.priority
  rw [same, made] at payload
  rcases Prepared.payload.inj (Option.some.inj payload) with ⟨_, bytes⟩
  rw [bytes, List.length_append, Record.bytes_length]
  exact Nat.add_le_add_left short 16

end Priority

theorem vtoc_apart (preempt : UInt8) : vtoc (toU8 0) preempt 0 ≠ vtoc (toU8 1) preempt 0 := by
  have bit : preempt &&& 1 = 0 ∨ preempt &&& 1 = 1 := by
    have low : (preempt &&& 1).toNat = preempt.toNat % 2 := by
      rw [UInt8.toNat_and, UInt8.toNat_one, Nat.and_one_is_mod]
    rcases Nat.mod_two_eq_zero_or_one preempt.toNat with even | odd
    · exact Or.inl (UInt8.toNat_inj.mp (low.trans even))
    · exact Or.inr (UInt8.toNat_inj.mp (low.trans odd))
  unfold vtoc
  rcases bit with zero | one
  · rw [zero]
    decide
  · rw [one]
    decide

/-! ## The two handlers -/

section Handlers

variable {getps : Option String -> Option Session} {input : Option Json} {behind : Memory}
  {txnId : UInt16} {op : GateOp} {locals : Locals} {built : Built}

theorem decSize_le (op : GateOp) (gc : Gctl) (ip : String) (count : Nat) :
    decSize op gc ip count ≤ count + 48 := by
  have few := addrLen_le ip
  have control : ctlMod op gc.gateId count ≤ count + 24 := by
    unfold ctlMod
    cases op with
    | set =>
        dsimp only
        split <;> omega
    | info | del => exact Nat.le_add_left 24 count
  rw [decSize]
  omega

/-- The payload of a GATE-SET carries the priority to the wire. -/
theorem gctl04Message_notSame
    (four : forall ip session, getps ip = some session -> session.handle.length = 4)
    (builds : gctl04Message locals getps input behind txnId = some built) :
    ¬ SameBytes fun locals => gctl04Message locals getps input behind txnId := by
  intro same
  rcases Option.bind_eq_some_iff.mp builds with ⟨prepared, made, sent⟩
  cases prepared with
  | refused => cases sent
  | payload gc data =>
      rcases Option.bind_eq_some_iff.mp sent with ⟨client, found, proxied⟩
      rcases psProxy_parts proxied with ⟨ip, subscriber, present, sub, _⟩
      rcases gctl04Payload_withPriority made with ⟨direction, rest, short, payloads⟩
      generalize objGet (objGet input "gate") "gate-spec" = spec at payloads
      generalize toU8 locals.gc.gate.preemption = preempt at payloads
      have message : forall priority, gctl04Message (locals.withPriority priority) getps input
          behind txnId = some (psProxyBuild client.handle .set (gc.withPriority priority) ip
            ((gateSpecRecord spec direction (vtoc (toU8 priority) preempt 0)).bytes ++ rest) txnId
            subscriber) := by
        intro priority
        have there : getps (gc.withPriority priority).cmtsIp = some client := found
        rw [gctl04Message, payloads priority, Option.bind_some]
        dsimp only
        rw [there, Option.bind_some]
        exact psProxy_of_parts present sub
      have bytes := same _ _ _ _ (message 0) (message 1)
      have length : forall priority,
          ((gateSpecRecord spec direction (vtoc (toU8 priority) preempt 0)).bytes ++ rest).length =
            16 + rest.length := by
        intro priority
        rw [List.length_append, Record.bytes_length]
        rfl
      have fits : decSize .set (gc.withPriority 0) ip
          ((gateSpecRecord spec direction (vtoc (toU8 0) preempt 0)).bytes ++ rest).length <
            65536 := by
        have size := decSize_le .set (gc.withPriority 0) ip
          ((gateSpecRecord spec direction (vtoc (toU8 0) preempt 0)).bytes ++ rest).length
        rw [length] at size ⊢
        omega
      have payload := request_of_same (four _ client found) (ctlSub_length sub) rfl rfl
        ((length 0).trans (length 1).symm) fits bytes
      have records := List.append_cancel_right payload
      have classes : vtoc (toU8 0) preempt 0 = vtoc (toU8 1) preempt 0 := by
        have seventh := congrArg (fun bytes : List UInt8 => bytes[7]?) records
        exact Option.some.inj seventh
      exact vtoc_apart preempt classes

/-- A gate id and an address that is a literal leave nothing open. -/
theorem gctlRequestMessage_same {ip : String} (present : gctlOtos input "subscriberId" = some ip)
    (valid : ValidSubscriber ip) :
    SameBytes fun locals => gctlRequestMessage locals getps op input txnId := by
  intro locals locals' built built' builds builds'
  rcases Option.bind_eq_some_iff.mp builds with ⟨ps, found, proxied⟩
  rcases Option.bind_eq_some_iff.mp builds' with ⟨ps', found', proxied'⟩
  cases Option.some.inj (found.symm.trans found')
  rcases psProxy_parts proxied with ⟨text, subscriber, there, sub, rfl⟩
  rcases psProxy_parts proxied' with ⟨text', subscriber', there', sub', rfl⟩
  cases Option.some.inj (there.symm.trans present)
  cases Option.some.inj (there'.symm.trans present)
  rw [ctlSub_same valid locals'.subscriber locals.subscriber] at sub'
  cases Option.some.inj (sub.symm.trans sub')
  exact congrArg (fun built : Built => built.message.bytes) (psProxyBuild_congr rfl rfl)

/-- A text that is no address carries the local of `ip4_toi` to the wire. -/
theorem gctlRequestMessage_notSame {ip : String}
    (four : forall ip session, getps ip = some session -> session.handle.length = 4)
    (present : gctlOtos input "subscriberId" = some ip) (invalid : ¬ ValidSubscriber ip)
    (builds : gctlRequestMessage locals getps op input txnId = some built) :
    ¬ SameBytes fun locals => gctlRequestMessage locals getps op input txnId := by
  intro same
  rcases Option.bind_eq_some_iff.mp builds with ⟨ps, found, proxied⟩
  rcases psProxy_parts proxied with ⟨text, subscriber, there, sub, _⟩
  cases Option.some.inj (there.symm.trans present)
  have made := ctlSub_of_invalid invalid sub
  have message : forall addr, gctlRequestMessage { locals with subscriber := addr } getps op input
      txnId = some (psProxyBuild ps.handle op (gctlNewRequest locals.gc input) ip [] txnId
        { bytes := pcmmSubscriber4Identifier addr, outside := 0 }) := by
    intro addr
    rw [gctlRequestMessage]
    dsimp only
    rw [found, Option.bind_some]
    exact psProxy_of_parts there (made addr)
  have bytes := same _ _ _ _ (message 0) (message 1)
  have fits : decSize op (gctlNewRequest locals.gc input) ip ([] : List UInt8).length < 65536 :=
    Nat.lt_of_le_of_lt (decSize_le op _ ip _) (by decide)
  exact pcmmSubscriber4Identifier_apart (subscriber_of_same (four _ ps found)
    (ctlSub_length (made 0)) (ctlSub_length (made 1)) fits bytes)

end Handlers

/-- The bytes of a message that is built are those of its request exactly where a
gate that is there already is asked about or deleted, for a subscriber whose address
is a literal. -/
theorem sameBytes_iff (handler : GateHandler) (getps : Option String -> Option Session)
    (input : Option Json) (behind : Memory) (txnId : UInt16) (locals : Locals) (built : Built)
    (four : forall ip session, getps ip = some session -> session.handle.length = 4)
    (builds : handler.message getps input behind txnId locals = some built) :
    SameBytes (handler.message getps input behind txnId) ↔
      handler ≠ .gctl04 ∧
        Exists fun ip => gctlOtos input "subscriberId" = some ip ∧ ValidSubscriber ip := by
  have request : forall op, gctlRequestMessage locals getps op input txnId = some built ->
      ((SameBytes fun locals => gctlRequestMessage locals getps op input txnId) ↔
        Exists fun ip => gctlOtos input "subscriberId" = some ip ∧ ValidSubscriber ip) := by
    intro op builds
    rcases Option.bind_eq_some_iff.mp builds with ⟨ps, _, proxied⟩
    rcases psProxy_parts proxied with ⟨ip, _, present, _⟩
    constructor
    · intro same
      refine ⟨ip, present, ?_⟩
      by_contra invalid
      exact gctlRequestMessage_notSame four present invalid builds same
    · rintro ⟨ip, present, valid⟩
      exact gctlRequestMessage_same present valid
  cases handler with
  | gctl04 =>
      constructor
      · exact fun same => absurd same (gctl04Message_notSame four builds)
      · exact fun other => absurd rfl other.1
  | gctl07 =>
      refine (request .info builds).trans (Iff.symm (and_iff_right ?_))
      exact fun same => GateHandler.noConfusion same
  | gctl10 =>
      refine (request .del builds).trans (Iff.symm (and_iff_right ?_))
      exact fun same => GateHandler.noConfusion same

/-- A lookup that finds a session. -/
def foundSession : Option String -> Option Session :=
  fun _ => some { handle := [1, 2, 3, 4], uuidReceived := true }

theorem sameBytes_gateInfo :
    SameBytes (GateHandler.gctl07.message foundSession (some (gateSetRequest [])) (fun _ => 0) 21) ↔
      GateHandler.gctl07 ≠ .gctl04 ∧ Exists fun ip =>
        gctlOtos (some (gateSetRequest [])) "subscriberId" = some ip ∧ ValidSubscriber ip := by
  have there : (GateHandler.gctl07.message foundSession (some (gateSetRequest [])) (fun _ => 0) 21
      clearedLocals).isSome = true := by decide +kernel
  rcases Option.isSome_iff_exists.mp there with ⟨built, builds⟩
  have four : forall ip session, foundSession ip = some session -> session.handle.length = 4 := by
    intro ip session found
    cases found
    rfl
  exact sameBytes_iff .gctl07 foundSession (some (gateSetRequest [])) (fun _ => 0) 21 clearedLocals
    built four builds

/-- Two runs of one GATE-SET, with 0 and with 1 where the priority is: they differ
in the session class. -/
theorem gateSet_differs :
    ¬ SameBytes (GateHandler.gctl04.message foundSession (some (gateSetRequest [classifierWith 5]))
      (fun _ => 0) 21) := by
  intro same
  have runs : ((GateHandler.gctl04.message foundSession (some (gateSetRequest [classifierWith 5]))
        (fun _ => 0) 21 clearedLocals).any fun built => built.message.bytes[67]? == some 0) = true ∧
      ((GateHandler.gctl04.message foundSession (some (gateSetRequest [classifierWith 5]))
        (fun _ => 0) 21 (clearedLocals.withPriority 1)).any
          fun built => built.message.bytes[67]? == some 1) = true := by decide +kernel
  rcases (Option.any_eq_true _ _).mp runs.1 with ⟨built, builds, zero⟩
  rcases (Option.any_eq_true _ _).mp runs.2 with ⟨built', builds', one⟩
  have bytes := same _ _ _ _ builds builds'
  rw [bytes, beq_iff_eq.mp one] at zero
  exact absurd zero (by decide)

end PolicyServer
