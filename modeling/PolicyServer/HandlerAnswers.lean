import PolicyServer.Answers
import PolicyServer.ConfinedWrites
import PolicyServer.OutgoingStream
import PolicyServer.WireDeterminism

namespace PolicyServer

open Lib

/-!
# What the handlers answer

`gctl_connect`, `gctl_request` and `gctl_04` from the body of a request to the answer.
A handler is `none` here where it passes a null pointer to a function that reads a
string.  Which strings that can be is said of the request alone, and so is which
policies are refused.
-/

/-! ## Requests -/

/-- A request: whether its body is empty, and the document that `yyjson_read` makes
of it. -/
structure Body where
  empty : Bool
  doc : Option Json

/-- `gctl_ytoi`. -/
def gctlYtoi (doc : Option Json) : Option Json :=
  objGet doc "input"

def Body.input (body : Body) : Option Json := gctlYtoi body.doc

/-- The address that a request gives, as text and as it stands in the document. -/
def Body.cmtsIp (body : Body) : Option String := gctlOtos body.input "cmts_ip"

def Body.cmtsText (body : Body) : Option String :=
  match objGet body.input "cmts_ip" with
  | some (.str text) => some text
  | _ => none

theorem Body.cmtsIp_eq (body : Body) : body.cmtsIp = body.cmtsText.map cString := by
  unfold Body.cmtsIp Body.cmtsText gctlOtos
  split
  · rename_i text there
    rw [there]
    rfl
  · rename_i other
    unfold getStr
    split
    · rename_i text there
      exact absurd there (other text)
    · rfl

/-- What `gctl_connect` reads of a request; `none` for an empty body. -/
def Body.connect (body : Body) : Option ConnectBody :=
  if body.empty then none
  else some { cmtsIp := body.cmtsIp, dryRun := gctlOtoi body.input "dry_run" }

/-! ## Connect -/

/-- The answer of `gctl_connect`. -/
def gctlConnectAnswer (self : Api) (body : Option ConnectBody) (fate : ConnectFate) :
    Option Answer :=
  match body with
  | none => some .complete
  | some input =>
      input.cmtsIp.map fun ip =>
        let lookup := lcmGetps self.lcm ip fate.getpsLock fate.eventLock
        if !isIp4 ip then .error 111 [.text ip]
        else if lookup.held then .stuck
        else if lookup.found.isSome then .error 100 [.text ip]
        else if !lcmAllocOk self.lcm fate.allocLock then .error 103 [.text ip]
        else if !fate.created then .complete
        else if input.dryRun = 0 ∧ fate.admitted = false then .error 102 [.text ip]
        else if fate.thread = 0 then .error 102 [.text ip]
        else if !fate.tidLock.acquired then .complete
        else .connected ip

/-- It is what the handler sends. -/
theorem gctlConnect_reply {self : Api} {body : Option ConnectBody} {fate : ConnectFate}
    {handled : Handled} (returns : gctlConnect self body fate = some handled) :
    (gctlConnectAnswer self body fate).bind Answer.reply = some handled.reply := by
  unfold gctlConnect at returns
  unfold gctlConnectAnswer
  cases body with
  | none =>
      cases returns
      rfl
  | some input =>
      cases address : input.cmtsIp with
      | none =>
          simp only [address] at returns
          cases returns
      | some ip =>
          simp only [address] at returns
          simp only [address, Option.map_some, Option.bind_some]
          split at returns
          · rename_i invalid
            cases returns
            rw [if_pos invalid]
            rfl
          rename_i valid
          rw [if_neg valid]
          split at returns
          · cases returns
          rename_i free
          rw [if_neg free]
          split at returns
          · rename_i found
            cases returns
            rw [if_pos found]
            rfl
          rename_i absent
          rw [if_neg absent]
          split at returns
          · rename_i full
            cases returns
            rw [if_pos full]
            rfl
          rename_i room
          rw [if_neg room]
          split at returns
          · rename_i failed
            cases returns
            rw [if_pos failed]
            rfl
          rename_i created
          rw [if_neg created]
          split at returns
          · rename_i refused
            cases returns
            rw [if_pos refused]
            rfl
          rename_i admitted
          rw [if_neg admitted]
          split at returns
          · rename_i failed
            cases returns
            rw [if_pos failed]
            rfl
          rename_i booted
          rw [if_neg booted]
          cases returns
          rw [gctlConnectStore, gctlLockTid]
          cases acquired : fate.tidLock.acquired with
          | true => rfl
          | false => rfl

/-! ## Gates -/

/-- A session that `lcm_getps` finds. -/
structure Link where
  session : Session
  connection : Bool
  deriving DecidableEq, Repr

/-- What `write` does with a message: it takes all of it, not so much, or nothing. -/
inductive Taken where
  | whole
  | short (bytes : Nat)
  | failed
  deriving DecidableEq, Repr

/-- The answer of `write` for so many bytes. -/
def Taken.bytes (length : Nat) : Taken -> Option Nat
  | .whole => some length
  | .short bytes => some (min bytes (length - 1))
  | .failed => none

/-- What a handler for gates meets: its locals, what is behind the name of the service
class, the answer of `lcm_getps`, the random transaction, the answer of `write`, what
`gctl_async_get_decision` leaves in `response`, and the clock. -/
structure GateFate where
  locals : Locals
  behind : Memory
  getps : Option String -> Option Link
  txnId : UInt16
  write : Taken
  response : String
  timings : Timings

/-- A handler for gates that has answered: the message it had `ps_proxy` make, the bytes
that went into the session's socket, and whether it entered `gctl_async_get_decision`. -/
structure Answered where
  answer : Answer
  message : Option (List UInt8)
  put : List UInt8
  waited : Bool

/-- An answer without a message. -/
def Answered.early (answer : Answer) : Answered where
  answer
  message := none
  put := []
  waited := false

/-- A handler from the call of `ps_proxy` on, where `dryRun` is the handler's test for
a dry run. -/
def gctlAnswer (fate : GateFate) (ps : Link) (gc : Gctl) (built : Built) (dryRun : Bool) :
    Answered :=
  let message := built.message.bytes
  let put :=
    if gc.dryRun = 0 then sockWrite ps.connection [] message (fate.write.bytes message.length)
    else []
  if dryRun then { answer := .dryRun, message := some message, put, waited := false }
  else if fate.response = "" then
    { answer := .error 110 [.id fate.txnId], message := some message, put, waited := true }
  else
    { answer := .report fate.response fate.timings, message := some message, put, waited := true }

section Parts

variable (fate : GateFate) (ps : Link) (gc : Gctl) (built : Built) (dryRun : Bool)

theorem gctlAnswer_message :
    (gctlAnswer fate ps gc built dryRun).message = some built.message.bytes := by
  unfold gctlAnswer
  dsimp only
  split
  · rfl
  · split <;> rfl

theorem gctlAnswer_put :
    (gctlAnswer fate ps gc built dryRun).put =
      if gc.dryRun = 0 then
        sockWrite ps.connection [] built.message.bytes
          (fate.write.bytes built.message.bytes.length)
      else [] := by
  unfold gctlAnswer
  dsimp only
  split
  · rfl
  · split <;> rfl

theorem gctlAnswer_waited : (gctlAnswer fate ps gc built dryRun).waited = !dryRun := by
  unfold gctlAnswer
  cases dryRun with
  | true => rfl
  | false =>
      dsimp only
      rw [if_neg Bool.false_ne_true]
      split <;> rfl

end Parts

/-- The end that both handlers have: the lookup of the session, and what follows. -/
def gctlProxied (fate : GateFate) (op : GateOp) (gc : Gctl) (request : List UInt8)
    (dryRun : Bool) : Option Answered :=
  match fate.getps gc.cmtsIp with
  | none => some (.early (.error 104 [.text gc.cmtsIp]))
  | some ps =>
      (psProxy fate.locals.subscriber ps.session op gc request fate.txnId).map fun built =>
        gctlAnswer fate ps gc built dryRun

/-- `gctl_request`. -/
def gctlRequestAnswer (fate : GateFate) (op : GateOp) (doc : Option Json) : Option Answered :=
  let gc := gctlNewRequest fate.locals.gc (gctlYtoi doc)
  gctlProxied fate op gc [] (gc.dryRun ≠ 0)

/-- `gctl_04`. -/
def gctl04Answer (fate : GateFate) (doc : Option Json) : Option Answered :=
  (gctl04Payload fate.locals (gctlYtoi doc) fate.behind).bind fun prepared =>
    match prepared with
    | .refused reason => some (.early (.error reason.toUInt32.toUInt8 []))
    | .payload gc data => gctlProxied fate .set gc data.bytes (0 < gc.dryRun)

def GateHandler.answered (handler : GateHandler) (fate : GateFate) (doc : Option Json) :
    Option Answered :=
  match handler with
  | .gctl04 => gctl04Answer fate doc
  | .gctl07 => gctlRequestAnswer fate .info doc
  | .gctl10 => gctlRequestAnswer fate .del doc

/-- The handlers. -/
inductive ApiHandler where
  | connect
  | gate (handler : GateHandler)
  deriving DecidableEq, Repr

/-- What a request meets. -/
structure Fate where
  api : Api
  connect : ConnectFate
  gate : GateFate

def ApiHandler.answer (handler : ApiHandler) (fate : Fate) (body : Body) : Option Answer :=
  match handler with
  | .connect => gctlConnectAnswer fate.api body.connect fate.connect
  | .gate handler => (handler.answered fate.gate body.doc).map Answered.answer

/-! ## Which policies are read, and which are refused -/

/-- The name of a service class is a text, where there is one. -/
def nameRead (traffic : Option Json) : Bool :=
  match objGet traffic "service-class-name" with
  | some profile => (getStr (some profile)).isSome
  | none => true

/-- The classifiers are packed, up to the first one of no kind. -/
def packed : List (Option Json) -> Bool
  | [] => true
  | element :: elements =>
      match classifierOf element with
      | none => true
      | some classifier => packable classifier && packed elements

/-- No string is missed that `gctl_read_policy` uses. -/
def policyRead (input : Option Json) : Bool :=
  let gate := objGet input "gate"
  gate.isNone || (objGet gate "gate-spec").isNone ||
    nameRead (objGet gate "traffic-profile") && packed (loopElements input)

/-- A policy that passes the checks of `gctl_read_policy`. -/
def policyAccepted (input : Option Json) : Bool :=
  let gate := objGet input "gate"
  let traffic := objGet gate "traffic-profile"
  let elements := classifierElements (objGet gate "classifiers")
  gate.isSome && (objGet gate "gate-spec").isSome &&
    ((objGet traffic "service-class-name").isSome || (objGet traffic "flow-spec-profile").isSome) &&
    !elements.isEmpty && elements.all fun element => (classifierOf element).isSome

/-- What the reading of a policy leaves of the request as it was. -/
structure SameRequest (gc gc' : Gctl) : Prop where
  subscriberId : gc.subscriberId = gc'.subscriberId
  cmtsIp : gc.cmtsIp = gc'.cmtsIp
  dryRun : gc.dryRun = gc'.dryRun
  direction : gc.gate.direction = gc'.gate.direction

theorem readClassifier_isSome (addr : IpField -> UInt32) (dst : Buffer) (ptr : Nat)
    (element obj : Option Json) (kind : ClassifierKind) :
    (readClassifier addr dst ptr element obj kind).isSome = packable (kind, obj) := by
  rw [← writeClassifier_run, Writing.finished_of_run]
  exact writeClassifier_finished addr ptr element (kind, obj)

section Classifiers

variable {addr : Nat -> IpField -> UInt32}

theorem readClassifiers_isSome (i : Nat) (elements : List (Option Json)) (gc : Gctl)
    (dst : Buffer) : (readClassifiers addr i elements gc dst).isSome = packed elements := by
  induction elements generalizing i gc dst with
  | nil => rfl
  | cons element elements inductionHypothesis =>
      rw [readClassifiers, packed]
      cases classifierOf element with
      | none => rfl
      | some classifier =>
          rcases classifier with ⟨kind, obj⟩
          have first := readClassifier_isSome (addr i) dst gc.classifierSize element obj kind
          cases stored : readClassifier (addr i) dst gc.classifierSize element obj kind with
          | none =>
              rw [stored] at first
              simp only [stored, Option.bind_none, Option.isSome_none, ← first, Bool.false_and]
          | some dst' =>
              rw [stored] at first
              simp only [stored, Option.bind_some, inductionHypothesis, ← first,
                Option.isSome_some, Bool.true_and]

theorem readClassifiers_gc {i : Nat} {elements : List (Option Json)} {gc gc' : Gctl}
    {dst dst' : Buffer} (sound : gc.failed = false)
    (reads : readClassifiers addr i elements gc dst = some (gc', dst')) :
    gc'.failed = !elements.all (fun element => (classifierOf element).isSome) ∧
      SameRequest gc' gc := by
  induction elements generalizing i gc dst with
  | nil =>
      cases reads
      exact ⟨sound, rfl, rfl, rfl, rfl⟩
  | cons element elements inductionHypothesis =>
      rw [readClassifiers] at reads
      rw [List.all_cons]
      cases kind : classifierOf element with
      | none =>
          simp only [kind] at reads
          cases reads
          exact ⟨rfl, rfl, rfl, rfl, rfl⟩
      | some classifier =>
          simp only [kind] at reads
          rcases Option.bind_eq_some_iff.mp reads with ⟨stored, _, reads⟩
          rw [Option.isSome_some, Bool.true_and]
          rcases inductionHypothesis (by exact sound) reads with ⟨failed, same⟩
          exact ⟨failed, same.subscriberId, same.cmtsIp, same.dryRun, same.direction⟩

end Classifiers

section Policies

variable {locals : Locals} {input : Option Json} {behind : Memory}

theorem gctlReadClassifiers_isSome (classifiers : Option Json) (gc : Gctl)
    (classifier envelope : Buffer) :
    (gctlReadClassifiers locals classifiers gc classifier envelope).isSome =
      packed (classifierElements classifiers) := by
  unfold gctlReadClassifiers classifierElements
  dsimp only
  by_cases many : getLen classifiers = 0 ∨ 5 < getLen classifiers
  · rw [if_pos many, if_pos many]
    rfl
  · rw [if_neg many, if_neg many, Option.isSome_map, readClassifiers_isSome]

theorem gctlReadClassifiers_gc {classifiers : Option Json} {gc : Gctl}
    {classifier envelope : Buffer} {policy : Policy} (sound : gc.failed = false)
    (reads : gctlReadClassifiers locals classifiers gc classifier envelope = some policy) :
    policy.gc.failed = !(!(classifierElements classifiers).isEmpty &&
        (classifierElements classifiers).all fun element => (classifierOf element).isSome) ∧
      SameRequest policy.gc gc := by
  unfold gctlReadClassifiers at reads
  unfold classifierElements
  dsimp only at reads ⊢
  by_cases many : getLen classifiers = 0 ∨ 5 < getLen classifiers
  · rw [if_pos many] at reads
    rw [if_pos many]
    cases reads
    exact ⟨rfl, rfl, rfl, rfl, rfl⟩
  · rw [if_neg many] at reads
    rw [if_neg many]
    rcases Option.map_eq_some_iff.mp reads with ⟨⟨gc', stored⟩, read, rfl⟩
    have some' : ((List.range (getLen classifiers)).map (arrGet classifiers)).isEmpty = false := by
      rw [List.isEmpty_eq_false_iff, ← List.length_pos_iff, List.length_map, List.length_range]
      omega
    rcases readClassifiers_gc (by exact sound) read with ⟨failed, same⟩
    rw [some', Bool.not_false, Bool.true_and]
    exact ⟨failed, same.subscriberId, same.cmtsIp, same.dryRun, same.direction⟩

theorem readEnvelope_isSome (traffic : Option Json) (behind : Memory) (envelope : Buffer) :
    (readEnvelope traffic behind envelope).isSome = nameRead traffic := by
  unfold readEnvelope nameRead
  cases objGet traffic "service-class-name" with
  | some profile => exact Option.isSome_map
  | none => cases objGet traffic "flow-spec-profile" <;> rfl

theorem readEnvelope_profile {traffic : Option Json} {envelope : Buffer}
    {profile : Option (Buffer × Nat)} (reads : readEnvelope traffic behind envelope = some profile) :
    profile.isSome = profileRead traffic ∧ profileRead traffic =
      ((objGet traffic "service-class-name").isSome ||
        (objGet traffic "flow-spec-profile").isSome) := by
  unfold readEnvelope at reads
  unfold profileRead
  cases name : objGet traffic "service-class-name" with
  | some named =>
      simp only [name] at reads
      rcases Option.map_eq_some_iff.mp reads with ⟨scn, text, rfl⟩
      simp only [text, Option.isSome_some, Bool.true_or, and_self]
  | none =>
      simp only [name] at reads
      cases flow : objGet traffic "flow-spec-profile" with
      | some given =>
          simp only [flow] at reads
          cases reads
          exact ⟨rfl, rfl⟩
      | none =>
          simp only [flow] at reads
          cases reads
          exact ⟨rfl, rfl⟩

theorem gctlReadPolicy_isSome (classifier envelope : Buffer) :
    (gctlReadPolicy locals input behind classifier envelope).isSome = policyRead input := by
  unfold gctlReadPolicy policyRead loopElements
  dsimp only
  by_cases missing : (objGet input "gate").isNone ∨
      (objGet (objGet input "gate") "gate-spec").isNone
  · have either : ((objGet input "gate").isNone ||
        (objGet (objGet input "gate") "gate-spec").isNone) = true := Bool.or_eq_true_iff.mpr missing
    rw [if_pos missing, either, Bool.true_or]
    rfl
  · have neither : ((objGet input "gate").isNone ||
        (objGet (objGet input "gate") "gate-spec").isNone) = false := by
      rw [Bool.eq_false_iff]
      exact fun either => missing (Bool.or_eq_true_iff.mp either)
    rw [if_neg missing, if_neg missing, neither, Bool.false_or]
    have name := readEnvelope_isSome (objGet (objGet input "gate") "traffic-profile") behind envelope
    cases reads : readEnvelope (objGet (objGet input "gate") "traffic-profile") behind envelope with
    | none =>
        rw [reads] at name
        rw [Option.bind_none, ← name]
        rfl
    | some profile =>
        rw [reads] at name
        rw [Option.bind_some, ← name, Option.isSome_some, Bool.true_and]
        rcases readEnvelope_profile reads with ⟨there, _⟩
        cases profile with
        | none =>
            rw [← there]
            rfl
        | some stored =>
            rcases stored with ⟨envelope', size⟩
            rw [← there]
            exact gctlReadClassifiers_isSome _ _ _ _

/-- What the reading of a policy says of it: whether it is refused, and what of the
request is in it. -/
structure ReadAs (input : Option Json) (gc : Gctl) : Prop where
  failed : gc.failed = !policyAccepted input
  subscriberId : gc.subscriberId = gctlOtos input "subscriberId"
  cmtsIp : gc.cmtsIp = gctlOtos input "cmts_ip"
  dryRun : gc.dryRun = gctlOtoi input "dry_run"
  direction : gc.failed = false ->
    gc.gate.direction = gctlOtos (objGet (objGet input "gate") "gate-spec") "direction"

theorem gctlReadPolicy_gc {classifier envelope : Buffer} {policy : Policy}
    (reads : gctlReadPolicy locals input behind classifier envelope = some policy) :
    ReadAs input policy.gc := by
  unfold gctlReadPolicy at reads
  dsimp only at reads
  by_cases missing : (objGet input "gate").isNone ∨
      (objGet (objGet input "gate") "gate-spec").isNone
  · rw [if_pos missing] at reads
    cases reads
    refine ⟨?_, rfl, rfl, rfl, fun impossible => by cases impossible⟩
    rw [policyAccepted]
    rcases missing with none | none
    · simp only [Option.isNone_iff_eq_none.mp none, Option.isSome_none, Bool.false_and,
        Bool.not_false, gctlSetSchemaerr]
    · simp only [Option.isNone_iff_eq_none.mp none, Option.isSome_none, Bool.false_and,
        Bool.and_false, Bool.not_false, gctlSetSchemaerr]
  · rw [if_neg missing] at reads
    rcases not_or.mp missing with ⟨gate, spec⟩
    have gate : (objGet input "gate").isSome = true :=
      Option.isSome_iff_ne_none.mpr fun none => gate (by rw [none]; rfl)
    have spec : (objGet (objGet input "gate") "gate-spec").isSome = true :=
      Option.isSome_iff_ne_none.mpr fun none => spec (by rw [none]; rfl)
    rcases Option.bind_eq_some_iff.mp reads with ⟨profile, envelope', read⟩
    rcases readEnvelope_profile envelope' with ⟨there, either⟩
    have accepted : policyAccepted input =
        (profileRead (objGet (objGet input "gate") "traffic-profile") &&
          (!(classifierElements (objGet (objGet input "gate") "classifiers")).isEmpty &&
            (classifierElements (objGet (objGet input "gate") "classifiers")).all fun element =>
              (classifierOf element).isSome)) := by
      simp only [policyAccepted, gate, spec, either, Bool.true_and, Bool.and_assoc]
    cases profile with
    | none =>
        cases read
        rw [← there, Option.isSome_none, Bool.false_and] at accepted
        exact ⟨by rw [accepted]; rfl, rfl, rfl, rfl, fun impossible => by cases impossible⟩
    | some stored =>
        rcases stored with ⟨stored, size⟩
        rw [← there, Option.isSome_some, Bool.true_and] at accepted
        rcases gctlReadClassifiers_gc (by rfl) read with ⟨failed, same⟩
        exact ⟨by rw [accepted]; exact failed, same.subscriberId, same.cmtsIp, same.dryRun,
          fun _ => same.direction⟩

theorem gctl04Payload_isSome :
    (gctl04Payload locals input behind).isSome =
      (policyRead input && (!policyAccepted input ||
        (gctlOtos (objGet (objGet input "gate") "gate-spec") "direction").isSome)) := by
  have there : (gctlReadPolicy locals input behind (Buffer.cleared 320)
      (Buffer.cleared 92)).isSome = policyRead input := gctlReadPolicy_isSome _ _
  unfold gctl04Payload
  cases reads : gctlReadPolicy locals input behind (Buffer.cleared 320) (Buffer.cleared 92) with
  | none =>
      rw [reads] at there
      rw [Option.bind_none, ← there]
      rfl
  | some policy =>
      rw [reads] at there
      have read := gctlReadPolicy_gc reads
      rw [Option.bind_some, ← there, Option.isSome_some, Bool.true_and]
      dsimp only
      cases failed : policy.gc.failed with
      | true =>
          rw [read.failed] at failed
          rw [if_pos rfl, failed]
          rfl
      | false =>
          rw [← read.direction failed]
          rw [read.failed] at failed
          rw [if_neg Bool.false_ne_true, failed, Bool.false_or, Option.isSome_map, pcmmGate,
            Option.isSome_map, vtof, Option.isSome_map]

theorem gctl04Payload_refused {reason : Int32}
    (prepares : gctl04Payload locals input behind = some (.refused reason)) :
    policyAccepted input = false := by
  rcases Option.bind_eq_some_iff.mp prepares with ⟨policy, reads, prepares⟩
  dsimp only at prepares
  split at prepares
  · rename_i failed
    rw [(gctlReadPolicy_gc reads).failed] at failed
    exact (Bool.not_eq_true' _).mp failed
  · rcases Option.map_eq_some_iff.mp prepares with ⟨_, _, impossible⟩
    cases impossible

theorem gctl04Payload_accepted {gc : Gctl} {data : Buffer}
    (prepares : gctl04Payload locals input behind = some (.payload gc data)) :
    policyAccepted input = true ∧ ReadAs input gc := by
  rcases Option.bind_eq_some_iff.mp prepares with ⟨policy, reads, prepares⟩
  have read := gctlReadPolicy_gc reads
  dsimp only at prepares
  split at prepares
  · cases prepares
  · rename_i sound
    rcases Option.map_eq_some_iff.mp prepares with ⟨_, _, same⟩
    cases same
    rw [read.failed] at sound
    exact ⟨by simpa only [Bool.not_eq_true, Bool.not_eq_false'] using sound, read⟩

end Policies

/-- An empty table in front of a server that answers nothing. -/
def idleFate : Fate where
  api := { lcm := { maxpep := 20, clients := [] }, threads := fun _ => 0 }
  connect :=
    { getpsLock := true
      eventLock := fun _ => true
      allocLock := true
      created := true
      admitted := false
      thread := 0
      setLock := true
      tidLock := { first := true, reinit := false, second := false } }
  gate :=
    { locals := clearedLocals
      behind := fun _ => 0
      getps := fun _ => none
      txnId := 7
      write := .failed
      response := ""
      timings :=
        { build := { negative := false, whole := 0, micros := 0 }
          wait := { negative := false, whole := 15, micros := 0 }
          read := { negative := false, whole := 15, micros := 0 } } }

end PolicyServer
