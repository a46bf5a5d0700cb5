import PolicyServer.HandlerAnswers

namespace PolicyServer

open Lib

/-!
# Waiting for a response

`ps_proxy` sends a message where `dry_run` is 0, `gctl_request` waits where it is 0, and
`gctl_04` waits where it is not positive.  `sock_write` drops what it cannot write and
tells nobody.  So a handler waits for the response to a message that was sent only where
the three agree and the socket takes the message.
-/

/-- The handler waits exactly if all of its message went into the socket of the session;
otherwise it answers at once, a dry run or an error. -/
structure WaitsForSent (answered : Answered) : Prop where
  waits : answered.waited = true ↔
    Exists fun message => answered.message = some message ∧ answered.put = message
  atOnce : answered.waited = false -> answered.answer = .dryRun ∨
    Exists fun code => Exists fun args => answered.answer = .error code args

/-- The socket of the session is connected, and takes the whole message. -/
def TakesMessage (fate : GateFate) (ps : Link) : Prop :=
  ps.connection = true ∧ fate.write = .whole

/-- Where the tests of a handler and of `ps_proxy` agree. -/
def GateHandler.Agrees (handler : GateHandler) (fate : GateFate) (dryRun : Int32) (ps : Link) :
    Prop :=
  match handler with
  | .gctl04 => 0 < dryRun ∨ dryRun = 0 ∧ TakesMessage fate ps
  | .gctl07 => dryRun ≠ 0 ∨ TakesMessage fate ps
  | .gctl10 => dryRun ≠ 0 ∨ TakesMessage fate ps

/-- No session is found, or there is agreement; of a policy, if it is accepted. -/
def GateHandler.Waits (handler : GateHandler) (fate : GateFate) (input : Option Json) : Prop :=
  (handler = .gctl04 -> policyAccepted input = true) ->
    forall ps, fate.getps (gctlOtos input "cmts_ip") = some ps ->
      handler.Agrees fate (gctlOtoi input "dry_run") ps

/-! ## One message -/

theorem psProxy_message_ne_nil {addr : UInt32} {self : Session} {op : GateOp} {gc : Gctl}
    {request : List UInt8} {txnId : UInt16} {built : Built}
    (proxied : psProxy addr self op gc request txnId = some built) : built.message.bytes ≠ [] := by
  rcases psProxy_parts proxied with ⟨ip, subscriber, _, _, rfl⟩
  have long : (psProxyBuild self.handle op gc ip request txnId subscriber).message.bytes.length =
      msgSize op gc ip request.length := by
    rw [psProxyBuild]
    dsimp only
    rw [newCopsMessage, Buffer.write_length, Buffer.write_length, Buffer.cleared_length]
  intro none
  rw [none, msgSize, List.length_nil] at long
  omega

/-- A message is on the socket as a whole exactly if the socket takes it. -/
theorem sockWrite_whole_iff (fate : GateFate) (ps : Link) {message : List UInt8}
    (some' : message ≠ []) :
    sockWrite ps.connection [] message (fate.write.bytes message.length) = message ↔
      TakesMessage fate ps := by
  have long : 0 < message.length := List.length_pos_iff.mpr some'
  unfold TakesMessage sockWrite
  cases ps.connection with
  | false =>
      rw [Bool.not_false, if_pos rfl]
      exact iff_of_false (Ne.symm some') fun impossible => by cases impossible.1
  | true =>
      rw [Bool.not_true, if_neg Bool.false_ne_true, and_iff_right rfl]
      cases fate.write with
      | whole => exact iff_of_true (List.take_length) rfl
      | failed => exact iff_of_false (Ne.symm some') fun impossible => by cases impossible
      | short bytes =>
          refine iff_of_false (fun same => ?_) fun impossible => by cases impossible
          have count : (message.take (min bytes (message.length - 1))).length = message.length :=
            congrArg List.length same
          rw [List.length_take] at count
          omega

/-- Where a session is found, the handler waits for what was sent exactly if its test
tells a message that is sent and taken from all else. -/
theorem gctlAnswer_waits_iff (fate : GateFate) (ps : Link) (gc : Gctl) {built : Built}
    (some' : built.message.bytes ≠ []) (dryRun : Bool) :
    WaitsForSent (gctlAnswer fate ps gc built dryRun) ↔
      (dryRun = false ↔ gc.dryRun = 0 ∧ TakesMessage fate ps) := by
  have put : (if gc.dryRun = 0 then sockWrite ps.connection [] built.message.bytes
      (fate.write.bytes built.message.bytes.length) else []) = built.message.bytes ↔
        gc.dryRun = 0 ∧ TakesMessage fate ps := by
    by_cases sent : gc.dryRun = 0
    · rw [if_pos sent, and_iff_right sent]
      exact sockWrite_whole_iff fate ps some'
    · rw [if_neg sent]
      exact iff_of_false (Ne.symm some') fun both => sent both.1
  have sent : (Exists fun message => (gctlAnswer fate ps gc built dryRun).message = some message ∧
      (gctlAnswer fate ps gc built dryRun).put = message) ↔
        gc.dryRun = 0 ∧ TakesMessage fate ps := by
    rw [gctlAnswer_message, gctlAnswer_put, ← put]
    constructor
    · rintro ⟨message, same, whole⟩
      exact whole.trans (Option.some.inj same).symm
    · exact fun whole => ⟨_, rfl, whole⟩
  have waits : (gctlAnswer fate ps gc built dryRun).waited = true ↔ dryRun = false := by
    rw [gctlAnswer_waited, Bool.not_eq_true']
  constructor
  · intro exact'
    rw [← waits, ← sent]
    exact exact'.waits
  · intro agree
    refine ⟨by rw [waits, sent]; exact agree, fun early => Or.inl ?_⟩
    rw [gctlAnswer_waited, Bool.not_eq_false'] at early
    rw [early]
    rfl

theorem early_waits (code : UInt8) (args : List Vararg) :
    WaitsForSent (.early (.error code args)) := by
  refine ⟨iff_of_false Bool.false_ne_true ?_, fun _ => Or.inr ⟨code, args, rfl⟩⟩
  rintro ⟨message, impossible, _⟩
  cases impossible

theorem gctlProxied_waits_iff {fate : GateFate} {op : GateOp} {gc : Gctl} {request : List UInt8}
    {dryRun : Bool} {answered : Answered}
    (answers : gctlProxied fate op gc request dryRun = some answered) :
    WaitsForSent answered ↔ forall ps, fate.getps gc.cmtsIp = some ps ->
      (dryRun = false ↔ gc.dryRun = 0 ∧ TakesMessage fate ps) := by
  unfold gctlProxied at answers
  cases lookup : fate.getps gc.cmtsIp with
  | none =>
      rw [lookup] at answers
      cases answers
      exact iff_of_true (early_waits _ _) fun ps impossible => by cases impossible
  | some ps =>
      rw [lookup] at answers
      rcases Option.map_eq_some_iff.mp answers with ⟨built, proxied, rfl⟩
      rw [gctlAnswer_waits_iff fate ps gc (psProxy_message_ne_nil proxied)]
      constructor
      · intro agree other same
        cases same
        exact agree
      · exact fun all => all ps rfl

/-! ## The handlers -/

theorem gctlRequest_agrees_iff (dryRun : Int32) (taken : Prop) :
    (decide (dryRun ≠ 0) = false ↔ dryRun = 0 ∧ taken) ↔ dryRun ≠ 0 ∨ taken := by
  by_cases zero : dryRun = 0
  · simp only [zero, ne_eq, not_true_eq_false, decide_false, true_and, true_iff, false_or]
  · simp only [zero, ne_eq, not_false_eq_true, decide_true, false_and, true_or,
      Bool.true_eq_false]

theorem gctl04_agrees_iff (dryRun : Int32) (taken : Prop) :
    (decide (0 < dryRun) = false ↔ dryRun = 0 ∧ taken) ↔ 0 < dryRun ∨ dryRun = 0 ∧ taken := by
  by_cases positive : 0 < dryRun
  · have other : dryRun ≠ 0 := by
      rintro rfl
      exact absurd positive (by decide)
    simp only [positive, decide_true, other, false_and, true_or, Bool.true_eq_false]
  · simp only [positive, decide_false, true_iff, false_or]

theorem gctlRequest_waits_iff {fate : GateFate} {op : GateOp} {doc : Option Json}
    {answered : Answered} (answers : gctlRequestAnswer fate op doc = some answered) :
    WaitsForSent answered ↔ forall ps,
      fate.getps (gctlOtos (gctlYtoi doc) "cmts_ip") = some ps ->
        gctlOtoi (gctlYtoi doc) "dry_run" ≠ 0 ∨ TakesMessage fate ps := by
  rw [gctlProxied_waits_iff answers]
  constructor
  · intro agree ps found
    exact (gctlRequest_agrees_iff _ _).mp (agree ps found)
  · intro agree ps found
    exact (gctlRequest_agrees_iff _ _).mpr (agree ps found)

/-- A handler waits for what was sent exactly where its test for a dry run and the one of
`ps_proxy` agree, and the message that is sent is taken. -/
theorem waitsForSent_iff (handler : GateHandler) (fate : GateFate) (body : Body)
    (answered : Answered) (answers : handler.answered fate body.doc = some answered) :
    WaitsForSent answered ↔ handler.Waits fate body.input := by
  cases handler with
  | gctl07 | gctl10 =>
      exact (gctlRequest_waits_iff answers).trans
        ⟨fun all _ => all, fun all => all fun impossible => by cases impossible⟩
  | gctl04 =>
      rw [GateHandler.Waits]
      rcases Option.bind_eq_some_iff.mp answers with ⟨prepared, prepares, answers⟩
      cases prepared with
      | refused reason =>
          cases answers
          refine iff_of_true (early_waits _ _) fun accepted => ?_
          rw [Body.input, gctl04Payload_refused prepares] at accepted
          cases accepted rfl
      | payload gc data =>
          rcases gctl04Payload_accepted prepares with ⟨accepted, read⟩
          rw [gctlProxied_waits_iff answers, read.cmtsIp, read.dryRun]
          constructor
          · intro agree _ ps found
            exact (gctl04_agrees_iff _ _).mp (agree ps found)
          · intro agree ps found
            exact (gctl04_agrees_iff _ _).mpr (agree (fun _ => accepted) ps found)

/-- A Gate-Info for a subscriber, to a session whose socket is not connected. -/
def infoBody : Body where
  empty := false
  doc := some (.obj [("input", .obj [("cmts_ip", .str "10.0.0.1"),
    ("subscriberId", .str "10.1.1.1"), ("gateId", .int 7), ("dry_run", .int 0)])])

def linkFate (connection : Bool) : GateFate where
  locals := clearedLocals
  behind := fun _ => 0
  getps := fun _ => some { session := { handle := [0, 0, 1, 7], uuidReceived := true }, connection }
  txnId := 7
  write := .whole
  response := ""
  timings := idleFate.gate.timings

theorem linkFate_answers (connection : Bool) :
    (GateHandler.gctl07.answered (linkFate connection) infoBody.doc).isSome = true := by
  cases connection <;> decide +kernel

theorem waitsForSent_iff_connected :
    Exists fun answered => GateHandler.gctl07.answered (linkFate true) infoBody.doc = some answered ∧
      (WaitsForSent answered ↔ GateHandler.gctl07.Waits (linkFate true) infoBody.input) := by
  rcases Option.isSome_iff_exists.mp (linkFate_answers true) with ⟨answered, answers⟩
  exact ⟨answered, answers, waitsForSent_iff .gctl07 (linkFate true) infoBody answered answers⟩

/-- A message for a broken session is dropped, and waited for. -/
theorem dropped_waited : Exists fun answered =>
    GateHandler.gctl07.answered (linkFate false) infoBody.doc = some answered ∧
      answered.waited = true ∧ answered.put = [] ∧ ¬ WaitsForSent answered := by
  rcases Option.isSome_iff_exists.mp (linkFate_answers false) with ⟨answered, answers⟩
  have early : (GateHandler.gctl07.answered (linkFate false) infoBody.doc).all
      (fun answered => answered.waited && answered.put.isEmpty) = true := by decide +kernel
  rw [answers, Option.all_some, Bool.and_eq_true] at early
  refine ⟨answered, answers, early.1, List.isEmpty_iff.mp early.2, ?_⟩
  have asked : gctlRequestAnswer (linkFate false) .info infoBody.doc = some answered := answers
  rw [gctlRequest_waits_iff asked]
  intro taken
  have zero : gctlOtoi infoBody.input "dry_run" = 0 := by decide
  rcases taken _ rfl with other | connected
  · exact other zero
  · cases connected.1

end PolicyServer
