import PolicyServer.HandlerAnswers

namespace PolicyServer

open Lib

/-!
# Strings that are not there

`gctl_otos` answers a null pointer for a member that is missing or no text, and the
handlers look at some of these pointers only.  `completes_iff` is which strings a
request needs, in the order in which the handlers come to them: a request that is
refused before a string is used may do without it.
-/

/-- An answer with an error, or with a message made. -/
def AnsweredOr (answered : Option Answered) : Prop :=
  Exists fun sent => answered = some sent ∧
    ((Exists fun code => Exists fun args => sent.answer = .error code args) ∨
      sent.message.isSome = true)

/-- What a connect request may be sent: an error or the session, both with the address
that it gave, and no body where it came without one or where a call on no string of it
failed.  It may wait for a lock that its own lookup has kept. -/
def ConnectAnswered (fate : Fate) (body : Body) : Answer -> Prop
  | .error _ args => body.cmtsIp.map (fun ip => [.text ip]) = some args
  | .connected ip => body.cmtsIp = some ip
  | .complete =>
      body.empty = true ∨ fate.connect.created = false ∨ fate.connect.tidLock.acquired = false
  | .stuck => body.cmtsIp.any (fun ip =>
      (lcmGetps fate.api.lcm ip fate.connect.getpsLock fate.connect.eventLock).held) = true
  | .dryRun | .report _ _ => False

/-- The handler uses no string that is not there, and answers.  A handler for gates
answers with an error, or makes a message. -/
def ApiHandler.Completes (handler : ApiHandler) (fate : Fate) (body : Body) : Prop :=
  match handler with
  | .connect => Exists fun answer =>
      gctlConnectAnswer fate.api body.connect fate.connect = some answer ∧
        ConnectAnswered fate body answer
  | .gate handler => AnsweredOr (handler.answered fate.gate body.doc)

/-- A subscriber whose address is there, and has a group if it is one of IPv6. -/
def subscriberNamed (input : Option Json) : Bool :=
  (gctlOtos input "subscriberId").any fun ip => !isIp6 ip || !(tokens ip).isEmpty

/-- No session is found, or the subscriber is named. -/
def ProxyNamed (fate : GateFate) (input : Option Json) : Prop :=
  fate.getps (gctlOtos input "cmts_ip") = none ∨ subscriberNamed input = true

/-- The strings that a handler needs of a request. -/
def ApiHandler.StringsThere (handler : ApiHandler) (fate : Fate) (body : Body) : Prop :=
  match handler with
  | .connect => body.empty = true ∨ body.cmtsIp.isSome = true
  | .gate .gctl04 => policyRead body.input = true ∧ (policyAccepted body.input = true ->
      (gctlOtos (objGet (objGet body.input "gate") "gate-spec") "direction").isSome = true ∧
        ProxyNamed fate.gate body.input)
  | .gate .gctl07 => ProxyNamed fate.gate body.input
  | .gate .gctl10 => ProxyNamed fate.gate body.input

theorem ctlSub_isSome (addr : UInt32) (ip : String) :
    (ctlSub addr ip).isSome = (!isIp6 ip || !(tokens ip).isEmpty) := by
  unfold ctlSub
  cases isIp6 ip with
  | false => rfl
  | true =>
      rw [if_pos rfl, pcmmSubscriber6Identifier, Option.isSome_map, packIp6, Bool.not_true,
        Bool.false_or]
      cases tokens ip with
      | nil => rfl
      | cons token rest => rfl

theorem psProxy_isSome {gc : Gctl} {input : Option Json}
    (same : gc.subscriberId = gctlOtos input "subscriberId") (addr : UInt32) (self : Session)
    (op : GateOp) (request : List UInt8) (txnId : UInt16) :
    (psProxy addr self op gc request txnId).isSome = subscriberNamed input := by
  rw [psProxy, same, subscriberNamed]
  cases gctlOtos input "subscriberId" with
  | none => rfl
  | some ip => rw [Option.bind_some, Option.isSome_map, ctlSub_isSome, Option.any_some]

theorem gctlProxied_completes_iff (fate : GateFate) (op : GateOp) {gc : Gctl}
    (request : List UInt8) (dryRun : Bool) {input : Option Json}
    (address : gc.cmtsIp = gctlOtos input "cmts_ip")
    (subscriber : gc.subscriberId = gctlOtos input "subscriberId") :
    AnsweredOr (gctlProxied fate op gc request dryRun) ↔ ProxyNamed fate input := by
  rw [ProxyNamed, ← address, gctlProxied]
  cases lookup : fate.getps gc.cmtsIp with
  | none => exact iff_of_true ⟨_, rfl, Or.inl ⟨_, _, rfl⟩⟩ (Or.inl rfl)
  | some ps =>
      have named := psProxy_isSome subscriber fate.locals.subscriber ps.session op request
        fate.txnId
      rw [or_iff_right (by simp only [reduceCtorEq, not_false_eq_true]), ← named]
      dsimp only
      cases psProxy fate.locals.subscriber ps.session op gc request fate.txnId with
      | none =>
          refine iff_of_false ?_ Bool.false_ne_true
          rintro ⟨sent, impossible, _⟩
          cases impossible
      | some built =>
          refine iff_of_true ⟨_, rfl, Or.inr ?_⟩ rfl
          rw [gctlAnswer_message]
          rfl

/-- Where the address is there, each branch of `gctl_connect` answers. -/
theorem connectAnswered_of_address (fate : Fate) {body : Body} {ip : String}
    (present : body.empty = false) (address : body.cmtsIp = some ip) :
    ApiHandler.connect.Completes fate body := by
  rw [ApiHandler.Completes, Body.connect, present, if_neg Bool.false_ne_true, gctlConnectAnswer]
  dsimp only
  rw [address, Option.map_some]
  refine ⟨_, rfl, ?_⟩
  have refused : forall code, ConnectAnswered fate body (.error code [.text ip]) := by
    intro code
    rw [ConnectAnswered, address]
    rfl
  split
  · exact refused 111
  split
  · rename_i held
    rw [ConnectAnswered, address]
    exact held
  split
  · exact refused 100
  split
  · exact refused 103
  split
  · rename_i failed
    exact Or.inr (Or.inl ((Bool.not_eq_true' _).mp failed))
  split
  · exact refused 102
  split
  · exact refused 102
  split
  · rename_i failed
    exact Or.inr (Or.inr ((Bool.not_eq_true' _).mp failed))
  · exact address

/-- A handler uses no missing string exactly if the strings that it comes to are there. -/
theorem completes_iff (handler : ApiHandler) (fate : Fate) (body : Body) :
    handler.Completes fate body ↔ handler.StringsThere fate body := by
  cases handler with
  | connect =>
      rw [ApiHandler.StringsThere]
      cases present : body.empty with
      | true =>
          refine iff_of_true ⟨.complete, ?_, Or.inl present⟩ (Or.inl rfl)
          rw [Body.connect, present, if_pos rfl, gctlConnectAnswer]
      | false =>
          rw [or_iff_right Bool.false_ne_true]
          cases address : body.cmtsIp with
          | some ip => exact iff_of_true (connectAnswered_of_address fate present address) rfl
          | none =>
              refine iff_of_false ?_ Bool.false_ne_true
              rintro ⟨answer, impossible, _⟩
              rw [Body.connect, present, if_neg Bool.false_ne_true, gctlConnectAnswer] at impossible
              dsimp only at impossible
              rw [address] at impossible
              cases impossible
  | gate handler =>
      cases handler with
      | gctl07 => exact gctlProxied_completes_iff fate.gate .info [] _ rfl rfl
      | gctl10 => exact gctlProxied_completes_iff fate.gate .del [] _ rfl rfl
      | gctl04 =>
          have there : (gctl04Payload fate.gate.locals body.input fate.gate.behind).isSome = _ :=
            gctl04Payload_isSome
          rw [ApiHandler.Completes, ApiHandler.StringsThere, GateHandler.answered, gctl04Answer]
          change AnsweredOr ((gctl04Payload fate.gate.locals body.input fate.gate.behind).bind _) ↔ _
          cases prepares : gctl04Payload fate.gate.locals body.input fate.gate.behind with
          | none =>
              rw [prepares, Option.isSome_none] at there
              rw [Option.bind_none]
              refine iff_of_false (fun ⟨sent, impossible, _⟩ => by cases impossible) ?_
              rintro ⟨read, strings⟩
              rw [read, Bool.true_and] at there
              cases accepted : policyAccepted body.input with
              | true =>
                  rw [accepted, (strings accepted).1] at there
                  cases there
              | false =>
                  rw [accepted] at there
                  cases there
          | some prepared =>
              rw [prepares, Option.isSome_some, eq_comm, Bool.and_eq_true] at there
              rw [Option.bind_some]
              cases prepared with
              | refused reason =>
                  refine iff_of_true ⟨_, rfl, Or.inl ⟨_, _, rfl⟩⟩ ⟨there.1, fun accepted => ?_⟩
                  rw [gctl04Payload_refused prepares] at accepted
                  cases accepted
              | payload gc data =>
                  rcases gctl04Payload_accepted prepares with ⟨accepted, read⟩
                  rw [accepted, Bool.not_true, Bool.false_or] at there
                  dsimp only
                  rw [gctlProxied_completes_iff fate.gate .set data.bytes _ read.cmtsIp
                    read.subscriberId]
                  exact ⟨fun named => ⟨there.1, fun _ => ⟨there.2, named⟩⟩,
                    fun strings => (strings.2 accepted).2⟩

/-- A body that is no JSON has no address, and `is_ip4` is called all the same. -/
theorem invalidJson_not_completed :
    ¬ ApiHandler.connect.Completes idleFate { empty := false, doc := none } := by
  rintro ⟨answer, impossible, _⟩
  cases impossible

end PolicyServer
