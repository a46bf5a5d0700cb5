import PolicyServer.CarriedMessages
import PolicyServer.ReportBuffers

namespace PolicyServer

open Lib

/-!
# Every answer to its own decision

With the messages in their places every step of the conversation is one of the exchange
in which responses are matched to requests, or none (`projects_step`).  So a handler that
returns has what the peer has answered to the bytes this handler has sent, and no other
(`returned_own_answer`); no decision is lost on the way, or answered twice
(`decisions_conserved`); and a response that has been written is found by its handler,
however long it polls (`response_found`).
-/

namespace Exchange

/-- A step of the exchange that keeps the responses apart keeps what holds of them. -/
theorem matching_step {exchange after : Exchange} {label : ExchangeLabel}
    (matching : exchange.Matching) (matched : Matched exchange label)
    (moved : exchange.step label = some after) : after.Matching := by
  cases label with
  | handler handler label => exact matching_handler matching matched moved
  | report session answers decoded opens => exact matching_report matching matched moved
  | close session => exact matching_close matching moved

theorem matched_of_polls {exchange : Exchange} {handler : Nat} {label : HandlerLabel}
    (polls : label.Polls) : Matched exchange (.handler handler label) := by
  cases label with
  | draw id session => cases polls
  | send written => trivial
  | «open» => trivial
  | fgets => trivial
  | remove => trivial
  | expire => trivial

end Exchange

theorem Ready.matching (ready : Ready) : ready.exchange.Matching where
  fresh := fun _ _ => rfl
  waiting := fun _ impossible => impossible.elim
  opened := fun _ _ impossible => Handler.noConfusion impossible
  answered := by
    rintro _ _ (impossible | impossible) <;> cases impossible
  files := fun id file found =>
    absurd ((ready.vacant id).symm.trans found) (Option.some_ne_none file).symm
  writers := fun _ number impossible => absurd impossible (Option.some_ne_none number).symm

/-! ## The line of a report -/

theorem PeerReport.tabled (report : PeerReport) : report.decoded.rpt.Tabled := by
  have counted : report.info.size = totalSize report.objects + 4 := by
    rw [Object.size, report.tiled, encode_length]
  have fits := report.info.fits
  refine Produced.tabled (produced_of_known report.known report.long ?_)
  rw [← counted]
  exact fits

theorem PeerReport.response_text (report : PeerReport) {path text : String}
    (response : report.decoded.response = some (path, text)) :
    text = (writeReport report.decoded.rpt report.decoded.classifierType).text := by
  unfold Decoded.response psPcmmReportDecision at response
  split at response
  · cases response
  split at response
  · cases response
  · rename_i written
    split at written
    · cases written
    · cases written
      cases response
      rfl

/-- The text of a response is a line of some characters. -/
theorem PeerReport.response_line (report : PeerReport) {path text : String}
    (response : report.decoded.response = some (path, text)) :
    printable text = true ∧ text.length < 400 ∧ text.toList ≠ [] := by
  have length := writeReport_length report.decoded.rpt report.decoded.classifierType
  have long := (report.tabled.line_le report.decoded.classifierType).1
  have some' : 63 ≤ report.decoded.rpt.formWidth report.decoded.classifierType := by
    unfold PcmmRpt.formWidth
    split
    · decide
    · split
      · decide
      · split <;> decide
  rw [report.response_text response]
  refine ⟨writeReport_printable report.tabled _, by omega, ?_⟩
  intro none
  have zero := congrArg List.length none
  rw [String.length_toList, List.length_nil] at zero
  omega

namespace Conversation

/-! ## The exchange behind the bytes -/

section Projection

variable {way : Way} {self after : Conversation}

/-- A step of a handler but for the send draws an id or polls. -/
theorem handlerStep_cases {handler : Nat} {label : HandlerLabel}
    (moved : self.handlerStep handler label = some after) :
    Exists fun exchange => self.exchange.handlerStep handler label = some exchange ∧
      after = { self with exchange } ∧
        ((Exists fun id => Exists fun session => label = .draw id session) ∨ label.Polls) := by
  cases label with
  | send written => cases moved
  | draw id session =>
      rcases Option.map_eq_some_iff.mp moved with ⟨exchange, stepped, rfl⟩
      exact ⟨exchange, stepped, rfl, Or.inl ⟨id, session, rfl⟩⟩
  | «open» | fgets | remove | expire =>
      rcases Option.map_eq_some_iff.mp moved with ⟨exchange, stepped, rfl⟩
      exact ⟨exchange, stepped, rfl, Or.inr trivial⟩

/-- A response is begun: the report answers the request that drew its id last. -/
theorem projects_receive {session : Nat} {message : FromPeer} {opens : Bool}
    (carries : Carries way self) (member : message ∈ way.coming session)
    (idle : self.exchange.writers session = none) :
    self.exchange.takeFiles session message.handler opens message.action.toList = self.exchange ∨
      Exists fun label => Matched self.exchange label ∧ self.exchange.step label =
        some (self.exchange.takeFiles session message.handler opens message.action.toList) := by
  rcases carries.taken_cases member idle opens with same | ⟨handler, report, path, text, rfl,
    response, rfl, taken⟩
  · exact Or.inl same
  · refine Or.inr ⟨.report session (some handler) report.decoded true, ?_, ?_⟩
    all_goals
      rcases carries.comes session _ member with ⟨asked, asks, transaction, _⟩
      rcases asks.request with ⟨request, requested, here, latest, transaction'⟩
      have id : report.decoded.rpt.transactionId = request.id :=
        Option.some.inj (transaction.symm.trans transaction')
    · intro _ _
      rw [id]
      exact ⟨nofun, latest⟩
    · have answering : self.exchange.Answering session (some handler)
          report.decoded.rpt.transactionId := by
        intro other same
        cases Option.some.inj same
        rw [id, ← here]
        exact ⟨requested, asks.sent⟩
      change self.exchange.reportStep session (some handler) report.decoded true = _
      rw [Exchange.reportStep, if_pos ⟨answering, idle⟩, response, taken]
      rfl

/-- Steps that no handler takes part in, and no file. -/
def OnWire : ConversationLabel -> Prop
  | .fetch _ | .answer _ _ _ | .notice _ _ | .remark _ _ | .connect _ | .accept _ _ | .expire _ =>
      True
  | .handler _ _ | .send _ _ _ _ _ | .receive _ _ _ _ _ | .close _ => False

theorem exchange_of_onWire {label : ConversationLabel} (moved : self.step label = some after)
    (onWire : OnWire label) : after.exchange = self.exchange := by
  cases label with
  | handler handler label => exact onWire.elim
  | send handler order connection bytes leads => exact onWire.elim
  | receive session stack arrived opens echoed => exact onWire.elim
  | close session => exact onWire.elim
  | fetch session =>
      rcases Option.map_eq_some_iff.mp moved with ⟨taken, _, rfl⟩
      rfl
  | answer session index report =>
      rcases Option.bind_eq_some_iff.mp moved with ⟨asked, _, moved⟩
      split at moved
      · cases moved
        rfl
      · cases moved
  | notice session report | remark session frame =>
      cases moved
      rfl
  | connect session =>
      change self.connectStep session = some after at moved
      unfold connectStep at moved
      split at moved
      · cases moved
        rfl
      · cases moved
  | accept session bytes =>
      change self.acceptStep session bytes = some after at moved
      unfold acceptStep at moved
      split at moved
      · cases moved
        rfl
      · cases moved
  | expire session =>
      rcases Option.map_eq_some_iff.mp moved with ⟨standing, _, rfl⟩
      rfl

/-- A step on the bytes is one of the exchange that keeps the responses apart, or leaves the
exchange as it is. -/
theorem projects_step {label : ConversationLabel} (carries : Carries way self)
    (conforming : Conforming self label) (moved : self.step label = some after) :
    after.exchange = self.exchange ∨
      Exists fun label => Matched self.exchange label ∧
        self.exchange.step label = some after.exchange := by
  cases label with
  | handler handler label =>
      rcases handlerStep_cases moved with ⟨exchange, stepped, rfl, ⟨id, session, rfl⟩ | polls⟩
      · exact Or.inr ⟨.handler handler (.draw id session), conforming.1, stepped⟩
      · exact Or.inr ⟨.handler handler label, Exchange.matched_of_polls polls, stepped⟩
  | send handler order connection bytes leads =>
      rcases Option.bind_eq_some_iff.mp moved with ⟨request, asked, moved⟩
      rcases Option.bind_eq_some_iff.mp moved with ⟨message, made, moved⟩
      rcases Option.map_eq_some_iff.mp moved with ⟨exchange, stepped, rfl⟩
      exact Or.inr ⟨.handler handler (.send _), trivial, stepped⟩
  | fetch session | answer session index report | notice session report | remark session frame
  | connect session | accept session bytes | expire session =>
      exact Or.inl (exchange_of_onWire moved trivial)
  | receive session stack arrived opens echoed =>
      rcases carries.receive_cases conforming moved with
        ⟨message, rest, put, sessions, standings, first, idle, _, rfl | rfl⟩
      · exact projects_receive carries (first ▸ List.mem_cons_self) idle
      · exact projects_receive carries (first ▸ List.mem_cons_self) idle
  | close session =>
      rcases Option.map_eq_some_iff.mp moved with ⟨exchange, stepped, rfl⟩
      exact Or.inr ⟨.close session, trivial, stepped⟩

theorem carries_step {label : ConversationLabel} (carries : Carries way self)
    (matching : self.exchange.Matching) (conforming : Conforming self label)
    (moved : self.step label = some after) : Exists fun way => Carries way after := by
  cases label with
  | handler handler label =>
      rcases handlerStep_cases moved with ⟨exchange, stepped, rfl, ⟨id, session, rfl⟩ | polls⟩
      · exact ⟨way, carries_draw carries matching conforming stepped⟩
      · exact ⟨way, carries_poll carries polls stepped⟩
  | send handler order connection bytes leads => exact carries_send carries matching conforming moved
  | fetch session => exact carries_fetch carries moved
  | answer session index report => exact carries_answer carries moved
  | notice session report =>
      cases moved
      have comes : self.Comes session (.notice report) := conforming
      exact carries_tell carries rfl comes
  | remark session frame =>
      cases moved
      have comes : self.Comes session (.remark frame) := conforming
      exact carries_tell carries rfl comes
  | connect session => exact carries_connect carries moved
  | accept session bytes => exact carries_accept carries conforming moved
  | expire session => exact ⟨way, carries_expire carries moved⟩
  | receive session stack arrived opens echoed => exact carries_receive carries conforming moved
  | close session =>
      rcases Option.map_eq_some_iff.mp moved with ⟨exchange, stepped, rfl⟩
      exact ⟨way, carries_close carries stepped⟩

end Projection

/-- What holds in every state of a run without accidents. -/
structure Orderly (ready : Ready) (conversation : Conversation) : Prop where
  carries : Exists fun way => Carries way conversation
  matching : conversation.exchange.Matching
  projected : System.Run Exchange.step Matched ready.exchange conversation.exchange

theorem Orderly.step {ready : Ready} {self after : Conversation} {label : ConversationLabel}
    (orderly : self.Orderly ready) (conforming : Conforming self label)
    (moved : self.step label = some after) : after.Orderly ready := by
  rcases orderly with ⟨⟨way, carries⟩, matching, projected⟩
  have kept := carries_step carries matching conforming moved
  rcases projects_step carries conforming moved with same | ⟨label', matched, stepped⟩
  · exact ⟨kept, same ▸ matching, same ▸ projected⟩
  · exact ⟨kept, Exchange.matching_step matching matched stepped,
      .next projected label' matched stepped⟩

theorem orderly_of_run {ready : Ready} {conversation : Conversation}
    (reached : System.Run step Conforming (start ready) conversation) :
    conversation.Orderly ready :=
  reached.invariant (Orderly ready)
    (fun _ _ _ orderly conforming moved => orderly.step conforming moved)
    ⟨⟨_, carries_start ready⟩, ready.matching, .start⟩

theorem Orderly.returned {ready : Ready} {self : Conversation} (orderly : self.Orderly ready)
    {handler : Nat}
    {text : List Byte} (returned : self.exchange.handlers handler = .returned text) :
    Exists fun turn => Exists fun decision => Exists fun path => Exists fun response =>
      turn ∈ self.turns ∧ self.decisions handler = some decision ∧
        turn.asked = mark (some handler) decision ∧
          decisionTransaction decision = some turn.report.transaction ∧
            turn.report.decoded.response = some (path, response) ∧
              text.map Prod.fst = response.toList := by
  rcases orderly with ⟨⟨way, carries⟩, matching, _⟩
  rcases matching.answered handler text (Or.inr returned) with
    ⟨number, report, found, answers, rfl⟩
  rcases carries.solicited report handler (List.mem_of_getElem? found) answers with
    ⟨turn, member, own, path, response⟩
  rcases carries.taken turn member with ⟨other, decision, asked, whole, decided, _, transaction⟩
  rw [asked, owner_mark _ (frames_delimited.filled _ whole)] at own
  cases Option.some.inj own
  rcases turn.report.response_line response with ⟨plain, short, _⟩
  refine ⟨turn, decision, path, report.text, member, decided, asked, transaction, response, ?_⟩
  rw [fgets_line plain short, tagged, List.map_map]
  exact List.map_id _

/-- Marked bytes are cut by the same length fields. -/
def markedReader : WordReader fun message : List Marked => IsFrame (message.map Prod.fst) where
  next := takeMessage Prod.fst
  finds := fun _ rest isFrame => takeMessage_frame isFrame rest
  waits := fun _ _ isFrame front rest => takeMessage_part isFrame front rest

/-- Where a decision of this session can be: on a connection that was given up, on the way
to the peer, with the peer, and among those that were answered. -/
def places (self : Conversation) (session : Nat) : List (List Marked) :=
  markedReader.read (self.lost session) ++ markedReader.read (self.down session) ++
    self.pending session ++ self.turns.map Turn.asked

theorem marked_delimited : Delimited fun message : List Marked =>
    IsFrame (message.map Prod.fst) where
  filled := by
    rintro message isFrame rfl
    exact frames_delimited.filled _ isFrame rfl
  apart := by
    intro left right isLeft isRight front
    have bytes := frames_delimited.apart _ _ isLeft isRight (front.map Prod.fst)
    have lengths := congrArg List.length bytes
    rw [List.length_map, List.length_map] at lengths
    exact front.eq_of_length lengths

section Places

variable {way : Way} {self : Conversation}

theorem Carries.places_eq (carries : Carries way self) (session : Nat) :
    self.places session = (way.gone session).map ToPeer.marked ++
      (way.wire session).map ToPeer.marked ++ (way.read session).map ToPeer.marked ++
        self.turns.map Turn.asked := by
  have cut (messages : List ToPeer) (whole : forall message, message ∈ messages ->
      IsFrame message.2) : markedReader.read (messages.flatMap ToPeer.marked) =
        messages.map ToPeer.marked := by
    have each : forall message, message ∈ messages.map ToPeer.marked ->
        IsFrame (message.map Prod.fst) := by
      intro message member
      rcases List.mem_map.mp member with ⟨sent, inside, rfl⟩
      rw [ToPeer.marked, mark_bytes]
      exact whole sent inside
    exact markedReader.read_flatten marked_delimited each
  rw [places, carries.lost, carries.down, carries.pending,
    cut _ fun message member => (carries.missed session message member).whole,
    cut _ fun message member => (carries.wired session message member).whole]

/-- What is there of a handler is its decision. -/
theorem Carries.place_mem (carries : Carries way self) {session handler : Nat}
    {message : List Marked} (member : message ∈ self.places session)
    (own : owner message = some handler) :
    Exists fun decision => self.decisions handler = some decision ∧
      message = mark (some handler) decision := by
  have decided {sent : ToPeer} (missed : self.Missed session sent)
      (own : owner sent.marked = some handler) :
      Exists fun decision => self.decisions handler = some decision ∧
        sent.marked = mark (some handler) decision := by
    have who := own
    rw [ToPeer.marked, owner_mark _ (frames_delimited.filled _ missed.whole)] at who
    exact ⟨sent.2, (missed.sent handler who).2.1, by rw [ToPeer.marked, who]⟩
  rw [carries.places_eq] at member
  rcases List.mem_append.mp member with open' | answered
  · rcases List.mem_append.mp open' with outside | there
    · rcases List.mem_append.mp outside with there | there
      · rcases List.mem_map.mp there with ⟨sent, inside, rfl⟩
        exact decided (carries.missed session sent inside) own
      · rcases List.mem_map.mp there with ⟨sent, inside, rfl⟩
        exact decided (carries.wired session sent inside).missed own
    · rcases List.mem_map.mp there with ⟨sent, inside, rfl⟩
      exact decided (carries.read session sent inside).missed own
  · rcases List.mem_map.mp answered with ⟨turn, inside, rfl⟩
    rcases carries.taken turn inside with ⟨other, decision, asked, whole, decided, _⟩
    rw [asked, owner_mark _ (frames_delimited.filled _ whole)] at own
    cases Option.some.inj own
    exact ⟨decision, decided, asked⟩

theorem Carries.places_count (carries : Carries way self) (session handler : Nat) :
    (self.places session).countP (fun message => owner message = some handler) =
      way.tally self.turns session handler := by
  have owners : forall messages : List ToPeer, (forall message, message ∈ messages ->
      IsFrame message.2) ->
        (messages.map ToPeer.marked).countP (fun message => owner message = some handler) =
          (messages.map Prod.fst).count (some handler) := by
    intro messages each
    rw [List.count_eq_countP, List.countP_map, List.countP_map]
    apply List.countP_congr
    intro message member
    have filled := frames_delimited.filled _ (each message member)
    simp only [Function.comp, ToPeer.marked, owner_mark _ filled, decide_eq_true_eq, beq_iff_eq]
  rw [carries.places_eq, List.countP_append, List.countP_append, List.countP_append,
    owners _ fun message member => (carries.missed session message member).whole,
    owners _ fun message member => (carries.wired session message member).whole,
    owners _ fun message member => (carries.read session message member).whole, Way.tally]
  congr 1
  rw [List.count_eq_countP, List.countP_map, List.countP_map]
  apply List.countP_congr
  intro turn _
  simp only [Function.comp, decide_eq_true_eq, beq_iff_eq]

end Places

/-- In every state of a run without accidents, the decision of a handler that the kernel has
taken is in one place: on the way, with the peer, among those that were answered, or lost
with a connection. -/
theorem decisions_conserved (ready : Ready) (conversation : Conversation)
    (reached : System.Run step Conforming (start ready) conversation) (handler : Nat)
    (request : Request) (asked : conversation.exchange.requests handler = some request)
    (sent : conversation.exchange.sent handler = true) :
    Exists fun decision => conversation.decisions handler = some decision ∧
      (conversation.places request.session).filter (fun message => owner message = some handler) =
        [mark (some handler) decision] := by
  rcases orderly_of_run reached with ⟨⟨way, carries⟩, _, _⟩
  have counted := carries.places_count request.session handler
  have one : way.tally conversation.turns request.session handler = 1 :=
    Nat.le_antisymm (carries.once request.session handler)
      (carries.present handler request asked sent)
  rw [one, List.countP_eq_length_filter] at counted
  rcases List.length_eq_one_iff.mp counted with ⟨message, alone⟩
  have member : message ∈ (conversation.places request.session).filter
      (fun message => owner message = some handler) := alone ▸ List.mem_cons_self
  rcases List.mem_filter.mp member with ⟨inside, own⟩
  rcases carries.place_mem inside (of_decide_eq_true own) with ⟨decision, decided, same⟩
  exact ⟨decision, decided, by rw [alone, same]⟩

/-! ## A response that is written is found -/

/-- The handler looks for its file, or has it open. -/
def Looks (exchange : Exchange) (handler : Nat) : Prop :=
  exchange.handlers handler = .polling ∨
    Exists fun file => exchange.handlers handler = .opened file

theorem Looks.waiting {exchange : Exchange} {handler : Nat} (looks : Looks exchange handler) :
    (exchange.handlers handler).Waiting := by
  rcases looks with polls | ⟨file, isOpened⟩
  · rw [polls]
    trivial
  · rw [isOpened]
    trivial

/-- The file of the request has the text of the report, or is about to get it. -/
def Stored (exchange : Exchange) (request : Request) (number : Nat) (text : String) : Prop :=
  Exists fun file => exchange.disk.names (gctlDecisionFile request.id) = some file ∧
    (exchange.disk.content file = tagged text number ∨
      exchange.writers request.session = some { file, number, text })

/-- What was written for a handler stays until it has read it. -/
def Kept (exchange : Exchange) : Prop :=
  forall number report handler request, exchange.reports[number]? = some report ->
    report.answers = some handler -> exchange.requests handler = some request ->
      Looks exchange handler -> Stored exchange request number report.text

theorem kept_start (ready : Ready) : Kept ready.exchange := by
  intro _ _ _ _ found
  cases found

section Kept

variable {way : Way} {self after : Conversation}

/-- A handler looks for its file only if it did before, or has just sent its decision. -/
theorem looks_of_move {exchange : Exchange} {handler other : Nat} {place : Handler}
    (looks : Looks (exchange.move handler place) other) :
    other = handler ∧ (place = .polling ∨ Exists fun file => place = .opened file) ∨
      other ≠ handler ∧ Looks exchange other := by
  rcases looks with there | ⟨file, there⟩
  · rcases update_cases there with ⟨same, isPlace⟩ | ⟨apart, before⟩
    · exact Or.inl ⟨same, Or.inl isPlace⟩
    · exact Or.inr ⟨apart, Or.inl before⟩
  · rcases update_cases there with ⟨same, isPlace⟩ | ⟨apart, before⟩
    · exact Or.inl ⟨same, Or.inr ⟨file, isPlace⟩⟩
    · exact Or.inr ⟨apart, Or.inr ⟨file, before⟩⟩

theorem kept_poll {exchange after : Exchange} {handler : Nat} {label : HandlerLabel}
    (kept : Kept exchange) (matching : exchange.Matching) (polls : label.Polls)
    (moved : exchange.handlerStep handler label = some after) : Kept after := by
  cases label with
  | draw id session => cases polls
  | send written => cases polls
  | «open» =>
      simp only [Exchange.handlerStep] at moved
      split at moved
      · rename_i polling _
        split at moved
        · cases moved
          intro number report other request found answers asked looks
          refine kept number report other request found answers asked ?_
          rcases looks_of_move looks with ⟨rfl, _⟩ | ⟨_, before⟩
          · exact Or.inl polling
          · exact before
        · cases moved
          exact kept
      · cases moved
  | fgets =>
      simp only [Exchange.handlerStep] at moved
      split at moved
      · rename_i file isOpened
        have moves : forall place, Kept (exchange.move handler place) := by
          intro place number report other request found answers asked looks
          refine kept number report other request found answers asked ?_
          rcases looks_of_move looks with ⟨rfl, _⟩ | ⟨_, before⟩
          · exact Or.inr ⟨file, isOpened⟩
          · exact before
        split at moved <;> cases moved
        · exact moves _
        · exact moves _
      · cases moved
  | remove =>
      simp only [Exchange.handlerStep] at moved
      split at moved
      · rename_i text request' isRead asked'
        cases moved
        intro number report other request found answers asked looks
        have looks : Looks (exchange.move handler (.returned text)) other := looks
        rcases looks_of_move looks with ⟨_, impossible | ⟨_, impossible⟩⟩ | ⟨apart, before⟩
        · cases impossible
        · cases impossible
        · rcases kept number report other request found answers asked before with
            ⟨file, named, there⟩
          have differs : gctlDecisionFile request.id ≠ gctlDecisionFile request'.id := by
            intro same
            have waits : (exchange.handlers handler).Waiting := by
              rw [isRead]
              trivial
            exact apart (matching.alone before.waiting waits asked asked'
              (gctlDecisionFile_injective same))
          exact ⟨file, (Disk.unlink_of_ne _ differs).trans named, there⟩
      · cases moved
  | expire =>
      simp only [Exchange.handlerStep] at moved
      split at moved
      · cases moved
        intro number report other request found answers asked looks
        rcases looks_of_move looks with ⟨_, impossible | ⟨_, impossible⟩⟩ | ⟨_, before⟩
        · cases impossible
        · cases impossible
        · exact kept number report other request found answers asked before
      · cases moved

theorem kept_draw {exchange after : Exchange} {handler session : Nat} {id : UInt16}
    (kept : Kept exchange)
    (moved : exchange.handlerStep handler (.draw id session) = some after) : Kept after := by
  simp only [Exchange.handlerStep] at moved
  split at moved
  · cases moved
    intro number report other request found answers asked looks
    have looks : Looks (exchange.move handler .drawn) other := looks
    rcases looks_of_move looks with ⟨_, impossible | ⟨_, impossible⟩⟩ | ⟨apart, before⟩
    · cases impossible
    · cases impossible
    · exact kept number report other request found answers
        ((Function.update_of_ne apart ..).symm.trans asked) before
  · cases moved

/-- A handler that has just sent its decision has no response yet. -/
theorem kept_send {exchange : Exchange} {handler : Nat} {written : Bool}
    (carries : Carries way self) (kept : Kept self.exchange)
    (moved : self.exchange.handlerStep handler (.send written) = some exchange) :
    Kept exchange := by
  simp only [Exchange.handlerStep] at moved
  split at moved
  · rename_i isDrawn
    cases moved
    intro number report other request found answers asked looks
    have looks : Looks (self.exchange.move handler .polling) other := looks
    rcases looks_of_move looks with ⟨rfl, _⟩ | ⟨_, before⟩
    · have none := carries.counts_of_unsent (carries.unsent other (Or.inr isDrawn)) 0
      have few := carries.answered 0 other
      have positive : 0 < (self.exchange.reports.map Report.answers).count (some other) :=
        List.count_pos_iff.mpr (List.mem_map.mpr ⟨report, List.mem_of_getElem? found, answers⟩)
      omega
    · exact kept number report other request found answers asked before
  · cases moved

/-- An answer on the way is the first one to its handler. -/
theorem Carries.unreported (carries : Carries way self) {session handler : Nat}
    {report : PeerReport} (member : FromPeer.answer handler report ∈ way.coming session)
    {number : Nat} {written : Report} (found : self.exchange.reports[number]? = some written) :
    written.answers ≠ some handler := by
  intro answers
  have few := carries.answered session handler
  have once := carries.once session handler
  rw [Way.tally] at once
  have coming : 0 < ((way.coming session).map FromPeer.handler).count (some handler) :=
    List.count_pos_iff.mpr (List.mem_map.mpr ⟨_, member, rfl⟩)
  have reported : 0 < (self.exchange.reports.map Report.answers).count (some handler) :=
    List.count_pos_iff.mpr (List.mem_map.mpr ⟨written, List.mem_of_getElem? found, answers⟩)
  omega

theorem kept_receive {session : Nat} {message : FromPeer} {opens : Bool}
    (carries : Carries way self) (matching : self.exchange.Matching) (kept : Kept self.exchange)
    (member : message ∈ way.coming session) (idle : self.exchange.writers session = none) :
    Kept (self.exchange.takeFiles session message.handler opens message.action.toList) := by
  rcases carries.taken_cases member idle opens with same | ⟨owner, answer, path, text, rfl,
    response, _, taken⟩
  · rw [same]
    exact kept
  rw [taken]
  rcases carries.comes session _ member with ⟨_, asks, transaction, _⟩
  rcases asks.request with ⟨request', requested, here, latest, transaction'⟩
  have id : answer.decoded.rpt.transactionId = request'.id :=
    Option.some.inj (transaction.symm.trans transaction')
  cases (response_path response).trans (congrArg gctlDecisionFile id)
  have opened := self.exchange.disk.create_names (gctlDecisionFile request'.id)
  intro number report handler request found answers asked looks
  by_cases old : number < self.exchange.reports.length
  · have before : self.exchange.reports[number]? = some report :=
      (List.getElem?_append_left old).symm.trans found
    have apart : handler ≠ owner := fun same =>
      carries.unreported member before (same ▸ answers)
    rcases kept number report handler request before answers asked looks with ⟨file, named, there⟩
    have differs : gctlDecisionFile request.id ≠ gctlDecisionFile request'.id := by
      intro same
      have looks' : Looks self.exchange handler := looks
      rcases matching.waiting handler looks'.waiting with ⟨request'', asked', latest'⟩
      cases asked'.symm.trans asked
      rw [gctlDecisionFile_injective same, latest] at latest'
      exact apart (Option.some.inj latest').symm
    have other : file ≠ (self.exchange.disk.create (gctlDecisionFile request'.id)).2 := by
      intro same
      refine differs ((self.exchange.disk.create (gctlDecisionFile request'.id)).1.single _ _ file
        ?_ (same ▸ opened))
      exact (Disk.create_names_of_ne _ differs).trans named
    refine ⟨file, (Disk.create_names_of_ne _ differs).trans named, ?_⟩
    rcases there with content | writing
    · exact Or.inl ((Disk.create_content_of_ne _ _ other).trans content)
    · refine Or.inr ((Function.update_of_ne ?_ ..).trans writing)
      intro same
      rw [same, idle] at writing
      cases writing
  · have last : number = self.exchange.reports.length := by
      have inside := (List.getElem?_eq_some_iff.mp found).1
      rw [List.length_append, List.length_singleton] at inside
      omega
    have new : (self.exchange.reports ++ [Report.mk (some owner) text])[number]? =
        some (Report.mk (some owner) text) := by
      rw [last, List.getElem?_append_right (Nat.le_refl _), Nat.sub_self]
      rfl
    cases found.symm.trans new
    cases Option.some.inj answers
    cases requested.symm.trans asked
    refine ⟨_, opened, Or.inr ?_⟩
    rw [here, last]
    exact Function.update_self ..

theorem kept_close {session : Nat} {exchange : Exchange} (carries : Carries way self)
    (matching : self.exchange.Matching) (kept : Kept self.exchange)
    (moved : self.exchange.closeStep session = some exchange) : Kept exchange := by
  unfold Exchange.closeStep at moved
  split at moved
  · rename_i writer writing
    cases moved
    intro number report handler request found answers asked looks
    have looks' : Looks self.exchange handler := looks
    rcases kept number report handler request found answers asked looks' with ⟨file, named, there⟩
    rcases matching.waiting handler looks'.waiting with ⟨request', asked', latest⟩
    cases asked'.symm.trans asked
    rcases matching.files request.id file named with ⟨other, latest', belongs⟩
    refine ⟨file, named, ?_⟩
    by_cases same : writer.file = file
    · have vacant := (belongs.writers session writer writing same).2
      rcases there with content | writing'
      · -- a file that is being written is empty, and the response is not
        rcases carries.solicited report handler (List.mem_of_getElem? found) answers with
          ⟨turn, _, _, path, response⟩
        have some' := (turn.report.response_line response).2.2
        rw [content, tagged, List.map_eq_nil_iff] at vacant
        exact absurd vacant some'
      · have here : session = request.session := by
          rcases belongs.writers session writer writing same with ⟨answers', _⟩
          rcases belongs.writers request.session _ writing' rfl with ⟨answers'', _⟩
          rcases matching.session_of writing answers' with ⟨asked₁, found₁, rfl⟩
          rcases matching.session_of writing' answers'' with ⟨asked₂, found₂, same₂⟩
          cases found₁.symm.trans found₂
          exact same₂
        cases writing.symm.trans (here ▸ writing')
        exact Or.inl (self.exchange.disk.overwrite_self (tagged report.text number) vacant)
    · rcases there with content | writing'
      · exact Or.inl ((Disk.overwrite_of_ne _ _ (Ne.symm same)).trans content)
      · refine Or.inr ((Function.update_of_ne ?_ ..).trans writing')
        intro here
        rw [here, writing] at writing'
        cases writing'
        exact same rfl
  · cases moved

theorem kept_step {label : ConversationLabel} (carries : Carries way self)
    (matching : self.exchange.Matching) (kept : Kept self.exchange)
    (conforming : Conforming self label) (moved : self.step label = some after) :
    Kept after.exchange := by
  cases label with
  | handler handler label =>
      rcases handlerStep_cases moved with ⟨exchange, stepped, rfl, ⟨id, session, rfl⟩ | polls⟩
      · exact kept_draw kept stepped
      · exact kept_poll kept matching polls stepped
  | send handler order connection bytes leads =>
      rcases Option.bind_eq_some_iff.mp moved with ⟨request, asked, moved⟩
      rcases Option.bind_eq_some_iff.mp moved with ⟨message, made, moved⟩
      rcases Option.map_eq_some_iff.mp moved with ⟨exchange, stepped, rfl⟩
      exact kept_send carries kept stepped
  | fetch session | answer session index report | notice session report | remark session frame
  | connect session | accept session bytes | expire session =>
      rw [exchange_of_onWire moved trivial]
      exact kept
  | receive session stack arrived opens echoed =>
      rcases carries.receive_cases conforming moved with
        ⟨message, rest, put, sessions, standings, first, idle, _, rfl | rfl⟩
      · exact kept_receive carries matching kept (first ▸ List.mem_cons_self) idle
      · exact kept_receive carries matching kept (first ▸ List.mem_cons_self) idle
  | close session =>
      rcases Option.map_eq_some_iff.mp moved with ⟨exchange, stepped, rfl⟩
      exact kept_close carries matching kept stepped

end Kept

/-- An empty directory, and sessions that are new. -/
def firstReady : Ready where
  disk := .empty
  timers := fun _ => { kaTimer := 30, acTimer := 0 }
  sessions := fun _ => { handle := [0, 0, 0, 0], uuidReceived := false }
  vacant := fun _ => rfl

/-- A question about a gate. -/
def gateInfoOrder : Order where
  handler := .gctl07
  getps := foundSession
  four := by
    intro ip session found
    cases found
    rfl
  input := some (gateSetRequest [])
  behind := fun _ => 0
  locals := clearedLocals
  sends := by decide +kernel

/-- A gate acknowledged behind a Handle object. -/
def acknowledging (transaction : UInt8) : PeerReport where
  front := [handleObject 1 2 3 4]
  info := transactionInfo transaction 8
  behind := []
  objects := [wordObject 1 0 transaction 0 8]
  quiet := by
    intro object member
    rw [List.append_nil] at member
    rw [List.mem_singleton.mp member]
    decide
  isInfo := rfl
  tiled := by
    have length : packU16Be (wordObject 1 0 transaction 0 8).length = [0, 8] := by
      have eight : (wordObject 1 0 transaction 0 8).length = 8 := rfl
      rw [eight]
      decide
    rw [encode_cons, encode_nil, List.append_nil, Object.bytes, length]
    rfl
  filled := by nofun
  known := by
    intro object member
    rw [List.mem_singleton.mp member]
    rfl
  long := by
    intro object member
    rw [List.mem_singleton.mp member]
    exact Nat.le_of_ble_eq_true rfl
  fits := by
    rw [encode_length]
    exact (by decide : 28 < 65536)

/-- The peer sends such a message, and the thread of session 0 receives it. -/
def hears (opcode : UInt8) (objects : List CopsObject) (fits : (encode objects).length + 8 < 65536) :
    List ConversationLabel :=
  [.remark 0 (.pcmm opcode (encode objects) fits), .receive 0 (fun _ => 0) 40 true none]

/-- Session 0 gets a connection. -/
def connects : List ConversationLabel :=
  [.connect 0] ++ hears 6 [] (by decide) ++ [.accept 0 (some 16), .fetch 0] ++
    hears 1 [handleObject 1 2 3 4] (by rw [encode_length]; exact (by decide : 16 < 65536))

/-- A handler asks in session 0. -/
def orders (handler : Nat) (id : UInt16) : List ConversationLabel :=
  [.handler handler (.draw id 0), .send handler gateInfoOrder true (some 72) 0, .fetch 0]

/-- The peer answers, and the thread of session 0 receives that. -/
def answers (index : Nat) (transaction : UInt8) : List ConversationLabel :=
  [.answer 0 index (acknowledging transaction), .receive 0 (fun _ => 0) 40 true none, .close 0]

/-- Two handlers ask, and the second is answered first.  Then the peer closes the client, and
answers the other one over the next connection. -/
def twoAsked : List ConversationLabel :=
  connects ++ orders 0 7 ++ orders 1 9 ++ answers 2 9 ++ hears 8 [] (by decide) ++ connects ++
    answers 1 7

theorem decisions_conserved_two :
    Exists fun conversation : Conversation => Exists fun decision =>
      conversation.decisions 0 = some decision ∧
        (conversation.places 0).filter (fun message => owner message = some 0) =
          [mark (some 0) decision] := by
  have executed : ((System.executeWithin step Conforming (start firstReady) twoAsked).map
      fun conversation => (conversation.exchange.requests 0, conversation.exchange.sent 0)) =
        some (some { id := 7, session := 0 }, true) := by decide +kernel
  rcases Option.map_eq_some_iff.mp executed with ⟨conversation, moved, both⟩
  rcases Prod.mk.inj both with ⟨asked, sent⟩
  have reached := System.run_of_executeWithin moved
  rcases decisions_conserved firstReady conversation reached 0
    { id := 7, session := 0 } asked sent with ⟨decision, decided, alone⟩
  exact ⟨conversation, decision, decided, alone⟩

end Conversation
end PolicyServer
