import PolicyServer.Conversation

namespace PolicyServer

open Lib

/-!
# The messages on the way

What holds of the bytes on the connections in a run without accidents.  `Way` is how they
are cut into messages.  `Carries` says that each of these is where it belongs: a decision
in the session of its request, an answer to a decision that was sent, and that no decision
is in two places or answered twice.  Every step keeps it; `Carries.receive_cases` is what
a call of `ps_recvd` comes to, and `carries_abandon` what is left of a connection.
-/

/-! ## Marks -/

theorem mark_bytes (who : Option Nat) (bytes : List UInt8) : (mark who bytes).map Prod.fst = bytes := by
  have same : Prod.fst ∘ (fun byte : UInt8 => (byte, who)) = id := rfl
  rw [mark, List.map_map, same, List.map_id]

theorem owner_mark (who : Option Nat) {bytes : List UInt8} (filled : bytes ≠ []) :
    owner (mark who bytes) = who := by
  cases bytes with
  | nil => exact absurd rfl filled
  | cons byte bytes => rfl

theorem owner_append {front : List Marked} (filled : front ≠ []) (rest : List Marked) :
    owner (front ++ rest) = owner front := by
  cases front with
  | nil => exact absurd rfl filled
  | cons byte front => rfl

theorem mark_ne_nil (who : Option Nat) {bytes : List UInt8} (filled : bytes ≠ []) :
    mark who bytes ≠ [] :=
  fun none => filled (List.map_eq_nil_iff.mp none)

/-- A byte of a message is marked with its owner. -/
theorem marked_mem (who : Option Nat) {bytes : List UInt8} (filled : bytes ≠ []) :
    Exists fun byte => byte ∈ mark who bytes ∧ byte.2 = who := by
  cases bytes with
  | nil => exact absurd rfl filled
  | cons byte bytes => exact ⟨(byte, who), List.mem_cons_self, rfl⟩

/-! ## How the bytes are cut -/

/-- A message to the peer, and the handler it comes from. -/
abbrev ToPeer := Option Nat × List UInt8

def ToPeer.marked (message : ToPeer) : List Marked :=
  mark message.1 message.2

/-- A message from the peer. -/
inductive FromPeer where
  | answer (handler : Nat) (report : PeerReport)
  | notice (report : PeerReport)
  | remark (frame : Frame)

namespace FromPeer

def handler : FromPeer -> Option Nat
  | .answer handler _ => some handler
  | .notice _ | .remark _ => none

def frame : FromPeer -> Frame
  | .answer _ report | .notice report => report.frame
  | .remark frame => frame

def marked (message : FromPeer) : List Marked :=
  mark message.handler message.frame.bytes

/-- The file that `ps_pcmm_report` decides on. -/
def action : FromPeer -> Option FileAction
  | .answer _ report | .notice report => report.decoded.action
  | .remark _ => none

theorem filled (message : FromPeer) : message.frame.bytes ≠ [] :=
  frames_delimited.filled _ ⟨message.frame, rfl⟩

end FromPeer

/-- The messages on the way in each session, to the peer, with the peer, and back, and those
that were on a connection when it was given up. -/
structure Way where
  wire : Nat -> List ToPeer
  read : Nat -> List ToPeer
  coming : Nat -> List FromPeer
  gone : Nat -> List ToPeer

/-- A decision of the handler, or its answer, is on the way. -/
def Way.Has (way : Way) (session handler : Nat) : Prop :=
  some handler ∈ (way.wire session).map Prod.fst ∨
    some handler ∈ (way.read session).map Prod.fst ∨
      some handler ∈ (way.coming session).map FromPeer.handler

/-- How often a decision of the handler is lost, on the way to the peer, with the peer, or
answered. -/
def Way.tally (way : Way) (turns : List Turn) (session handler : Nat) : Nat :=
  ((way.gone session).map Prod.fst).count (some handler) +
    ((way.wire session).map Prod.fst).count (some handler) +
      ((way.read session).map Prod.fst).count (some handler) +
        (turns.map fun turn => owner turn.asked).count (some handler)

/-- A handler that has nothing on the way to the peer, and has lost nothing, counts by its
answers. -/
theorem Way.tally_eq (way : Way) (turns : List Turn) {session handler : Nat}
    (none : ¬ way.Has session handler)
    (kept : some handler ∉ (way.gone session).map Prod.fst) :
    way.tally turns session handler =
      (turns.map fun turn => owner turn.asked).count (some handler) := by
  have wire : ((way.wire session).map Prod.fst).count (some handler) = 0 :=
    List.count_eq_zero.mpr fun there => none (Or.inl there)
  have read : ((way.read session).map Prod.fst).count (some handler) = 0 :=
    List.count_eq_zero.mpr fun there => none (Or.inr (Or.inl there))
  rw [tally, List.count_eq_zero.mpr kept, wire, read, Nat.zero_add]

/-- Messages that are sent count in their own session. -/
theorem Way.tally_sent (way : Way) (turns : List Turn) (session : Nat) (sent : List ToPeer)
    (other handler : Nat) :
    ({ way with wire := Function.update way.wire session (way.wire session ++ sent) } : Way).tally
      turns other handler = way.tally turns other handler +
        if other = session then (sent.map Prod.fst).count (some handler) else 0 := by
  unfold tally
  dsimp only
  by_cases same : other = session
  · rw [same, Function.update_self, List.map_append, List.count_append, if_pos rfl]
    omega
  · rw [Function.update_of_ne same, if_neg same]
    rfl

/-- A decision that is answered counts no more with the peer, but in every session. -/
theorem Way.tally_answered (way : Way) (turns : List Turn) {session index : Nat}
    {message : ToPeer} {turn : Turn} (there : (way.read session)[index]? = some message)
    (own : owner turn.asked = message.1) (coming : Nat -> List FromPeer) (other handler : Nat) :
    ({ way with
      read := Function.update way.read session ((way.read session).eraseIdx index)
      coming } : Way).tally (turns ++ [turn]) other handler = way.tally turns other handler +
        if other = session then 0 else [message.1].count (some handler) := by
  unfold tally
  dsimp only
  rw [List.map_append, List.count_append, List.map_singleton, own]
  by_cases same : other = session
  · rcases List.getElem?_eq_some_iff.mp there with ⟨inside, found⟩
    have permuted := ((List.getElem_cons_eraseIdx_perm inside).map Prod.fst).count_eq (some handler)
    rw [found, List.map_cons, ← List.singleton_append, List.count_append] at permuted
    rw [same, Function.update_self, if_pos rfl]
    omega
  · rw [Function.update_of_ne same, if_neg same, ← Nat.add_assoc]

namespace Conversation

/-- The message is the decision of this handler, which has drawn its id last. -/
structure Asks (conversation : Conversation) (session handler : Nat) (message : List UInt8) : Prop where
  request : Exists fun request => conversation.exchange.requests handler = some request ∧
    request.session = session ∧ conversation.exchange.latest request.id = some handler ∧
      decisionTransaction message = some request.id
  sent : conversation.exchange.sent handler = true
  decided : conversation.decisions handler = some message

/-- A message to the peer is a decision of its handler, or one without a transaction. -/
structure Carried (conversation : Conversation) (session : Nat) (message : ToPeer) : Prop where
  whole : IsFrame message.2
  asks : forall handler, message.1 = some handler -> conversation.Asks session handler message.2
  other : message.1 = none -> decisionTransaction message.2 = none

/-- A message from the peer answers a decision, or asks for no response. -/
def Comes (self : Conversation) (session : Nat) : FromPeer -> Prop
  | .answer handler report =>
      Exists fun message => self.Asks session handler message ∧
        decisionTransaction message = some report.transaction ∧
          { asked := mark (some handler) message, report } ∈ self.turns
  | .notice report => report.decoded.response = none
  | .remark frame => frame.opcode ≠ 3

/-- A message that reaches nobody was sent by its handler in this session. -/
structure Missed (conversation : Conversation) (session : Nat) (message : ToPeer) : Prop where
  whole : IsFrame message.2
  sent : forall handler, message.1 = some handler ->
    conversation.exchange.sent handler = true ∧ conversation.decisions handler = some message.2 ∧
      (conversation.exchange.requests handler).map Request.session = some session

/-- The peer has answered the decision of a handler. -/
def Taken (self : Conversation) (turn : Turn) : Prop :=
  Exists fun handler => Exists fun message =>
    turn.asked = mark (some handler) message ∧ IsFrame message ∧
      self.decisions handler = some message ∧ self.exchange.sent handler = true ∧
        decisionTransaction message = some turn.report.transaction

/-- The report on which a response was written is one of the peer's answers to this
handler. -/
def Solicited (self : Conversation) (handler : Nat) (text : String) : Prop :=
  Exists fun turn => turn ∈ self.turns ∧ owner turn.asked = some handler ∧
    Exists fun path => turn.report.decoded.response = some (path, text)

/-- How the bytes on the way are cut, and what holds of the messages. -/
structure Carries (way : Way) (conversation : Conversation) : Prop where
  down : forall session, conversation.down session = (way.wire session).flatMap ToPeer.marked
  pending : forall session, conversation.pending session = (way.read session).map ToPeer.marked
  up : forall session, conversation.up session = (way.coming session).flatMap FromPeer.marked
  lost : forall session, conversation.lost session = (way.gone session).flatMap ToPeer.marked
  wired : forall session message, message ∈ way.wire session -> conversation.Carried session message
  read : forall session message, message ∈ way.read session -> conversation.Carried session message
  comes : forall session message, message ∈ way.coming session -> conversation.Comes session message
  missed : forall session message, message ∈ way.gone session -> conversation.Missed session message
  taken : forall turn, turn ∈ conversation.turns -> conversation.Taken turn
  solicited : forall report handler, report ∈ conversation.exchange.reports ->
    report.answers = some handler -> conversation.Solicited handler report.text
  unsent : forall handler, conversation.exchange.handlers handler = .fresh ∨
    conversation.exchange.handlers handler = .drawn -> conversation.exchange.sent handler = false
  once : forall session handler, way.tally conversation.turns session handler ≤ 1
  present : forall handler request, conversation.exchange.requests handler = some request ->
    conversation.exchange.sent handler = true ->
      1 ≤ way.tally conversation.turns request.session handler
  answered : forall session handler,
    ((way.coming session).map FromPeer.handler).count (some handler) +
      (conversation.exchange.reports.map Report.answers).count (some handler) ≤
        (conversation.turns.map fun turn => owner turn.asked).count (some handler)

theorem Carried.missed {self : Conversation} {session : Nat} {message : ToPeer}
    (carried : self.Carried session message) : self.Missed session message where
  whole := carried.whole
  sent := by
    intro handler own
    have asks := carried.asks handler own
    rcases asks.request with ⟨request, asked, here, _⟩
    exact ⟨asks.sent, asks.decided, by rw [asked, Option.map_some, here]⟩

/-! ## What a step leaves as it was -/

/-- Nothing is taken back of what is on the way, or of what was sent and answered. -/
structure Keeps (way : Way) (before after : Conversation) : Prop where
  asks : forall session handler message, way.Has session handler ->
    before.Asks session handler message -> after.Asks session handler message
  sends : forall handler, before.exchange.sent handler = true ->
    after.exchange.sent handler = true ∧ after.decisions handler = before.decisions handler ∧
      after.exchange.requests handler = before.exchange.requests handler
  turns : before.turns ⊆ after.turns

section Keeps

variable {way : Way} {self after : Conversation} (keeps : Keeps way self after)

include keeps

theorem Keeps.wired {session : Nat} {message : ToPeer} (member : message ∈ way.wire session)
    (carried : self.Carried session message) : after.Carried session message where
  whole := carried.whole
  asks := fun handler own => keeps.asks session handler message.2
    (Or.inl (List.mem_map.mpr ⟨message, member, own⟩)) (carried.asks handler own)
  other := carried.other

theorem Keeps.read {session : Nat} {message : ToPeer} (member : message ∈ way.read session)
    (carried : self.Carried session message) : after.Carried session message where
  whole := carried.whole
  asks := fun handler own => keeps.asks session handler message.2
    (Or.inr (Or.inl (List.mem_map.mpr ⟨message, member, own⟩))) (carried.asks handler own)
  other := carried.other

theorem Keeps.comes {session : Nat} {message : FromPeer} (member : message ∈ way.coming session)
    (comes : self.Comes session message) : after.Comes session message := by
  cases message with
  | answer handler report =>
      rcases comes with ⟨message, asks, transaction, taken⟩
      have has : way.Has session handler :=
        Or.inr (Or.inr (List.mem_map.mpr ⟨_, member, rfl⟩))
      exact ⟨message, keeps.asks session handler message has asks, transaction, keeps.turns taken⟩
  | notice report => exact comes
  | remark frame => exact comes

theorem Keeps.missed {session : Nat} {message : ToPeer} (missed : self.Missed session message) :
    after.Missed session message where
  whole := missed.whole
  sent := by
    intro handler own
    rcases missed.sent handler own with ⟨sent, decided, here⟩
    rcases keeps.sends handler sent with ⟨sent', decided', requests⟩
    exact ⟨sent', decided'.trans decided, by rwa [requests]⟩

theorem Keeps.taken {turn : Turn} (taken : self.Taken turn) : after.Taken turn := by
  rcases taken with ⟨handler, message, asked, whole, decided, sent, transaction⟩
  rcases keeps.sends handler sent with ⟨sent', decided', _⟩
  exact ⟨handler, message, asked, whole, decided'.trans decided, sent', transaction⟩

theorem Keeps.solicited {handler : Nat} {text : String} (solicited : self.Solicited handler text) :
    after.Solicited handler text := by
  rcases solicited with ⟨turn, member, own, response⟩
  exact ⟨turn, keeps.turns member, own, response⟩

end Keeps

/-- Requests, and what was sent, are as they were. -/
theorem keeps_of_same {way : Way} {self after : Conversation}
    (requests : after.exchange.requests = self.exchange.requests)
    (latest : after.exchange.latest = self.exchange.latest)
    (sent : after.exchange.sent = self.exchange.sent)
    (decisions : after.decisions = self.decisions) (turns : self.turns ⊆ after.turns) :
    Keeps way self after where
  asks := by
    rintro session handler message _ ⟨request, isSent, decided⟩
    exact ⟨by rwa [requests, latest], by rwa [sent], by rwa [decisions]⟩
  sends := fun handler isSent => ⟨by rwa [sent], by rw [decisions], by rw [requests]⟩
  turns := turns

section Steps

variable {way : Way} {self after : Conversation}

/-- Nothing has moved on the connections. -/
theorem Carries.of_still (carries : Carries way self) (keeps : Keeps way self after)
    (down : after.down = self.down) (pending : after.pending = self.pending)
    (up : after.up = self.up) (lost : after.lost = self.lost)
    (turns : after.turns = self.turns) (reports : after.exchange.reports = self.exchange.reports)
    (asked : forall handler request, after.exchange.requests handler = some request ->
      after.exchange.sent handler = true ->
        self.exchange.requests handler = some request ∧ self.exchange.sent handler = true)
    (unsent : forall handler, after.exchange.handlers handler = .fresh ∨
      after.exchange.handlers handler = .drawn -> after.exchange.sent handler = false) :
    Carries way after where
  down := by rw [down]; exact carries.down
  pending := by rw [pending]; exact carries.pending
  up := by rw [up]; exact carries.up
  lost := by rw [lost]; exact carries.lost
  wired := fun session message member => keeps.wired member (carries.wired session message member)
  read := fun session message member => keeps.read member (carries.read session message member)
  comes := fun session message member => keeps.comes member (carries.comes session message member)
  missed := fun session message member => keeps.missed (carries.missed session message member)
  taken := by
    intro turn member
    rw [turns] at member
    exact keeps.taken (carries.taken turn member)
  solicited := by
    intro report handler member answers
    rw [reports] at member
    exact keeps.solicited (carries.solicited report handler member answers)
  unsent := unsent
  once := by rw [turns]; exact carries.once
  present := by
    intro handler request requested sent
    rcases asked handler request requested sent with ⟨requested, sent⟩
    rw [turns]
    exact carries.present handler request requested sent
  answered := by rw [turns, reports]; exact carries.answered

/-- Who has something on the way has asked for it in this session. -/
theorem Carries.asked_of_has (carries : Carries way self) {session handler : Nat}
    (has : way.Has session handler) :
    Exists fun message => self.Asks session handler message := by
  rcases has with there | there | there
  · rcases List.mem_map.mp there with ⟨message, member, own⟩
    exact ⟨message.2, (carries.wired session message member).asks handler own⟩
  · rcases List.mem_map.mp there with ⟨message, member, own⟩
    exact ⟨message.2, (carries.read session message member).asks handler own⟩
  · rcases List.mem_map.mp there with ⟨message, member, own⟩
    have comes := carries.comes session message member
    cases message with
    | answer handler' report =>
        cases Option.some.inj own
        rcases comes with ⟨message, asks, _⟩
        exact ⟨message, asks⟩
    | notice report => cases own
    | remark frame => cases own

/-- A handler that has sent nothing has nothing on the way. -/
theorem Carries.none_of_unsent (carries : Carries way self) {handler : Nat}
    (unsent : self.exchange.sent handler = false) (session : Nat) : ¬ way.Has session handler := by
  intro has
  rcases carries.asked_of_has has with ⟨_, asks⟩
  rw [asks.sent] at unsent
  cases unsent

/-- Who has something on the way is not over. -/
theorem Carries.not_over (carries : Carries way self) {session handler : Nat}
    (has : way.Has session handler) : ¬ self.Over handler := by
  intro ended
  rcases carries.asked_of_has has with ⟨_, asks⟩
  rcases asks.request with ⟨request, asked, rfl, _⟩
  rcases ended request asked with ⟨down, pending, up⟩
  rcases has with there | there | there
  · rcases List.mem_map.mp there with ⟨message, member, own⟩
    have filled := frames_delimited.filled _ (carries.wired _ message member).whole
    rcases marked_mem message.1 filled with ⟨byte, inside, marked⟩
    refine down byte ?_ (marked.trans own)
    rw [carries.down]
    exact List.mem_flatMap.mpr ⟨message, member, inside⟩
  · rcases List.mem_map.mp there with ⟨message, member, own⟩
    have filled := frames_delimited.filled _ (carries.read _ message member).whole
    refine pending (ToPeer.marked message) ?_ ((owner_mark message.1 filled).trans own)
    rw [carries.pending]
    exact List.mem_map_of_mem member
  · rcases List.mem_map.mp there with ⟨message, member, own⟩
    rcases marked_mem message.handler message.filled with ⟨byte, inside, marked⟩
    refine up byte ?_ (marked.trans own)
    rw [carries.up]
    exact List.mem_flatMap.mpr ⟨message, member, inside⟩

end Steps

end Conversation

/-! ## Steps of a handler -/

/-- The steps behind the send. -/
def HandlerLabel.Polls : HandlerLabel -> Prop
  | .draw _ _ | .send _ => False
  | .open | .fgets | .remove | .expire => True

/-- What a polling handler leaves as it was. -/
structure Exchange.Polled (before after : Exchange) : Prop where
  requests : after.requests = before.requests
  latest : after.latest = before.latest
  sent : after.sent = before.sent
  reports : after.reports = before.reports
  writers : after.writers = before.writers
  content : after.disk.content = before.disk.content
  early : forall handler, after.handlers handler = .fresh ∨ after.handlers handler = .drawn ->
    after.handlers handler = before.handlers handler

theorem Exchange.polled_move {exchange : Exchange} (handler : Nat) {place : Handler}
    (late : place ≠ .fresh ∧ place ≠ .drawn) : exchange.Polled (exchange.move handler place) where
  requests := rfl
  latest := rfl
  sent := rfl
  reports := rfl
  writers := rfl
  content := rfl
  early := by
    intro other early
    generalize there : (exchange.move handler place).handlers other = moved at early ⊢
    rcases update_cases there with ⟨_, rfl⟩ | ⟨_, same⟩
    · rcases early with early | early
      · exact absurd early late.1
      · exact absurd early late.2
    · exact same.symm

theorem Exchange.polled_of_step {exchange after : Exchange} {handler : Nat} {label : HandlerLabel}
    (polls : label.Polls) (moved : exchange.handlerStep handler label = some after) :
    exchange.Polled after := by
  have still : exchange.Polled exchange := ⟨rfl, rfl, rfl, rfl, rfl, rfl, fun _ _ => rfl⟩
  cases label with
  | draw id session => cases polls
  | send written => cases polls
  | «open» =>
      simp only [handlerStep] at moved
      split at moved
      · split at moved
        · cases moved
          exact polled_move handler ⟨Handler.noConfusion, Handler.noConfusion⟩
        · cases moved
          exact still
      · cases moved
  | fgets =>
      simp only [handlerStep] at moved
      split at moved
      · split at moved <;> cases moved
        · exact polled_move handler ⟨Handler.noConfusion, Handler.noConfusion⟩
        · exact polled_move handler ⟨Handler.noConfusion, Handler.noConfusion⟩
      · cases moved
  | remove =>
      simp only [handlerStep] at moved
      split at moved
      · rename_i text request _ _
        cases moved
        have returns : exchange.Polled (exchange.move handler (.returned text)) :=
          polled_move handler ⟨Handler.noConfusion, Handler.noConfusion⟩
        exact ⟨rfl, rfl, rfl, rfl, rfl, rfl, returns.early⟩
      · cases moved
  | expire =>
      simp only [handlerStep] at moved
      split at moved
      · cases moved
        exact polled_move handler ⟨Handler.noConfusion, Handler.noConfusion⟩
      · cases moved

/-- What a session thread does about the file of a report: nothing, or it opens the file of
a response. -/
theorem Exchange.takeFiles_cases {exchange : Exchange} {session : Nat} (decoded : Decoded)
    (idle : exchange.writers session = none) (answers : Option Nat) (opens : Bool) :
    exchange.takeFiles session answers opens decoded.action.toList = exchange ∧
        (decoded.response = none ∨ opens = false) ∨
      Exists fun path => Exists fun text => decoded.response = some (path, text) ∧ opens = true ∧
        exchange.takeFiles session answers opens decoded.action.toList =
          { exchange with
            reports := exchange.reports ++ [{ answers, text }]
            writers := Function.update exchange.writers session
              (some { file := (exchange.disk.create path).2, number := exchange.reports.length, text })
            disk := (exchange.disk.create path).1 } := by
  have closed : (exchange.closeStep session).getD exchange = exchange := by
    rw [closeStep, idle]
    rfl
  unfold Decoded.action Decoded.response
  by_cases required : decoded.reportRequired = true
  · rw [if_pos required, if_pos required]
    exact Or.inl ⟨rfl, Or.inl rfl⟩
  · rw [if_neg required, if_neg required]
    cases psPcmmReportDecision decoded.rpt decoded.classifierType with
    | append path text => exact Or.inl ⟨closed, Or.inl rfl⟩
    | write path text =>
        have taken : exchange.takeFiles session answers opens (some (.write path text)).toList =
            exchange.takeFile session answers opens (.write path text) := by
          rw [Option.toList_some, takeFiles, List.foldl_cons, List.foldl_nil, closed]
        rw [taken]
        cases opens with
        | false => exact Or.inl ⟨rfl, Or.inr rfl⟩
        | true => exact Or.inr ⟨path, text, rfl, rfl, rfl⟩

namespace Conversation

section Steps

variable {way : Way} {self after : Conversation}

theorem carries_poll {handler : Nat} {label : HandlerLabel} {exchange : Exchange}
    (carries : Carries way self) (polls : label.Polls)
    (moved : self.exchange.handlerStep handler label = some exchange) :
    Carries way { self with exchange } := by
  have polled := Exchange.polled_of_step polls moved
  refine carries.of_still ?_ rfl rfl rfl rfl rfl polled.reports ?_ ?_
  · exact keeps_of_same polled.requests polled.latest polled.sent rfl (List.Subset.refl _)
  · intro other request requested sent
    exact ⟨polled.requests ▸ requested, polled.sent ▸ sent⟩
  · intro other early
    change exchange.sent other = false
    change exchange.handlers other = .fresh ∨ exchange.handlers other = .drawn at early
    rw [polled.sent]
    apply carries.unsent other
    rwa [← polled.early other early]

theorem carries_draw {handler session : Nat} {id : UInt16} {exchange : Exchange}
    (carries : Carries way self) (matching : self.exchange.Matching) (unused : self.Unused id)
    (moved : self.exchange.handlerStep handler (.draw id session) = some exchange) :
    Carries way { self with exchange } := by
  simp only [Exchange.handlerStep] at moved
  split at moved
  · rename_i isFresh
    cases moved
    have unasked := matching.fresh handler isFresh
    have unsent := carries.unsent handler (Or.inl isFresh)
    refine carries.of_still ⟨?_, ?_, List.Subset.refl _⟩ rfl rfl rfl rfl rfl rfl ?_ ?_
    · intro session' other message has asks
      rcases asks.request with ⟨request, asked, here, latest, transaction⟩
      have apart : other ≠ handler := by
        rintro rfl
        rw [unasked] at asked
        cases asked
      refine ⟨⟨request, ?_, here, ?_, transaction⟩, asks.sent, asks.decided⟩
      · exact (Function.update_of_ne apart ..).trans asked
      · refine (Function.update_of_ne ?_ ..).trans latest
        intro again
        rw [again] at latest
        exact carries.not_over has (unused.2 other latest)
    · intro other sent
      have apart : other ≠ handler := by
        rintro rfl
        rw [unsent] at sent
        cases sent
      exact ⟨sent, rfl, Function.update_of_ne apart ..⟩
    · intro other request requested sent
      have apart : other ≠ handler := by
        rintro rfl
        have unsent' : self.exchange.sent other = true := sent
        rw [unsent] at unsent'
        cases unsent'
      exact ⟨(Function.update_of_ne apart ..).symm.trans requested, sent⟩
    · intro other early
      have place : Function.update self.exchange.handlers handler .drawn other = .fresh ∨
        Function.update self.exchange.handlers handler .drawn other = .drawn := early
      by_cases same : other = handler
      · rw [same]
        exact unsent
      · rw [Function.update_of_ne same] at place
        exact carries.unsent other place
  · cases moved

/-! ## Steps on a connection -/

/-- What holds of the messages of each session, where those of one are replaced. -/
theorem forall_update {Entry : Type} {entries : Nat -> List Entry} {session : Nat}
    {replaced : List Entry} {property : Nat -> Entry -> Prop}
    (here : forall entry, entry ∈ replaced -> property session entry)
    (there : forall other entry, entry ∈ entries other -> property other entry) (other : Nat)
    (entry : Entry) (member : entry ∈ Function.update entries session replaced other) :
    property other entry := by
  by_cases same : other = session
  · rw [same, Function.update_self] at member
    exact same ▸ here entry member
  · rw [Function.update_of_ne same] at member
    exact there other entry member

/-- The bytes of each session are made of its messages, where both are replaced. -/
theorem update_eq {Entry Image : Type} {images : Nat -> Image} {entries : Nat -> Entry}
    {make : Entry -> Image} {session : Nat} {image : Image} {entry : Entry}
    (here : image = make entry) (there : forall other, images other = make (entries other))
    (other : Nat) :
    Function.update images session image other =
      make (Function.update entries session entry other) := by
  by_cases same : other = session
  · rw [same, Function.update_self, Function.update_self, here]
  · rw [Function.update_of_ne same, Function.update_of_ne same, there]

theorem Asks.session_eq {session session' handler : Nat} {message : List UInt8}
    (asks : self.Asks session handler message)
    (asked : (self.exchange.requests handler).map Request.session = some session') :
    session' = session := by
  rcases asks.request with ⟨request, found, here, _⟩
  rw [found, Option.map_some, here] at asked
  exact (Option.some.inj asked).symm

/-- A handler has something on the way in one session only. -/
theorem Carries.session_eq (carries : Carries way self) {session session' handler : Nat}
    {message : List UInt8} (asks : self.Asks session handler message)
    (has : way.Has session' handler) : session' = session := by
  rcases carries.asked_of_has has with ⟨_, asks'⟩
  rcases asks.request with ⟨request, asked, rfl, _⟩
  rcases asks'.request with ⟨request', asked', rfl, _⟩
  cases asked.symm.trans asked'
  rfl

/-- What an unsent handler has not: anything lost or on the way, an answer, a report. -/
theorem Carries.counts_of_unsent (carries : Carries way self) {handler : Nat}
    (unsent : self.exchange.sent handler = false) (session : Nat) :
    way.tally self.turns session handler = 0 ∧
      (self.turns.map fun turn => owner turn.asked).count (some handler) = 0 := by
  have kept : some handler ∉ (way.gone session).map Prod.fst := by
    intro there
    rcases List.mem_map.mp there with ⟨message, member, own⟩
    rw [((carries.missed session message member).sent handler own).1] at unsent
    cases unsent
  have turns : (self.turns.map fun turn => owner turn.asked).count (some handler) = 0 := by
    refine List.count_eq_zero.mpr fun there => ?_
    rcases List.mem_map.mp there with ⟨turn, member, own⟩
    rcases carries.taken turn member with ⟨other, message, asked, whole, _, sent, _⟩
    rw [asked, owner_mark _ (frames_delimited.filled _ whole)] at own
    rw [Option.some.inj own, unsent] at sent
    cases sent
  exact ⟨(way.tally_eq self.turns (carries.none_of_unsent unsent session) kept).trans turns, turns⟩

/-- In other sessions than its own a handler has nothing on the way, and has lost nothing. -/
theorem Carries.counts_elsewhere (carries : Carries way self) {session other handler : Nat}
    {message : List UInt8} (asks : self.Asks session handler message) (apart : other ≠ session) :
    way.tally self.turns other handler =
        (self.turns.map fun turn => owner turn.asked).count (some handler) ∧
      ((way.coming other).map FromPeer.handler).count (some handler) = 0 := by
  have none : ¬ way.Has other handler := fun there => apart (carries.session_eq asks there)
  have kept : some handler ∉ (way.gone other).map Prod.fst := by
    intro there
    rcases List.mem_map.mp there with ⟨entry, inside, own⟩
    exact apart (asks.session_eq ((carries.missed other entry inside).sent handler own).2.2)
  exact ⟨way.tally_eq self.turns none kept,
    List.count_eq_zero.mpr fun there => none (Or.inr (Or.inr there))⟩

theorem carries_send {handler : Nat} {order : Order} {connection : Bool} {bytes : Option Nat}
    {leads : Nat}
    (carries : Carries way self) (matching : self.exchange.Matching)
    (conforming : Conforming self (.send handler order connection bytes leads))
    (moved : self.sendStep handler order connection bytes leads = some after) :
    Exists fun way => Carries way after := by
  rcases Option.bind_eq_some_iff.mp moved with ⟨request, asked, moved⟩
  rcases Option.bind_eq_some_iff.mp moved with ⟨message, made, moved⟩
  rcases Option.map_eq_some_iff.mp moved with ⟨exchange, sends, rfl⟩
  rcases conforming with ⟨own, whole⟩
  have put := whole message (by rw [asked, Option.bind_some, made])
  rw [asked, Option.map_some] at own
  cases own
  generalize sockWrite connection [] message bytes = put' at put sends ⊢
  simp only [Exchange.handlerStep] at sends
  split at sends
  · rename_i isDrawn
    cases sends
    have unsent := carries.unsent handler (Or.inr isDrawn)
    have whole := (Order.outgoing made).frame
    have filled := frames_delimited.filled _ whole
    have latest : self.exchange.latest request.id = some handler := by
      rcases matching.waiting handler (by rw [isDrawn]; trivial) with ⟨request', asked', latest⟩
      cases asked.symm.trans asked'
      exact latest
    -- what was sent before was sent by others
    have apart {other : Nat} (sent : self.exchange.sent other = true) : other ≠ handler := by
      rintro rfl
      rw [unsent] at sent
      cases sent
    have keeps : Keeps way self
        { self with
          exchange := { self.exchange.move handler .polling with
            sent := Function.update self.exchange.sent handler (put' = message) }
          down := Function.update self.down request.session
            (self.down request.session ++ mark (some handler) put')
          decisions := Function.update self.decisions handler (some message) } := by
      refine ⟨?_, ?_, List.Subset.refl _⟩
      · intro session other text _ asks
        have differs := apart asks.sent
        exact ⟨asks.request, (Function.update_of_ne differs ..).trans asks.sent,
          (Function.update_of_ne differs ..).trans asks.decided⟩
      · intro other sent
        have differs := apart sent
        exact ⟨(Function.update_of_ne differs ..).trans sent, Function.update_of_ne differs .., rfl⟩
    -- the decision, where it was taken
    generalize new : (if put' = message then [(some handler, message)] else [] : List ToPeer) =
      sent
    have member {entry : ToPeer} (inside : entry ∈ sent) :
        put' = message ∧ entry = (some handler, message) := by
      rw [← new] at inside
      split at inside
      · rename_i taken
        exact ⟨taken, List.mem_singleton.mp inside⟩
      · cases inside
    have counted (other : Nat) : (sent.map Prod.fst).count (some other) =
        if put' = message ∧ other = handler then 1 else 0 := by
      rw [← new]
      by_cases taken : put' = message
      · rw [if_pos taken, List.map_singleton, List.count_singleton]
        by_cases same : other = handler
        · rw [if_pos (by simp only [same, beq_self_eq_true]), if_pos ⟨taken, same⟩]
        · rw [if_neg (by simpa using Ne.symm same), if_neg fun both => same both.2]
      · rw [if_neg taken, if_neg fun both => taken both.1]
        rfl
    refine ⟨{ way with
      wire := Function.update way.wire request.session (way.wire request.session ++ sent) },
      update_eq ?_ carries.down, carries.pending, carries.up, carries.lost, forall_update ?_ ?_,
      fun _ _ member => keeps.read member (carries.read _ _ member),
      fun _ _ member => keeps.comes member (carries.comes _ _ member),
      fun _ _ member => keeps.missed (carries.missed _ _ member),
      fun turn member => keeps.taken (carries.taken turn member),
      fun _ _ member answers => keeps.solicited (carries.solicited _ _ member answers), ?_, ?_, ?_,
      carries.answered⟩
    · rw [List.flatMap_append, ← carries.down, ← new]
      rcases put with nothing | taken
      · rw [nothing, if_neg (Ne.symm filled)]
        rfl
      · rw [taken, if_pos rfl]
        exact congrArg _ (List.append_nil _).symm
    · intro entry inside
      rcases List.mem_append.mp inside with older | newer
      · exact keeps.wired older (carries.wired _ entry older)
      · rcases member newer with ⟨taken, rfl⟩
        refine ⟨whole, ?_, fun unowned => absurd unowned (Option.some_ne_none handler)⟩
        intro other own
        cases Option.some.inj own
        exact ⟨⟨request, asked, rfl, latest, Order.transaction made⟩,
          (Function.update_self ..).trans (decide_eq_true taken), Function.update_self ..⟩
    · exact fun _ _ member => keeps.wired member (carries.wired _ _ member)
    · intro other early
      have place : Function.update self.exchange.handlers handler .polling other = .fresh ∨
        Function.update self.exchange.handlers handler .polling other = .drawn := early
      by_cases same : other = handler
      · rw [same, Function.update_self] at place
        rcases place with impossible | impossible <;> cases impossible
      · rw [Function.update_of_ne same] at place
        exact (Function.update_of_ne same ..).trans (carries.unsent other place)
    · intro session other
      rw [way.tally_sent, counted]
      by_cases own : other = handler
      · rw [own, (carries.counts_of_unsent unsent session).1, Nat.zero_add]
        split
        · split <;> decide
        · exact Nat.zero_le _
      · have others : ¬ (put' = message ∧ other = handler) := fun both => own both.2
        rw [if_neg others, ite_self]
        exact carries.once session other
    · intro other request' requested isSent
      rw [way.tally_sent]
      by_cases same : other = handler
      · rw [same] at requested isSent ⊢
        cases asked.symm.trans requested
        have isSent : Function.update self.exchange.sent handler (decide (put' = message)) handler =
            true := isSent
        rw [Function.update_self, decide_eq_true_eq] at isSent
        rw [if_pos rfl, counted, if_pos ⟨isSent, rfl⟩]
        exact Nat.le_add_left 1 _
      · have before := carries.present other request' requested
          ((Function.update_of_ne same ..).symm.trans isSent)
        exact Nat.le_trans before (Nat.le_add_right _ _)
  · cases sends

theorem carries_fetch {session : Nat} (carries : Carries way self)
    (moved : self.fetchStep session = some after) : Exists fun way => Carries way after := by
  rcases Option.map_eq_some_iff.mp moved with ⟨taken, takes, rfl⟩
  have keeps : Keeps way self { self with
      down := Function.update self.down session taken.2
      pending := Function.update self.pending session (self.pending session ++ [taken.1]) } :=
    keeps_of_same rfl rfl rfl rfl (List.Subset.refl _)
  rw [carries.down] at takes
  cases sent : way.wire session with
  | nil =>
      rw [sent] at takes
      cases takes
  | cons first rest =>
      have member : first ∈ way.wire session := sent ▸ List.mem_cons_self
      have carried := carries.wired session first member
      have whole : IsFrame (first.marked.map Prod.fst) := by
        rw [ToPeer.marked, mark_bytes]
        exact carried.whole
      rw [sent, List.flatMap_cons, takeMessage_frame whole] at takes
      cases takes
      have tallied (other handler : Nat) : ({ way with
            wire := Function.update way.wire session rest
            read := Function.update way.read session (way.read session ++ [first]) } : Way).tally
              self.turns other handler = way.tally self.turns other handler := by
        unfold Way.tally
        dsimp only
        by_cases same : other = session
        · rw [same, sent, Function.update_self, Function.update_self]
          simp only [List.map_append, List.map_cons, List.map_nil, List.count_append,
            List.count_cons, List.count_nil]
          omega
        · rw [Function.update_of_ne same, Function.update_of_ne same]
      refine ⟨{ way with
        wire := Function.update way.wire session rest
        read := Function.update way.read session (way.read session ++ [first]) },
        update_eq rfl carries.down, update_eq ?_ carries.pending, carries.up, carries.lost,
        forall_update ?_ ?_, forall_update ?_ ?_,
        fun _ _ member => keeps.comes member (carries.comes _ _ member),
        fun _ _ member => keeps.missed (carries.missed _ _ member),
        fun turn member => keeps.taken (carries.taken turn member),
        fun _ _ member answers => keeps.solicited (carries.solicited _ _ member answers),
        carries.unsent, fun session handler => (tallied session handler).trans_le
          (carries.once session handler), fun handler request requested sent =>
            (carries.present handler request requested sent).trans_eq
              (tallied request.session handler).symm, carries.answered⟩
      · rw [List.map_append, ← carries.pending]
        rfl
      · intro entry inside
        have there : entry ∈ way.wire session := sent ▸ List.mem_cons_of_mem _ inside
        exact keeps.wired there (carries.wired session entry there)
      · exact fun _ _ member => keeps.wired member (carries.wired _ _ member)
      · intro entry inside
        rcases List.mem_append.mp inside with older | newer
        · exact keeps.read older (carries.read session entry older)
        · rw [List.mem_singleton.mp newer]
          exact keeps.wired member carried
      · exact fun _ _ member => keeps.read member (carries.read _ _ member)

theorem carries_tell {session : Nat} {message : FromPeer} (carries : Carries way self)
    (unasked : message.handler = none) (comes : self.Comes session message) :
    Exists fun way => Carries way (self.tell session message.frame) := by
  have keeps : Keeps way self (self.tell session message.frame) :=
    keeps_of_same rfl rfl rfl rfl (List.Subset.refl _)
  refine ⟨{ way with
    coming := Function.update way.coming session (way.coming session ++ [message]) },
    carries.down, carries.pending, update_eq ?_ carries.up, carries.lost,
    fun _ _ member => keeps.wired member (carries.wired _ _ member),
    fun _ _ member => keeps.read member (carries.read _ _ member), forall_update ?_ ?_,
    fun _ _ member => keeps.missed (carries.missed _ _ member),
    fun turn member => keeps.taken (carries.taken turn member),
    fun _ _ member answers => keeps.solicited (carries.solicited _ _ member answers),
    carries.unsent, carries.once, carries.present, ?_⟩
  · rw [List.flatMap_append, ← carries.up, List.flatMap_singleton, FromPeer.marked, unasked]
  · intro entry inside
    rcases List.mem_append.mp inside with older | newer
    · exact keeps.comes older (carries.comes session entry older)
    · rw [List.mem_singleton.mp newer]
      cases message with
      | answer handler report => cases unasked
      | notice report => exact comes
      | remark frame => exact comes
  · exact fun _ _ member => keeps.comes member (carries.comes _ _ member)
  · intro other handler
    have before := carries.answered other handler
    by_cases same : other = session
    · have none : [message.handler].count (some handler) = 0 := by
        rw [unasked, List.count_singleton, if_neg nofun]
      dsimp only
      rw [same, Function.update_self, List.map_append, List.count_append, List.map_singleton, none]
      exact same ▸ before
    · dsimp only
      rw [Function.update_of_ne same]
      exact before

theorem carries_answer {session index : Nat} {report : PeerReport} (carries : Carries way self)
    (moved : self.answerStep session index report = some after) :
    Exists fun way => Carries way after := by
  rcases Option.bind_eq_some_iff.mp moved with ⟨asked, found, moved⟩
  split at moved
  · rename_i transaction
    cases moved
    rw [carries.pending, List.getElem?_map] at found
    rcases Option.map_eq_some_iff.mp found with ⟨message, there, rfl⟩
    have member := List.mem_of_getElem? there
    have carried := carries.read session message member
    have filled := frames_delimited.filled _ carried.whole
    rcases message with ⟨who, text⟩
    rw [ToPeer.marked, mark_bytes] at transaction
    -- a message with a transaction is a decision
    cases who with
    | none =>
        rw [carried.other rfl] at transaction
        cases transaction
    | some handler =>
        have asks := carried.asks handler rfl
        have own : owner (ToPeer.marked (some handler, text)) = some handler :=
          owner_mark (some handler) filled
        rw [own]
        have keeps : Keeps way self { self with
            pending := Function.update self.pending session ((self.pending session).eraseIdx index)
            up := Function.update self.up session
              (self.up session ++ mark (some handler) report.frame.bytes)
            turns := self.turns ++ [{ asked := ToPeer.marked (some handler, text), report }] } :=
          keeps_of_same rfl rfl rfl rfl (List.subset_append_left _ _)
        have turn : { asked := mark (some handler) text, report } ∈
            self.turns ++ [{ asked := ToPeer.marked (some handler, text), report }] :=
          List.mem_append_right _ List.mem_cons_self
        have has : way.Has session handler :=
          Or.inr (Or.inl (List.mem_map.mpr ⟨_, member, rfl⟩))
        refine ⟨{ way with
          read := Function.update way.read session ((way.read session).eraseIdx index)
          coming := Function.update way.coming session
            (way.coming session ++ [.answer handler report]) },
          carries.down, update_eq ?_ carries.pending, update_eq ?_ carries.up, carries.lost,
          fun _ _ member => keeps.wired member (carries.wired _ _ member), forall_update ?_ ?_,
          forall_update ?_ ?_, fun _ _ member => keeps.missed (carries.missed _ _ member), ?_,
          fun _ _ member answers => keeps.solicited (carries.solicited _ _ member answers),
          carries.unsent, ?_, ?_, ?_⟩
        · rw [carries.pending, List.eraseIdx_map]
        · rw [List.flatMap_append, ← carries.up, List.flatMap_singleton]
          rfl
        · intro entry inside
          have older := List.mem_of_mem_eraseIdx inside
          exact keeps.read older (carries.read session entry older)
        · exact fun _ _ member => keeps.read member (carries.read _ _ member)
        · intro entry inside
          rcases List.mem_append.mp inside with older | newer
          · exact keeps.comes older (carries.comes session entry older)
          · rw [List.mem_singleton.mp newer]
            exact ⟨text, keeps.asks session handler text has asks, transaction, turn⟩
        · exact fun _ _ member => keeps.comes member (carries.comes _ _ member)
        · intro entry inside
          rcases List.mem_append.mp inside with older | newer
          · exact keeps.taken (carries.taken entry older)
          · rw [List.mem_singleton.mp newer]
            exact ⟨handler, text, rfl, carried.whole, asks.decided, asks.sent, transaction⟩
        · intro other handler'
          rw [way.tally_answered self.turns there own]
          by_cases same : other = session
          · rw [if_pos same]
            exact carries.once other handler'
          · rw [if_neg same]
            by_cases mine : handler' = handler
            · have here := carries.once session handler
              have inside : 0 < ((way.read session).map Prod.fst).count (some handler) :=
                List.count_pos_iff.mpr (List.mem_map.mpr ⟨_, member, rfl⟩)
              rw [Way.tally] at here
              rw [mine, (carries.counts_elsewhere asks same).1, List.count_singleton_self]
              omega
            · rw [List.count_singleton, if_neg (by simpa using Ne.symm mine)]
              exact carries.once other handler'
        · intro handler' request requested sent
          rw [way.tally_answered self.turns there own]
          exact Nat.le_trans (carries.present handler' request requested sent)
            (Nat.le_add_right _ _)
        · intro other handler'
          have before := carries.answered other handler'
          dsimp only
          rw [List.map_append, List.count_append, List.map_singleton, own]
          by_cases same : other = session
          · rw [same] at before ⊢
            rw [Function.update_self, List.map_append, List.count_append, List.map_singleton,
              FromPeer.handler]
            omega
          · rw [Function.update_of_ne same]
            omega
  · cases moved

/-- What has arrived, where there is a message, begins with the first one on the way. -/
theorem Carries.first_arrived (carries : Carries way self) {session arrived : Nat}
    (whole : takeMessage Prod.fst ((self.up session).take arrived) ≠ none) :
    Exists fun message => Exists fun rest => Exists fun more =>
      way.coming session = message :: rest ∧
        (self.up session).take arrived = message.marked ++ more ∧
          self.up session = message.marked ++ rest.flatMap FromPeer.marked := by
  have up := carries.up session
  cases sent : way.coming session with
  | nil =>
      rw [up, sent, List.flatMap_nil, List.take_nil] at whole
      exact absurd rfl whole
  | cons message rest =>
      rw [sent, List.flatMap_cons] at up
      have isFrame : IsFrame (message.marked.map Prod.fst) := by
        rw [FromPeer.marked, mark_bytes]
        exact ⟨message.frame, rfl⟩
      by_cases enough : message.marked.length ≤ arrived
      · refine ⟨message, rest, (rest.flatMap FromPeer.marked).take
          (arrived - message.marked.length), rfl, ?_, up⟩
        rw [up, List.take_append, List.take_of_length_le enough]
      · exfalso
        have few : arrived ≤ message.marked.length := Nat.le_of_not_le enough
        rw [up, List.take_append_of_le_length few] at whole
        refine whole (takeMessage_part isFrame (List.take_prefix _ _) ?_)
        intro same
        have length := congrArg List.length same
        rw [List.length_take_of_le few] at length
        exact enough (Nat.le_of_eq length.symm)

/-- What a call of `ps_recvd` makes of the conversation, but for the session and where its
thread is. -/
def received (self : Conversation) (session : Nat) (message : FromPeer) (rest : List FromPeer)
    (opens : Bool) (put : List UInt8) (sessions : Nat -> Session) (standings : Nat -> Standing) :
    Conversation :=
  { self with
    exchange := self.exchange.takeFiles session message.handler opens message.action.toList
    sessions
    standings
    up := Function.update self.up session (rest.flatMap FromPeer.marked)
    down := Function.update self.down session (self.down session ++ mark none put) }

/-- A call of `ps_recvd` takes the first message, and does about the files what the message
decides on; behind a Client-Close the connection is given up. -/
theorem Carries.receive_cases (carries : Carries way self) {session arrived : Nat}
    {stack : Memory} {opens : Bool} {echoed : Option Nat}
    (conforming : Conforming self (.receive session stack arrived opens echoed))
    (moved : self.receiveStep session stack arrived opens echoed = some after) :
    Exists fun message => Exists fun rest => Exists fun put => Exists fun sessions =>
      Exists fun standings =>
        way.coming session = message :: rest ∧ self.exchange.writers session = none ∧
          (put = [] ∨ put = copsKeepalive) ∧
            (after = self.received session message rest opens put sessions standings ∨
              after = (self.received session message rest opens put sessions standings).abandon
                session) := by
  rcases conforming with ⟨whole, echo⟩
  rcases carries.first_arrived whole with ⟨message, rest, more, first, there, up⟩
  unfold receiveStep at moved
  split at moved
  · rename_i ready
    rw [there] at moved
    rcases Option.map_eq_some_iff.mp moved with ⟨received, returns, made⟩
    rw [List.map_append, FromPeer.marked, mark_bytes] at returns
    have comes := carries.comes session message (first ▸ List.mem_cons_self)
    have result : received.socket = { queue := more.map Prod.fst, arrivals := [] } ∧
        received.files = message.action.toList := by
      cases message with
      | answer handler report | notice report =>
          rcases report.received stack (self.sessions session) (more.map Prod.fst) with
            ⟨result, returns', _, socket, files⟩
          cases returns.symm.trans returns'
          exact ⟨socket, files⟩
      | remark frame =>
          rcases received_of_other comes returns with ⟨_, socket, files⟩
          exact ⟨socket, files⟩
    rcases result with ⟨socket, files⟩
    have own : owner (message.marked ++ more) = message.handler :=
      (owner_append (mark_ne_nil message.handler message.filled) more).trans
        (owner_mark _ message.filled)
    have taken : (message.marked ++ more).length - (more.map Prod.fst).length =
        message.marked.length := by
      rw [List.length_append, List.length_map, Nat.add_sub_cancel]
    refine ⟨message, rest,
      if self.standings session = .serving ∧ received.opcode = 9 then
        sockWrite true [] copsKeepalive echoed
      else [],
      Function.update self.sessions session
        (if self.standings session = .serving ∧ received.opcode = 8 then
          { received.self with uuidReceived := false }
        else received.self),
      Function.update self.standings session ((self.standings session).heard received.opcode),
      first, ready.2, ?_, ?_⟩
    · split
      · exact echo
      · exact Or.inl rfl
    · dsimp only at made
      rw [own, files, socket, taken, up, List.drop_left] at made
      split at made
      · rename_i closes
        rw [if_pos closes]
        exact Or.inr made.symm
      · rename_i goesOn
        rw [if_neg goesOn]
        exact Or.inl made.symm
  · cases moved

/-- What becomes of the exchange when a message is received: nothing, or the response of an
answer is begun. -/
theorem Carries.taken_cases (carries : Carries way self) {session : Nat} {message : FromPeer}
    (member : message ∈ way.coming session) (idle : self.exchange.writers session = none)
    (opens : Bool) :
    self.exchange.takeFiles session message.handler opens message.action.toList = self.exchange ∨
      Exists fun handler => Exists fun report => Exists fun path => Exists fun text =>
        message = .answer handler report ∧ report.decoded.response = some (path, text) ∧
          opens = true ∧
          self.exchange.takeFiles session message.handler opens message.action.toList =
            { self.exchange with
              reports := self.exchange.reports ++ [{ answers := some handler, text }]
              writers := Function.update self.exchange.writers session
                (some { file := (self.exchange.disk.create path).2
                        number := self.exchange.reports.length, text })
              disk := (self.exchange.disk.create path).1 } := by
  have comes := carries.comes session message member
  cases message with
  | answer handler report =>
      rcases Exchange.takeFiles_cases report.decoded idle (some handler) opens with
        ⟨same, _⟩ | ⟨path, text, response, opened, taken⟩
      · exact Or.inl same
      · exact Or.inr ⟨handler, report, path, text, rfl, response, opened, taken⟩
  | notice report =>
      have silent : report.decoded.response = none := comes
      rcases Exchange.takeFiles_cases report.decoded idle none opens with
        ⟨same, _⟩ | ⟨path, text, response, _⟩
      · exact Or.inl same
      · rw [silent] at response
        cases response
  | remark frame => exact Or.inl rfl

/-- A message without a transaction is put on the connection, or nothing is. -/
theorem carries_write {session : Nat} {message put : List UInt8} (carries : Carries way self)
    (whole : IsFrame message) (other : decisionTransaction message = none)
    (taken : AllOrNone message put) :
    Exists fun next : Way => next.coming = way.coming ∧ Carries next { self with
      down := Function.update self.down session (self.down session ++ mark none put) } := by
  have keeps : Keeps way self { self with
      down := Function.update self.down session (self.down session ++ mark none put) } :=
    keeps_of_same rfl rfl rfl rfl (List.Subset.refl _)
  have back : Exists fun sent : List ToPeer => mark none put = sent.flatMap ToPeer.marked ∧
      forall entry, entry ∈ sent -> entry = (none, message) := by
    rcases taken with rfl | rfl
    · exact ⟨[], rfl, fun _ inside => absurd inside List.not_mem_nil⟩
    · refine ⟨[(none, put)], ?_, fun _ inside => List.mem_singleton.mp inside⟩
      rw [List.flatMap_singleton]
      rfl
  rcases back with ⟨back, bytes, each⟩
  have tallied (session' handler : Nat) : ({ way with
        wire := Function.update way.wire session (way.wire session ++ back) } : Way).tally
          self.turns session' handler = way.tally self.turns session' handler := by
    have none : (back.map Prod.fst).count (some handler) = 0 := by
      refine List.count_eq_zero.mpr fun there => ?_
      rcases List.mem_map.mp there with ⟨entry, inside, own⟩
      rw [each entry inside] at own
      cases own
    unfold Way.tally
    dsimp only
    by_cases same : session' = session
    · rw [same, Function.update_self, List.map_append, List.count_append, none, Nat.add_zero]
    · rw [Function.update_of_ne same]
  refine ⟨{ way with
    wire := Function.update way.wire session (way.wire session ++ back) }, rfl,
    update_eq ?_ carries.down, carries.pending, carries.up, carries.lost,
    forall_update ?_ fun _ _ member => keeps.wired member (carries.wired _ _ member),
    fun _ _ member => keeps.read member (carries.read _ _ member),
    fun _ _ member => keeps.comes member (carries.comes _ _ member),
    fun _ _ member => keeps.missed (carries.missed _ _ member),
    fun turn member => keeps.taken (carries.taken turn member),
    fun _ _ member answers => keeps.solicited (carries.solicited _ _ member answers),
    carries.unsent,
    fun session' handler => (tallied session' handler).trans_le (carries.once session' handler),
    fun handler request requested sent => (carries.present handler request requested sent).trans_eq
      (tallied request.session handler).symm, carries.answered⟩
  · rw [List.flatMap_append, ← carries.down, bytes]
  · intro entry inside
    rcases List.mem_append.mp inside with older | newer
    · exact keeps.wired older (carries.wired session entry older)
    · rw [each entry newer]
      exact ⟨whole, fun handler impossible => absurd impossible.symm (Option.some_ne_none handler),
        fun _ => other⟩

/-- The first message from the peer is received. -/
theorem carries_received {session : Nat} {message : FromPeer} {rest : List FromPeer}
    (carries : Carries way self) (first : way.coming session = message :: rest)
    (idle : self.exchange.writers session = none) (opens : Bool) (sessions : Nat -> Session)
    (standings : Nat -> Standing) :
    Exists fun way => Carries way { self with
      exchange := self.exchange.takeFiles session message.handler opens message.action.toList
      sessions
      standings
      up := Function.update self.up session (rest.flatMap FromPeer.marked) } := by
  have member : message ∈ way.coming session := first ▸ List.mem_cons_self
  have comes := carries.comes session message member
  -- a response is begun for a handler whose answer has been received
  have grown : Exists fun more => (self.exchange.takeFiles session message.handler opens
      message.action.toList).reports = self.exchange.reports ++ more ∧
        (forall report handler, report ∈ more -> report.answers = some handler ->
          self.Solicited handler report.text) ∧
        forall handler, (more.map Report.answers).count (some handler) ≤
          [message.handler].count (some handler) := by
    rcases carries.taken_cases member idle opens with same | ⟨handler, report, path, text, rfl,
      response, _, taken⟩
    · refine ⟨[], ?_, fun _ _ inside => absurd inside List.not_mem_nil, fun _ => Nat.zero_le _⟩
      rw [same, List.append_nil]
    · refine ⟨[{ answers := some handler, text }], ?_, ?_, fun _ => Nat.le_refl _⟩
      · rw [taken]
      · intro other who inside answers
        rw [List.mem_singleton.mp inside] at answers ⊢
        cases Option.some.inj answers
        rcases comes with ⟨asked, _, _, turn⟩
        rcases carries.taken _ turn with ⟨_, _, same, whole, _⟩
        have bytes := congrArg (List.map Prod.fst) same
        rw [mark_bytes, mark_bytes] at bytes
        have filled := frames_delimited.filled _ (bytes ▸ whole)
        exact ⟨_, turn, owner_mark _ filled, path, response⟩
  have still : (self.exchange.takeFiles session message.handler opens
      message.action.toList).requests = self.exchange.requests ∧
      (self.exchange.takeFiles session message.handler opens message.action.toList).latest =
        self.exchange.latest ∧
      (self.exchange.takeFiles session message.handler opens message.action.toList).sent =
        self.exchange.sent ∧
      (self.exchange.takeFiles session message.handler opens message.action.toList).handlers =
        self.exchange.handlers := by
    rcases carries.taken_cases member idle opens with same | ⟨_, _, _, _, _, _, _, taken⟩
    · rw [same]
      exact ⟨rfl, rfl, rfl, rfl⟩
    · rw [taken]
      exact ⟨rfl, rfl, rfl, rfl⟩
  generalize self.exchange.takeFiles session message.handler opens message.action.toList =
    exchange at grown still ⊢
  rcases grown with ⟨more, reports, solicited, counted⟩
  rcases still with ⟨requests, latest, sent, handlers⟩
  have keeps : Keeps way self { self with
      exchange
      sessions
      standings
      up := Function.update self.up session (rest.flatMap FromPeer.marked) } :=
    keeps_of_same requests latest sent rfl (List.Subset.refl _)
  refine ⟨{ way with coming := Function.update way.coming session rest },
    carries.down, carries.pending, update_eq rfl carries.up, carries.lost,
    fun _ _ member => keeps.wired member (carries.wired _ _ member),
    fun _ _ member => keeps.read member (carries.read _ _ member),
    forall_update ?_ fun _ _ member => keeps.comes member (carries.comes _ _ member),
    fun _ _ member => keeps.missed (carries.missed _ _ member),
    fun turn member => keeps.taken (carries.taken turn member), ?_, ?_, carries.once, ?_, ?_⟩
  · intro entry inside
    have older : entry ∈ way.coming session := first ▸ List.mem_cons_of_mem _ inside
    exact keeps.comes older (carries.comes session entry older)
  · intro report handler inside answers
    rw [reports] at inside
    rcases List.mem_append.mp inside with older | newer
    · exact keeps.solicited (carries.solicited report handler older answers)
    · exact keeps.solicited (solicited report handler newer answers)
  · intro other early
    change exchange.handlers other = .fresh ∨ exchange.handlers other = .drawn at early
    change exchange.sent other = false
    rw [handlers] at early
    rw [sent]
    exact carries.unsent other early
  · intro handler request requested isSent
    change exchange.requests handler = some request at requested
    change exchange.sent handler = true at isSent
    rw [requests] at requested
    rw [sent] at isSent
    exact carries.present handler request requested isSent
  · intro other handler
    have before := carries.answered other handler
    have here := carries.answered session handler
    have few := counted handler
    dsimp only
    rw [reports, List.map_append, List.count_append]
    rw [first, List.map_cons, ← List.singleton_append, List.count_append] at here
    by_cases same : other = session
    · rw [same, Function.update_self]
      omega
    · rw [Function.update_of_ne same]
      by_cases own : message.handler = some handler
      · have has : way.Has session handler :=
          Or.inr (Or.inr (List.mem_map.mpr ⟨message, member, own⟩))
        rcases carries.asked_of_has has with ⟨_, asks⟩
        have none := (carries.counts_elsewhere asks same).2
        omega
      · have none : [message.handler].count (some handler) = 0 :=
          List.count_eq_zero.mpr fun there => own (List.mem_singleton.mp there).symm
        omega

/-- What was on the way to the peer is lost, and what was on the way back is forgotten. -/
theorem carries_abandon (carries : Carries way self) (session : Nat) :
    Exists fun way => Carries way (self.abandon session) := by
  have keeps : Keeps way self (self.abandon session) :=
    keeps_of_same rfl rfl rfl rfl (List.Subset.refl _)
  have tallied (other handler : Nat) : ({ way with
        wire := Function.update way.wire session []
        coming := Function.update way.coming session []
        gone := Function.update way.gone session (way.gone session ++ way.wire session) } :
          Way).tally self.turns other handler = way.tally self.turns other handler := by
    unfold Way.tally
    dsimp only
    by_cases same : other = session
    · rw [same, Function.update_self, Function.update_self, List.map_append, List.count_append,
        List.map_nil, List.count_nil, Nat.add_zero]
    · rw [Function.update_of_ne same, Function.update_of_ne same]
  refine ⟨{ way with
    wire := Function.update way.wire session []
    coming := Function.update way.coming session []
    gone := Function.update way.gone session (way.gone session ++ way.wire session) },
    update_eq rfl carries.down, carries.pending, update_eq rfl carries.up,
    update_eq ?_ carries.lost,
    forall_update (fun _ inside => absurd inside List.not_mem_nil) fun _ _ member =>
      keeps.wired member (carries.wired _ _ member),
    fun _ _ member => keeps.read member (carries.read _ _ member),
    forall_update (fun _ inside => absurd inside List.not_mem_nil) fun _ _ member =>
      keeps.comes member (carries.comes _ _ member),
    forall_update ?_ fun _ _ member => keeps.missed (carries.missed _ _ member),
    fun turn member => keeps.taken (carries.taken turn member),
    fun _ _ member answers => keeps.solicited (carries.solicited _ _ member answers),
    carries.unsent, fun other handler => (tallied other handler).trans_le (carries.once other handler),
    fun handler request requested sent => (carries.present handler request requested sent).trans_eq
      (tallied request.session handler).symm, ?_⟩
  · rw [List.flatMap_append, ← carries.lost, ← carries.down]
  · intro entry inside
    rcases List.mem_append.mp inside with older | newer
    · exact keeps.missed (carries.missed session entry older)
    · exact keeps.missed ((carries.wired session entry newer).missed)
  · intro other handler
    have before := carries.answered other handler
    by_cases same : other = session
    · dsimp only
      rw [same, Function.update_self, List.map_nil, List.count_nil, Nat.zero_add]
      exact Nat.le_trans (Nat.le_add_left _ _) before
    · dsimp only
      rw [Function.update_of_ne same]
      exact before

theorem carries_receive {session arrived : Nat} {stack : Memory} {opens : Bool}
    {echoed : Option Nat} (carries : Carries way self)
    (conforming : Conforming self (.receive session stack arrived opens echoed))
    (moved : self.receiveStep session stack arrived opens echoed = some after) :
    Exists fun way => Carries way after := by
  rcases carries.receive_cases conforming moved with
    ⟨message, rest, put, sessions, standings, first, idle, echo, made⟩
  rcases @carries_write way self session copsKeepalive put carries IsOutgoing.keepalive.frame
    (by decide) echo with ⟨next, same, written⟩
  rw [← same] at first
  rcases carries_received written first idle opens sessions standings with ⟨last, received⟩
  rcases made with rfl | rfl
  · exact ⟨last, received⟩
  · exact carries_abandon received session

/-- Where the threads are makes no difference to what is on the way. -/
theorem carries_stand (carries : Carries way self) (session : Nat) (standing : Standing) :
    Carries way (self.stand session standing) :=
  carries.of_still (keeps_of_same rfl rfl rfl rfl (List.Subset.refl _)) rfl rfl rfl rfl rfl rfl
    (fun _ _ requested sent => ⟨requested, sent⟩) carries.unsent

theorem carries_connect {session : Nat} (carries : Carries way self)
    (moved : self.connectStep session = some after) : Exists fun way => Carries way after := by
  unfold connectStep at moved
  split at moved
  · cases moved
    rcases carries_abandon carries session with ⟨next, abandoned⟩
    exact ⟨next, carries_stand abandoned session .opening⟩
  · cases moved

theorem carries_accept {session : Nat} {bytes : Option Nat} (carries : Carries way self)
    (conforming : Conforming self (.accept session bytes))
    (moved : self.acceptStep session bytes = some after) : Exists fun way => Carries way after := by
  unfold acceptStep at moved
  split at moved
  · cases moved
    rcases carries_write carries (IsOutgoing.clientAccept _ _).frame
      (decisionTransaction_clientAccept _ _) conforming with ⟨next, _, written⟩
    exact ⟨next, carries_stand written session .requesting⟩
  · cases moved

theorem carries_expire {session : Nat} (carries : Carries way self)
    (moved : self.expireStep session = some after) : Carries way after := by
  rcases Option.map_eq_some_iff.mp moved with ⟨standing, _, rfl⟩
  exact carries_stand carries session standing

theorem carries_close {session : Nat} {exchange : Exchange} (carries : Carries way self)
    (moved : self.exchange.closeStep session = some exchange) :
    Carries way { self with exchange } := by
  unfold Exchange.closeStep at moved
  split at moved
  · cases moved
    exact carries.of_still (keeps_of_same rfl rfl rfl rfl (List.Subset.refl _)) rfl rfl rfl rfl rfl
      rfl (fun _ _ requested sent => ⟨requested, sent⟩) carries.unsent
  · cases moved

/-- Nothing is on the way at the start. -/
theorem carries_start (ready : Ready) :
    Carries { wire := fun _ => [], read := fun _ => [], coming := fun _ => [], gone := fun _ => [] }
      (start ready) where
  down := fun _ => rfl
  pending := fun _ => rfl
  up := fun _ => rfl
  lost := fun _ => rfl
  wired := nofun
  read := nofun
  comes := nofun
  missed := nofun
  taken := nofun
  solicited := nofun
  unsent := fun _ _ => rfl
  once := fun _ _ => Nat.zero_le 1
  present := nofun
  answered := fun _ _ => Nat.le_refl 0

end Steps

end Conversation
end PolicyServer
