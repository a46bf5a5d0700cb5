import PolicyServer.PeerMessages
import PolicyServer.ResponseMatching

namespace PolicyServer

open Lib

/-!
# Decisions and answers as bytes

The exchange of `GateRequests` with the connections in between.  A handler puts its
decision on the connection of a session with `sock_write`; a peer takes it off by its
length field, looks for the transaction and, when it likes, puts a Report-State with that
transaction on the way back; the session thread takes it off with `ps_recvd`, answers a
Keep-Alive, and opens the file that the report decides on.  A session begins without a
connection.  Its thread connects and shakes hands as `ps_admctl` does, and again whenever
the peer has closed the client.  Behind the test of `connection` the number of its socket
may have gone to another session, whose peer then gets the decision.

Every byte on the way is kept with the handler whose decision it belongs to, or answers.
Nothing looks at these marks but what is said about a run.
-/

/-- A byte on a connection, with the handler that it comes from or answers. -/
abbrev Marked := UInt8 × Option Nat

def mark (owner : Option Nat) (bytes : List UInt8) : List Marked :=
  bytes.map fun byte => (byte, owner)

def owner (bytes : List Marked) : Option Nat :=
  bytes.head?.bind Prod.snd

/-- What a peer has answered with what. -/
structure Turn where
  asked : List Marked
  report : PeerReport

/-- Where a session thread is. -/
inductive Standing where
  /-- in front of `sock_connect` -/
  | away
  /-- in `ps_polld`, for a Client-Open -/
  | opening
  /-- in front of the Client-Accept -/
  | accepting
  /-- in `ps_polld`, for a Request -/
  | requesting
  /-- in the loop of `ps_statemachine` -/
  | serving
  deriving DecidableEq, Repr

namespace Standing

/-- The thread calls `ps_recvd`. -/
def listens : Standing -> Bool
  | .opening | .requesting | .serving => true
  | .away | .accepting => false

/-- Behind a message with this opcode. -/
def heard (self : Standing) (opcode : UInt8) : Standing :=
  match self with
  | .opening => if opcode = 6 then .accepting else .opening
  | .requesting => if opcode = 1 then .serving else .requesting
  | .serving => if opcode = 8 then .away else .serving
  | .away => .away
  | .accepting => .accepting

/-- Behind the last iteration of `ps_polld`.  That no Client-Open has come is not looked at. -/
def expired : Standing -> Option Standing
  | .opening => some .accepting
  | .requesting => some .away
  | .away | .accepting | .serving => none

end Standing

structure Conversation where
  exchange : Exchange
  timers : Nat -> Timers
  sessions : Nat -> Session
  standings : Nat -> Standing
  /-- on the way to the peer -/
  down : Nat -> List Marked
  /-- read by the peer, and not answered -/
  pending : Nat -> List (List Marked)
  /-- on the way back -/
  up : Nat -> List Marked
  /-- on a connection that was given up -/
  lost : Nat -> List Marked
  /-- what the handlers have sent -/
  decisions : Nat -> Option (List UInt8)
  turns : List Turn

inductive ConversationLabel where
  /-- a step of a handler but for the send -/
  | handler (handler : Nat) (label : HandlerLabel)
  /-- `sock_write` of a decision: what it reads of `connection`, what `write` answers, and the
  session whose connection the number of the socket leads to by then -/
  | send (handler : Nat) (order : Order) (connection : Bool) (bytes : Option Nat) (leads : Nat)
  /-- the peer reads a message -/
  | fetch (session : Nat)
  /-- the peer answers one of those it has read -/
  | answer (session : Nat) (index : Nat) (report : PeerReport)
  /-- the peer sends a report that is no answer -/
  | notice (session : Nat) (report : PeerReport)
  /-- the peer sends another message -/
  | remark (session : Nat) (frame : Frame)
  /-- `sock_connect` succeeds -/
  | connect (session : Nat)
  /-- `sock_write` of a Client-Accept -/
  | accept (session : Nat) (bytes : Option Nat)
  /-- `ps_polld` comes to its end -/
  | expire (session : Nat)
  /-- `ps_recvd`, with so many bytes arrived -/
  | receive (session : Nat) (stack : Memory) (arrived : Nat) (opens : Bool) (echoed : Option Nat)
  /-- `fclose` of the file that the session thread has open -/
  | close (session : Nat)

namespace Exchange

/-- What a session thread does about a file that `ps_pcmm_report` has decided on, up to
`fclose`.  The file of orphans is not that of a response. -/
def takeFile (self : Exchange) (session : Nat) (answers : Option Nat) (opens : Bool) :
    FileAction -> Exchange
  | .append _ _ => self
  | .write path text =>
      if opens then
        let created := self.disk.create path
        { self with
          reports := self.reports ++ [{ answers, text }]
          writers := Function.update self.writers session
            (some { file := created.2, number := self.reports.length, text })
          disk := created.1 }
      else self

/-- The files of one message, each closed in front of the next. -/
def takeFiles (self : Exchange) (session : Nat) (answers : Option Nat) (opens : Bool)
    (files : List FileAction) : Exchange :=
  files.foldl (fun exchange file =>
    ((exchange.closeStep session).getD exchange).takeFile session answers opens file) self

end Exchange

/-- Where a conversation begins: no session has a connection, and no file has the name of a
response. -/
structure Ready where
  disk : Disk String Byte
  timers : Nat -> Timers
  sessions : Nat -> Session
  vacant : forall id, disk.names (gctlDecisionFile id) = none

def Ready.exchange (ready : Ready) : Exchange := { Exchange.start with disk := ready.disk }

namespace Conversation

def start (ready : Ready) : Conversation where
  exchange := ready.exchange
  timers := ready.timers
  sessions := ready.sessions
  standings := fun _ => .away
  down := fun _ => []
  pending := fun _ => []
  up := fun _ => []
  lost := fun _ => []
  decisions := fun _ => none
  turns := []

def handlerStep (self : Conversation) (handler : Nat) : HandlerLabel -> Option Conversation
  | .send _ => none
  | label => (self.exchange.handlerStep handler label).map fun exchange => { self with exchange }

def sendStep (self : Conversation) (handler : Nat) (order : Order) (connection : Bool)
    (bytes : Option Nat) (leads : Nat) : Option Conversation :=
  (self.exchange.requests handler).bind fun request =>
    (order.message request.id).bind fun message =>
      let put := sockWrite connection [] message bytes
      (self.exchange.handlerStep handler (.send (put = message))).map fun exchange =>
        { self with
          exchange
          down := Function.update self.down leads (self.down leads ++ mark (some handler) put)
          decisions := Function.update self.decisions handler (some message) }

def fetchStep (self : Conversation) (session : Nat) : Option Conversation :=
  (takeMessage Prod.fst (self.down session)).map fun taken =>
    { self with
      down := Function.update self.down session taken.2
      pending := Function.update self.pending session (self.pending session ++ [taken.1]) }

def answerStep (self : Conversation) (session index : Nat) (report : PeerReport) :
    Option Conversation :=
  ((self.pending session)[index]?).bind fun asked =>
    if decisionTransaction (asked.map Prod.fst) = some report.transaction then
      some { self with
        pending := Function.update self.pending session ((self.pending session).eraseIdx index)
        up := Function.update self.up session
          (self.up session ++ mark (owner asked) report.frame.bytes)
        turns := self.turns ++ [{ asked, report }] }
    else none

/-- The peer sends a message that answers nothing. -/
def tell (self : Conversation) (session : Nat) (frame : Frame) : Conversation :=
  { self with
    up := Function.update self.up session (self.up session ++ mark none frame.bytes) }

/-- The connection of a session is given up: what is on the way reaches nobody. -/
def abandon (self : Conversation) (session : Nat) : Conversation :=
  { self with
    down := Function.update self.down session []
    up := Function.update self.up session []
    lost := Function.update self.lost session (self.lost session ++ self.down session) }

def stand (self : Conversation) (session : Nat) (standing : Standing) : Conversation :=
  { self with standings := Function.update self.standings session standing }

/-- A new connection.  An attempt that has failed behind `sock_connect` has left its own. -/
def connectStep (self : Conversation) (session : Nat) : Option Conversation :=
  if self.standings session = .away then some ((self.abandon session).stand session .opening)
  else none

def acceptStep (self : Conversation) (session : Nat) (bytes : Option Nat) : Option Conversation :=
  if self.standings session = .accepting then
    let message := copsClientAccept (self.timers session).kaTimer (self.timers session).acTimer
    let put := sockWrite true [] message bytes
    some ({ self with
      down := Function.update self.down session (self.down session ++ mark none put) }.stand
        session .requesting)
  else none

def expireStep (self : Conversation) (session : Nat) : Option Conversation :=
  (self.standings session).expired.map fun standing => self.stand session standing

def receiveStep (self : Conversation) (session : Nat) (stack : Memory) (arrived : Nat)
    (opens : Bool) (echoed : Option Nat) : Option Conversation :=
  if (self.standings session).listens ∧ self.exchange.writers session = none then
    let there := (self.up session).take arrived
    (psRecvd stack (self.sessions session) { queue := there.map Prod.fst, arrivals := [] }).map
      fun received =>
        let standing := self.standings session
        let taken := there.length - received.socket.queue.length
        let answer :=
          if standing = .serving ∧ received.opcode = 9 then sockWrite true [] copsKeepalive echoed
          else []
        let closes := standing = .serving ∧ received.opcode = 8
        let after :=
          { self with
            exchange := self.exchange.takeFiles session (owner there) opens received.files
            sessions := Function.update self.sessions session
              (if closes then { received.self with uuidReceived := false } else received.self)
            standings := Function.update self.standings session
              (standing.heard received.opcode)
            up := Function.update self.up session ((self.up session).drop taken)
            down := Function.update self.down session (self.down session ++ mark none answer) }
        if closes then after.abandon session else after
  else none

def step (self : Conversation) : ConversationLabel -> Option Conversation
  | .handler handler label => self.handlerStep handler label
  | .send handler order connection bytes leads =>
      self.sendStep handler order connection bytes leads
  | .fetch session => self.fetchStep session
  | .answer session index report => self.answerStep session index report
  | .notice session report => some (self.tell session report.frame)
  | .remark session frame => some (self.tell session frame)
  | .connect session => self.connectStep session
  | .accept session bytes => self.acceptStep session bytes
  | .expire session => self.expireStep session
  | .receive session stack arrived opens echoed =>
      self.receiveStep session stack arrived opens echoed
  | .close session =>
      (self.exchange.closeStep session).map fun exchange => { self with exchange }

/-! ## Runs without accidents -/

/-- Nothing of the handler's is on the way any more. -/
def Over (self : Conversation) (handler : Nat) : Prop :=
  forall request, self.exchange.requests handler = some request ->
    (forall byte, byte ∈ self.down request.session -> byte.2 ≠ some handler) ∧
      (forall asked, asked ∈ self.pending request.session -> owner asked ≠ some handler) ∧
        forall byte, byte ∈ self.up request.session -> byte.2 ≠ some handler

instance (self : Conversation) (handler : Nat) : Decidable (self.Over handler) :=
  match found : self.exchange.requests handler with
  | none => isTrue (fun _ impossible => by rw [found] at impossible; cases impossible)
  | some request =>
      decidable_of_iff
        ((forall byte, byte ∈ self.down request.session -> byte.2 ≠ some handler) ∧
          (forall asked, asked ∈ self.pending request.session -> owner asked ≠ some handler) ∧
            forall byte, byte ∈ self.up request.session -> byte.2 ≠ some handler)
        ⟨fun ended _ same => Option.some.inj (found.symm.trans same) ▸ ended,
          fun ended => ended request found⟩

/-- Nobody waits for the id, no response to it is left, and none will come. -/
def Unused (self : Conversation) (id : UInt16) : Prop :=
  self.exchange.Free id ∧
    forall handler, self.exchange.latest id = some handler -> self.Over handler

instance (self : Conversation) (id : UInt16) : Decidable (self.Unused id) :=
  inferInstanceAs (Decidable (_ ∧ _))

/-- The kernel takes all of these bytes or nothing. -/
def AllOrNone (message put : List UInt8) : Prop :=
  put = [] ∨ put = message

instance (message put : List UInt8) : Decidable (AllOrNone message put) :=
  inferInstanceAs (Decidable (_ ∨ _))

/-- The steps of a run without accidents: an id is drawn that is unused, a message is taken
whole or not at all, a decision is written to the connection of its own session, a report
that answers nothing asks for no response, and `ps_recvd` is called when a message has
arrived. -/
def Conforming (self : Conversation) : ConversationLabel -> Prop
  | .handler _ (.draw id _) => self.Unused id
  | .handler _ _ => True
  | .send handler order connection bytes leads =>
      (self.exchange.requests handler).map Request.session = some leads ∧
        forall message,
          ((self.exchange.requests handler).bind fun request => order.message request.id) =
            some message -> AllOrNone message (sockWrite connection [] message bytes)
  | .fetch _ => True
  | .answer _ _ _ => True
  | .notice _ report => report.decoded.response = none
  | .remark _ frame => frame.opcode ≠ 3
  | .connect _ => True
  | .accept session bytes =>
      let message := copsClientAccept (self.timers session).kaTimer (self.timers session).acTimer
      AllOrNone message (sockWrite true [] message bytes)
  | .expire _ => True
  | .receive session _ arrived _ echoed =>
      takeMessage Prod.fst ((self.up session).take arrived) ≠ none ∧
        AllOrNone copsKeepalive (sockWrite true [] copsKeepalive echoed)
  | .close _ => True

instance (self : Conversation) (label : ConversationLabel) : Decidable (Conforming self label) :=
  match label with
  | .handler _ (.draw id _) => inferInstanceAs (Decidable (self.Unused id))
  | .send handler order connection bytes leads =>
      inferInstanceAs (Decidable ((self.exchange.requests handler).map Request.session =
        some leads ∧ forall message,
          ((self.exchange.requests handler).bind fun request => order.message request.id) =
            some message -> AllOrNone message (sockWrite connection [] message bytes)))
  | .notice _ report => inferInstanceAs (Decidable (report.decoded.response = none))
  | .remark _ frame => inferInstanceAs (Decidable (frame.opcode ≠ 3))
  | .accept session bytes =>
      inferInstanceAs (Decidable (AllOrNone
        (copsClientAccept (self.timers session).kaTimer (self.timers session).acTimer)
        (sockWrite true []
          (copsClientAccept (self.timers session).kaTimer (self.timers session).acTimer) bytes)))
  | .receive session _ arrived _ echoed =>
      inferInstanceAs (Decidable (takeMessage Prod.fst ((self.up session).take arrived) ≠ none ∧
        AllOrNone copsKeepalive (sockWrite true [] copsKeepalive echoed)))
  | .handler _ (.send _) | .handler _ .open | .handler _ .fgets | .handler _ .remove
  | .handler _ .expire | .fetch _ | .answer _ _ _ | .connect _ | .expire _ | .close _ =>
      instDecidableTrue

end Conversation

end PolicyServer
