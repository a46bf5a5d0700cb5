import PolicyServer.Lib.Disk
import PolicyServer.ReportDelivery

namespace PolicyServer

open Lib

/-!
# Gate requests and their responses

A handler of a gate request draws a transaction id, sends its message and polls
for the file of that id; the session threads write a file for each report that
carries one.  Handlers and threads share nothing but the directory, and an id is
16 bits of `rand`.

A report comes in answer to a request that was sent, as late and as often as the
peer likes, or on its own.  `fopen` for writing empties the file, and the text
reaches it at once when the stream is flushed; a handler that opens the file in
between reads nothing and polls again.  Every character in a file is kept with
the number of the report it was rendered from.
-/

/-- A character of a response file, with the report it comes from. -/
abbrev Byte := Char × Nat

/-- `fgets`: up to a line end, and one character less than the size. -/
def fgets (size : Nat) (content : List Byte) : List Byte :=
  let seen := content.take (size - 1)
  seen.takeWhile (fun byte => byte.1.toNat != 10) ++
    (seen.dropWhile (fun byte => byte.1.toNat != 10)).take 1

/-- The text of a report as it stands in a file. -/
def tagged (text : String) (number : Nat) : List Byte :=
  text.toList.map fun char => (char, number)

/-- What a handler asked for: its id, and the session that its message went to. -/
structure Request where
  id : UInt16
  session : Nat
  deriving DecidableEq, Repr

/-- Where a handler is: in front of `ps_proxy`, between the draw and the send, in
the loop of `gctl_async_get_decision`, with its file open, in front of `remove`,
and behind the loop. -/
inductive Handler where
  | fresh
  | drawn
  | polling
  | opened (file : Nat)
  | read (text : List Byte)
  | returned (text : List Byte)
  | timedOut
  deriving DecidableEq, Repr

/-- A report that was to be written, and the handler whose request it answers. -/
structure Report where
  answers : Option Nat
  text : String
  deriving DecidableEq, Repr

/-- A session thread between `fopen` and `fclose`. -/
structure Writer where
  file : Nat
  number : Nat
  text : String
  deriving DecidableEq, Repr

structure Exchange where
  requests : Nat -> Option Request
  handlers : Nat -> Handler
  sent : Nat -> Bool
  /-- the handler that drew an id last -/
  latest : UInt16 -> Option Nat
  reports : List Report
  writers : Nat -> Option Writer
  disk : Disk String Byte

/-- Steps of a handler. -/
inductive HandlerLabel where
  | draw (id : UInt16) (session : Nat)
  | send (written : Bool)
  | open
  | fgets
  | remove
  | expire
  deriving DecidableEq, Repr

/-- A report arrives in a session thread, as an answer to a handler's request or
on its own, and its file can be opened or not. -/
inductive ExchangeLabel where
  | handler (handler : Nat) (label : HandlerLabel)
  | report (session : Nat) (answers : Option Nat) (decoded : Decoded) (opens : Bool)
  | close (session : Nat)

/-- The response file that `ps_pcmm_report` writes for a decoded report, and its
text. -/
def Decoded.response (decoded : Decoded) : Option (String × String) :=
  if decoded.reportRequired then none
  else
    match psPcmmReportDecision decoded.rpt decoded.classifierType with
    | .append _ _ => none
    | .write path text => some (path, text)

namespace Exchange

def start : Exchange where
  requests := fun _ => none
  handlers := fun _ => .fresh
  sent := fun _ => false
  latest := fun _ => none
  reports := []
  writers := fun _ => none
  disk := .empty

def move (self : Exchange) (handler : Nat) (place : Handler) : Exchange :=
  { self with handlers := Function.update self.handlers handler place }

def handlerStep (self : Exchange) (handler : Nat) : HandlerLabel -> Option Exchange
  | .draw id session =>
      match self.handlers handler with
      | .fresh =>
          some { self.move handler .drawn with
            requests := Function.update self.requests handler (some { id, session })
            latest := Function.update self.latest id (some handler) }
      | _ => none
  | .send written =>
      match self.handlers handler with
      | .drawn =>
          some { self.move handler .polling with
            sent := Function.update self.sent handler written }
      | _ => none
  | .open =>
      match self.handlers handler, self.requests handler with
      | .polling, some request =>
          match self.disk.names (gctlDecisionFile request.id) with
          | some file => some (self.move handler (.opened file))
          | none => some self
      | _, _ => none
  | .fgets =>
      match self.handlers handler with
      | .opened file =>
          if self.disk.content file = [] then some (self.move handler .polling)
          else some (self.move handler (.read (fgets 400 (self.disk.content file))))
      | _ => none
  | .remove =>
      match self.handlers handler, self.requests handler with
      | .read text, some request =>
          some { self.move handler (.returned text) with
            disk := self.disk.unlink (gctlDecisionFile request.id) }
      | _, _ => none
  | .expire =>
      match self.handlers handler with
      | .polling => some (self.move handler .timedOut)
      | _ => none

/-- A report may answer a request that was sent on its session, if it carries
the id. -/
def Answering (self : Exchange) (session : Nat) (answers : Option Nat) (id : UInt16) : Prop :=
  forall handler, answers = some handler ->
    self.requests handler = some { id, session } ∧ self.sent handler = true

instance (self : Exchange) (session : Nat) (answers : Option Nat) (id : UInt16) :
    Decidable (self.Answering session answers id) :=
  match answers with
  | none => isTrue (fun _ impossible => nomatch impossible)
  | some handler =>
      decidable_of_iff (self.requests handler = some { id, session } ∧ self.sent handler = true)
        ⟨fun both _ same => Option.some.inj same ▸ both, fun each => each handler rfl⟩

/-- `ps_pcmm_report` from the end of its walk up to `fopen`. -/
def reportStep (self : Exchange) (session : Nat) (answers : Option Nat) (decoded : Decoded)
    (opens : Bool) : Option Exchange :=
  if self.Answering session answers decoded.rpt.transactionId ∧ self.writers session = none then
    match decoded.response with
    | none => some self
    | some (path, text) =>
        if opens then
          let created := self.disk.create path
          some { self with
            reports := self.reports ++ [{ answers, text }]
            writers := Function.update self.writers session
              (some { file := created.2, number := self.reports.length, text })
            disk := created.1 }
        else some self
  else none

/-- The text reaches the file, and `ps_pcmm_report_decision` closes it. -/
def closeStep (self : Exchange) (session : Nat) : Option Exchange :=
  match self.writers session with
  | some writer =>
      some { self with
        writers := Function.update self.writers session none
        disk := self.disk.overwrite writer.file (tagged writer.text writer.number) }
  | none => none

def step (self : Exchange) : ExchangeLabel -> Option Exchange
  | .handler handler label => self.handlerStep handler label
  | .report session answers decoded opens => self.reportStep session answers decoded opens
  | .close session => self.closeStep session

end Exchange

end PolicyServer
