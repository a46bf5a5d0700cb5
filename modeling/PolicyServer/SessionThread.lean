import Mathlib.Logic.Function.Basic
import PolicyServer.HandleFreshness

namespace PolicyServer

open Lib

/-!
# A session and its handlers, step by step

The session thread runs `ps_statemachine` and, inside it, `ps_admctl`; handlers
run `ps_proxy` on the same session at any time once it is registered.  Nothing
orders the two: `ps_proxy` packs the handle, `sock_write` looks at `connection`
and then writes to `sock`, and between any two of these the thread may close the
socket, open another one and take another handle.

A step is one of these accesses, one call of `ps_recvd`, or one system call.
Descriptors are shared with the rest of the process, which may take a free one.
The connections of the session are numbered in the order they were opened.
-/

/-- What a descriptor stands for: a connection of this session, or anything
else. -/
inductive Target where
  | own (number : Nat)
  | other
  deriving DecidableEq, Repr

/-- Where the session thread is. -/
inductive Place where
  /-- in front of `socket` -/
  | connect
  /-- in front of `self->sock = fd` -/
  | opened (fd : Nat)
  /-- in front of `self->connection = 1` -/
  | pending (fd : Nat)
  /-- in the first `ps_polld` -/
  | opening
  /-- in front of the Client-Accept -/
  | accepting
  /-- in the second `ps_polld` -/
  | requesting
  /-- in the loop of `ps_statemachine` -/
  | serving
  /-- in front of `close(self->sock)` -/
  | closing
  /-- in front of `self->connection = 0` -/
  | clearing
  /-- in front of `self->uuid_received = false` -/
  | forgetting
  /-- freed, the first `ps_admctl` having failed -/
  | freed
  deriving DecidableEq, Repr

/-- Where a handler is in `ps_proxy`: outside, in front of the test of
`connection`, of the read of `sock`, and of `write`.  It carries the handle it
has packed, and the number of the connection that had received a handle by
then. -/
inductive Proxy where
  | idle
  | packed (handle : List UInt8) (since : Option Nat)
  | checked (handle : List UInt8) (since : Option Nat)
  | loaded (handle : List UInt8) (since : Option Nat) (fd : Option Nat)
  deriving DecidableEq, Repr

/-- A decision written: where to, with which handle, and what had happened on
that connection by then. -/
structure Decision where
  target : Target
  handle : List UInt8
  log : List Event

structure Life where
  self : Session
  connection : Bool
  /-- `none` for -1 -/
  sock : Option Nat
  place : Place
  registered : Bool
  files : Nat -> Option Target
  /-- how many connections have been opened -/
  opened : Nat
  log : Nat -> List Event
  proxies : Nat -> Proxy
  decisions : List Decision

/-- What a call of `ps_recvd` finds: messages as they are sent, or any bytes. -/
inductive Arrival where
  | whole (incoming : Incoming)
  | raw (socket : Socket)

namespace Arrival

def socket : Arrival -> Socket
  | .whole incoming => incoming.socket
  | .raw socket => socket

def received : Arrival -> List Message
  | .whole incoming => incoming.received
  | .raw _ => []

end Arrival

/-- Steps of the session thread, with what the system answers. -/
inductive ThreadLabel where
  | socket (fd : Nat)
  | socketFails
  | refused
  | assign
  | established
  | unreachable
  | receive (arrival : Arrival) (echoed : Bool)
  | expire
  | accept (written : Bool)
  | close
  | clear
  | forget

/-- Steps of a handler in `ps_proxy`. -/
inductive ProxyLabel where
  | pack
  | check
  | load
  | write (written : Bool)
  deriving DecidableEq, Repr

inductive LifeLabel where
  | thread (label : ThreadLabel)
  | proxy (handler : Nat) (label : ProxyLabel)
  | otherOpens (fd : Nat)
  | otherCloses (fd : Nat)

namespace Life

/-- A new session, in front of its first `ps_admctl`, which a connect request
with `dry_run` leaves out. -/
def start (dryRun : Bool) : Life where
  self := { handle := [0, 0, 0, 0], uuidReceived := false }
  connection := false
  sock := none
  place := if dryRun then .serving else .connect
  registered := dryRun
  files := fun _ => none
  opened := 0
  log := fun _ => []
  proxies := fun _ => .idle
  decisions := []

/-- What `self->sock` stands for. -/
def target (life : Life) : Option Target :=
  life.sock.bind life.files

/-- Add to what happened on a connection. -/
def record (life : Life) (number : Nat) (events : List Event) : Life :=
  { life with log := Function.update life.log number (life.log number ++ events) }

/-- One call of `ps_recvd`, with the opcode it returns. -/
def receive (stack : Memory) (life : Life) (arrival : Arrival) : Option (Life × UInt8) :=
  match life.target with
  | some (.own number) =>
      (psRecvd stack life.self arrival.socket).map fun received =>
        ({ life with self := received.self }.record number (arrival.received.map .received),
          received.opcode)
  | _ => some (life, 0)

/-- `sock_write` from the session thread. -/
def send (life : Life) (bytes : List UInt8) (written : Bool) : Life :=
  if life.connection && written then
    match life.target with
    | some (.own number) => life.record number [.sent bytes]
    | _ => life
  else life

/-- `ps_admctl` answers 0. -/
def attemptFailed (life : Life) : Life :=
  { life with place := if life.registered then .connect else .freed }

/-- `close` of a descriptor. -/
def release (life : Life) (fd : Option Nat) : Life :=
  { life with files := fun other => if some other = fd then none else life.files other }

/-- The session thread, or the thread of the connect request in front of it. -/
def threadStep (stack : Memory) (timers : Timers) (life : Life) : ThreadLabel -> Option Life
  | .socket fd =>
      match life.place, life.files fd with
      | .connect, none =>
          some { life with
            place := .opened fd
            files := Function.update life.files fd (some (.own (life.opened + 1)))
            opened := life.opened + 1
            log := Function.update life.log (life.opened + 1) [] }
      | _, _ => none
  | .socketFails =>
      match life.place with
      | .connect => some life.attemptFailed
      | _ => none
  | .refused =>
      match life.place with
      | .opened fd => some (life.release (some fd)).attemptFailed
      | _ => none
  | .assign =>
      match life.place with
      | .opened fd => some { life with place := .pending fd, sock := some fd }
      | _ => none
  | .established =>
      match life.place with
      | .pending _ => some { life with place := .opening, connection := true }
      | _ => none
  | .unreachable =>
      match life.place with
      | .pending fd => some (life.release (some fd)).attemptFailed
      | _ => none
  | .receive arrival echoed =>
      match life.place with
      | .opening =>
          (life.receive stack arrival).map fun (after, opcode) =>
            if opcode = 6 then { after with place := .accepting } else after
      | .requesting =>
          (life.receive stack arrival).map fun (after, opcode) =>
            if opcode = 1 then { after with place := .serving, registered := true } else after
      | .serving =>
          (life.receive stack arrival).map fun (after, opcode) =>
            if opcode = 9 then after.send copsKeepalive echoed
            else if opcode = 8 then { after with place := .closing }
            else after
      | _ => none
  | .expire =>
      match life.place with
      | .opening => some { life with place := .accepting }
      | .requesting => some life.attemptFailed
      | _ => none
  | .accept written =>
      match life.place with
      | .accepting =>
          some { life.send (copsClientAccept timers.kaTimer timers.acTimer) written with
            place := .requesting }
      | _ => none
  | .close =>
      match life.place with
      | .closing => some { life.release life.sock with place := .clearing }
      | _ => none
  | .clear =>
      match life.place with
      | .clearing => some { life with place := .forgetting, connection := false }
      | _ => none
  | .forget =>
      match life.place with
      | .forgetting =>
          some { life with
            place := .connect
            self := { life.self with uuidReceived := false } }
      | _ => none

/-- The connection opened last, once it has received a handle. -/
def since (life : Life) : Option Nat :=
  if handlesOf (life.log life.opened) = [] then none else some life.opened

/-- The handler as it is now. -/
def move (life : Life) (handler : Nat) (proxy : Proxy) : Life :=
  { life with proxies := Function.update life.proxies handler proxy }

/-- A handler in `ps_proxy` with `dry_run` 0. -/
def proxyStep (life : Life) (handler : Nat) : ProxyLabel -> Option Life
  | .pack =>
      match life.proxies handler with
      | .idle =>
          if life.registered then some (life.move handler (.packed life.self.handle life.since))
          else none
      | _ => none
  | .check =>
      match life.proxies handler with
      | .packed handle since =>
          if life.connection then some (life.move handler (.checked handle since))
          else some (life.move handler .idle)
      | _ => none
  | .load =>
      match life.proxies handler with
      | .checked handle since => some (life.move handler (.loaded handle since life.sock))
      | _ => none
  | .write written =>
      match life.proxies handler with
      | .loaded handle _ fd =>
          if written then
            (fd.bind life.files).map fun target =>
              let log :=
                match target with
                | .own number => life.log number
                | .other => []
              { life.move handler .idle with
                decisions := life.decisions ++ [{ target, handle, log }] }
          else some (life.move handler .idle)
      | _ => none

def step (stack : Memory) (timers : Timers) (life : Life) : LifeLabel -> Option Life
  | .thread label => life.threadStep stack timers label
  | .proxy handler label => life.proxyStep handler label
  | .otherOpens fd =>
      match life.files fd with
      | none => some { life with files := Function.update life.files fd (some .other) }
      | some _ => none
  | .otherCloses fd =>
      match life.files fd with
      | some .other => some { life with files := Function.update life.files fd none }
      | _ => none

end Life

end PolicyServer
