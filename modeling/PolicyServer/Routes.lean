import Mathlib.Logic.Function.Basic
import PolicyServer.Lib.System
import PolicyServer.Lcm

namespace PolicyServer

open Lib

/-!
# Connect and clear

The handlers of `routes.c` that change the connection table.  A handler answers
`none` when it does not return: it waits for a lock that it holds itself, or it
uses a null pointer.  Next to the table each handler says which indices of
`clients` and of `threads` it wrote.
-/

/-- One number of a dotted address as `inet_pton` takes it. -/
def isOctet (part : List Char) : Bool :=
  part.all Char.isDigit && (part.length == 1 || (part != [] && part.head? != some '0')) &&
    leadingNumber part ≤ 255

/-- `is_ip4`. -/
def isIp4 (ip : String) : Bool :=
  let parts := ip.toList.splitOn '.'
  parts.length == 4 && parts.all isOctet

/-- What a handler sends back: nothing, or a status and a text. -/
inductive Reply where
  | complete
  | body (status : Nat) (text : String)
  deriving DecidableEq, Repr

/-- `json_err` with the text of its code. -/
def jsonErr (code : Nat) (message : String) : Reply :=
  .body 400 ("\x7b\"output\": \x7b\"error-code\": " ++ toString code ++
    ", \"error-message\": \"" ++ message ++ "\"\x7d\x7d")

/-- `json_ok` for `JSON_CONNECT`. -/
def jsonConnect (ip : String) : Reply :=
  .body 200 ("\x7b\"output\": \x7b\"message\": \"connected to " ++ ip ++ "\"\x7d\x7d")

/-- How `lcm_lock` is taken: at once, or after it is initialised again. -/
structure LcmLock where
  first : Bool
  reinit : Bool
  second : Bool
  deriving DecidableEq, Repr

def LcmLock.acquired (lock : LcmLock) : Bool :=
  lock.first || (lock.reinit && lock.second)

/-- The manager and the array `threads`, in which 0 is no thread. -/
structure Api where
  lcm : Lcm
  threads : Nat -> Nat

/-- A handler that has returned. -/
structure Handled where
  api : Api
  reply : Reply
  clientWrites : List Nat
  threadWrites : List Nat

/-- A handler that has returned and changed nothing. -/
def Api.untouched (self : Api) (reply : Reply) : Handled :=
  { api := self, reply, clientWrites := [], threadWrites := [] }

/-- `gctl_lock_tid`: the array and the index written, or `none` for -1. -/
def gctlLockTid (threads : Nat -> Nat) (tid pos : Nat) (lock : LcmLock) :
    Option ((Nat -> Nat) × Nat) :=
  if lock.acquired then some (Function.update threads pos tid, pos) else none

/-- The members of a connect request; a missing address is a null pointer. -/
structure ConnectBody where
  cmtsIp : Option String
  dryRun : Int32
  deriving DecidableEq, Repr

/-- What the calls of one `gctl_connect` answer: the locks it takes, `ps_new`,
`ps_admctl` and `ps_boot`. -/
structure ConnectFate where
  getpsLock : Bool
  eventLock : Nat -> Bool
  allocLock : Bool
  created : Bool
  admitted : Bool
  thread : Nat
  setLock : Bool
  tidLock : LcmLock

/-- `gctl_connect` from `lcm_set` on. -/
def gctlConnectStore (self : Api) (ip : String) (fate : ConnectFate) : Handled :=
  let stored := lcmSet self.lcm { cmtsAddr := ip } fate.setLock
  -- a position of -1 is logged, and used as an index all the same
  match gctlLockTid self.threads fate.thread (sizeT stored.pos.toInt) fate.tidLock with
  | none =>
      { api := { self with lcm := stored.lcm }
        reply := .complete
        clientWrites := stored.written.toList
        threadWrites := [] }
  | some (threads, pos) =>
      { api := { lcm := stored.lcm, threads }
        reply := jsonConnect ip
        clientWrites := stored.written.toList
        threadWrites := [pos] }

/-- `gctl_connect`; `none` for an empty body. -/
def gctlConnect (self : Api) (body : Option ConnectBody) (fate : ConnectFate) : Option Handled :=
  match body with
  | none => some (self.untouched .complete)
  | some input =>
      match input.cmtsIp with
      | none => none
      | some ip =>
          let lookup := lcmGetps self.lcm ip fate.getpsLock fate.eventLock
          if !isIp4 ip then
            some (self.untouched (jsonErr 111 ("invalid ip address '" ++ ip ++ "'")))
          -- `lcm_alloc_ok` waits for the lock that the lookup has kept
          else if lookup.held then none
          else if lookup.found.isSome then
            some (self.untouched (jsonErr 100 ("connection already established on " ++ ip)))
          else if !lcmAllocOk self.lcm fate.allocLock then
            some (self.untouched (jsonErr 103 "maximum number of connections has been reached"))
          else if !fate.created then some (self.untouched .complete)
          else if input.dryRun = 0 ∧ fate.admitted = false then
            some (self.untouched (jsonErr 102 "failed to establish socket connection"))
          else if fate.thread = 0 then
            some (self.untouched (jsonErr 102 "failed to establish socket connection"))
          else some (gctlConnectStore self ip fate)

/-- `gctl_lcm_reset` once every thread has been joined; a missing one cannot be. -/
def gctlLcmReset (self : Api) (lock : LcmLock) : Option Handled :=
  if !lock.acquired then some (self.untouched .complete)
  else if self.lcm.count ≤ 0 then some (self.untouched .complete)
  else if (List.range self.lcm.count).any (self.threads · == 0) then none
  else
    some
      { api :=
          { lcm := { self.lcm with clients := [] }
            threads := fun i => if i < self.lcm.count then 0 else self.threads i }
        reply := .complete
        clientWrites := []
        threadWrites := List.range self.lcm.count }

/-! ## What one request can do -/

/-- What a request to connect can do to the table: nothing, a client stored in
the next free place, or, where `lcm_set` fails, a thread written at the index
that -1 stands for. -/
theorem gctlConnect_cases {self : Api} {body : Option ConnectBody} {fate : ConnectFate}
    {handled : Handled} (returns : gctlConnect self body fate = some handled) :
    (handled.api = self ∧ handled.clientWrites = [] ∧ handled.threadWrites = []) ∨
      self.lcm.count < self.lcm.maxpep ∧
        Exists fun ip => handled = gctlConnectStore self ip fate := by
  unfold gctlConnect at returns
  cases body with
  | none =>
      cases returns
      exact Or.inl ⟨rfl, rfl, rfl⟩
  | some input =>
      cases address : input.cmtsIp with
      | none =>
          simp only [address] at returns
          cases returns
      | some ip =>
          simp only [address] at returns
          split at returns
          · cases returns
            exact Or.inl ⟨rfl, rfl, rfl⟩
          split at returns
          · cases returns
          split at returns
          · cases returns
            exact Or.inl ⟨rfl, rfl, rfl⟩
          split at returns
          · cases returns
            exact Or.inl ⟨rfl, rfl, rfl⟩
          rename_i room
          have room := (lcmAllocOk_iff self.lcm fate.allocLock).mp
            (by simpa only [Bool.not_eq_true', Bool.not_eq_false] using room)
          split at returns
          · cases returns
            exact Or.inl ⟨rfl, rfl, rfl⟩
          split at returns
          · cases returns
            exact Or.inl ⟨rfl, rfl, rfl⟩
          split at returns
          · cases returns
            exact Or.inl ⟨rfl, rfl, rfl⟩
          · cases returns
            exact Or.inr ⟨room.2, ip, rfl⟩

end PolicyServer
