import PolicyServer.Routes

namespace PolicyServer

open Lib

/-!
# Handlers side by side

The framework runs handlers concurrently.  The table has two locks:
`lcm_internal_lock` is held inside `lcm_getps`, `lcm_alloc_ok` and `lcm_set` only,
and each of these is one step here; `lcm_lock` is held for the single write of
`gctl_lock_tid`, which is a step too, and by `gctl_lcm_reset` from its first step
to its last.

A request is known by its place in the order they came in.  A session is known by
its number, which is never used again, and its thread by the next one, as 0 is no
thread.  A session that was freed keeps what it was; what
matters is who still looks at it.
-/

/-- A session, and what has become of its thread and of its memory. -/
structure Peer where
  cmtsAddr : String
  started : Bool
  die : Bool
  ended : Bool
  joined : Bool
  freed : Bool
  deriving DecidableEq, Repr

/-- The thread that runs `ps_statemachine` for a session. -/
def threadOf (session : Nat) : Nat := session + 1

/-- How many clients there were when a connect request looked its address up and
when it asked for room. -/
structure Seen where
  looked : Nat
  asked : Nat
  deriving DecidableEq, Repr

/-- What `gctl_connect` does next. -/
inductive ConnectStage where
  | getps (ip : String) (dryRun : Bool)
  | allocOk (ip : String) (dryRun : Bool) (looked : Nat)
  | new (ip : String) (dryRun : Bool) (seen : Seen)
  | admctl (session : Nat) (seen : Seen)
  | boot (session : Nat) (seen : Seen)
  | set (session : Nat) (seen : Seen)
  | lockTid (session pos : Nat)
  /-- the reply, which has the address of the session -/
  | answer (session : Nat)
  deriving DecidableEq, Repr

/-- What `gctl_request` and `gctl_04` do next: the lookup, and the accesses of
`ps_proxy` to its session, which are the handle, and for a message that is sent
`connection` and `sock`. -/
inductive GateStage where
  | getps (ip : Option String) (dryRun : Int32)
  | handle (session : Nat) (dryRun : Int32)
  | connection (session : Nat)
  | sock (session : Nat)
  deriving DecidableEq, Repr

/-- What `gctl_lcm_reset` does next. -/
inductive ClearStage where
  | lock
  | count
  /-- in front of `i < lcm->count` -/
  | test (i : Nat)
  /-- in front of `ps->die = true` -/
  | signal (i session thread : Nat)
  /-- in `pthread_join` -/
  | join (i session thread : Nat)
  | free (i session : Nat)
  /-- in front of `threads[i] = NULL` -/
  | null (i : Nat)
  /-- in front of `lcm->count = 0` -/
  | reset
  | unlock
  deriving DecidableEq, Repr

inductive Stage where
  | idle
  | connect (stage : ConnectStage)
  | gate (stage : GateStage)
  | clear (stage : ClearStage)
  deriving DecidableEq, Repr

structure Server where
  maxpep : Nat
  /-- the entries of `clients` below `count` -/
  clients : List Nat
  threads : Nat -> Nat
  /-- the handler that holds `lcm_lock` -/
  lcmLock : Option Nat
  peers : Nat -> Peer
  /-- how many sessions have been made -/
  made : Nat
  /-- for each request that came in, what is next -/
  stages : List Stage
  /-- the calls of `pthread_join`: the thread, and the session that is freed next -/
  joins : List (Nat × Nat)
  /-- the sessions that `lcm_getps` and `ps_proxy` looked at after they were freed -/
  misused : List Nat

inductive ApiCall where
  | connect (ip : String) (dryRun : Bool)
  | gate (ip : Option String) (dryRun : Int32)
  | clear
  deriving DecidableEq, Repr

/-- A request comes in, a handler does what is next, where the system calls in
it may go well or not, or a session thread comes to the top of its loop. -/
inductive ServerLabel where
  | request (call : ApiCall)
  | next (handler : Nat) (well : Bool)
  | thread (session : Nat)
  deriving DecidableEq, Repr

namespace Server

/-- The server with a manager for `maxpep` clients, before any request. -/
def start (maxpep : Nat) : Server where
  maxpep := maxpep
  clients := []
  threads := fun _ => 0
  lcmLock := none
  peers := fun _ =>
    { cmtsAddr := "", started := false, die := false, ended := false, joined := false,
      freed := false }
  made := 0
  stages := []
  joins := []
  misused := []

def address (self : Server) (session : Nat) : String :=
  (self.peers session).cmtsAddr

def freed (self : Server) (session : Nat) : Bool :=
  (self.peers session).freed

/-- The table as one request alone sees it. -/
def lcm (self : Server) : Lcm where
  maxpep := self.maxpep
  clients := self.clients.map fun session => { cmtsAddr := self.address session }

def api (self : Server) : Api where
  lcm := self.lcm
  threads := self.threads

def move (self : Server) (handler : Nat) (stage : Stage) : Server :=
  { self with stages := self.stages.set handler stage }

def mark (self : Server) (session : Nat) (change : Peer -> Peer) : Server :=
  { self with peers := Function.update self.peers session (change (self.peers session)) }

/-- A handler looks at sessions. -/
def use (self : Server) (sessions : List Nat) : Server :=
  { self with misused := self.misused ++ sessions.filter self.freed }

/-- `ps_free`. -/
def free (self : Server) (session : Nat) : Server :=
  self.mark session fun peer => { peer with freed := true }

/-- `ps_new`. -/
def create (self : Server) (ip : String) : Server :=
  let peer : Peer :=
    { cmtsAddr := ip, started := false, die := false, ended := false, joined := false,
      freed := false }
  { self with
    peers := Function.update self.peers self.made peer
    made := self.made + 1 }

/-- The loop of `lcm_getps`: the session with an address, and the sessions it
looked at. -/
def getpsLoop (self : Server) (ip : Option String) : List Nat -> Option Nat × List Nat
  | [] => (none, [])
  | temp :: clients =>
      if some (self.address temp) = ip then (some temp, [temp])
      else
        let rest := self.getpsLoop ip clients
        (rest.1, temp :: rest.2)

/-- `lcm_getps`, where no address is a null pointer. -/
def getps (self : Server) (ip : Option String) : Option Nat × List Nat :=
  self.getpsLoop ip self.clients

/-- `gctl_connect`. -/
def connectNext (self : Server) (handler : Nat) (well : Bool) : ConnectStage -> Option Server
  | .getps ip dryRun =>
      let found := self.getps (some ip)
      some ((self.use found.2).move handler
        (if found.1.isSome then .idle
        else .connect (.allocOk ip dryRun self.clients.length)))
  | .allocOk ip dryRun looked =>
      some (self.move handler
        (if lcmAllocOk self.lcm true then
          .connect (.new ip dryRun { looked, asked := self.clients.length })
        else .idle))
  | .new ip dryRun seen =>
      if well then
        some ((self.create ip).move handler
          (.connect (if dryRun then .boot self.made seen else .admctl self.made seen)))
      else some (self.move handler .idle)
  | .admctl session seen =>
      if well then some (self.move handler (.connect (.boot session seen)))
      else some ((self.free session).move handler .idle)
  | .boot session seen =>
      if well then
        some ((self.mark session fun peer => { peer with started := true }).move handler
          (.connect (.set session seen)))
      else some ((self.free session).move handler .idle)
  | .set session _ =>
      let stored := lcmSet self.lcm { cmtsAddr := self.address session } true
      some ({ self with clients := self.clients ++ [session] }.move handler
        (.connect (.lockTid session (sizeT stored.pos.toInt))))
  | .lockTid session pos =>
      if self.lcmLock = none then
        some ({ self with threads := Function.update self.threads pos (threadOf session) }.move
          handler (.connect (.answer session)))
      else none
  | .answer _ => some (self.move handler .idle)

/-- `gctl_request` and `gctl_04`; `well` is `connection` where that is read. -/
def gateNext (self : Server) (handler : Nat) (well : Bool) : GateStage -> Option Server
  | .getps ip dryRun =>
      let found := self.getps ip
      some ((self.use found.2).move handler
        (match found.1 with
        | none => .idle
        | some session => .gate (.handle session dryRun)))
  | .handle session dryRun =>
      some ((self.use (if dryRun = 1 then [] else [session])).move handler
        (if dryRun = 0 then .gate (.connection session) else .idle))
  | .connection session =>
      some ((self.use [session]).move handler (if well then .gate (.sock session) else .idle))
  | .sock session => some ((self.use [session]).move handler .idle)

/-- `gctl_lcm_reset`. -/
def clearNext (self : Server) (handler : Nat) : ClearStage -> Option Server
  | .lock =>
      if self.lcmLock = none then
        some ({ self with lcmLock := some handler }.move handler (.clear .count))
      else none
  | .count =>
      if self.clients.length ≤ 0 then
        some ({ self with lcmLock := none }.move handler .idle)
      else some (self.move handler (.clear (.test 0)))
  | .test i =>
      match self.clients[i]? with
      | some session =>
          some (self.move handler (.clear (.signal i session (self.threads i))))
      | none => some (self.move handler (.clear .reset))
  | .signal i session thread =>
      some ({ self.mark session fun peer => { peer with die := true } with
        joins := self.joins ++ [(thread, session)] }.move handler
          (.clear (.join i session thread)))
  | .join i session thread =>
      match thread with
      -- with no thread there is nothing to wait for, and `pthread_join` does not return
      | 0 => none
      | other + 1 =>
          if (self.peers other).ended then
            some ((self.mark other fun peer => { peer with joined := true }).move handler
              (.clear (.free i session)))
          else none
  | .free i session => some ((self.free session).move handler (.clear (.null i)))
  | .null i =>
      some ({ self with threads := Function.update self.threads i 0 }.move handler
        (.clear (.test (i + 1))))
  | .reset => some ({ self with clients := [] }.move handler (.clear .unlock))
  | .unlock => some ({ self with lcmLock := none }.move handler .idle)

/-- What a handler has in front of it when its request comes in. -/
def accept : ApiCall -> Stage
  | .connect ip dryRun => if isIp4 ip then .connect (.getps ip dryRun) else .idle
  | .gate ip dryRun => .gate (.getps ip dryRun)
  | .clear => .clear .lock

def handlerNext (self : Server) (handler : Nat) (well : Bool) : Option Server :=
  match self.stages[handler]? with
  | some (.connect stage) => self.connectNext handler well stage
  | some (.gate stage) => self.gateNext handler well stage
  | some (.clear stage) => self.clearNext handler stage
  | some .idle | none => none

def step (self : Server) : ServerLabel -> Option Server
  | .request call => some { self with stages := self.stages ++ [accept call] }
  | .next handler well => self.handlerNext handler well
  -- `for (;;) if (self->die) return NULL`
  | .thread session =>
      if (self.peers session).started ∧ (self.peers session).ended = false then
        some (if (self.peers session).die then
          self.mark session fun peer => { peer with ended := true }
        else self)
      else none

/-! ## What the changes leave alone -/

variable (self : Server)

/-- An entry of a list outlasts an update, or is the one that was updated. -/
theorem mem_set_or_eq {Entry : Type} {entries : List Entry} {i : Nat} {old entry : Entry}
    (here : entries[i]? = some old) (member : entry ∈ entries) (new : Entry) :
    entry ∈ entries.set i new ∨ entry = old := by
  rcases List.getElem?_of_mem member with ⟨j, found⟩
  by_cases same : i = j
  · subst same
    exact Or.inr (Option.some.inj (found.symm.trans here))
  · rw [← List.getElem?_set_ne same] at found
    exact Or.inl (List.mem_of_getElem? found)

/-- A request is where it was, or where the handler moved to. -/
theorem mem_move {handler : Nat} {stage other : Stage}
    (member : other ∈ (self.move handler stage).stages) : other ∈ self.stages ∨ other = stage :=
  List.mem_or_eq_of_mem_set member

/-- The new stage is where the handler is. -/
theorem stage_moved {self : Server} {handler : Nat} {old stage : Stage}
    (here : self.stages[handler]? = some old) :
    (self.move handler stage).stages[handler]? = some stage :=
  List.getElem?_set_self (List.getElem?_eq_some_iff.mp here).1

@[simp] theorem mark_peers (session : Nat) (change : Peer -> Peer) :
    (self.mark session change).peers session = change (self.peers session) :=
  Function.update_self ..

theorem mark_peers_of_ne {session other : Nat} (different : other ≠ session)
    (change : Peer -> Peer) : (self.mark session change).peers other = self.peers other :=
  Function.update_of_ne different ..

@[simp] theorem create_address (ip : String) : (self.create ip).address self.made = ip := by
  simp only [address, create, Function.update_self]

theorem create_peers_of_ne {session : Nat} (different : session ≠ self.made) (ip : String) :
    (self.create ip).peers session = self.peers session :=
  Function.update_of_ne different ..

/-- What a change of one session keeps in it is kept in all. -/
theorem mark_kept {Field : Type} {field : Peer -> Field} (session other : Nat)
    {change : Peer -> Peer} (kept : forall peer, field (change peer) = field peer) :
    field ((self.mark session change).peers other) = field (self.peers other) := by
  by_cases same : other = session
  · subst same
    rw [mark_peers, kept]
  · rw [mark_peers_of_ne self same]

end Server

end PolicyServer
