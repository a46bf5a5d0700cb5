import PolicyServer.Lib.System
import PolicyServer.Admission

namespace PolicyServer

open Lib

/-!
# The loop of a session thread

`ps_statemachine` call by call: the test of `die`, a call of `ps_recvd`, and, behind a
Client-Close, attempts of `ps_admctl` until one of them succeeds.  The first attempt is
made by the connect request, before there is a thread.  An attempt is `sock_connect`
against what the system calls answer, and the two polls.
-/

/-! ## `sock_connect` -/

/-- The answer of `connect`: 0, or -1 with EINPROGRESS or another error. -/
inductive ConnectResult where
  | connected
  | inProgress
  | failed
  deriving DecidableEq, Repr

/-- What the system calls of one `sock_connect` answer, and the pending error of the
socket when `select` has said that it is ready. -/
structure Kernel where
  socket : Bool
  addressOk : Bool
  sockoptsOk : Bool
  connect : ConnectResult
  selects : List SelectResult
  pendingError : Bool
  deriving DecidableEq, Repr

/-- Without a socket its options cannot be set. -/
def Kernel.env (kernel : Kernel) : ConnectEnv where
  addressOk := kernel.addressOk
  sockoptsOk := kernel.socket && kernel.sockoptsOk
  connected := kernel.connect == .connected
  selects := kernel.selects

/-- What `self->sock` stands for: no socket, or one that is connected or not. -/
inductive SockState where
  | none
  | connected
  | unconnected
  deriving DecidableEq, Repr

/-- The socket that `connect` was called on, when `select` has said that it is ready. -/
def Kernel.readied (kernel : Kernel) : SockState :=
  if kernel.connect = .inProgress ∧ kernel.pendingError = false then .connected else .unconnected

/-- The two members of a session that `sock_connect` sets. -/
structure Wire where
  connection : Bool
  sock : SockState
  deriving DecidableEq, Repr

/-- `sock_connect`, with what it returns. -/
def Wire.connect (wire : Wire) (kernel : Kernel) : Option (Wire × Bool) :=
  if !kernel.addressOk then some (wire, false)
  else if !(kernel.socket && kernel.sockoptsOk) then some (wire, false)
  else if kernel.connect = .connected then some ({ connection := true, sock := .connected }, true)
  else
    (selectLoop 0 kernel.selects).map fun ready =>
      if ready then ({ connection := true, sock := kernel.readied }, true)
      else ({ wire with sock := .none }, false)

/-- What it returns does not depend on the session. -/
theorem Wire.connect_returned (wire : Wire) (kernel : Kernel) :
    (wire.connect kernel).map Prod.snd = sockConnect kernel.env := by
  unfold Wire.connect sockConnect Kernel.env
  by_cases address : (!kernel.addressOk) = true
  · rw [if_pos address, if_pos address]
    rfl
  rw [if_neg address, if_neg address]
  by_cases sockopts : (!(kernel.socket && kernel.sockoptsOk)) = true
  · rw [if_pos sockopts, if_pos sockopts]
    rfl
  rw [if_neg sockopts, if_neg sockopts]
  by_cases connected : kernel.connect = .connected
  · rw [if_pos connected, if_pos (beq_iff_eq.mpr connected)]
    rfl
  rw [if_neg connected, if_neg (fun same => connected (beq_iff_eq.mp same)), Option.map_map]
  cases selectLoop 0 kernel.selects with
  | none => rfl
  | some ready => cases ready <;> rfl

/-! ## Polls -/

/-- The clock at the start of a poll; what each call of `ps_recvd` finds in the socket, and
the clock behind it. -/
structure Window where
  start : Int
  calls : List (Socket × Int)

/-- `ps_polld` over any bytes: the session behind it and what it returns. -/
def pollLoop (stack : Memory) (target : UInt8) (deadline : Int) :
    Session -> (cur : Int) -> List (Socket × Int) -> Session × Option Bool
  | self, cur, [] => (self, if cur < deadline then none else some false)
  | self, cur, (socket, next) :: calls =>
      if cur < deadline then
        match psRecvd stack self socket with
        | none => (self, none)
        | some received =>
            if received.opcode = target then (received.self, some true)
            else pollLoop stack target deadline received.self next calls
      else (self, some false)

def Window.poll (window : Window) (stack : Memory) (self : Session) (target : UInt8) :
    Session × Option Bool :=
  pollLoop stack target (window.start + 10) self window.start window.calls

/-- What a poll finds that meets only messages. -/
def Poll.window (poll : Poll) : Window where
  start := poll.start
  calls := poll.calls.map fun call => (call.1.socket, call.2)

theorem pollLoop_messages {stack : Memory} {target : UInt8} {deadline : Int} (self : Session)
    (cur : Int) (calls : List (Incoming × Int)) :
    pollLoop stack target deadline self cur (calls.map fun call => (call.1.socket, call.2)) =
      ((psPolldLoop stack target deadline self cur calls).self,
        (psPolldLoop stack target deadline self cur calls).returned) := by
  induction calls generalizing self cur with
  | nil =>
      rw [List.map_nil, pollLoop, psPolldLoop]
      split <;> rfl
  | cons call calls inductionHypothesis =>
      rcases call with ⟨incoming, next⟩
      rw [List.map_cons, pollLoop]
      by_cases early : cur < deadline
      · rw [if_pos early]
        cases returns : psRecvd stack self incoming.socket with
        | none => rw [psPolldLoop_stuck target calls early returns]
        | some received =>
            dsimp only
            by_cases hit : received.opcode = target
            · rw [if_pos hit, psPolldLoop_hit calls early returns hit]
            · rw [if_neg hit, psPolldLoop_miss calls early returns hit, inductionHypothesis]
      · rw [if_neg early, psPolldLoop_late target self _ early]

theorem window_poll (stack : Memory) (self : Session) (target : UInt8) (poll : Poll) :
    poll.window.poll stack self target =
      ((psPolld stack self target poll).self, (psPolld stack self target poll).returned) :=
  pollLoop_messages self poll.start poll.calls

/-- The clock passes the end of a poll before a call returns the opcode waited for. -/
inductive Expires (stack : Memory) (target : UInt8) (deadline : Int) :
    Session -> (cur : Int) -> List (Socket × Int) -> Prop
  | elapsed {self : Session} {cur : Int} {calls : List (Socket × Int)} (late : deadline ≤ cur) :
      Expires stack target deadline self cur calls
  | call {self : Session} {cur next : Int} {socket : Socket} {calls : List (Socket × Int)}
      {received : Received} (early : cur < deadline)
      (returns : psRecvd stack self socket = some received) (other : received.opcode ≠ target)
      (later : Expires stack target deadline received.self next calls) :
      Expires stack target deadline self cur ((socket, next) :: calls)

theorem pollLoop_false_iff {stack : Memory} {target : UInt8} {deadline cur : Int}
    {self : Session} {calls : List (Socket × Int)} :
    (pollLoop stack target deadline self cur calls).2 = some false ↔
      Expires stack target deadline self cur calls := by
  constructor
  · intro fails
    induction calls generalizing self cur with
    | nil =>
        rw [pollLoop] at fails
        by_cases early : cur < deadline
        · rw [if_pos early] at fails
          cases fails
        · exact .elapsed (Int.not_lt.mp early)
    | cons call calls inductionHypothesis =>
        rcases call with ⟨socket, next⟩
        rw [pollLoop] at fails
        by_cases early : cur < deadline
        · rw [if_pos early] at fails
          cases returns : psRecvd stack self socket with
          | none =>
              rw [returns] at fails
              cases fails
          | some received =>
              rw [returns] at fails
              dsimp only at fails
              by_cases hit : received.opcode = target
              · rw [if_pos hit] at fails
                cases fails
              · rw [if_neg hit] at fails
                exact .call early returns hit (inductionHypothesis fails)
        · exact .elapsed (Int.not_lt.mp early)
  · intro expires
    induction expires with
    | @elapsed self cur calls late =>
        cases calls with
        | nil => rw [pollLoop, if_neg (Int.not_lt.mpr late)]
        | cons call calls => rw [pollLoop, if_neg (Int.not_lt.mpr late)]
    | call early returns other _ inductionHypothesis =>
        rw [pollLoop, if_pos early, returns]
        dsimp only
        rw [if_neg other]
        exact inductionHypothesis

/-- The two parts of an attempt. -/
theorem psAdmctl_returned (stack : Memory) (timers : Timers) (self : Session) (wire : Wire)
    (kernel : Kernel) (opens requests : Poll) (accepted : Option Nat) :
    (psAdmctl stack timers self { connect := kernel.env, opens, accepted, requests }).returned =
      (wire.connect kernel).bind fun connected =>
        if connected.2 then
          (opens.window.poll stack self 6).2.bind fun _ =>
            (requests.window.poll stack (opens.window.poll stack self 6).1 1).2
        else some false := by
  have connects := wire.connect_returned kernel
  cases connected : wire.connect kernel with
  | none =>
      rw [connected] at connects
      have failed : sockConnect kernel.env ≠ some true := by
        rw [← connects]
        intro impossible
        cases impossible
      rw [psAdmctl_unconnected failed, ← connects]
      rfl
  | some outcome =>
      rcases outcome with ⟨after, success⟩
      rw [connected] at connects
      rw [Option.bind_some, window_poll, window_poll]
      cases success with
      | false =>
          have failed : sockConnect kernel.env ≠ some true := by
            rw [← connects]
            intro impossible
            cases impossible
          rw [psAdmctl_unconnected failed, ← connects]
          rfl
      | true =>
          have succeeds : sockConnect kernel.env = some true := connects.symm
          rw [if_pos rfl]
          cases waiting : (psPolld stack self 6 opens).returned with
          | none => rw [psAdmctl_waiting succeeds waiting, waiting, Option.bind_none]
          | some opened =>
              have opened' : (psPolld stack self 6 opens).returned ≠ none := by
                rw [waiting]
                exact Option.some_ne_none opened
              rw [psAdmctl_opened succeeds opened', Option.bind_some]

/-! ## The thread -/

/-- Where the thread is; the first attempt is none of it. -/
inductive Phase where
  /-- in `sock_connect` -/
  | connecting
  /-- in the rest of `ps_admctl` -/
  | handshaking
  /-- in `sleep(2)` -/
  | sleeping
  /-- in front of the test of `die` -/
  | head
  /-- in `ps_recvd` -/
  | receiving
  /-- the thread has returned -/
  | returned
  /-- the first attempt has failed, and `gctl_connect` has freed the session -/
  | freed
  deriving DecidableEq, Repr

/-- What happens to a thread. -/
inductive Mark where
  /-- `gctl_lcm_reset` sets `die` -/
  | killed
  /-- `ps_admctl` is called -/
  | begun
  /-- `ps_admctl` returns 0 -/
  | failed
  deriving DecidableEq, Repr

structure Thread where
  self : Session
  wire : Wire
  die : Bool
  registered : Bool
  phase : Phase
  log : List Mark

/-- Steps of the thread, with what the system answers, and of `gctl_lcm_reset`. -/
inductive ThreadStep where
  | connect (kernel : Kernel)
  | handshake (opens requests : Window)
  | wake
  | test
  | receive (socket : Socket)
  | kill

namespace Thread

/-- A session made by a connect request, which leaves out the first attempt if it has
`dry_run`. -/
def start (dryRun : Bool) : Thread where
  self := { handle := [0, 0, 0, 0], uuidReceived := false }
  wire := { connection := false, sock := .none }
  die := false
  registered := dryRun
  phase := if dryRun then .head else .connecting
  log := if dryRun then [] else [.begun]

/-- `ps_admctl` returns 0. -/
def fail (thread : Thread) : Thread :=
  { thread with
    phase := if thread.registered then .sleeping else .freed
    log := thread.log ++ [.failed] }

/-- `ps_admctl` is called in the loop. -/
def retry (thread : Thread) : Thread :=
  { thread with phase := .connecting, log := thread.log ++ [.begun] }

/-- What the loop does with the opcode that `ps_recvd` returns. -/
def dispatch (thread : Thread) (self : Session) (opcode : UInt8) : Thread :=
  if opcode = 8 then
    { thread with
      self := { self with uuidReceived := false }
      wire := { connection := false, sock := .none } }.retry
  else { thread with self, phase := .head }

/-- The opcode that `ps_recvd` returns, and the session behind it. -/
def recvd (stack : Memory) (thread : Thread) (socket : Socket) : Option (Session × UInt8) :=
  if thread.wire.sock = .connected then
    (psRecvd stack thread.self socket).map fun received => (received.self, received.opcode)
  else some (thread.self, 0)

def step (stack : Memory) (thread : Thread) : ThreadStep -> Option Thread
  | .connect kernel =>
      match thread.phase with
      | .connecting =>
          (thread.wire.connect kernel).map fun (wire, connected) =>
            if connected then { thread with wire, phase := .handshaking }
            else { thread with wire }.fail
      | _ => none
  | .handshake opens requests =>
      match thread.phase with
      | .handshaking =>
          let opened := opens.poll stack thread.self 6
          let requested := requests.poll stack opened.1 1
          opened.2.bind fun _ =>
            requested.2.map fun admitted =>
              if admitted then
                { thread with self := requested.1, registered := true, phase := .head }
              else { thread with self := requested.1 }.fail
      | _ => none
  | .wake =>
      match thread.phase with
      | .sleeping => some thread.retry
      | _ => none
  | .test =>
      match thread.phase with
      | .head => some { thread with phase := if thread.die then .returned else .receiving }
      | _ => none
  | .receive socket =>
      match thread.phase with
      | .receiving =>
          (thread.recvd stack socket).map fun (self, opcode) => thread.dispatch self opcode
      | _ => none
  | .kill =>
      if thread.registered then some { thread with die := true, log := thread.log ++ [.killed] }
      else none

/-! ## What a step can do -/

section Steps

variable {stack : Memory} {thread after : Thread}

theorem step_connect {kernel : Kernel} (moved : thread.step stack (.connect kernel) = some after) :
    thread.phase = .connecting ∧ Exists fun wire => Exists fun connected =>
      thread.wire.connect kernel = some (wire, connected) ∧
        after = if connected then { thread with wire, phase := .handshaking }
          else { thread with wire }.fail := by
  simp only [step] at moved
  split at moved
  · rename_i here
    rcases Option.map_eq_some_iff.mp moved with ⟨⟨wire, connected⟩, returns, same⟩
    exact ⟨here, wire, connected, returns, same.symm⟩
  · cases moved

theorem step_handshake {opens requests : Window}
    (moved : thread.step stack (.handshake opens requests) = some after) :
    thread.phase = .handshaking ∧ Exists fun admitted =>
      (requests.poll stack (opens.poll stack thread.self 6).1 1).2 = some admitted ∧
        let self := (requests.poll stack (opens.poll stack thread.self 6).1 1).1
        after = if admitted then { thread with self, registered := true, phase := .head }
          else { thread with self }.fail := by
  simp only [step] at moved
  split at moved
  · rename_i here
    rcases Option.bind_eq_some_iff.mp moved with ⟨_, opened, moved⟩
    rcases Option.map_eq_some_iff.mp moved with ⟨admitted, requested, same⟩
    exact ⟨here, admitted, requested, same.symm⟩
  · cases moved

theorem step_wake (moved : thread.step stack .wake = some after) :
    thread.phase = .sleeping ∧ after = thread.retry := by
  simp only [step] at moved
  split at moved
  · rename_i here
    exact ⟨here, (Option.some.inj moved).symm⟩
  · cases moved

theorem step_test (moved : thread.step stack .test = some after) :
    thread.phase = .head ∧
      after = { thread with phase := if thread.die then .returned else .receiving } := by
  simp only [step] at moved
  split at moved
  · rename_i here
    exact ⟨here, (Option.some.inj moved).symm⟩
  · cases moved

theorem step_receive {socket : Socket} (moved : thread.step stack (.receive socket) = some after) :
    thread.phase = .receiving ∧ Exists fun self => Exists fun opcode =>
      thread.recvd stack socket = some (self, opcode) ∧ after = thread.dispatch self opcode := by
  simp only [step] at moved
  split at moved
  · rename_i here
    rcases Option.map_eq_some_iff.mp moved with ⟨⟨self, opcode⟩, received, same⟩
    exact ⟨here, self, opcode, received, same.symm⟩
  · cases moved

theorem step_kill (moved : thread.step stack .kill = some after) :
    thread.registered = true ∧
      after = { thread with die := true, log := thread.log ++ [.killed] } := by
  simp only [step] at moved
  split at moved
  · rename_i registered
    exact ⟨registered, (Option.some.inj moved).symm⟩
  · cases moved

end Steps

end Thread

end PolicyServer
