import PolicyServer.ConnectionMap
import PolicyServer.DescriptorOwnership

namespace PolicyServer

open Lib

/-!
# What a connect request leaves behind

`gctl_connect` makes a session, connects its socket, starts its thread, and stores the
session and the thread in two tables, each behind a lock of its own.  A failure before
`lcm_set` is answered with an error, and `ps_free` takes everything back.  A failure
behind it comes too late: the thread runs already, and nothing is taken back.
-/

/-- How `ps_admctl` ends. -/
inductive AdmctlEnd where
  /-- there is no descriptor to be had -/
  | noSocket
  /-- `inet_pton` or `sock_setsockopts`, in front of `self->sock = fd` -/
  | refused
  /-- behind it -/
  | unreachable
  /-- no Request in time -/
  | expired
  | handshaken
  deriving DecidableEq, Repr

/-- What the calls of one `gctl_connect` come to: `ps_new`, where `none` is a null
pointer, `ps_admctl`, `ps_boot`, and the locks of `lcm_set` and `gctl_lock_tid`. -/
structure ConnectCalls where
  session : Option Nat
  admctl : AdmctlEnd
  thread : Nat
  setLock : Bool
  tidLock : LcmLock
  deriving DecidableEq, Repr

/-- The same for the manager alone: every other lock is taken. -/
def ConnectCalls.fate (self : ConnectCalls) : ConnectFate where
  getpsLock := true
  eventLock := fun _ => true
  allocLock := true
  created := self.session.isSome
  admitted := decide (self.admctl = .handshaken)
  thread := self.thread
  setLock := self.setLock
  tidLock := self.tidLock

/-- The tables, `sock` of every session, the session that each thread runs for, and the
descriptors. -/
structure Host where
  tables : Tables
  socks : Nat -> Option Nat
  running : Nat -> Option Nat
  files : Descriptors Holder

/-- A request that has returned, with the indices of `threads` that it wrote. -/
structure Finished where
  host : Host
  answer : Answer
  threadWrites : List Nat

/-- `sock_close`, which goes on only with a socket. -/
def sockClose (files : Descriptors Holder) : Option Nat -> Descriptors Holder
  | none => files
  | some fd => if (files.holder fd).any Holder.isSocket then files.released fd else files

namespace Host

/-- `ps_new`, with the pointer that it returns. -/
def psNew (self : Host) (ip : String) : Option Nat -> Option (Nat × Host)
  | none => none
  | some session =>
      (self.tables.psNew ip session).map fun tables =>
        (session, { self with tables, socks := Function.update self.socks session none })

/-- `ps_free`. -/
def psFree (self : Host) (session : Nat) : Host :=
  { self with
    tables := self.tables.psFree session
    files := sockClose self.files (self.socks session) }

/-- `ps_admctl`, with its answer. -/
def psAdmctl (self : Host) (session : Nat) : AdmctlEnd -> Host × Bool
  | .noSocket => (self, false)
  | .refused =>
      ({ self with
          files := sockClose (self.files.taken (.session session 1)) (some self.files.lowest) },
        false)
  | .unreachable =>
      ({ self with
          socks := Function.update self.socks session (some self.files.lowest)
          files := sockClose (self.files.taken (.session session 1)) (some self.files.lowest) },
        false)
  | .expired =>
      ({ self with
          socks := Function.update self.socks session (some self.files.lowest)
          files := self.files.taken (.session session 1) },
        false)
  | .handshaken =>
      ({ self with
          socks := Function.update self.socks session (some self.files.lowest)
          files := self.files.taken (.session session 1) },
        true)

/-- `ps_boot`, where the new thread is `thread`. -/
def psBoot (self : Host) (session thread : Nat) : Host :=
  { self with
    tables := self.tables.psBoot session thread
    running := Function.update self.running thread (some session) }

/-- `lcm_set`, with the position that it returns. -/
def lcmSet (self : Host) (conn : Nat) (locked : Bool) : Option (Host × Int32) :=
  if !locked then some (self, -1)
  else (self.tables.lcmSet conn).map fun stored => ({ self with tables := stored.1 }, stored.2)

/-- A request that changes nothing more. -/
def answered (self : Host) (answer : Answer) : Finished :=
  { host := self, answer, threadWrites := [] }

/-- `gctl_connect` from `lcm_set` on. -/
def connectStore (self : Host) (session : Nat) (calls : ConnectCalls) : Option Finished :=
  (self.lcmSet session calls.setLock).bind fun stored =>
    -- a position of -1 is logged, and used as an index all the same
    match gctlLockTid stored.1.tables.threads calls.thread (sizeT stored.2.toInt)
        calls.tidLock with
    | none => some (stored.1.answered .complete)
    | some (threads, pos) =>
        (stored.1.tables.sessions session).map fun ps =>
          { host := { stored.1 with tables := { stored.1.tables with threads } }
            answer := .connected ps.cmtsAddr
            threadWrites := [pos] }

/-- `gctl_connect` from `ps_boot` on. -/
def connectBoot (self : Host) (ip : String) (session : Nat) (calls : ConnectCalls) :
    Option Finished :=
  if calls.thread = 0 then some ((self.psFree session).answered (.error 102 [.text ip]))
  else (self.psBoot session calls.thread).connectStore session calls

/-- `gctl_connect`, where `ps_new` has made the session. -/
def connectSession (self : Host) (ip : String) (dryRun : Int32) (session : Nat)
    (calls : ConnectCalls) : Option Finished :=
  if dryRun = 0 then
    let connected := self.psAdmctl session calls.admctl
    if connected.2 = false then
      some ((connected.1.psFree session).answered (.error 102 [.text ip]))
    else connected.1.connectBoot ip session calls
  else self.connectBoot ip session calls

/-- `gctl_connect`; no body is an empty one. -/
def gctlConnect (self : Host) (body : Option ConnectBody) (calls : ConnectCalls) :
    Option Finished :=
  match body with
  | none => some (self.answered .complete)
  | some input =>
      input.cmtsIp.bind fun ip =>
        if !isIp4 ip then some (self.answered (.error 111 [.text ip]))
        else
          (self.tables.lcmGetps (some ip)).bind fun found =>
            if found.isSome then some (self.answered (.error 100 [.text ip]))
            else if !self.tables.lcmAllocOk then some (self.answered (.error 103 [.text ip]))
            else
              match self.psNew ip calls.session with
              | none => some (self.answered .complete)
              | some (session, made) => made.connectSession ip input.dryRun session calls

end Host

namespace Host

/-! ## All or nothing -/

/-- A table with room for its limit, where every client below `count` is in the heap. -/
structure WithinCapacity (host : Host) : Prop where
  roomy : host.tables.maxpep ≤ maxroom
  count : host.tables.count ≤ host.tables.maxpep
  live : forall i, i < host.tables.count ->
    Exists fun session => host.tables.sessions (host.tables.clients i) = some session

/-- Some client has the address. -/
def Knows (self : Host) (ip : String) : Prop :=
  Exists fun i => i < self.tables.count ∧
    (self.tables.sessions (self.tables.clients i)).map Allocated.cmtsAddr = some ip

/-- `malloc` answers no pointer to a session. -/
def Grants (self : Host) (calls : ConnectCalls) : Prop :=
  forall session, calls.session = some session -> self.tables.sessions session = none

/-- The socket of a session is open; in a dry run it has none. -/
def OwnsSocket (self : Host) (session : Nat) (dryRun : Int32) : Prop :=
  if dryRun = 0 then
    Exists fun fd => self.socks session = some fd ∧
      self.files.holder fd = some (.session session 1)
  else self.socks session = none

/-- The session and its running thread stand in the same place of `clients` and
`threads`, below `count`. -/
def Registered (self : Host) (ip : String) (session thread : Nat) : Prop :=
  self.tables.sessions session = some { cmtsAddr := ip, thread } ∧
    self.running thread = some session ∧
      Exists fun i => i < self.tables.count ∧ i < maxroom ∧ self.tables.clients i = session ∧
        self.tables.threads i = thread

/-- The tables, the sessions, the running threads and the open descriptors are the
same. -/
structure Same (before after : Host) : Prop where
  tables : after.tables = before.tables
  running : after.running = before.running
  files : forall fd, after.files.holder fd = before.files.holder fd

/-- A request to connect has said that it is connected and has registered everything,
or it has answered an error and has left nothing behind. -/
def AllOrNothing (self : Host) (body : Option ConnectBody) (calls : ConnectCalls)
    (finished : Finished) : Prop :=
  (forall i, i ∈ finished.threadWrites -> i < maxroom) ∧
    ((Exists fun input => Exists fun ip => Exists fun session =>
        body = some input ∧ input.cmtsIp = some ip ∧ calls.session = some session ∧
          finished.answer = .connected ip ∧ finished.host.Registered ip session calls.thread ∧
            finished.host.OwnsSocket session input.dryRun) ∨
      (Exists fun code => Exists fun args => finished.answer = .error code args) ∧
        self.Same finished.host)

/-- The request is refused, the handshake fails, there is no thread, or both locks are
taken. -/
def Settles (self : Host) (ip : String) (dryRun : Int32) (calls : ConnectCalls) : Prop :=
  isIp4 ip = false ∨ self.Knows ip ∨ self.tables.maxpep ≤ self.tables.count ∨
    calls.session ≠ none ∧
      (dryRun = 0 ∧ calls.admctl ≠ .handshaken ∨ calls.thread = 0 ∨
        calls.setLock = true ∧ calls.tidLock.acquired = true)

/-! ## What `ps_free` takes back -/

section Undoing

variable {self made : Host} {ip : String} {session : Nat}

/-- A descriptor that was free before is free again. -/
theorem closed_taken (files : Descriptors Holder) (session fd : Nat) :
    (sockClose (files.taken (.session session 1)) (some files.lowest)).holder fd =
      files.holder fd := by
  have socket : ((files.taken (.session session 1)).holder files.lowest).any Holder.isSocket =
      true := by
    rw [files.holder_taken, if_pos rfl]
    rfl
  rw [sockClose, if_pos socket, Descriptors.holder_released, files.holder_taken]
  by_cases same : fd = files.lowest
  · rw [if_pos same, same, files.holder_lowest]
  · rw [if_neg same, if_neg same]

/-- Nothing is closed where nobody holds the number. -/
theorem sockClose_free {files : Descriptors Holder} {fd : Nat} (free : files.holder fd = none) :
    sockClose files (some fd) = files := by
  rw [sockClose, free]
  rfl

/-- A session has been made, and nothing has come of it but what `ps_free` closes. -/
structure Made (before made : Host) (ip : String) (session : Nat) : Prop where
  tables : made.tables =
    { before.tables with
      sessions := Function.update before.tables.sessions session
        (some { cmtsAddr := ip, thread := 0 }) }
  running : made.running = before.running
  files : forall fd,
    (sockClose made.files (made.socks session)).holder fd = before.files.holder fd

theorem psNew_made (self : Host) (valid : isIp4 ip = true) (session : Nat) :
    Exists fun made => self.psNew ip (some session) = some (session, made) ∧
      self.Made made ip session ∧ made.socks session = none := by
  have unset : Function.update self.socks session none session = none := Function.update_self ..
  rw [psNew, Tables.psNew_eq valid]
  refine ⟨_, rfl, ⟨rfl, rfl, ?_⟩, unset⟩
  intro fd
  change (sockClose self.files (Function.update self.socks session none session)).holder fd = _
  rw [unset]
  rfl

/-- However `ps_admctl` ends. -/
theorem Made.psAdmctl (new : self.Made made ip session) (unset : made.socks session = none)
    (ends : AdmctlEnd) : self.Made (made.psAdmctl session ends).1 ip session := by
  have before : forall fd, made.files.holder fd = self.files.holder fd := by
    intro fd
    rw [← new.files fd, unset]
    rfl
  have set : Function.update made.socks session (some made.files.lowest) session =
      some made.files.lowest := Function.update_self ..
  have closed (fd : Nat) := (closed_taken made.files session fd).trans (before fd)
  cases ends with
  | noSocket => exact new
  | refused =>
      refine ⟨new.tables, new.running, fun fd => ?_⟩
      dsimp only [Host.psAdmctl]
      rw [unset]
      exact closed fd
  | unreachable =>
      refine ⟨new.tables, new.running, fun fd => ?_⟩
      have free := (closed_taken made.files session made.files.lowest).trans
        made.files.holder_lowest
      dsimp only [Host.psAdmctl]
      rw [set, sockClose_free free]
      exact closed fd
  | expired | handshaken =>
      refine ⟨new.tables, new.running, fun fd => ?_⟩
      dsimp only [Host.psAdmctl]
      rw [set]
      exact closed fd

theorem psAdmctl_ends (made : Host) (session : Nat) (ends : AdmctlEnd) :
    (made.psAdmctl session ends).2 = false ↔ ends ≠ .handshaken := by
  cases ends <;> simp [psAdmctl]

/-- After the handshake the socket is open. -/
theorem psAdmctl_socket (made : Host) (session : Nat) :
    (made.psAdmctl session .handshaken).1.OwnsSocket session 0 := by
  refine ⟨made.files.lowest, Function.update_self .., ?_⟩
  change (made.files.taken (.session session 1)).holder made.files.lowest = _
  rw [made.files.holder_taken, if_pos rfl]

/-- The thread runs, and is written down with its session. -/
structure Booted (before booted : Host) (ip : String) (session thread : Nat) : Prop where
  tables : booted.tables =
    { before.tables with
      sessions := Function.update before.tables.sessions session
        (some { cmtsAddr := ip, thread }) }
  running : booted.running thread = some session

theorem Made.psBoot (new : self.Made made ip session) (thread : Nat) :
    self.Booted (made.psBoot session thread) ip session thread where
  tables := by
    rw [Host.psBoot, Tables.psBoot, new.tables]
    simp only [Function.update_self, Function.update_idem, Option.map_some]
  running := Function.update_self ..

theorem Booted.live {thread : Nat} (booted : self.Booted made ip session thread) :
    made.tables.sessions session = some { cmtsAddr := ip, thread } := by
  rw [booted.tables]
  exact Function.update_self ..

theorem Booted.count {thread : Nat} (booted : self.Booted made ip session thread) :
    made.tables.count = self.tables.count := by
  rw [booted.tables]

theorem Made.psFree (new : self.Made made ip session)
    (fresh : self.tables.sessions session = none) : self.Same (made.psFree session) where
  tables := by
    change made.tables.psFree session = self.tables
    rw [new.tables]
    exact @Tables.psFree_new self.tables { session, admitted := true, thread := 0 } fresh _
  running := new.running
  files := new.files

end Undoing

/-! ## The lookup -/

section Lookups

variable {self : Host} {ip : String}

/-- The loop finds a session where there is one with the address. -/
theorem lcmGetpsLoop_known (within : self.WithinCapacity) (ip : String) {places : List Nat}
    (below : forall i, i ∈ places -> i < self.tables.count) :
    Exists fun found => self.tables.lcmGetpsLoop (some ip) places = some found ∧
      (found.isSome = true ↔ Exists fun i => i ∈ places ∧
        (self.tables.sessions (self.tables.clients i)).map Allocated.cmtsAddr = some ip) := by
  induction places with
  | nil =>
      refine ⟨none, rfl, ?_⟩
      constructor
      · intro impossible
        cases impossible
      · rintro ⟨i, member, _⟩
        cases member
  | cons i places inductionHypothesis =>
      have here := below i List.mem_cons_self
      have inside := Nat.lt_of_lt_of_le here (Nat.le_trans within.count within.roomy)
      rcases within.live i here with ⟨session, live⟩
      rcases inductionHypothesis fun j member => below j (List.mem_cons_of_mem _ member) with
        ⟨found, looked, known⟩
      rw [Tables.lcmGetpsLoop, Tables.client_of_lt inside live, Option.bind_some]
      by_cases same : some ip = some session.cmtsAddr
      · refine ⟨some (self.tables.clients i), if_pos same, fun _ => ?_, fun _ => rfl⟩
        refine ⟨i, List.mem_cons_self, ?_⟩
        rw [live, same]
        rfl
      · refine ⟨found, (if_neg same).trans looked, ?_⟩
        rw [known]
        constructor
        · rintro ⟨j, member, addressed⟩
          exact ⟨j, List.mem_cons_of_mem _ member, addressed⟩
        · rintro ⟨j, member, addressed⟩
          rcases List.mem_cons.mp member with rfl | later
          · rw [live] at addressed
            exact absurd addressed.symm same
          · exact ⟨j, later, addressed⟩

theorem lcmGetps_known (within : self.WithinCapacity) (ip : String) :
    Exists fun found => self.tables.lcmGetps (some ip) = some found ∧
      (found.isSome = true ↔ self.Knows ip) := by
  rcases lcmGetpsLoop_known within ip fun i member => List.mem_range.mp member with
    ⟨found, looked, known⟩
  refine ⟨found, looked, known.trans ?_⟩
  simp only [List.mem_range]
  exact Iff.rfl

end Lookups

/-! ## From `lcm_set` on -/

section Storing

variable {self made : Host} {body : Option ConnectBody} {calls : ConnectCalls} {ip : String}
  {session : Nat}

/-- A request that answers nothing is neither. -/
theorem not_allOrNothing_complete {finished : Finished} (silent : finished.answer = .complete) :
    ¬self.AllOrNothing body calls finished := by
  rintro ⟨_, ⟨_, _, _, _, _, _, connected, _⟩ | ⟨⟨_, _, error⟩, _⟩⟩
  · rw [silent] at connected
    cases connected
  · rw [silent] at error
    cases error

/-- A request that writes past `threads` is neither. -/
theorem not_allOrNothing_outside {finished : Finished} {i : Nat}
    (written : i ∈ finished.threadWrites) (outside : maxroom ≤ i) :
    ¬self.AllOrNothing body calls finished :=
  fun both => Nat.not_lt.mpr outside (both.1 i written)

/-- A request that has answered an error and changed nothing. -/
theorem allOrNothing_error {after : Host} (same : self.Same after) (code : UInt8)
    (args : List Vararg) : self.AllOrNothing body calls (after.answered (.error code args)) :=
  ⟨fun _ member => absurd member List.not_mem_nil, Or.inr ⟨⟨code, args, rfl⟩, same⟩⟩

theorem same_refl (self : Host) : self.Same self := ⟨rfl, rfl, fun _ => rfl⟩

/-- The session in the next place of `clients`. -/
def stored (self : Host) (session : Nat) : Host :=
  { self with
    tables :=
      { self.tables with
        count := self.tables.count + 1
        clients := Function.update self.tables.clients self.tables.count session } }

/-- The thread in a place of `threads`. -/
def threaded (self : Host) (pos thread : Nat) : Host :=
  { self with
    tables := { self.tables with threads := Function.update self.tables.threads pos thread } }

theorem lcmSet_locked (room : made.tables.count < maxroom) (session : Nat) :
    made.lcmSet session true = some (made.stored session, Int32.ofNat made.tables.count) := by
  rw [lcmSet, Tables.lcmSet, if_neg (Nat.not_le.mpr room)]
  rfl

/-- Without its lock `gctl_lock_tid` stores nothing, and nothing is answered. -/
theorem connectStore_lost {set : Host × Int32} (sets : made.lcmSet session calls.setLock = some set)
    (lost : calls.tidLock.acquired = false) :
    made.connectStore session calls = some (set.1.answered .complete) := by
  have nothing : gctlLockTid set.1.tables.threads calls.thread (sizeT set.2.toInt)
      calls.tidLock = none := by
    rw [gctlLockTid, lost]
    rfl
  rw [connectStore, sets, Option.bind_some, nothing]

/-- With its lock it stores the thread at whatever place `lcm_set` has answered. -/
theorem connectStore_locked {set : Host × Int32}
    (sets : made.lcmSet session calls.setLock = some set)
    (live : set.1.tables.sessions session = some { cmtsAddr := ip, thread := calls.thread })
    (acquired : calls.tidLock.acquired = true) :
    made.connectStore session calls =
      some
        { host := set.1.threaded (sizeT set.2.toInt) calls.thread
          answer := .connected ip
          threadWrites := [sizeT set.2.toInt] } := by
  have written : gctlLockTid set.1.tables.threads calls.thread (sizeT set.2.toInt)
      calls.tidLock =
      some (Function.update set.1.tables.threads (sizeT set.2.toInt) calls.thread,
        sizeT set.2.toInt) := by
    rw [gctlLockTid, if_pos acquired]
  rw [connectStore, sets, Option.bind_some, written]
  dsimp only
  rw [live]
  rfl

/-- Storing ends well exactly if both locks are taken. -/
theorem connectStore_iff (room : made.tables.count < maxroom)
    (live : made.tables.sessions session = some { cmtsAddr := ip, thread := calls.thread })
    (running : made.running calls.thread = some session) {input : ConnectBody}
    (socket : made.OwnsSocket session input.dryRun) (address : input.cmtsIp = some ip)
    (pointer : calls.session = some session) :
    (Exists fun finished => made.connectStore session calls = some finished ∧
        self.AllOrNothing (some input) calls finished) ↔
      calls.setLock = true ∧ calls.tidLock.acquired = true := by
  have index : sizeT (Int32.ofNat made.tables.count).toInt = made.tables.count :=
    sizeT_ofNat (Nat.lt_trans room (by decide))
  cases acquired : calls.tidLock.acquired with
  | false =>
      have late {set : Host × Int32} (sets : made.lcmSet session calls.setLock = some set) :
          ¬Exists fun finished => made.connectStore session calls = some finished ∧
            self.AllOrNothing (some input) calls finished := by
        rintro ⟨finished, stores, both⟩
        rw [connectStore_lost sets acquired] at stores
        cases stores
        exact not_allOrNothing_complete rfl both
      refine iff_of_false ?_ fun impossible => Bool.noConfusion impossible.2
      cases set : calls.setLock with
      | false =>
          have sets : made.lcmSet session calls.setLock = some (made, -1) := set ▸ rfl
          exact late sets
      | true => exact late (set ▸ lcmSet_locked room session)
  | true =>
      cases set : calls.setLock with
      | false =>
          refine iff_of_false ?_ fun impossible => Bool.noConfusion impossible.1
          rintro ⟨finished, stores, both⟩
          have sets : made.lcmSet session calls.setLock = some (made, -1) := set ▸ rfl
          rw [connectStore_locked sets live acquired] at stores
          cases stores
          have outside : maxroom ≤ sizeT (-1 : Int32).toInt := by decide
          exact not_allOrNothing_outside List.mem_cons_self outside both
      | true =>
          refine iff_of_true ?_ ⟨rfl, rfl⟩
          have sets : made.lcmSet session calls.setLock =
              some (made.stored session, Int32.ofNat made.tables.count) :=
            set ▸ lcmSet_locked room session
          refine ⟨_, connectStore_locked sets live acquired, ?_, Or.inl ?_⟩
          · intro i member
            rw [List.mem_singleton.mp member, index]
            exact room
          refine ⟨input, ip, session, rfl, address, pointer, rfl, ⟨live, running, ?_⟩, socket⟩
          refine ⟨made.tables.count, Nat.lt_succ_self _, room, Function.update_self .., ?_⟩
          dsimp only
          rw [index]
          exact Function.update_self ..

end Storing

/-! ## The way of a request -/

/-- The request is not refused at once. -/
structure Admits (host : Host) (ip : String) : Prop where
  valid : isIp4 ip = true
  unknown : ¬host.Knows ip
  room : host.tables.count < host.tables.maxpep

/-- There is no handshake, or no thread. -/
def Fails (dryRun : Int32) (calls : ConnectCalls) : Prop :=
  dryRun = 0 ∧ calls.admctl ≠ .handshaken ∨ calls.thread = 0

/-- What a request with an address comes to: it is refused, given up or undone, or its
thread runs and it goes on with `lcm_set`. -/
inductive Leads (self : Host) (ip : String) (dryRun : Int32) (calls : ConnectCalls) :
    Option Finished -> Prop where
  | invalid (wrong : isIp4 ip = false) :
      Leads self ip dryRun calls (some (self.answered (.error 111 [.text ip])))
  | known (valid : isIp4 ip = true) (knows : self.Knows ip) :
      Leads self ip dryRun calls (some (self.answered (.error 100 [.text ip])))
  | full (valid : isIp4 ip = true) (unknown : ¬self.Knows ip)
      (full : self.tables.maxpep ≤ self.tables.count) :
      Leads self ip dryRun calls (some (self.answered (.error 103 [.text ip])))
  | unmade (admits : self.Admits ip) (pointer : calls.session = none) :
      Leads self ip dryRun calls (some (self.answered .complete))
  | undone {session : Nat} {after : Host} (admits : self.Admits ip)
      (pointer : calls.session = some session) (fails : Fails dryRun calls)
      (same : self.Same after) :
      Leads self ip dryRun calls (some (after.answered (.error 102 [.text ip])))
  | started {session : Nat} {made : Host} (admits : self.Admits ip)
      (pointer : calls.session = some session) (passes : ¬Fails dryRun calls)
      (booted : self.Booted made ip session calls.thread)
      (socket : made.OwnsSocket session dryRun) :
      Leads self ip dryRun calls (made.connectStore session calls)

section Requests

variable {self made : Host} {body : Option ConnectBody} {calls : ConnectCalls} {ip : String}
  {session : Nat} {dryRun : Int32}

theorem connectBoot_leads (admits : self.Admits ip) (pointer : calls.session = some session)
    (fresh : self.tables.sessions session = none) (new : self.Made made ip session)
    (passed : ¬(dryRun = 0 ∧ calls.admctl ≠ .handshaken))
    (socket : made.OwnsSocket session dryRun) :
    self.Leads ip dryRun calls (made.connectBoot ip session calls) := by
  by_cases none : calls.thread = 0
  · rw [connectBoot, if_pos none]
    exact .undone admits pointer (Or.inr none) (new.psFree fresh)
  · rw [connectBoot, if_neg none]
    exact .started admits pointer (not_or.mpr ⟨passed, none⟩) (new.psBoot calls.thread) socket

theorem connectSession_leads (admits : self.Admits ip) (pointer : calls.session = some session)
    (fresh : self.tables.sessions session = none) (new : self.Made made ip session)
    (unset : made.socks session = none) :
    self.Leads ip dryRun calls (made.connectSession ip dryRun session calls) := by
  by_cases dry : dryRun = 0
  · have ends := new.psAdmctl unset calls.admctl
    rw [connectSession, if_pos dry]
    dsimp only
    by_cases failed : calls.admctl = .handshaken
    · have answer : ¬(made.psAdmctl session calls.admctl).2 = false := fun no =>
        (psAdmctl_ends made session calls.admctl).mp no failed
      have socket : (made.psAdmctl session calls.admctl).1.OwnsSocket session dryRun := by
        rw [failed, dry]
        exact psAdmctl_socket made session
      rw [if_neg answer]
      exact connectBoot_leads admits pointer fresh ends (fun both => both.2 failed) socket
    · rw [if_pos ((psAdmctl_ends made session calls.admctl).mpr failed)]
      exact .undone admits pointer (Or.inl ⟨dry, failed⟩) (ends.psFree fresh)
  · have socket : made.OwnsSocket session dryRun := by
      rw [OwnsSocket, if_neg dry]
      exact unset
    rw [connectSession, if_neg dry]
    exact connectBoot_leads admits pointer fresh new (fun both => dry both.1) socket

theorem gctlConnect_leads (within : self.WithinCapacity) (grants : self.Grants calls)
    {input : ConnectBody} (address : input.cmtsIp = some ip) :
    self.Leads ip input.dryRun calls (self.gctlConnect (some input) calls) := by
  rw [gctlConnect, address, Option.bind_some]
  cases valid : isIp4 ip with
  | false => exact .invalid valid
  | true =>
      rcases lcmGetps_known within ip with ⟨found, looked, known⟩
      rw [looked, Option.bind_some, if_neg Bool.noConfusion]
      by_cases present : found.isSome = true
      · rw [if_pos present]
        exact .known valid (known.mp present)
      have unknown : ¬self.Knows ip := fun knows => present (known.mpr knows)
      rw [if_neg present]
      by_cases full : self.tables.maxpep ≤ self.tables.count
      · have noRoom : (!self.tables.lcmAllocOk) = true := by
          rw [Tables.lcmAllocOk, decide_eq_true full]
          rfl
        rw [if_pos noRoom]
        exact .full valid unknown full
      have room : ¬(!self.tables.lcmAllocOk) = true := by
        rw [Tables.lcmAllocOk, decide_eq_false full]
        decide
      have admits : self.Admits ip := ⟨valid, unknown, Nat.lt_of_not_le full⟩
      rw [if_neg room]
      cases pointer : calls.session with
      | none => exact .unmade admits pointer
      | some session =>
          rcases self.psNew_made valid session with ⟨made, makes, new, unset⟩
          rw [makes]
          exact connectSession_leads admits pointer (grants session pointer) new unset

/-! ## The whole request -/

/-- A request that is refused at once ends in an error. -/
theorem refused_iff (settles : self.Settles ip dryRun calls) (code : UInt8)
    (args : List Vararg) {after : Host} (same : self.Same after) :
    (Exists fun finished => some (after.answered (.error code args)) = some finished ∧
        self.AllOrNothing body calls finished) ↔ self.Settles ip dryRun calls :=
  iff_of_true ⟨_, rfl, allOrNothing_error same code args⟩ settles

/-- A request that is given up without an answer ends in neither way. -/
theorem not_finished_complete :
    ¬Exists fun finished => some (self.answered .complete) = some finished ∧
      self.AllOrNothing body calls finished := by
  rintro ⟨finished, returns, both⟩
  cases returns
  exact not_allOrNothing_complete rfl both

theorem Admits.settles_iff (admits : self.Admits ip) :
    self.Settles ip dryRun calls ↔ calls.session ≠ none ∧
      (dryRun = 0 ∧ calls.admctl ≠ .handshaken ∨ calls.thread = 0 ∨
        calls.setLock = true ∧ calls.tidLock.acquired = true) := by
  rw [Settles, admits.valid, or_iff_right Bool.noConfusion, or_iff_right admits.unknown,
    or_iff_right (Nat.not_le.mpr admits.room)]

/-- A request with an address. -/
theorem gctlConnect_iff (within : self.WithinCapacity) (grants : self.Grants calls)
    {input : ConnectBody} (address : input.cmtsIp = some ip) :
    (Exists fun finished => self.gctlConnect (some input) calls = some finished ∧
        self.AllOrNothing (some input) calls finished) ↔ self.Settles ip input.dryRun calls := by
  have leads := gctlConnect_leads within grants address
  generalize self.gctlConnect (some input) calls = result at leads
  cases leads with
  | invalid wrong => exact refused_iff (Or.inl wrong) 111 _ self.same_refl
  | known _ knows => exact refused_iff (Or.inr (Or.inl knows)) 100 _ self.same_refl
  | full _ _ full => exact refused_iff (Or.inr (Or.inr (Or.inl full))) 103 _ self.same_refl
  | unmade admits pointer =>
      refine iff_of_false not_finished_complete fun settles => ?_
      exact (admits.settles_iff.mp settles).1 pointer
  | @undone session after admits pointer fails same =>
      have created : calls.session ≠ none := pointer ▸ Option.some_ne_none session
      refine refused_iff (admits.settles_iff.mpr ⟨created, ?_⟩) 102 _ same
      exact fails.imp_right Or.inl
  | @started session made admits pointer passes booted socket =>
      have created : calls.session ≠ none := pointer ▸ Option.some_ne_none session
      have inside := Nat.lt_of_lt_of_le admits.room within.roomy
      rcases not_or.mp passes with ⟨handshaken, thread⟩
      rw [connectStore_iff (booted.count ▸ inside) booted.live booted.running socket address
        pointer, admits.settles_iff, and_iff_right created, or_iff_right handshaken,
        or_iff_right thread]

/-- A request to connect ends in one of the two ways exactly if it names an address and
is refused, or its session is made and the handshake fails, or there is no thread, or both
locks are taken. -/
theorem allOrNothing_iff (within : self.WithinCapacity) (grants : self.Grants calls) :
    (Exists fun finished => self.gctlConnect body calls = some finished ∧
        self.AllOrNothing body calls finished) ↔
      Exists fun input => Exists fun ip => body = some input ∧ input.cmtsIp = some ip ∧
        self.Settles ip input.dryRun calls := by
  cases body with
  | none => exact iff_of_false not_finished_complete fun ⟨_, _, impossible, _⟩ => nomatch impossible
  | some input =>
      cases address : input.cmtsIp with
      | none =>
          have nowhere : self.gctlConnect (some input) calls = none := by
            rw [gctlConnect, address, Option.bind_none]
          rw [nowhere]
          refine iff_of_false (fun ⟨_, returns, _⟩ => nomatch returns) ?_
          rintro ⟨other, ip, same, named, _⟩
          cases same
          rw [address] at named
          cases named
      | some ip =>
          rw [gctlConnect_iff within grants address]
          constructor
          · intro settles
            exact ⟨input, ip, rfl, address, settles⟩
          · rintro ⟨other, text, same, named, settles⟩
            cases same
            rw [address] at named
            cases named
            exact settles

end Requests

/-! ## Runs of requests -/

section Runs

variable {self made : Host} {calls : ConnectCalls} {ip : String} {session : Nat}

theorem Same.within {before after : Host} (same : before.Same after)
    (within : before.WithinCapacity) : after.WithinCapacity where
  roomy := same.tables ▸ within.roomy
  count := same.tables ▸ within.count
  live := same.tables ▸ within.live

/-- A client more, where there is room. -/
theorem stored_within (within : made.WithinCapacity)
    (room : made.tables.count < made.tables.maxpep) {new : Allocated}
    (live : made.tables.sessions session = some new) : (made.stored session).WithinCapacity where
  roomy := within.roomy
  count := room
  live := by
    intro i below
    dsimp only [stored] at below ⊢
    rcases Nat.lt_succ_iff_lt_or_eq.mp below with earlier | rfl
    · rw [Function.update_of_ne (Nat.ne_of_lt earlier)]
      exact within.live i earlier
    · rw [Function.update_self]
      exact ⟨new, live⟩

theorem connectStore_within (within : made.WithinCapacity)
    (room : made.tables.count < made.tables.maxpep) {new : Allocated}
    (live : made.tables.sessions session = some new) {finished : Finished}
    (returns : made.connectStore session calls = some finished) :
    finished.host.WithinCapacity := by
  rcases Option.bind_eq_some_iff.mp returns with ⟨set, sets, ends⟩
  have kept : set.1.WithinCapacity := by
    cases locked : calls.setLock with
    | false =>
        rw [locked] at sets
        cases sets
        exact within
    | true =>
        rw [locked, lcmSet_locked (Nat.lt_of_lt_of_le room within.roomy)] at sets
        cases sets
        exact stored_within within room live
  split at ends
  · cases ends
    exact kept
  · rcases Option.map_eq_some_iff.mp ends with ⟨_, _, rfl⟩
    exact ⟨kept.roomy, kept.count, kept.live⟩

/-- No client of the table is a session that is not in the heap. -/
theorem WithinCapacity.clients_ne (within : self.WithinCapacity)
    (fresh : self.tables.sessions session = none) {i : Nat} (below : i < self.tables.count) :
    self.tables.clients i ≠ session := by
  intro same
  rcases within.live i below with ⟨allocated, live⟩
  rw [same, fresh] at live
  cases live

theorem Booted.within {thread : Nat} (booted : self.Booted made ip session thread)
    (within : self.WithinCapacity) (fresh : self.tables.sessions session = none) :
    made.WithinCapacity := by
  refine ⟨booted.tables ▸ within.roomy, booted.tables ▸ within.count, ?_⟩
  rw [booted.tables]
  intro i below
  rcases within.live i below with ⟨allocated, here⟩
  exact ⟨allocated, (Function.update_of_ne (within.clients_ne fresh below) _ _).trans here⟩

/-- However a request to connect ends, the manager is within its capacity. -/
theorem gctlConnect_within (within : self.WithinCapacity) (grants : self.Grants calls)
    {body : Option ConnectBody} {finished : Finished}
    (returns : self.gctlConnect body calls = some finished) :
    finished.host.WithinCapacity := by
  cases body with
  | none =>
      cases returns
      exact within
  | some input =>
      rcases Option.bind_eq_some_iff.mp returns with ⟨ip, address, _⟩
      have leads := gctlConnect_leads within grants address
      generalize self.gctlConnect (some input) calls = result at leads returns
      cases leads with
      | invalid | known | full | unmade =>
          cases returns
          exact within
      | undone _ _ _ same =>
          cases returns
          exact same.within within
      | started admits pointer _ booted _ =>
          have kept := booted.within within (grants _ pointer)
          refine connectStore_within kept ?_ booted.live returns
          rw [booted.tables]
          exact admits.room

/-- One request to connect, with what its calls come to. -/
def connectStep (self : Host) (request : Option ConnectBody × ConnectCalls) : Option Host :=
  (self.gctlConnect request.1 request.2).map Finished.host

/-- Requests to connect, whatever fails in them, lead to managers within capacity. -/
theorem within_run {after : Host} (within : self.WithinCapacity)
    (run : System.Run connectStep (fun host request => host.Grants request.2) self after) :
    after.WithinCapacity := by
  refine run.invariant WithinCapacity ?_ within
  intro host request after within grants moved
  rcases Option.map_eq_some_iff.mp moved with ⟨finished, returns, rfl⟩
  exact gctlConnect_within within grants returns

end Runs

/-- A manager for four clients that has none, where the first descriptors are taken. -/
def vacant : Host where
  tables := Tables.initial 4 fun _ => 0
  socks := fun _ => none
  running := fun _ => none
  files := { slots := [some (.other false), some (.other false), some (.other false)] }

theorem vacant_within : vacant.WithinCapacity where
  roomy := by decide
  count := by decide
  live := fun i below => absurd below (Nat.not_lt_zero i)

/-- Everything goes well, but for the two locks. -/
def lateCalls (setLock : Bool) (tidLock : LcmLock) : ConnectCalls where
  session := some 7
  admctl := .handshaken
  thread := 9
  setLock := setLock
  tidLock := tidLock

theorem vacant_grants (setLock : Bool) (tidLock : LcmLock) :
    vacant.Grants (lateCalls setLock tidLock) := fun _ _ => rfl

def plainConnect : ConnectBody where
  cmtsIp := some "10.0.0.1"
  dryRun := 0

/-- `lcm_set` gets no lock, the other one is taken: the client is told that it is
connected, the thread runs and the socket is open, nothing stands in `clients`, and the
thread was written far outside `threads`. -/
theorem unlocked_not_allOrNothing :
    vacant.WithinCapacity ∧
      vacant.Grants (lateCalls false { first := true, reinit := true, second := true }) ∧
        Exists fun finished =>
          vacant.gctlConnect (some plainConnect)
              (lateCalls false { first := true, reinit := true, second := true }) =
            some finished ∧
          finished.answer = .connected "10.0.0.1" ∧
          finished.threadWrites = [18446744073709551615] ∧
          finished.host.tables.count = 0 ∧
          finished.host.running 9 = some 7 ∧
          finished.host.files.holder 3 = some (.session 7 1) ∧
          ¬vacant.AllOrNothing (some plainConnect)
            (lateCalls false { first := true, reinit := true, second := true }) finished := by
  refine ⟨vacant_within, vacant_grants _ _, _, rfl, rfl, rfl, rfl, rfl, rfl, ?_⟩
  exact not_allOrNothing_outside List.mem_cons_self (by decide)

theorem allOrNothing_iff_vacant :
    (Exists fun finished =>
      vacant.gctlConnect (some plainConnect)
          (lateCalls true { first := false, reinit := true, second := true }) = some finished ∧
        vacant.AllOrNothing (some plainConnect)
          (lateCalls true { first := false, reinit := true, second := true }) finished) ↔
      Exists fun input => Exists fun ip => some plainConnect = some input ∧
        input.cmtsIp = some ip ∧ vacant.Settles ip input.dryRun
          (lateCalls true { first := false, reinit := true, second := true }) :=
  allOrNothing_iff vacant_within (vacant_grants _ _)

/-! ## The same request on the list of clients -/

section Lists

variable {self made : Host} {calls : ConnectCalls} {ip : String} {session : Nat}

theorem WithinCapacity.listed_length (within : self.WithinCapacity) :
    self.tables.listed.length = self.tables.count :=
  Tables.listed_length_of_live within.live

/-- A client of the list has the address exactly if one of the table has. -/
theorem listed_known (self : Host) (ip : String) :
    (self.tables.listed.find? fun client => client.cmtsAddr = ip).isSome = true ↔
      self.Knows ip := by
  rw [List.find?_isSome]
  constructor
  · rintro ⟨client, member, same⟩
    rcases List.mem_filterMap.mp member with ⟨i, inside, named⟩
    refine ⟨i, List.mem_range.mp inside, ?_⟩
    rcases Option.map_eq_some_iff.mp named with ⟨allocated, live, rfl⟩
    rw [live, ← of_decide_eq_true same]
    rfl
  · rintro ⟨i, below, addressed⟩
    rcases Option.map_eq_some_iff.mp addressed with ⟨allocated, live, rfl⟩
    refine ⟨{ cmtsAddr := allocated.cmtsAddr }, ?_, decide_eq_true rfl⟩
    refine List.mem_filterMap.mpr ⟨i, List.mem_range.mpr below, ?_⟩
    rw [live]
    rfl

/-- A session that is not in the table does not change the list. -/
theorem listed_update (within : self.WithinCapacity)
    (fresh : self.tables.sessions session = none) (new : Allocated) :
    ({ self.tables with sessions := Function.update self.tables.sessions session (some new) } :
      Tables).listed = self.tables.listed := by
  refine List.filterMap_congr fun i member => ?_
  have other := within.clients_ne fresh (List.mem_range.mp member)
  dsimp only
  rw [Function.update_of_ne other]

/-- The list is the same while the session is not stored. -/
theorem Booted.api {thread : Nat} (booted : self.Booted made ip session thread)
    (within : self.WithinCapacity) (fresh : self.tables.sessions session = none) :
    made.tables.api = self.tables.api := by
  have listed : made.tables.listed = self.tables.listed := by
    rw [booted.tables]
    exact listed_update within fresh _
  rw [Tables.api, listed, booted.tables]
  rfl

/-- A stored session comes last. -/
theorem stored_listed (made : Host) {new : Allocated}
    (live : made.tables.sessions session = some new) :
    (made.stored session).tables.listed =
      made.tables.listed ++ [{ cmtsAddr := new.cmtsAddr }] := by
  change (List.range (made.tables.count + 1)).filterMap _ = _
  rw [List.range_succ, List.filterMap_append, Tables.listed]
  congr 1
  · refine List.filterMap_congr fun i member => ?_
    have earlier := Nat.ne_of_lt (List.mem_range.mp member)
    dsimp only [stored]
    rw [Function.update_of_ne earlier]
  · dsimp only [stored]
    rw [List.filterMap_cons, Function.update_self, live]
    rfl

/-- `gctl_connect` from `lcm_set` on does the same to the list. -/
theorem connectStore_listed (room : made.tables.count < maxroom)
    (live : made.tables.sessions session = some { cmtsAddr := ip, thread := calls.thread })
    (counted : made.tables.listed.length = made.tables.count) :
    Exists fun finished => made.connectStore session calls = some finished ∧
      (gctlConnectStore made.tables.api ip calls.fate).api = finished.host.tables.api ∧
        (gctlConnectStore made.tables.api ip calls.fate).threadWrites = finished.threadWrites ∧
          finished.answer =
            if !calls.tidLock.acquired then .complete else .connected ip := by
  have set : Exists fun set => made.lcmSet session calls.setLock = some set ∧
      set.1.tables.sessions session = some { cmtsAddr := ip, thread := calls.thread } ∧
        PolicyServer.lcmSet made.tables.api.lcm { cmtsAddr := ip } calls.fate.setLock =
          { lcm := set.1.tables.api.lcm
            pos := set.2
            written := if calls.setLock then some made.tables.count else none } ∧
          set.1.tables.threads = made.tables.threads := by
    cases locked : calls.setLock with
    | false =>
        refine ⟨(made, -1), rfl, live, ?_, rfl⟩
        rw [PolicyServer.lcmSet, ConnectCalls.fate, locked]
        rfl
    | true =>
        refine ⟨(made.stored session, Int32.ofNat made.tables.count), lcmSet_locked room session,
          live, ?_, rfl⟩
        have count : made.tables.api.lcm.count = made.tables.count := counted
        rw [PolicyServer.lcmSet, ConnectCalls.fate, locked, count, Tables.api, Tables.api,
          made.stored_listed live]
        rfl
  rcases set with ⟨set, sets, live, listed, threads⟩
  rw [gctlConnectStore, listed]
  cases acquired : calls.tidLock.acquired with
  | false =>
      refine ⟨_, connectStore_lost sets acquired, ?_⟩
      have lost : PolicyServer.gctlLockTid made.tables.api.threads calls.fate.thread
          (sizeT set.2.toInt) calls.fate.tidLock = none := by
        rw [PolicyServer.gctlLockTid, ConnectCalls.fate, acquired]
        rfl
      dsimp only
      rw [lost]
      refine ⟨?_, rfl, rfl⟩
      dsimp only [Tables.api, answered]
      rw [threads]
  | true =>
      refine ⟨_, connectStore_locked sets live acquired, ?_⟩
      have written : PolicyServer.gctlLockTid made.tables.api.threads calls.fate.thread
          (sizeT set.2.toInt) calls.fate.tidLock =
          some (Function.update made.tables.threads (sizeT set.2.toInt) calls.thread,
            sizeT set.2.toInt) := by
        rw [PolicyServer.gctlLockTid, ConnectCalls.fate, if_pos acquired]
        rfl
      dsimp only
      rw [written]
      refine ⟨?_, rfl, rfl⟩
      dsimp only [Tables.api, threaded]
      rw [threads]
      rfl

/-- The checks in front of `ps_new` find the same in the list. -/
theorem Admits.listed (admits : self.Admits ip) (within : self.WithinCapacity) :
    (self.tables.listed.find? fun client => client.cmtsAddr = ip).isSome = false ∧
      PolicyServer.lcmAllocOk self.tables.api.lcm true = true := by
  constructor
  · exact Bool.eq_false_iff.mpr fun there => admits.unknown ((listed_known self ip).mp there)
  · have counted : self.tables.api.lcm.count = self.tables.count := within.listed_length
    have maxpep : self.tables.api.lcm.maxpep = self.tables.maxpep := rfl
    rw [PolicyServer.lcmAllocOk, counted, maxpep, if_neg (Nat.not_le.mpr admits.room)]
    rfl

/-- A request to connect is answered as on the list of clients, and does the same to it
and to `threads`. -/
theorem gctlConnect_handled (within : self.WithinCapacity) (grants : self.Grants calls)
    {body : Option ConnectBody} {finished : Finished}
    (returns : self.gctlConnect body calls = some finished) :
    Exists fun handled =>
      PolicyServer.gctlConnect self.tables.api body calls.fate = some handled ∧
        handled.api = finished.host.tables.api ∧
          handled.threadWrites = finished.threadWrites ∧
            gctlConnectAnswer self.tables.api body calls.fate = some finished.answer := by
  cases body with
  | none =>
      cases returns
      exact ⟨_, rfl, rfl, rfl, rfl⟩
  | some input =>
  rcases Option.bind_eq_some_iff.mp returns with ⟨ip, address, _⟩
  have leads := gctlConnect_leads within grants address
  generalize self.gctlConnect (some input) calls = result at leads returns
  have lookup :
      PolicyServer.lcmGetps self.tables.api.lcm ip calls.fate.getpsLock calls.fate.eventLock =
      { found := self.tables.listed.find? fun client => client.cmtsAddr = ip, held := false } :=
    lcmGetpsLoop_find ip 0 self.tables.listed
  have allocLock : calls.fate.allocLock = true := rfl
  have created : calls.fate.created = calls.session.isSome := rfl
  have admitted : calls.fate.admitted = false ↔ calls.admctl ≠ .handshaken :=
    decide_eq_false_iff_not
  have thread : calls.fate.thread = calls.thread := rfl
  have tidLock : calls.fate.tidLock = calls.tidLock := rfl
  rw [PolicyServer.gctlConnect, gctlConnectAnswer]
  simp only [address, Option.map_some, lookup, allocLock, created, thread, tidLock,
    Bool.false_eq_true, if_false]
  cases leads with
  | invalid wrong =>
      cases returns
      simp only [wrong, Bool.not_false, if_true]
      exact ⟨_, rfl, rfl, rfl, rfl⟩
  | known valid knows =>
      cases returns
      simp only [valid, (listed_known self ip).mpr knows, Bool.not_true, Bool.false_eq_true,
        if_false, if_true]
      exact ⟨_, rfl, rfl, rfl, rfl⟩
  | full valid unknown full =>
      have unlisted := Bool.eq_false_iff.mpr fun there => unknown ((listed_known self ip).mp there)
      have counted : self.tables.api.lcm.count = self.tables.count := within.listed_length
      have noRoom : PolicyServer.lcmAllocOk self.tables.api.lcm true = false := by
        rw [PolicyServer.lcmAllocOk, counted]
        exact if_pos full
      cases returns
      simp only [valid, unlisted, noRoom, Bool.not_true, Bool.not_false, Bool.false_eq_true,
        if_false, if_true]
      exact ⟨_, rfl, rfl, rfl, rfl⟩
  | unmade admits pointer =>
      cases returns
      simp only [admits.valid, admits.listed within, pointer, Option.isSome_none, Bool.not_true,
        Bool.not_false, Bool.false_eq_true, if_false, if_true]
      exact ⟨_, rfl, rfl, rfl, rfl⟩
  | @undone session after admits pointer fails same =>
      have api : self.tables.api = after.tables.api := congrArg Tables.api same.tables.symm
      cases returns
      simp only [admits.valid, admits.listed within, pointer, admitted, Option.isSome_some,
        Bool.not_true, Bool.false_eq_true, if_false]
      by_cases refused : input.dryRun = 0 ∧ calls.admctl ≠ .handshaken
      · rw [if_pos refused, if_pos refused]
        exact ⟨_, rfl, api, rfl, rfl⟩
      · have none := fails.resolve_left refused
        rw [if_neg refused, if_neg refused, if_pos none, if_pos none]
        exact ⟨_, rfl, api, rfl, rfl⟩
  | @started session made admits pointer passes booted socket =>
      have fresh := grants session pointer
      have kept := booted.within within fresh
      have inside := Nat.lt_of_lt_of_le admits.room within.roomy
      rcases not_or.mp passes with ⟨handshaken, running⟩
      rcases connectStore_listed (booted.count ▸ inside) booted.live kept.listed_length with
        ⟨finished', stores, same, writes, answer⟩
      rw [stores] at returns
      cases returns
      simp only [admits.valid, admits.listed within, pointer, admitted, Option.isSome_some,
        Bool.not_true, Bool.false_eq_true, if_false]
      rw [if_neg handshaken, if_neg handshaken, if_neg running, if_neg running,
        ← booted.api within fresh]
      exact ⟨_, rfl, same, writes, congrArg some answer.symm⟩

end Lists

end Host

end PolicyServer
