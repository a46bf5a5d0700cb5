import PolicyServer.Lib.BoundedMap
import PolicyServer.Lib.Numerals
import PolicyServer.HandlerAnswers
import PolicyServer.Ipv6Literals
import PolicyServer.TableCapacity

namespace PolicyServer

open Lib System

/-!
# The connection manager as a map

Requests come one at a time, every lock is taken and every thread is started.  The
manager is written as it stands in memory: `clients` and `threads` are two arrays of
`MAXROOM` places, `clients` keeps what a clear has freed, and a session is found
through its pointer.  A function answers `none` where the code does not go on: it uses
a place past the end of an array or a session that has been freed, or it joins a
thread that is not the one it has told to die.  `answersAsMap` is that it never does,
and answers as a map from addresses to sessions with room for `maxpep` of them.
-/

/-- A session in the heap: its address, and the thread that `ps_boot` has started for
it, where 0 is no thread. -/
structure Allocated where
  cmtsAddr : String
  thread : Nat
  deriving DecidableEq, Repr

/-- The manager, the array `threads` and the sessions in the heap by their pointers. -/
structure Tables where
  maxpep : Nat
  count : Nat
  clients : Nat -> Nat
  threads : Nat -> Nat
  sessions : Nat -> Option Allocated

namespace Tables

/-- What `lcm_init` makes of a limit that it takes; nothing sets the array
`clients`. -/
def initial (maxpep : Int32) (clients : Nat -> Nat) : Tables where
  maxpep := sizeT maxpep.toInt
  count := 0
  clients := clients
  threads := fun _ => 0
  sessions := fun _ => none

/-- The client at a place, and what its pointer leads to. -/
def client (self : Tables) (i : Nat) : Option (Nat × Allocated) :=
  if maxroom ≤ i then none
  else (self.sessions (self.clients i)).map fun session => (self.clients i, session)

/-- The loop of `lcm_getps`.  A null address is compared with no client. -/
def lcmGetpsLoop (self : Tables) (ip : Option String) : List Nat -> Option (Option Nat)
  | [] => some none
  | i :: places =>
      (self.client i).bind fun temp =>
        if ip = some temp.2.cmtsAddr then some (some temp.1) else lcmGetpsLoop self ip places

/-- `lcm_getps`. -/
def lcmGetps (self : Tables) (ip : Option String) : Option (Option Nat) :=
  self.lcmGetpsLoop ip (List.range self.count)

/-- `lcm_alloc_ok`. -/
def lcmAllocOk (self : Tables) : Bool :=
  !decide (self.maxpep ≤ self.count)

/-- `ps_new`, where `malloc` answers `session`. -/
def psNew (self : Tables) (ip : String) (session : Nat) : Option Tables :=
  if !isIp4 ip then none
  else
    let new : Allocated := { cmtsAddr := ip, thread := 0 }
    some { self with sessions := Function.update self.sessions session (some new) }

/-- `ps_free`. -/
def psFree (self : Tables) (session : Nat) : Tables :=
  { self with sessions := Function.update self.sessions session none }

/-- `ps_boot`, where the new thread is `thread`. -/
def psBoot (self : Tables) (session thread : Nat) : Tables :=
  let started := (self.sessions session).map fun new => { new with thread }
  { self with sessions := Function.update self.sessions session started }

/-- `lcm_set`, with the place that it returns. -/
def lcmSet (self : Tables) (conn : Nat) : Option (Tables × Int32) :=
  if maxroom ≤ self.count then none
  else
    some
      ({ self with
          clients := Function.update self.clients self.count conn
          count := self.count + 1 },
        Int32.ofNat self.count)

/-- `gctl_lock_tid`. -/
def gctlLockTid (self : Tables) (tid : Nat) (pos : Int32) : Option Tables :=
  if maxroom ≤ sizeT pos.toInt then none
  else some { self with threads := Function.update self.threads (sizeT pos.toInt) tid }

/-- What the calls of one `gctl_connect` answer: `malloc`, `ps_admctl` and
`pthread_create`. -/
structure Calls where
  session : Nat
  admitted : Bool
  thread : Nat
  deriving DecidableEq, Repr

/-- `gctl_connect` from `ps_boot` on. -/
def connectBoot (self : Tables) (ip : String) (calls : Calls) : Option (Answer × Tables) :=
  if calls.thread = 0 then some (.error 102 [.text ip], self.psFree calls.session)
  else
    ((self.psBoot calls.session calls.thread).lcmSet calls.session).bind fun stored =>
      (stored.1.gctlLockTid calls.thread stored.2).bind fun after =>
        (after.sessions calls.session).map fun session => (.connected session.cmtsAddr, after)

/-- `gctl_connect`. -/
def gctlConnect (self : Tables) (ip : String) (dryRun : Int32) (calls : Calls) :
    Option (Answer × Tables) :=
  if !isIp4 ip then some (.error 111 [.text ip], self)
  else
    (self.lcmGetps (some ip)).bind fun found =>
      if found.isSome then some (.error 100 [.text ip], self)
      else if !self.lcmAllocOk then some (.error 103 [.text ip], self)
      else
        match self.psNew ip calls.session with
        | none => some (.complete, self)
        | some made =>
            if dryRun = 0 ∧ calls.admitted = false then
              some (.error 102 [.text ip], made.psFree calls.session)
            else made.connectBoot ip calls

/-- The loop of `gctl_lcm_reset`. -/
def resetLoop : Tables -> List Nat -> Option Tables
  | self, [] => some self
  | self, i :: places =>
      (self.client i).bind fun ps =>
        if self.threads i = 0 ∨ self.threads i ≠ ps.2.thread then none
        else
          resetLoop { self.psFree ps.1 with threads := Function.update self.threads i 0 } places

/-- `gctl_lcm_reset`. -/
def gctlLcmReset (self : Tables) : Option (Answer × Tables) :=
  if self.count ≤ 0 then some (.complete, self)
  else
    (self.resetLoop (List.range self.count)).map fun after => (.complete, { after with count := 0 })

end Tables

/-! ## Requests -/

/-- A request to the manager; a gate request looks its address up. -/
inductive TableRequest where
  | connect (ip : String) (dryRun : Int32) (calls : Tables.Calls)
  | lookup (cmtsIp : Option String)
  | clear

/-- What comes of a request: what is sent, or the session that a gate request uses. -/
inductive TableAnswer where
  | sent (answer : Answer)
  | session (found : Option Nat)
  deriving DecidableEq, Repr

def Tables.serve (self : Tables) : TableRequest -> Option (TableAnswer × Tables)
  | .connect ip dryRun calls =>
      (self.gctlConnect ip dryRun calls).map fun served => (.sent served.1, served.2)
  | .lookup cmtsIp => (self.lcmGetps cmtsIp).map fun found => (.session found, self)
  | .clear => self.gctlLcmReset.map fun served => (.sent served.1, served.2)

/-- `malloc` answers a pointer to no session, and `pthread_create` a thread. -/
def Tables.Grants (self : Tables) : TableRequest -> Prop
  | .connect _ _ calls => self.sessions calls.session = none ∧ calls.thread ≠ 0
  | .lookup _ | .clear => True

instance (self : Tables) (request : TableRequest) : Decidable (self.Grants request) :=
  match request with
  | .connect _ _ calls =>
      inferInstanceAs (Decidable (self.sessions calls.session = none ∧ calls.thread ≠ 0))
  | .lookup _ | .clear => instDecidableTrue

/-! ## The map -/

/-- How a request to connect ends. -/
inductive ConnectEnd where
  | einvip
  | econflict
  | enoroom
  | esockfail
  | connected
  deriving DecidableEq, Repr

def ConnectEnd.answer (ip : String) : ConnectEnd -> Answer
  | .einvip => .error 111 [.text ip]
  | .econflict => .error 100 [.text ip]
  | .enoroom => .error 103 [.text ip]
  | .esockfail => .error 102 [.text ip]
  | .connected => .connected ip

/-- What the manager is for: the sessions by the numbers of their addresses. -/
abbrev SessionMap (capacity : Nat) := BoundedMap UInt32 Nat capacity

namespace SessionMap

variable {capacity : Nat} (self : SessionMap capacity)

/-- The session of an address, where the text is one. -/
def find (ip : String) : Option Nat := (inetPton4 ip).bind self.lookup

/-- A session for an address. -/
def connect (ip : String) (dryRun : Int32) (calls : Tables.Calls) :
    ConnectEnd × SessionMap capacity :=
  match inetPton4 ip with
  | none => (.einvip, self)
  | some address =>
      if (self.lookup address).isSome then (.econflict, self)
      else if full : self.size = capacity then (.enoroom, self)
      else if dryRun = 0 ∧ calls.admitted = false then (.esockfail, self)
      else
        (.connected, self.insert address calls.session (Nat.lt_of_le_of_ne self.bounded full))

def respond (self : SessionMap capacity) : TableRequest -> TableAnswer × SessionMap capacity
  | .connect ip dryRun calls =>
      (.sent ((self.connect ip dryRun calls).1.answer ip), (self.connect ip dryRun calls).2)
  | .lookup cmtsIp => (.session (cmtsIp.bind self.find), self)
  | .clear => (.sent .complete, .empty)

end SessionMap

/-- The address and the session at a place. -/
def Tables.entry (self : Tables) (i : Nat) : Option (UInt32 × Nat) :=
  (self.sessions (self.clients i)).bind fun session =>
    (inetPton4 session.cmtsAddr).map fun address => (address, self.clients i)

/-- The client at a place has not been freed, and `threads` has the thread that was
started for it. -/
def Tables.OwnsThread (self : Tables) (i : Nat) : Prop :=
  Exists fun session => self.sessions (self.clients i) = some session ∧
    self.threads i = session.thread ∧ session.thread ≠ 0

/-- The places below `count` are the entries of the map, each with its own thread, and the
heap has no other session. -/
structure Tables.Refines {capacity : Nat} (tables : Tables) (map : SessionMap capacity) :
    Prop where
  maxpep : tables.maxpep = capacity
  entries : Slots.Hold tables.entry tables.count map
  threads : forall i, i < tables.count -> tables.OwnsThread i
  heap : forall pointer, tables.sessions pointer ≠ none ->
    Exists fun i => i < tables.count ∧ tables.clients i = pointer

/-! ## One spelling for each address -/

/-- An octet is the numeral of its number. -/
theorem octet_numeral {part : List Char} (octet : isOctet part = true) :
    part = Nat.toDigits 10 (leadingNumber part) := by
  have digits := (octet_cases octet).1
  have number : leadingNumber part = Nat.ofDigitChars 10 part 0 := by
    rw [leadingNumber, List.takeWhile_eq_self_iff.mpr (List.all_eq_true.mp digits)]
  have start := (Bool.and_eq_true_iff.mp (Bool.and_eq_true_iff.mp octet).1).2
  rw [number]
  rcases Bool.or_eq_true_iff.mp start with one | plain
  · rcases List.length_eq_one_iff.mp (beq_iff_eq.mp one) with ⟨digit, rfl⟩
    by_cases zero : digit = '0'
    · subst zero
      rfl
    · have other : [digit].head? ≠ some '0' := fun same => zero (Option.some.inj same)
      exact (toDigits_ofDigitChars digits other (List.cons_ne_nil _ _)).2.symm
  · rcases Bool.and_eq_true_iff.mp plain with ⟨nonempty, other⟩
    exact (toDigits_ofDigitChars digits (bne_iff_ne.mp other) (bne_iff_ne.mp nonempty)).2.symm

/-- `inet_pton` takes one spelling of an address. -/
theorem inetPton4_injective {ip other : String} {address : UInt32}
    (reads : inetPton4 ip = some address) (alsoReads : inetPton4 other = some address) :
    ip = other := by
  rw [← String.ofList_toList (s := ip)] at reads
  rw [← String.ofList_toList (s := other)] at alsoReads
  rcases inetPton4_parts reads with ⟨a, b, c, d, text, ⟨isA, isB, isC, isD⟩, value⟩
  rcases inetPton4_parts alsoReads with ⟨a', b', c', d', text', ⟨isA', isB', isC', isD'⟩, value'⟩
  have same := congrArg UInt32.toNat (value.symm.trans value')
  have most {part : List Char} (octet : isOctet part = true) : leadingNumber part ≤ 255 :=
    (octet_cases octet).2.2.1
  have word {number : Nat} (small : number < 4294967296) : (UInt32.ofNat number).toNat = number :=
    UInt32.toNat_ofNat_of_lt' small
  have bounds := And.intro (And.intro (most isA) (most isB)) (And.intro (most isC) (most isD))
  have bounds' := And.intro (And.intro (most isA') (most isB')) (And.intro (most isC') (most isD'))
  rw [word (by omega), word (by omega)] at same
  have numeral {part part' : List Char} (octet : isOctet part = true)
      (octet' : isOctet part' = true) (number : leadingNumber part = leadingNumber part') :
      part = part' := by
    rw [octet_numeral octet, octet_numeral octet', number]
  apply String.toList_inj.mp
  rw [text, text', numeral isA isA' (by omega), numeral isB isB' (by omega),
    numeral isC isC' (by omega), numeral isD isD' (by omega)]

theorem inetPton4_isSome (ip : String) : (inetPton4 ip).isSome = isIp4 ip := by
  unfold inetPton4
  cases isIp4 ip <;> rfl

/-! ## Lookups -/

namespace Tables

section Lookups

variable {capacity : Nat} {self : Tables} {map : SessionMap capacity}

theorem Refines.count_le (refines : self.Refines map) : self.count ≤ capacity :=
  refines.entries.size ▸ map.bounded

/-- What stands at a place below `count`. -/
theorem Refines.place (refines : self.Refines map) {i : Nat} (below : i < self.count) :
    Exists fun session => Exists fun address =>
      self.sessions (self.clients i) = some session ∧
        inetPton4 session.cmtsAddr = some address ∧
          self.entry i = some (address, self.clients i) := by
  rcases refines.entries.filled i below with ⟨entry, filled⟩
  rcases Option.bind_eq_some_iff.mp filled with ⟨session, live, named⟩
  rcases Option.map_eq_some_iff.mp named with ⟨address, reads, rfl⟩
  exact ⟨session, address, live, reads, filled⟩

theorem client_of_lt {i : Nat} (inside : i < maxroom) {session : Allocated}
    (live : self.sessions (self.clients i) = some session) :
    self.client i = some (self.clients i, session) := by
  rw [client, if_neg (Nat.not_le.mpr inside), live, Option.map_some]

/-- The loop answers the first session with the address. -/
theorem lcmGetpsLoop_eq (refines : self.Refines map) (roomy : capacity ≤ maxroom)
    (ip : Option String) {places : List Nat} (below : forall i, i ∈ places -> i < self.count) :
    self.lcmGetpsLoop ip places =
      some (places.findSome? fun i =>
        (self.entry i).bind fun entry =>
          if ip.bind inetPton4 = some entry.1 then some entry.2 else none) := by
  induction places with
  | nil => rfl
  | cons i places inductionHypothesis =>
      have here := below i List.mem_cons_self
      have inside := Nat.lt_of_lt_of_le here (Nat.le_trans refines.count_le roomy)
      rcases refines.place here with ⟨session, address, live, reads, entry⟩
      have rest := inductionHypothesis fun j member => below j (List.mem_cons_of_mem _ member)
      rw [lcmGetpsLoop, client_of_lt inside live, Option.bind_some, List.findSome?_cons, entry,
        Option.bind_some]
      by_cases same : ip = some session.cmtsAddr
      · rw [if_pos same, same, Option.bind_some, if_pos reads]
      · have different : ip.bind inetPton4 ≠ some address := by
          intro found
          rcases Option.bind_eq_some_iff.mp found with ⟨text, rfl, alsoReads⟩
          exact same (congrArg some (inetPton4_injective alsoReads reads))
        rw [if_neg same, if_neg different, rest]

/-- A lookup answers the session of the address. -/
theorem lcmGetps_eq (refines : self.Refines map) (roomy : capacity ≤ maxroom)
    (ip : Option String) : self.lcmGetps ip = some (ip.bind map.find) := by
  have found : ip.bind map.find = (ip.bind inetPton4).bind map.lookup :=
    (Option.bind_assoc ip inetPton4 map.lookup).symm
  rw [lcmGetps, lcmGetpsLoop_eq refines roomy ip fun i member => List.mem_range.mp member, found]
  cases ip.bind inetPton4 with
  | none =>
      refine congrArg some (List.findSome?_eq_none_iff.mpr fun i _ => ?_)
      refine Option.bind_eq_none_iff.mpr fun entry _ => ?_
      exact if_neg fun impossible => Option.some_ne_none _ impossible.symm
  | some address =>
      rw [Option.bind_some, ← refines.entries.findSome address]
      simp only [Option.some.injEq, eq_comm]

end Lookups

end Tables

/-! ## Connects -/

namespace Tables

/-- The tables with a session for an address in the next place. -/
def stored (self : Tables) (ip : String) (calls : Calls) : Tables where
  maxpep := self.maxpep
  count := self.count + 1
  clients := Function.update self.clients self.count calls.session
  threads := Function.update self.threads self.count calls.thread
  sessions := Function.update self.sessions calls.session
    (some { cmtsAddr := ip, thread := calls.thread })

section Connects

variable {capacity : Nat} {self : Tables} {map : SessionMap capacity} {ip : String}
  {calls : Calls}

theorem psNew_eq (valid : isIp4 ip = true) (session : Nat) :
    self.psNew ip session =
      some { self with
        sessions := Function.update self.sessions session
          (some { cmtsAddr := ip, thread := 0 }) } := by
  rw [psNew, valid]
  rfl

/-- A session that is freed at once leaves nothing. -/
theorem psFree_new (fresh : self.sessions calls.session = none) (new : Option Allocated) :
    psFree { self with sessions := Function.update self.sessions calls.session new }
      calls.session = self := by
  rw [psFree, Function.update_idem, ← fresh, Function.update_eq_self]

/-- `ps_boot`, `lcm_set` and `gctl_lock_tid` in a row. -/
theorem connectBoot_eq (inside : self.count < maxroom) (started : calls.thread ≠ 0) :
    connectBoot
        { self with
          sessions := Function.update self.sessions calls.session
            (some { cmtsAddr := ip, thread := 0 }) } ip calls =
      some (.connected ip, self.stored ip calls) := by
  have place : sizeT (Int32.ofNat self.count).toInt = self.count :=
    sizeT_ofNat (Nat.lt_trans inside (by decide))
  rw [connectBoot, if_neg started]
  simp only [psBoot, lcmSet, gctlLockTid, Function.update_self, Function.update_idem,
    Option.map_some, if_neg (Nat.not_le.mpr inside), Option.bind_some, place]
  rfl

theorem entry_congr {after : Tables} {i : Nat} (clients : after.clients i = self.clients i)
    (sessions : after.sessions (self.clients i) = self.sessions (self.clients i)) :
    after.entry i = self.entry i := by
  rw [entry, entry, clients, sessions]

@[simp] theorem stored_client (self : Tables) (ip : String) (calls : Calls) :
    (self.stored ip calls).clients self.count = calls.session := Function.update_self ..

@[simp] theorem stored_session (self : Tables) (ip : String) (calls : Calls) :
    (self.stored ip calls).sessions calls.session =
      some { cmtsAddr := ip, thread := calls.thread } := Function.update_self ..

/-- What stands below `count` is as it was. -/
theorem stored_below (refines : self.Refines map) (fresh : self.sessions calls.session = none)
    (ip : String) {i : Nat} (below : i < self.count) :
    (self.stored ip calls).clients i = self.clients i ∧
      (self.stored ip calls).sessions (self.clients i) = self.sessions (self.clients i) := by
  refine ⟨Function.update_of_ne (Nat.ne_of_lt below) _ _, Function.update_of_ne ?_ _ _⟩
  intro same
  rcases refines.place below with ⟨session, _, live, _, _⟩
  rw [same, fresh] at live
  cases live

/-- The next place takes an address that is not there, and its thread. -/
theorem Refines.stored (refines : self.Refines map) (fresh : self.sessions calls.session = none)
    (started : calls.thread ≠ 0) {address : UInt32} (reads : inetPton4 ip = some address)
    (absent : map.lookup address = none) (room : map.size < capacity) :
    (self.stored ip calls).Refines (map.insert address calls.session room) := by
  refine ⟨refines.maxpep, ?_, ?_, ?_⟩
  · refine refines.entries.insert absent room (fun i below => ?_) ?_
    · rcases stored_below refines fresh ip below with ⟨client, session⟩
      exact entry_congr client session
    · rw [entry, stored_client, stored_session, Option.bind_some, reads, Option.map_some]
  · intro i below
    rcases Nat.lt_succ_iff_lt_or_eq.mp below with earlier | rfl
    · rcases refines.threads i earlier with ⟨session, live, own, running⟩
      rcases stored_below refines fresh ip earlier with ⟨client, kept⟩
      have thread : (self.stored ip calls).threads i = self.threads i :=
        Function.update_of_ne (Nat.ne_of_lt earlier) _ _
      rw [OwnsThread, client, kept, thread]
      exact ⟨session, live, own, running⟩
    · have thread : (self.stored ip calls).threads self.count = calls.thread :=
        Function.update_self ..
      rw [OwnsThread, stored_client, stored_session, thread]
      exact ⟨_, rfl, rfl, started⟩
  · intro pointer live
    by_cases new : pointer = calls.session
    · exact ⟨self.count, Nat.lt_succ_self _, (stored_client self ip calls).trans new.symm⟩
    · have before : self.sessions pointer ≠ none := fun none => live
        ((Function.update_of_ne new _ _).trans none)
      rcases refines.heap pointer before with ⟨i, below, same⟩
      exact ⟨i, Nat.lt_succ_of_lt below, (stored_below refines fresh ip below).1.trans same⟩

theorem lcmAllocOk_eq (refines : self.Refines map) :
    self.lcmAllocOk = !decide (map.size = capacity) := by
  have counted := refines.entries.size
  have most := map.bounded
  rw [lcmAllocOk, refines.maxpep, ← counted]
  congr 1
  apply decide_eq_decide.mpr
  exact ⟨fun full => Nat.le_antisymm most full, fun full => Nat.le_of_eq full.symm⟩

/-- `gctl_connect` by what the map has. -/
theorem gctlConnect_eq (refines : self.Refines map) (roomy : capacity ≤ maxroom)
    (ip : String) (dryRun : Int32) (fresh : self.sessions calls.session = none)
    (started : calls.thread ≠ 0) :
    self.gctlConnect ip dryRun calls =
      some (
        if isIp4 ip = false then (.error 111 [.text ip], self)
        else if (map.find ip).isSome then (.error 100 [.text ip], self)
        else if map.size = capacity then (.error 103 [.text ip], self)
        else if dryRun = 0 ∧ calls.admitted = false then (.error 102 [.text ip], self)
        else (.connected ip, self.stored ip calls)) := by
  unfold gctlConnect
  rw [lcmGetps_eq refines roomy, lcmAllocOk_eq refines, Option.bind_some, Option.bind_some]
  simp only [Bool.not_eq_true', Bool.not_not, decide_eq_true_eq]
  by_cases invalid : isIp4 ip = false
  · rw [if_pos invalid, if_pos invalid]
  by_cases present : (map.find ip).isSome = true
  · rw [if_neg invalid, if_neg invalid, if_pos present, if_pos present]
  by_cases full : map.size = capacity
  · rw [if_neg invalid, if_neg invalid, if_neg present, if_neg present, if_pos full, if_pos full]
  have inside : self.count < maxroom := by
    rw [← refines.entries.size]
    exact Nat.lt_of_lt_of_le (Nat.lt_of_le_of_ne map.bounded full) roomy
  rw [if_neg invalid, if_neg invalid, if_neg present, if_neg present, if_neg full, if_neg full,
    psNew_eq (Bool.eq_true_of_not_eq_false invalid)]
  dsimp only
  by_cases failed : dryRun = 0 ∧ calls.admitted = false
  · rw [if_pos failed, if_pos failed, psFree_new fresh]
  · rw [if_neg failed, if_neg failed, connectBoot_eq inside started]

/-- A request to connect ends as it does for the map. -/
theorem gctlConnect_simulates (refines : self.Refines map) (roomy : capacity ≤ maxroom)
    (ip : String) (dryRun : Int32) (fresh : self.sessions calls.session = none)
    (started : calls.thread ≠ 0) :
    Exists fun after =>
      self.gctlConnect ip dryRun calls =
          some ((map.connect ip dryRun calls).1.answer ip, after) ∧
        after.Refines (map.connect ip dryRun calls).2 := by
  rw [gctlConnect_eq refines roomy ip dryRun fresh started]
  have literal := inetPton4_isSome ip
  unfold SessionMap.find SessionMap.connect
  cases reads : inetPton4 ip with
  | none =>
      have invalid : isIp4 ip = false := by rw [← literal, reads]; rfl
      rw [if_pos invalid]
      exact ⟨self, rfl, refines⟩
  | some address =>
      have valid : ¬isIp4 ip = false := by
        rw [← literal, reads]
        exact Bool.noConfusion
      rw [if_neg valid, Option.bind_some]
      dsimp only
      by_cases present : (map.lookup address).isSome = true
      · rw [if_pos present, if_pos present]
        exact ⟨self, rfl, refines⟩
      by_cases full : map.size = capacity
      · rw [if_neg present, if_neg present, if_pos full, dif_pos full]
        exact ⟨self, rfl, refines⟩
      rw [if_neg present, if_neg present, if_neg full, dif_neg full]
      by_cases failed : dryRun = 0 ∧ calls.admitted = false
      · rw [if_pos failed, if_pos failed]
        exact ⟨self, rfl, refines⟩
      · rw [if_neg failed, if_neg failed]
        have absent : map.lookup address = none := Option.not_isSome_iff_eq_none.mp present
        have room := Nat.lt_of_le_of_ne map.bounded full
        exact ⟨_, rfl, refines.stored fresh started reads absent room⟩

end Connects

end Tables

/-! ## Clears -/

namespace Tables

section Clears

variable {capacity : Nat} {self : Tables} {map : SessionMap capacity}

/-- The loop frees each session once, and joins its thread. -/
theorem resetLoop_eq {places : List Nat} (nodup : places.Nodup)
    (inside : forall i, i ∈ places -> i < maxroom)
    (apart : forall i j, i ∈ places -> j ∈ places -> self.clients i = self.clients j -> i = j)
    (own : forall i, i ∈ places -> self.OwnsThread i) :
    self.resetLoop places =
      some { self with
        sessions := fun pointer =>
          if pointer ∈ places.map self.clients then none else self.sessions pointer
        threads := fun i => if i ∈ places then 0 else self.threads i } := by
  induction places generalizing self with
  | nil =>
      refine congrArg some ?_
      simp only [List.map_nil, List.not_mem_nil, if_false]
  | cons i places inductionHypothesis =>
      rcases List.nodup_cons.mp nodup with ⟨outside, nodup'⟩
      have here := List.mem_cons_self (a := i) (l := places)
      have later {j : Nat} (member : j ∈ places) : j ∈ i :: places := List.mem_cons_of_mem _ member
      rcases own i here with ⟨session, live, thread, started⟩
      have stops : ¬(self.threads i = 0 ∨ self.threads i ≠ session.thread) := by
        rw [thread]
        rintro (zero | other)
        · exact started zero
        · exact other rfl
      rw [resetLoop, client_of_lt (inside i here) live, Option.bind_some, if_neg stops]
      generalize freed : ({ self.psFree (self.clients i) with
        threads := Function.update self.threads i 0 } : Tables) = after
      have clients : after.clients = self.clients := by rw [← freed]; rfl
      have threads : after.threads = Function.update self.threads i 0 := by rw [← freed]
      have others {j : Nat} (member : j ∈ places) : after.OwnsThread j := by
        rcases own j (later member) with ⟨mine, alive, joined, running⟩
        have different : j ≠ i := fun same => outside (same ▸ member)
        have elsewhere : self.clients j ≠ self.clients i :=
          fun same => different (apart j i (later member) here same)
        refine ⟨mine, ?_, ?_, running⟩
        · rw [clients, ← freed]
          exact (Function.update_of_ne elsewhere _ _).trans alive
        · rw [threads, Function.update_of_ne different, joined]
      have runs := inductionHypothesis nodup' (fun j member => inside j (later member))
        (fun j k first second same =>
          apart j k (later first) (later second) (by rw [clients] at same; exact same))
        (fun j member => others member)
      refine runs.trans (congrArg some ?_)
      have gone : (fun pointer =>
          if pointer ∈ places.map after.clients then none else after.sessions pointer) =
            fun pointer => if pointer ∈ (i :: places).map self.clients then none
              else self.sessions pointer := by
        funext pointer
        rw [clients, List.map_cons]
        by_cases member : pointer ∈ places.map self.clients
        · rw [if_pos member, if_pos (List.mem_cons_of_mem _ member)]
        · rw [if_neg member, ← freed]
          by_cases same : pointer = self.clients i
          · rw [same, if_pos List.mem_cons_self]
            exact Function.update_self ..
          · have neither : pointer ∉ self.clients i :: places.map self.clients :=
              fun either => (List.mem_cons.mp either).elim same member
            rw [if_neg neither]
            exact Function.update_of_ne same _ _
      have zeros : (fun j => if j ∈ places then 0 else after.threads j) =
          fun j => if j ∈ i :: places then 0 else self.threads j := by
        funext j
        rw [threads]
        by_cases member : j ∈ places
        · rw [if_pos member, if_pos (later member)]
        · by_cases same : j = i
          · rw [if_neg member, same, Function.update_self, if_pos here]
          · have neither : j ∉ i :: places := fun either =>
              (List.mem_cons.mp either).elim same member
            rw [if_neg member, if_neg neither, Function.update_of_ne same]
      rw [zeros, gone, ← freed]
      rfl

/-- Two places with one pointer are one place. -/
theorem Refines.apart (refines : self.Refines map) {i j : Nat} (first : i < self.count)
    (second : j < self.count) (same : self.clients i = self.clients j) : i = j := by
  rcases refines.place first with ⟨session, address, live, reads, here⟩
  rcases refines.place second with ⟨session', address', live', reads', there⟩
  rw [same, live'] at live
  cases live
  rw [reads'] at reads
  cases reads
  exact refines.entries.once i j address _ _ first second here there

/-- The tables without clients; the array keeps their pointers. -/
def cleared (self : Tables) : Tables where
  maxpep := self.maxpep
  count := 0
  clients := self.clients
  threads := fun i => if i < self.count then 0 else self.threads i
  sessions := fun _ => none

theorem gctlLcmReset_eq (refines : self.Refines map) (roomy : capacity ≤ maxroom) :
    self.gctlLcmReset = some (.complete, self.cleared) := by
  unfold gctlLcmReset
  by_cases none' : self.count ≤ 0
  · rw [if_pos none']
    have zero := Nat.le_zero.mp none'
    have same : (fun i => if i < self.count then 0 else self.threads i) = self.threads := by
      funext i
      rw [zero, if_neg (Nat.not_lt_zero i)]
    have nothing : (fun _ => none) = self.sessions := by
      funext pointer
      by_contra live
      rcases refines.heap pointer (Ne.symm live) with ⟨i, below, _⟩
      exact Nat.not_lt_of_le none' (Nat.lt_of_le_of_lt (Nat.zero_le i) below)
    rw [cleared, same, nothing, ← zero]
  · rw [if_neg none']
    have below {i : Nat} (member : i ∈ List.range self.count) : i < self.count :=
      List.mem_range.mp member
    have runs := resetLoop_eq List.nodup_range
      (fun i member =>
        Nat.lt_of_lt_of_le (below member) (Nat.le_trans refines.count_le roomy))
      (fun i j first second => refines.apart (below first) (below second))
      (fun i member => refines.threads i (below member))
    have freed : (fun pointer => if pointer ∈ (List.range self.count).map self.clients then none
        else self.sessions pointer) = fun _ => none := by
      funext pointer
      split
      · rfl
      · rename_i outside
        by_contra live
        rcases refines.heap pointer live with ⟨i, inside, same⟩
        exact outside (List.mem_map.mpr ⟨i, List.mem_range.mpr inside, same⟩)
    rw [runs, Option.map_some, freed]
    simp only [List.mem_range]
    rfl

/-- A manager without clients is the empty map. -/
theorem Refines.cleared (refines : self.Refines map) :
    self.cleared.Refines (BoundedMap.empty : SessionMap capacity) where
  maxpep := refines.maxpep
  entries := Slots.hold_empty _
  threads := fun i below => absurd below (Nat.not_lt_zero i)
  heap := fun _ impossible => absurd rfl impossible

end Clears

end Tables

/-! ## As a list of clients -/

/-- The clients of a list, read with every lock taken. -/
theorem lcmGetpsLoop_find (ip : String) (i : Nat) (clients : List Client) :
    PolicyServer.lcmGetpsLoop ip (fun _ => true) i clients =
      { found := clients.find? fun client => client.cmtsAddr = ip, held := false } := by
  induction clients generalizing i with
  | nil => rfl
  | cons temp clients inductionHypothesis =>
      rw [PolicyServer.lcmGetpsLoop, if_neg (by decide), List.find?_cons]
      by_cases same : temp.cmtsAddr = ip
      · rw [if_pos same, decide_eq_true same]
      · rw [if_neg same, decide_eq_false same, inductionHypothesis]

namespace Tables

/-- The clients below `count` as a list. -/
def listed (self : Tables) : List Client :=
  (List.range self.count).filterMap fun i =>
    (self.sessions (self.clients i)).map fun session => { cmtsAddr := session.cmtsAddr }

/-- The manager with its clients in a list, next to `threads`. -/
def api (self : Tables) : Api where
  lcm := { maxpep := self.maxpep, clients := self.listed }
  threads := self.threads

/-- Every lock is taken. -/
def Calls.fate (self : Calls) : ConnectFate where
  getpsLock := true
  eventLock := fun _ => true
  allocLock := true
  created := true
  admitted := self.admitted
  thread := self.thread
  setLock := true
  tidLock := { first := true, reinit := true, second := true }

section Lists

variable {capacity : Nat} {self : Tables} {map : SessionMap capacity} {ip : String}
  {calls : Calls}

/-- Where every client is in the heap the list has one entry for each. -/
theorem listed_length_of_live
    (live : forall i, i < self.count ->
      Exists fun session => self.sessions (self.clients i) = some session) :
    self.listed.length = self.count := by
  have all (places : List Nat) (below : forall i, i ∈ places -> i < self.count) :
      (places.filterMap fun i => (self.sessions (self.clients i)).map fun session =>
        ({ cmtsAddr := session.cmtsAddr } : Client)).length = places.length := by
    induction places with
    | nil => rfl
    | cons i places inductionHypothesis =>
        rcases live i (below i List.mem_cons_self) with ⟨session, live⟩
        have rest := inductionHypothesis fun j member => below j (List.mem_cons_of_mem _ member)
        rw [List.filterMap_cons, live, Option.map_some, List.length_cons, List.length_cons, rest]
  have counted := all (List.range self.count) fun i member => List.mem_range.mp member
  rw [List.length_range] at counted
  exact counted

theorem Refines.listed_length (refines : self.Refines map) : self.listed.length = self.count := by
  refine listed_length_of_live fun i below => ?_
  rcases refines.threads i below with ⟨session, live, _, _⟩
  exact ⟨session, live⟩

/-- A client of the list has the address exactly if the map has a session for it. -/
theorem Refines.listed_find (refines : self.Refines map) (ip : String) :
    (self.listed.find? fun client => client.cmtsAddr = ip).isSome = (map.find ip).isSome := by
  apply Bool.eq_iff_iff.mpr
  rw [List.find?_isSome, Option.isSome_iff_exists]
  constructor
  · rintro ⟨client, member, same⟩
    rcases List.mem_filterMap.mp member with ⟨i, inside, named⟩
    have below := List.mem_range.mp inside
    rcases refines.place below with ⟨session, address, live, reads, entry⟩
    rw [live, Option.map_some] at named
    cases named
    have same : session.cmtsAddr = ip := of_decide_eq_true same
    rw [same] at reads
    refine ⟨self.clients i, ?_⟩
    rw [SessionMap.find, reads, Option.bind_some]
    exact (refines.entries.lookup address _).mpr ⟨i, below, entry⟩
  · rintro ⟨value, found⟩
    rcases Option.bind_eq_some_iff.mp found with ⟨address, reads, looked⟩
    rcases (refines.entries.lookup address value).mp looked with ⟨i, below, entry⟩
    rcases refines.place below with ⟨session, address', live, reads', entry'⟩
    rw [entry'] at entry
    cases entry
    have same := inetPton4_injective reads' reads
    refine ⟨{ cmtsAddr := session.cmtsAddr }, ?_, decide_eq_true same⟩
    refine List.mem_filterMap.mpr ⟨i, List.mem_range.mpr below, ?_⟩
    rw [live, Option.map_some]

theorem Refines.stored_api (refines : self.Refines map) (roomy : capacity ≤ maxroom)
    (room : map.size < capacity) (fresh : self.sessions calls.session = none) (ip : String) :
    (self.stored ip calls).api = (gctlConnectStore self.api ip calls.fate).api := by
  have inside : self.count < maxroom := by
    rw [← refines.entries.size]
    exact Nat.lt_of_lt_of_le room roomy
  have place : sizeT (Int32.ofNat self.count).toInt = self.count :=
    sizeT_ofNat (Nat.lt_trans inside (by decide))
  have longer : (self.stored ip calls).listed = self.listed ++ [{ cmtsAddr := ip }] := by
    change (List.range (self.count + 1)).filterMap _ = _
    rw [List.range_succ, List.filterMap_append, listed]
    congr 1
    · refine List.filterMap_congr fun i member => ?_
      have below := List.mem_range.mp member
      rw [(stored_below refines fresh ip below).1, (stored_below refines fresh ip below).2]
    · rw [List.filterMap_cons, stored_client, stored_session]
      rfl
  have set : PolicyServer.lcmSet self.api.lcm { cmtsAddr := ip } calls.fate.setLock =
      { lcm := { maxpep := self.maxpep, clients := self.listed ++ [{ cmtsAddr := ip }] }
        pos := Int32.ofNat self.count
        written := some self.count } := by
    rw [← refines.listed_length]
    rfl
  have lockTid : PolicyServer.gctlLockTid self.api.threads calls.fate.thread self.count
      calls.fate.tidLock = some ((self.stored ip calls).threads, self.count) := rfl
  unfold gctlConnectStore
  rw [set]
  dsimp only
  rw [place, lockTid, api, longer]
  rfl

/-- `gctl_connect` on the arrays is `gctl_connect` on the list. -/
theorem gctlConnect_listed (refines : self.Refines map) (roomy : capacity ≤ maxroom)
    (fresh : self.sessions calls.session = none) (started : calls.thread ≠ 0) {dryRun : Int32}
    {answer : Answer} {after : Tables}
    (connects : self.gctlConnect ip dryRun calls = some (answer, after)) :
    let body : ConnectBody := { cmtsIp := some ip, dryRun }
    (PolicyServer.gctlConnect self.api (some body) calls.fate).map Handled.api = some after.api ∧
      gctlConnectAnswer self.api (some body) calls.fate = some answer := by
  have found : PolicyServer.lcmGetps self.api.lcm ip calls.fate.getpsLock calls.fate.eventLock =
      { found := self.listed.find? fun client => client.cmtsAddr = ip, held := false } :=
    lcmGetpsLoop_find ip 0 self.listed
  have room : PolicyServer.lcmAllocOk self.api.lcm calls.fate.allocLock =
      !decide (map.size = capacity) := by
    have counted : self.api.lcm.count = self.count := refines.listed_length
    have maxpep : self.api.lcm.maxpep = self.maxpep := rfl
    rw [← lcmAllocOk_eq refines, lcmAllocOk, PolicyServer.lcmAllocOk, counted, maxpep]
    by_cases full : self.maxpep ≤ self.count
    · rw [if_pos full, decide_eq_true full]
      rfl
    · rw [if_neg full, decide_eq_false full]
      rfl
  rw [gctlConnect_eq refines roomy ip dryRun fresh started] at connects
  unfold PolicyServer.gctlConnect gctlConnectAnswer
  simp only [Option.map_some, found, room, refines.listed_find, Bool.not_eq_true', Bool.not_not,
    Bool.false_eq_true, if_false, decide_eq_true_eq]
  by_cases invalid : isIp4 ip = false
  · rw [if_pos invalid] at connects ⊢
    cases connects
    exact ⟨rfl, congrArg some (if_pos invalid)⟩
  rw [if_neg invalid] at connects
  rw [if_neg invalid, if_neg invalid]
  by_cases present : (map.find ip).isSome = true
  · rw [if_pos present] at connects
    cases connects
    rw [if_pos present, if_pos present]
    exact ⟨rfl, rfl⟩
  rw [if_neg present] at connects
  rw [if_neg present, if_neg present]
  by_cases full : map.size = capacity
  · rw [if_pos full] at connects
    cases connects
    rw [if_pos full, if_pos full]
    exact ⟨rfl, rfl⟩
  rw [if_neg full] at connects
  rw [if_neg full, if_neg full]
  have created : ¬calls.fate.created = false := Bool.noConfusion
  rw [if_neg created, if_neg created]
  by_cases failed : dryRun = 0 ∧ calls.admitted = false
  · rw [if_pos failed] at connects
    cases connects
    have failed' : dryRun = 0 ∧ calls.fate.admitted = false := failed
    rw [if_pos failed', if_pos failed']
    exact ⟨rfl, rfl⟩
  · rw [if_neg failed] at connects
    cases connects
    have passed : ¬(dryRun = 0 ∧ calls.fate.admitted = false) := failed
    have running : ¬calls.fate.thread = 0 := started
    have room' := Nat.lt_of_le_of_ne map.bounded full
    rw [if_neg passed, if_neg passed, if_neg running, if_neg running,
      refines.stored_api roomy room' fresh]
    exact ⟨rfl, rfl⟩

/-- `gctl_lcm_reset` on the arrays is `gctl_lcm_reset` on the list. -/
theorem gctlLcmReset_listed (refines : self.Refines map) (roomy : capacity ≤ maxroom)
    {lock : LcmLock} (acquired : lock.acquired = true) {answer : Answer} {after : Tables}
    (clears : self.gctlLcmReset = some (answer, after)) :
    (PolicyServer.gctlLcmReset self.api lock).map Handled.api = some after.api := by
  rw [gctlLcmReset_eq refines roomy] at clears
  cases clears
  have counted : self.api.lcm.count = self.count := refines.listed_length
  have started : ((List.range self.count).any (self.api.threads · == 0)) = false := by
    refine List.any_eq_false.mpr fun i member zero => ?_
    rcases refines.threads i (List.mem_range.mp member) with ⟨session, _, own, running⟩
    exact running (own.symm.trans (beq_iff_eq.mp zero))
  unfold PolicyServer.gctlLcmReset
  rw [acquired, counted, started]
  by_cases none' : self.count ≤ 0
  · have nothing : self.listed = [] := List.length_eq_zero_iff.mp
      (refines.listed_length.trans (Nat.le_zero.mp none'))
    have same : self.cleared.threads = self.threads := by
      funext i
      exact if_neg fun below => Nat.not_lt_zero i (Nat.lt_of_lt_of_le below none')
    have empty : self.cleared.listed = self.listed := nothing.symm
    have whole : self.cleared.api = self.api := by
      unfold api
      rw [same, empty]
      rfl
    rw [if_neg (by exact Bool.noConfusion), if_pos none', whole]
    rfl
  · rw [if_neg (by exact Bool.noConfusion), if_neg none', if_neg Bool.noConfusion]
    rfl

end Lists

end Tables

namespace Tables

/-! ## Runs -/

section Runs

variable {capacity : Nat} {self : Tables} {map : SessionMap capacity}

/-- A request is answered as it is by the map. -/
theorem serve_simulates (roomy : capacity ≤ maxroom) (refines : self.Refines map)
    {request : TableRequest} (grants : self.Grants request) :
    Exists fun after =>
      self.serve request = some ((map.respond request).1, after) ∧
        after.Refines (map.respond request).2 := by
  cases request with
  | connect ip dryRun calls =>
      rcases gctlConnect_simulates refines roomy ip dryRun grants.1 grants.2 with
        ⟨after, connects, kept⟩
      refine ⟨after, ?_, kept⟩
      rw [serve, connects]
      rfl
  | lookup cmtsIp =>
      refine ⟨self, ?_, refines⟩
      rw [serve, lcmGetps_eq refines roomy]
      rfl
  | clear =>
      refine ⟨self.cleared, ?_, refines.cleared⟩
      rw [serve, gctlLcmReset_eq refines roomy]
      rfl

theorem refines_initial {maxpep : Int32} (nonneg : 0 ≤ maxpep.toInt) (clients : Nat -> Nat) :
    (initial maxpep clients).Refines (BoundedMap.empty : SessionMap maxpep.toInt.toNat) where
  maxpep := by
    have kept := sizeT_of_nonneg nonneg
    change sizeT maxpep.toInt = maxpep.toInt.toNat
    omega
  entries := Slots.hold_empty _
  threads := fun i below => absurd below (Nat.not_lt_zero i)
  heap := fun _ impossible => absurd rfl impossible

end Runs

end Tables

/-- Requests served one at a time are answered as by a map from addresses to sessions with
room for `maxpep`, and in the end the manager is this map, with each session's own
thread, and no further session is in the heap. -/
theorem answersAsMap {maxpep : Int32} (nonneg : 0 ≤ maxpep.toInt) (most : maxpep.toInt ≤ maxroom)
    (clients : Nat -> Nat) {requests : List TableRequest}
    (granted : Admitted Tables.serve Tables.Grants (Tables.initial maxpep clients) requests) :
    Exists fun final =>
      serveAll Tables.serve (Tables.initial maxpep clients) requests =
          some ((answerAll SessionMap.respond
            (BoundedMap.empty : SessionMap maxpep.toInt.toNat) requests).1, final) ∧
        final.Refines (answerAll SessionMap.respond
          (BoundedMap.empty : SessionMap maxpep.toInt.toNat) requests).2 := by
  have roomy : maxpep.toInt.toNat ≤ maxroom := by omega
  refine serveAll_refines ?_ requests (Tables.refines_initial nonneg clients) granted
  intro tables map request refines grants
  exact Tables.serve_simulates roomy refines grants

/-- A client is taken, found, refused a second time and cleared, and its address is taken
again with the memory that was freed. -/
def sampleRequests : List TableRequest :=
  [.connect "10.0.0.1" 1 { session := 7, admitted := false, thread := 3 },
    .lookup (some "10.0.0.1"),
    .connect "10.0.0.1" 0 { session := 8, admitted := true, thread := 4 },
    .clear,
    .connect "10.0.0.1" 0 { session := 7, admitted := true, thread := 5 },
    .lookup (some "10.0.0.1")]

/-- What they are answered. -/
def sampleAnswers : List TableAnswer :=
  [.sent (.connected "10.0.0.1"), .session (some 7), .sent (.error 100 [.text "10.0.0.1"]),
    .sent .complete, .sent (.connected "10.0.0.1"), .session (some 7)]

theorem answersAsMap_sample :
    Exists fun final => Exists fun map : SessionMap 2 =>
      serveAll Tables.serve (Tables.initial 2 fun _ => 0) sampleRequests =
          some (sampleAnswers, final) ∧
        final.Refines map := by
  have run := @answersAsMap 2 (by decide) (by decide) (fun _ => 0) sampleRequests
    (by decide +kernel)
  have answers : (answerAll SessionMap.respond
      (BoundedMap.empty : SessionMap (2 : Int32).toInt.toNat) sampleRequests).1 =
      sampleAnswers := by decide +kernel
  rw [answers] at run
  rcases run with ⟨final, served, refines⟩
  exact ⟨final, _, served, refines⟩

end PolicyServer
