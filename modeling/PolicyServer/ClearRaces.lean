import PolicyServer.TableCapacity
import PolicyServer.Handlers

namespace PolicyServer

open Lib

/-!
# Clears next to connects

A connect request puts its session into the table in `lcm_set` and its thread
into `threads` in `gctl_lock_tid`; the first takes `lcm_internal_lock`, and only
the second waits for `lcm_lock`, which `gctl_lcm_reset` holds.  So a clear can
find a session without its thread, and can reset the count over a session that
it has not seen.  `Separate` has the steps that keep the two apart, and
`kept_of_separate` is that in these runs a clear loses nothing.
-/

/-- What a request is to the table. -/
inductive Role where
  | bystander
  /-- a thread has been started, and its session is not in the table -/
  | storing (session : Nat)
  /-- the session is in the table, and its thread is not -/
  | registering (session pos : Nat)
  /-- a clear between its lock and its reset -/
  | looping
  /-- a clear in front of its unlock -/
  | leaving
  deriving DecidableEq, Repr

def Stage.role : Stage -> Role
  | .connect (.set session _) => .storing session
  | .connect (.lockTid session pos) => .registering session pos
  | .clear .lock => .bystander
  | .clear .unlock => .leaving
  | .clear _ => .looping
  | _ => .bystander

def Role.registers : Role -> Bool
  | .registering _ _ => true
  | _ => false

namespace Server

def roles (self : Server) : List Role := self.stages.map Stage.role

/-- No handler is in progress. -/
def Quiet (self : Server) : Prop :=
  forall stage, stage ∈ self.stages -> stage = .idle

/-- Every thread started and not joined has its session in the table, and the
threads are those of the clients. -/
structure Kept (server : Server) : Prop where
  entries : forall session, (server.peers session).started = true ->
    (server.peers session).joined = false -> session ∈ server.clients
  threads : forall i session, server.clients[i]? = some session ->
    server.threads i = threadOf session

/-- A clear joins the thread of the session that it frees. -/
def JoinsOwn (self : Server) : Prop :=
  forall join, join ∈ self.joins -> join.1 = threadOf join.2

/-- No session is stored while a clear is between its lock and its reset, or past
the end of the array, and no clear takes the lock while a session waits for its
thread to be registered. -/
def Separates (self : Server) : Stage -> Prop
  | .connect (.set _ _) => Role.looping ∉ self.roles ∧ self.clients.length < maxroom
  | .clear .lock => forall role, role ∈ self.roles -> role.registers = false
  | _ => True

def Separate (self : Server) : ServerLabel -> Prop
  | .next handler _ => forall stage, stage ∈ self.stages[handler]? -> self.Separates stage
  | _ => True

section Decidability

instance (self : Server) (stage : Stage) : Decidable (self.Separates stage) :=
  match stage with
  | .connect (.set _ _) =>
      inferInstanceAs (Decidable (Role.looping ∉ self.roles ∧ self.clients.length < maxroom))
  | .clear .lock =>
      inferInstanceAs (Decidable (forall role, role ∈ self.roles -> role.registers = false))
  | .connect (.getps ..) | .connect (.allocOk ..) | .connect (.new ..) | .connect (.admctl ..)
  | .connect (.boot ..) | .connect (.lockTid ..) | .connect (.answer ..)
  | .clear .count | .clear (.test ..) | .clear (.signal ..) | .clear (.join ..)
  | .clear (.free ..) | .clear (.null ..) | .clear .reset | .clear .unlock
  | .idle | .gate _ => instDecidableTrue

instance (self : Server) (label : ServerLabel) : Decidable (self.Separate label) :=
  match label with
  | .next handler _ =>
      inferInstanceAs (Decidable
        (forall stage, stage ∈ self.stages[handler]? -> self.Separates stage))
  | .request _ | .thread _ => instDecidableTrue

end Decidability

/-! ## The invariant -/

/-- A clear has joined the first `done` threads, and will find those from `next`
on. -/
structure Loop (server : Server) (done next : Nat) : Prop where
  joined : forall i session, i < done -> server.clients[i]? = some session ->
    (server.peers session).joined = true
  threads : forall i session, next ≤ i -> server.clients[i]? = some session ->
    server.threads i = threadOf session

/-- What a request relies on. -/
def Relies (self : Server) : Stage -> Prop
  | .connect (.admctl session _) | .connect (.boot session _) | .connect (.set session _) =>
      session < self.made
  | .connect (.lockTid session pos) => self.clients[pos]? = some session
  | .clear .count => self.Loop 0 0
  | .clear (.test i) => self.Loop i i
  | .clear (.signal i session thread) | .clear (.join i session thread) =>
      self.clients[i]? = some session ∧ thread = threadOf session ∧ self.Loop i (i + 1)
  | .clear (.free i _) | .clear (.null i) => self.Loop (i + 1) (i + 1)
  | .clear .reset => self.Loop self.clients.length self.clients.length
  | _ => True

structure Tidy (server : Server) : Prop where
  known : forall session, session ∈ server.clients -> session < server.made
  stored : forall session, (server.peers session).started = true ->
    (server.peers session).joined = false ->
      session ∈ server.clients ∨ .storing session ∈ server.roles
  threads : forall i session, server.clients[i]? = some session ->
    server.threads i = threadOf session ∨ .registering session i ∈ server.roles ∨
      .looping ∈ server.roles
  holder : forall handler role, server.roles[handler]? = some role ->
    role = .looping ∨ role = .leaving -> server.lcmLock = some handler
  apart : .looping ∈ server.roles -> forall role, role ∈ server.roles -> role.registers = false
  relies : forall stage, stage ∈ server.stages -> server.Relies stage
  joins : server.JoinsOwn

theorem tidy_start (maxpep : Nat) : (Server.start maxpep).Tidy where
  known := fun _ member => absurd member List.not_mem_nil
  stored := fun _ started => absurd started Bool.false_ne_true
  threads := fun _ _ entry => nomatch entry
  holder := fun _ _ entry => nomatch entry
  apart := fun member => absurd member List.not_mem_nil
  relies := fun _ member => absurd member List.not_mem_nil
  joins := fun _ member => absurd member List.not_mem_nil

/-- When all is quiet nothing is stored by halves. -/
theorem Tidy.kept {self : Server} (tidy : self.Tidy) (quiet : self.Quiet) : self.Kept := by
  have bystanders : forall role, role ∈ self.roles -> role = .bystander := by
    intro role member
    rcases List.mem_map.mp member with ⟨stage, present, rfl⟩
    rw [quiet stage present]
    rfl
  refine ⟨?_, ?_⟩
  · intro session started notJoined
    rcases tidy.stored session started notJoined with entry | storing
    · exact entry
    · cases bystanders _ storing
  · intro i session entry
    rcases tidy.threads i session entry with own | registering | looping
    · exact own
    · cases bystanders _ registering
    · cases bystanders _ looping

/-! ## Roles -/

variable {self after : Server} {handler : Nat} {old stage : Stage}

theorem role_of_stage (here : self.stages[handler]? = some old) :
    self.roles[handler]? = some old.role := by
  rw [roles, List.getElem?_map, here]
  rfl

theorem mem_role (here : self.stages[handler]? = some old) : old.role ∈ self.roles :=
  List.mem_of_getElem? (role_of_stage here)

theorem roles_move (self : Server) (handler : Nat) (stage : Stage) :
    (self.move handler stage).roles = self.roles.set handler stage.role := by
  simp only [roles, move, List.map_set]

/-- A request that keeps its role. -/
theorem roles_move_same (here : self.stages[handler]? = some old) (role : stage.role = old.role) :
    (self.move handler stage).roles = self.roles := by
  rw [roles_move, role]
  apply List.ext_getElem?
  intro i
  by_cases same : handler = i
  · subst same
    have found := role_of_stage here
    rw [List.getElem?_set_self (List.getElem?_eq_some_iff.mp found).1, found]
  · rw [List.getElem?_set_ne same]

/-- The other roles stay when a request takes another. -/
theorem mem_set_other {roles : List Role} {before role : Role}
    (here : roles[handler]? = some before) (member : role ∈ roles) (other : role ≠ before)
    (new : Role) : role ∈ roles.set handler new :=
  (mem_set_or_eq here member new).resolve_right other

theorem mem_roles_of_move {role : Role} (member : role ∈ (self.move handler stage).roles) :
    role ∈ self.roles ∨ role = stage.role := by
  rw [roles_move] at member
  exact List.mem_or_eq_of_mem_set member

/-- A clear that holds the lock is the only one. -/
theorem Tidy.alone (tidy : self.Tidy) (here : self.stages[handler]? = some old)
    (holds : old.role = .looping ∨ old.role = .leaving) :
    self.lcmLock = some handler :=
  tidy.holder handler old.role (role_of_stage here) holds

/-- With the lock free there is no clear in its loop. -/
theorem Tidy.outside (tidy : self.Tidy) (free : self.lcmLock = none) :
    Role.looping ∉ self.roles := by
  intro looping
  rcases List.getElem?_of_mem looping with ⟨holder, entry⟩
  have locked := tidy.holder holder _ entry (Or.inl rfl)
  rw [free] at locked
  cases locked

/-! ## Steps that leave the table and the joins -/

/-- What the requests rely on is as it was. -/
structure Alike (server after : Server) : Prop where
  clients : after.clients = server.clients
  threads : after.threads = server.threads
  made : server.made ≤ after.made
  joined : forall session, session < server.made ->
    (after.peers session).joined = (server.peers session).joined

structure Calm (server after : Server) : Prop extends server.Alike after where
  lcmLock : after.lcmLock = server.lcmLock
  started : forall session, (after.peers session).started = true ->
    (after.peers session).joined = false ->
      (server.peers session).started = true ∧ (server.peers session).joined = false

theorem Loop.alike {done next : Nat} (loop : self.Loop done next)
    (known : forall session, session ∈ self.clients -> session < self.made)
    (alike : self.Alike after) : after.Loop done next where
  joined := by
    intro i session earlier entry
    rw [alike.clients] at entry
    rw [alike.joined session (known session (List.mem_of_getElem? entry))]
    exact loop.joined i session earlier entry
  threads := by
    intro i session later entry
    rw [alike.clients] at entry
    rw [alike.threads]
    exact loop.threads i session later entry

theorem Relies.alike (relies : self.Relies stage)
    (known : forall session, session ∈ self.clients -> session < self.made)
    (alike : self.Alike after) : after.Relies stage := by
  have found : forall {i session thread : Nat},
      (self.clients[i]? = some session ∧ thread = threadOf session ∧ self.Loop i (i + 1)) ->
      after.clients[i]? = some session ∧ thread = threadOf session ∧ after.Loop i (i + 1) := by
    rintro i session thread ⟨entry, own, loop⟩
    exact ⟨alike.clients ▸ entry, own, loop.alike known alike⟩
  cases stage with
  | idle | gate => trivial
  | connect stage =>
      cases stage with
      | getps | allocOk | new | answer => trivial
      | admctl session seen | boot session seen | set session seen =>
          exact Nat.lt_of_lt_of_le relies alike.made
      | lockTid session pos =>
          change after.clients[pos]? = some session
          rw [alike.clients]
          exact relies
  | clear stage =>
      cases stage with
      | lock | unlock => trivial
      | count => exact Loop.alike relies known alike
      | test i => exact Loop.alike relies known alike
      | signal i session thread | join i session thread => exact found relies
      | free i session | null i => exact Loop.alike relies known alike
      | reset =>
          change after.Loop after.clients.length after.clients.length
          rw [alike.clients]
          exact Loop.alike relies known alike

/-- A calm step of a request that keeps its role, or of none. -/
theorem Tidy.calm (tidy : self.Tidy) (calm : self.Calm after) (roles : after.roles = self.roles)
    (relies : forall stage, stage ∈ after.stages -> stage ∈ self.stages ∨ after.Relies stage)
    (joins : after.JoinsOwn) : after.Tidy where
  known := by
    intro session member
    rw [calm.clients] at member
    exact Nat.lt_of_lt_of_le (tidy.known session member) calm.made
  stored := by
    intro session started notJoined
    rcases calm.started session started notJoined with ⟨before, notBefore⟩
    rw [calm.clients, roles]
    exact tidy.stored session before notBefore
  threads := by
    intro i session entry
    rw [calm.clients] at entry
    rw [calm.threads, roles]
    exact tidy.threads i session entry
  holder := by
    intro other role entry holds
    rw [roles] at entry
    rw [calm.lcmLock]
    exact tidy.holder other role entry holds
  apart := by
    rw [roles]
    exact tidy.apart
  relies := by
    intro stage member
    rcases relies stage member with earlier | new
    · exact (tidy.relies stage earlier).alike tidy.known calm.toAlike
    · exact new
  joins := joins

theorem Tidy.next (tidy : self.Tidy) (calm : self.Calm after) (stages : after.stages = self.stages)
    (joins : after.JoinsOwn) (here : self.stages[handler]? = some old)
    (role : stage.role = old.role) (relies : after.Relies stage) :
    (after.move handler stage).Tidy := by
  have known : forall session, session ∈ after.clients -> session < after.made := by
    intro session member
    rw [calm.clients] at member
    exact Nat.lt_of_lt_of_le (tidy.known session member) calm.made
  have moved : self.Calm (after.move handler stage) :=
    { clients := calm.clients, threads := calm.threads, made := calm.made
      joined := calm.joined, lcmLock := calm.lcmLock, started := calm.started }
  have here : after.stages[handler]? = some old := stages ▸ here
  refine tidy.calm moved ?_ ?_ joins
  · rw [roles_move_same here role, Server.roles, stages, Server.roles]
  · intro other member
    rcases after.mem_move member with earlier | same
    · exact Or.inl (stages ▸ earlier)
    · rw [same]
      exact Or.inr (relies.alike known ⟨rfl, rfl, Nat.le_refl _, fun _ _ => rfl⟩)

/-- A step that touches nothing of this. -/
theorem Calm.of_same (clients : after.clients = self.clients) (threads : after.threads = self.threads)
    (lcmLock : after.lcmLock = self.lcmLock) (made : after.made = self.made)
    (peers : after.peers = self.peers) : self.Calm after where
  clients := clients
  threads := threads
  lcmLock := lcmLock
  made := Nat.le_of_eq made.symm
  joined := fun _ _ => by rw [peers]
  started := fun _ started notJoined => by
    rw [peers] at started notJoined
    exact ⟨started, notJoined⟩

/-- A change of a session that leaves what its thread has been through. -/
theorem Calm.of_mark (self : Server) (session : Nat) {change : Peer -> Peer}
    (started : forall peer, (change peer).started = peer.started)
    (joined : forall peer, (change peer).joined = peer.joined) :
    self.Calm (self.mark session change) where
  clients := rfl
  threads := rfl
  lcmLock := rfl
  made := Nat.le_refl _
  joined := fun other _ => self.mark_kept session other joined
  started := by
    intro other isStarted notJoined
    rw [self.mark_kept session other started] at isStarted
    rw [self.mark_kept session other joined] at notJoined
    exact ⟨isStarted, notJoined⟩

theorem Calm.of_create (self : Server) (ip : String) : self.Calm (self.create ip) where
  clients := rfl
  threads := rfl
  lcmLock := rfl
  made := Nat.le_succ _
  joined := fun _ earlier => by rw [self.create_peers_of_ne (Nat.ne_of_lt earlier)]
  started := by
    intro session started notJoined
    by_cases new : session = self.made
    · subst new
      simp only [create, Function.update_self, Bool.false_eq_true] at started
    · rw [self.create_peers_of_ne new] at started notJoined
      exact ⟨started, notJoined⟩

/-- A step that starts or ends nothing, for a request that stays a bystander. -/
theorem Tidy.pass (tidy : self.Tidy) (calm : self.Calm after) (stages : after.stages = self.stages)
    (joins : after.joins = self.joins) (here : self.stages[handler]? = some old)
    (before : old.role = .bystander) (role : stage.role = .bystander)
    (relies : after.Relies stage) : (after.move handler stage).Tidy := by
  have own : after.JoinsOwn := by
    intro join member
    rw [joins] at member
    exact tidy.joins join member
  exact tidy.next calm stages own here (role.trans before.symm) relies

/-- A step of a bystander that leaves everything else as it is. -/
theorem Tidy.still (tidy : self.Tidy) (here : self.stages[handler]? = some old)
    (before : old.role = .bystander) (role : stage.role = .bystander)
    (relies : self.Relies stage) : (self.move handler stage).Tidy :=
  tidy.pass (.of_same rfl rfl rfl rfl rfl) rfl rfl here before role relies

/-- A step of a bystander that only looks at sessions. -/
theorem Tidy.uses {used : List Nat} (tidy : self.Tidy) (here : self.stages[handler]? = some old)
    (before : old.role = .bystander) (role : stage.role = .bystander)
    (relies : self.Relies stage) : ((self.use used).move handler stage).Tidy := by
  refine tidy.pass (.of_same rfl rfl rfl rfl rfl) rfl rfl here before role ?_
  exact relies.alike tidy.known ⟨rfl, rfl, Nat.le_refl _, fun _ _ => rfl⟩

/-! ## Steps that take another role -/

/-- Who holds the lock, when a handler takes another role. -/
theorem Tidy.holder_move (tidy : self.Tidy) (here : self.stages[handler]? = some old)
    {other : Nat} {new role : Role} (entry : (self.roles.set handler new)[other]? = some role)
    (holds : role = .looping ∨ role = .leaving) :
    (other = handler ∧ new = role) ∨ (other ≠ handler ∧ self.lcmLock = some other) := by
  by_cases same : handler = other
  · subst same
    rw [List.getElem?_set_self (List.getElem?_eq_some_iff.mp (role_of_stage here)).1] at entry
    exact Or.inl ⟨rfl, Option.some.inj entry⟩
  · rw [List.getElem?_set_ne same] at entry
    exact Or.inr ⟨Ne.symm same, tidy.holder other role entry holds⟩

/-- A request that is no clear takes no lock from one. -/
theorem Tidy.holder_plain (tidy : self.Tidy) (here : self.stages[handler]? = some old)
    {other : Nat} {new role : Role} (plain : new ≠ .looping ∧ new ≠ .leaving)
    (entry : (self.roles.set handler new)[other]? = some role)
    (holds : role = .looping ∨ role = .leaving) : self.lcmLock = some other := by
  rcases tidy.holder_move here entry holds with ⟨_, same⟩ | ⟨_, locked⟩
  · rw [← same] at holds
    rcases holds with looping | leaving
    · exact absurd looping plain.1
    · exact absurd leaving plain.2
  · exact locked

theorem looping_not_mem_set {new : Role} (outside : Role.looping ∉ self.roles)
    (other : new ≠ .looping) (handler : Nat) : Role.looping ∉ self.roles.set handler new := by
  intro looping
  rcases List.mem_or_eq_of_mem_set looping with before | same
  · exact outside before
  · exact other same.symm

/-- A request that stored and registered nothing takes another role. -/
theorem Tidy.turn (tidy : self.Tidy) (alike : self.Alike after) (stages : after.stages = self.stages)
    (joins : after.joins = self.joins) (here : self.stages[handler]? = some old)
    (before : old.role = .bystander ∨ old.role = .leaving ∨ old.role = .looping ∧ self.clients = [])
    (started : forall session, (after.peers session).started = true ->
      (after.peers session).joined = false ->
        (self.peers session).started = true ∧ (self.peers session).joined = false ∨
          stage.role = .storing session)
    (lock : forall other role, (self.roles.set handler stage.role)[other]? = some role ->
      role = .looping ∨ role = .leaving -> after.lcmLock = some other)
    (registers : stage.role.registers = false)
    (apart : stage.role = .looping -> forall role, role ∈ self.roles -> role.registers = false)
    (relies : self.Relies stage) : (after.move handler stage).Tidy := by
  have roles : (after.move handler stage).roles = self.roles.set handler stage.role := by
    rw [roles_move, Server.roles, stages, Server.roles]
  have kept : forall role, role ∈ self.roles -> role ≠ old.role ->
      role ∈ (after.move handler stage).roles := by
    intro role member other
    rw [roles]
    exact mem_set_other (role_of_stage here) member other _
  have here' : after.stages[handler]? = some old := stages ▸ here
  have still : self.Alike (after.move handler stage) :=
    ⟨alike.clients, alike.threads, alike.made, alike.joined⟩
  refine ⟨?_, ?_, ?_, ?_, ?_, ?_, ?_⟩
  · intro session member
    have member : session ∈ self.clients := alike.clients ▸ member
    exact Nat.lt_of_lt_of_le (tidy.known session member) alike.made
  · intro session isStarted notJoined
    rcases started session isStarted notJoined with ⟨was, wasNot⟩ | own
    · rcases tidy.stored session was wasNot with entry | storing
      · exact Or.inl (alike.clients ▸ entry)
      · refine Or.inr (kept _ storing ?_)
        rcases before with same | same | ⟨same, _⟩ <;> rw [same] <;> exact Role.noConfusion
    · exact Or.inr (own ▸ mem_role (stage_moved here'))
  · intro i session entry
    have entry : self.clients[i]? = some session := alike.clients ▸ entry
    change after.threads i = _ ∨ _
    rw [alike.threads]
    rcases before with same | same | ⟨same, empty⟩
    · rcases tidy.threads i session entry with own | registering | looping
      · exact Or.inl own
      · exact Or.inr (Or.inl (kept _ registering (by rw [same]; exact Role.noConfusion)))
      · exact Or.inr (Or.inr (kept _ looping (by rw [same]; exact Role.noConfusion)))
    · rcases tidy.threads i session entry with own | registering | looping
      · exact Or.inl own
      · exact Or.inr (Or.inl (kept _ registering (by rw [same]; exact Role.noConfusion)))
      · exact Or.inr (Or.inr (kept _ looping (by rw [same]; exact Role.noConfusion)))
    · rw [empty] at entry
      cases entry
  · intro other role entry holds
    rw [roles] at entry
    exact lock other role entry holds
  · intro looping role member
    rw [roles, ← roles_move] at looping member
    have earlier : forall role, role ∈ self.roles -> role.registers = false := by
      rcases mem_roles_of_move looping with before | new
      · exact tidy.apart before
      · exact apart new.symm
    rcases mem_roles_of_move member with before | new
    · exact earlier role before
    · rw [new]
      exact registers
  · intro other member
    rcases after.mem_move member with earlier | same
    · exact (tidy.relies other (stages ▸ earlier)).alike tidy.known still
    · rw [same]
      exact relies.alike tidy.known still
  · intro join member
    have member : join ∈ self.joins := joins ▸ member
    exact tidy.joins join member

/-! ## Steps of a connect request -/

/-- `ps_boot`: the session is the request's to store. -/
theorem tidy_boot {session : Nat} {seen : Seen} (tidy : self.Tidy)
    (here : self.stages[handler]? = some (.connect (.boot session seen))) :
    ((self.mark session fun peer => { peer with started := true }).move handler
      (.connect (.set session seen))).Tidy := by
  have alike : self.Alike (self.mark session fun peer => { peer with started := true }) :=
    ⟨rfl, rfl, Nat.le_refl _, fun other _ => self.mark_kept session other fun _ => rfl⟩
  have made := tidy.relies _ (List.mem_of_getElem? here)
  refine tidy.turn alike rfl rfl here (Or.inl rfl) ?_ ?_ rfl Role.noConfusion made
  · intro other started notJoined
    by_cases same : other = session
    · rw [same]
      exact Or.inr rfl
    · rw [mark_peers_of_ne self same] at started notJoined
      exact Or.inl ⟨started, notJoined⟩
  · intro other role entry holds
    exact tidy.holder_plain here ⟨Role.noConfusion, Role.noConfusion⟩ entry holds

/-- While no clear is in its loop, no handler is. -/
theorem ne_looping_of_mem (outside : Role.looping ∉ self.roles) {stage : Stage}
    (member : stage ∈ self.stages) : stage.role ≠ .looping := by
  intro looping
  exact outside (looping ▸ List.mem_map_of_mem member)

/-- What a request relies on outlasts a session stored outside of every clear. -/
theorem Relies.append (relies : self.Relies stage) (outside : stage.role ≠ .looping)
    (session : Nat) : ({ self with clients := self.clients ++ [session] } : Server).Relies stage := by
  cases stage with
  | idle | gate => trivial
  | connect stage =>
      cases stage with
      | getps | allocOk | new | answer => trivial
      | admctl | boot | set => exact relies
      | lockTid other pos =>
          have inside := (List.getElem?_eq_some_iff.mp relies).1
          exact (List.getElem?_append_left inside).trans relies
  | clear stage =>
      cases stage with
      | lock | unlock => trivial
      | count | test | signal | join | free | null | reset => exact absurd rfl outside

/-- The position that `lcm_set` returns. -/
theorem lcmSet_pos (self : Server) (session : Nat) (room : self.clients.length < maxroom) :
    sizeT (lcmSet self.lcm { cmtsAddr := self.address session } true).pos.toInt =
      self.clients.length := by
  have count : self.lcm.count = self.clients.length := by
    simp only [lcm, Lcm.count, List.length_map]
  have pos : (lcmSet self.lcm { cmtsAddr := self.address session } true).pos =
      Int32.ofNat self.clients.length := by rw [← count]; rfl
  rw [pos]
  exact sizeT_ofNat (Nat.lt_trans room (by decide))

/-- `lcm_set`. -/
theorem tidy_set {session : Nat} {seen : Seen} {well : Bool} (tidy : self.Tidy)
    (here : self.stages[handler]? = some (.connect (.set session seen)))
    (separate : self.Separates (.connect (.set session seen)))
    (moved : self.connectNext handler well (.set session seen) = some after) : after.Tidy := by
  rcases separate with ⟨outside, room⟩
  rw [connectNext, lcmSet_pos self session room] at moved
  cases moved
  have made : session < self.made := tidy.relies _ (List.mem_of_getElem? here)
  have roles : (({ self with clients := self.clients ++ [session] } : Server).move handler
      (.connect (.lockTid session self.clients.length))).roles =
        self.roles.set handler (.registering session self.clients.length) := roles_move ..
  have kept : forall role, role ∈ self.roles -> role ≠ .storing session ->
      role ∈ self.roles.set handler (.registering session self.clients.length) :=
    fun _ member other => mem_set_other (role_of_stage here) member other _
  have known : forall other, other ∈ self.clients ++ [session] -> other < self.made := by
    intro other member
    rcases List.mem_append.mp member with earlier | new
    · exact tidy.known other earlier
    · rw [List.mem_singleton.mp new]
      exact made
  refine ⟨known, ?_, ?_, ?_, ?_, ?_, tidy.joins⟩
  · intro other started notJoined
    rw [roles]
    by_cases same : other = session
    · exact Or.inl (List.mem_append_right _ (List.mem_singleton.mpr same))
    · rcases tidy.stored other started notJoined with entry | storing
      · exact Or.inl (List.mem_append_left _ entry)
      · refine Or.inr (kept _ storing ?_)
        exact fun equal => same (Role.storing.inj equal)
  · intro i other entry
    rw [roles]
    by_cases last : i < self.clients.length
    · have entry : self.clients[i]? = some other :=
        (List.getElem?_append_left last).symm.trans entry
      rcases tidy.threads i other entry with own | registering | looping
      · exact Or.inl own
      · exact Or.inr (Or.inl (kept _ registering Role.noConfusion))
      · exact absurd looping outside
    · have inside : i < (self.clients ++ [session]).length := (List.getElem?_eq_some_iff.mp entry).1
      rw [List.length_append, List.length_singleton] at inside
      have index : i = self.clients.length := by omega
      subst index
      have own : session = other :=
        Option.some.inj (List.getElem?_concat_length.symm.trans entry)
      have place := (List.getElem?_eq_some_iff.mp (role_of_stage here)).1
      rw [← own]
      exact Or.inr (Or.inl (List.mem_set place _))
  · intro other role entry holds
    rw [roles] at entry
    exact tidy.holder_plain here ⟨Role.noConfusion, Role.noConfusion⟩ entry holds
  · intro looping
    rw [roles] at looping
    exact absurd looping (looping_not_mem_set outside Role.noConfusion handler)
  · intro stage member
    rcases List.mem_or_eq_of_mem_set member with earlier | same
    · have relies := (tidy.relies stage earlier).append (ne_looping_of_mem outside earlier) session
      exact relies.alike known ⟨rfl, rfl, Nat.le_refl _, fun _ _ => rfl⟩
    · rw [same]
      exact List.getElem?_concat_length

/-- What a request relies on outside of a clear is the table and its session. -/
theorem Relies.outside (relies : self.Relies stage) (outside : stage.role ≠ .looping)
    (clients : stage.role.registers = true -> after.clients = self.clients)
    (made : self.made ≤ after.made) : after.Relies stage := by
  cases stage with
  | idle | gate => trivial
  | connect stage =>
      cases stage with
      | getps | allocOk | new | answer => trivial
      | admctl | boot | set => exact Nat.lt_of_lt_of_le relies made
      | lockTid session pos =>
          change after.clients[pos]? = some session
          rw [clients rfl]
          exact relies
  | clear stage =>
      cases stage with
      | lock | unlock => trivial
      | count | test | signal | join | free | null | reset => exact absurd rfl outside

/-- `gctl_lock_tid`. -/
theorem tidy_lockTid {session pos : Nat} {well : Bool} (tidy : self.Tidy)
    (here : self.stages[handler]? = some (.connect (.lockTid session pos)))
    (moved : self.connectNext handler well (.lockTid session pos) = some after) :
    after.Tidy := by
  rw [connectNext] at moved
  by_cases free : self.lcmLock = none
  · rw [if_pos free] at moved
    cases moved
    have outside := tidy.outside free
    have entry : self.clients[pos]? = some session := tidy.relies _ (List.mem_of_getElem? here)
    have roles : (({ self with
        threads := Function.update self.threads pos (threadOf session) } : Server).move handler
          (.connect (.answer session))).roles = self.roles.set handler .bystander := roles_move ..
    have kept : forall role, role ∈ self.roles -> role ≠ .registering session pos ->
        role ∈ self.roles.set handler .bystander :=
      fun _ member other => mem_set_other (role_of_stage here) member other _
    refine ⟨tidy.known, ?_, ?_, ?_, ?_, ?_, tidy.joins⟩
    · intro other started notJoined
      rw [roles]
      rcases tidy.stored other started notJoined with entry | storing
      · exact Or.inl entry
      · exact Or.inr (kept _ storing Role.noConfusion)
    · intro i other found
      rw [roles]
      change Function.update self.threads pos (threadOf session) i = _ ∨ _
      by_cases same : i = pos
      · subst same
        have own : session = other := Option.some.inj (entry.symm.trans found)
        rw [Function.update_self, own]
        exact Or.inl rfl
      · rw [Function.update_of_ne same]
        rcases tidy.threads i other found with own | registering | looping
        · exact Or.inl own
        · refine Or.inr (Or.inl (kept _ registering ?_))
          exact fun equal => same (Role.registering.inj equal).2
        · exact absurd looping outside
    · intro other role entry holds
      rw [roles] at entry
      exact tidy.holder_plain here ⟨Role.noConfusion, Role.noConfusion⟩ entry holds
    · intro looping
      rw [roles] at looping
      exact absurd looping (looping_not_mem_set outside Role.noConfusion handler)
    · intro stage member
      rcases List.mem_or_eq_of_mem_set member with earlier | same
      · have apart := ne_looping_of_mem outside earlier
        exact (tidy.relies stage earlier).outside apart (fun _ => rfl) (Nat.le_refl _)
      · rw [same]
        trivial
  · rw [if_neg free] at moved
    cases moved

theorem tidy_connect {stage : ConnectStage} {well : Bool} (tidy : self.Tidy)
    (here : self.stages[handler]? = some (.connect stage))
    (separate : self.Separates (.connect stage))
    (moved : self.connectNext handler well stage = some after) : after.Tidy := by
  cases stage with
  | getps ip dryRun =>
      cases moved
      cases found : (self.getps (some ip)).1.isSome with
      | true =>
          exact tidy.uses here rfl rfl trivial
      | false =>
          exact tidy.uses here rfl rfl trivial
  | allocOk ip dryRun looked =>
      cases moved
      split
      · exact tidy.still here rfl rfl trivial
      · exact tidy.still here rfl rfl trivial
  | new ip dryRun seen =>
      cases well with
      | false =>
          cases moved
          exact tidy.still here rfl rfl trivial
      | true =>
          cases moved
          cases dryRun with
          | true => exact tidy.pass (.of_create self ip) rfl rfl here rfl rfl (Nat.lt_succ_self _)
          | false => exact tidy.pass (.of_create self ip) rfl rfl here rfl rfl (Nat.lt_succ_self _)
  | admctl session seen =>
      have made := tidy.relies _ (List.mem_of_getElem? here)
      cases well with
      | true =>
          cases moved
          exact tidy.still here rfl rfl made
      | false =>
          cases moved
          refine tidy.pass (.of_mark self session ?_ ?_) rfl rfl here rfl rfl trivial
          · exact fun _ => rfl
          · exact fun _ => rfl
  | boot session seen =>
      cases well with
      | true =>
          cases moved
          exact tidy_boot tidy here
      | false =>
          cases moved
          refine tidy.pass (.of_mark self session ?_ ?_) rfl rfl here rfl rfl trivial
          · exact fun _ => rfl
          · exact fun _ => rfl
  | set session seen => exact tidy_set tidy here separate moved
  | lockTid session pos => exact tidy_lockTid tidy here moved
  | answer session =>
      cases moved
      exact tidy.still here rfl rfl trivial

theorem tidy_gate {stage : GateStage} {well : Bool} (tidy : self.Tidy)
    (here : self.stages[handler]? = some (.gate stage))
    (moved : self.gateNext handler well stage = some after) : after.Tidy := by
  cases stage with
  | getps ip dryRun =>
      cases moved
      split
      · exact tidy.uses here rfl rfl trivial
      · exact tidy.uses here rfl rfl trivial
  | handle session dryRun =>
      cases moved
      by_cases sends : dryRun = 0
      · rw [if_pos sends]
        exact tidy.uses here rfl rfl trivial
      · rw [if_neg sends]
        exact tidy.uses here rfl rfl trivial
  | connection session =>
      cases moved
      cases well with
      | true => exact tidy.uses here rfl rfl trivial
      | false => exact tidy.uses here rfl rfl trivial
  | sock session =>
      cases moved
      exact tidy.uses here rfl rfl trivial

/-! ## Steps of a clear -/

/-- While one clear is in its loop, the other requests are not. -/
theorem Tidy.others (tidy : self.Tidy) (here : self.stages[handler]? = some old)
    (before : old.role = .looping) {other : Stage} {new : Stage}
    (member : other ∈ self.stages.set handler new) :
    other = new ∨ other ∈ self.stages ∧ other.role ≠ .looping := by
  rcases List.getElem?_of_mem member with ⟨i, entry⟩
  by_cases same : handler = i
  · subst same
    rw [List.getElem?_set_self (List.getElem?_eq_some_iff.mp here).1] at entry
    exact Or.inl (Option.some.inj entry).symm
  · rw [List.getElem?_set_ne same] at entry
    refine Or.inr ⟨List.mem_of_getElem? entry, ?_⟩
    intro looping
    have own := tidy.alone here (Or.inl before)
    have its := tidy.alone entry (Or.inl looping)
    exact same (Option.some.inj (own.symm.trans its))

/-- A clear stays in its loop. -/
theorem Tidy.loops (tidy : self.Tidy) (clients : after.clients = self.clients)
    (made : after.made = self.made) (lcmLock : after.lcmLock = self.lcmLock)
    (stages : after.stages = self.stages)
    (started : forall session, (after.peers session).started = true ->
      (after.peers session).joined = false ->
        (self.peers session).started = true ∧ (self.peers session).joined = false)
    (joins : after.JoinsOwn) (here : self.stages[handler]? = some old)
    (before : old.role = .looping) (role : stage.role = .looping)
    (relies : (after.move handler stage).Relies stage) : (after.move handler stage).Tidy := by
  have roles : (after.move handler stage).roles = self.roles := by
    have here : after.stages[handler]? = some old := stages ▸ here
    rw [roles_move_same here (role.trans before.symm), Server.roles, stages, Server.roles]
  have looping : Role.looping ∈ self.roles := before ▸ mem_role here
  refine ⟨?_, ?_, ?_, ?_, ?_, ?_, joins⟩
  · intro session member
    have member : session ∈ self.clients := clients ▸ member
    exact Nat.lt_of_lt_of_le (tidy.known session member) (Nat.le_of_eq made.symm)
  · intro session isStarted notJoined
    rcases started session isStarted notJoined with ⟨was, wasNot⟩
    rw [roles]
    rcases tidy.stored session was wasNot with entry | storing
    · exact Or.inl (clients ▸ entry)
    · exact Or.inr storing
  · intro i session _
    rw [roles]
    exact Or.inr (Or.inr looping)
  · intro other role entry holds
    rw [roles] at entry
    exact lcmLock.trans (tidy.holder other role entry holds)
  · rw [roles]
    exact tidy.apart
  · intro other member
    have member : other ∈ self.stages.set handler stage := stages ▸ member
    rcases tidy.others here before member with new | ⟨earlier, outside⟩
    · rw [new]
      exact relies
    · exact (tidy.relies other earlier).outside outside (fun _ => clients) (Nat.le_of_eq made.symm)

/-- The lock is taken. -/
theorem tidy_lock (tidy : self.Tidy) (here : self.stages[handler]? = some (.clear .lock))
    (separate : self.Separates (.clear .lock))
    (moved : self.clearNext handler .lock = some after) : after.Tidy := by
  rw [clearNext] at moved
  by_cases free : self.lcmLock = none
  · rw [if_pos free] at moved
    cases moved
    have alike : self.Alike { self with lcmLock := some handler } :=
      ⟨rfl, rfl, Nat.le_refl _, fun _ _ => rfl⟩
    refine tidy.turn alike rfl rfl here (Or.inl rfl) ?_ ?_ rfl (fun _ => separate) ?_
    · exact fun _ started notJoined => Or.inl ⟨started, notJoined⟩
    · intro other role entry holds
      rcases tidy.holder_move here entry holds with ⟨same, _⟩ | ⟨_, locked⟩
      · rw [same]
      · rw [free] at locked
        cases locked
    · refine ⟨fun i _ none => absurd none (Nat.not_lt_zero i), ?_⟩
      intro i session _ entry
      rcases tidy.threads i session entry with own | registering | looping
      · exact own
      · cases separate _ registering
      · exact absurd looping (tidy.outside free)
  · rw [if_neg free] at moved
    cases moved

/-- The lock is given back. -/
theorem tidy_release (tidy : self.Tidy) (here : self.stages[handler]? = some old)
    (before : old.role = .leaving ∨ old.role = .looping ∧ self.clients = []) :
    (({ self with lcmLock := none } : Server).move handler .idle).Tidy := by
  have alike : self.Alike { self with lcmLock := none } :=
    ⟨rfl, rfl, Nat.le_refl _, fun _ _ => rfl⟩
  have own : self.lcmLock = some handler := by
    apply tidy.alone here
    rcases before with leaving | ⟨looping, _⟩
    · exact Or.inr leaving
    · exact Or.inl looping
  refine tidy.turn alike rfl rfl here (Or.inr before) ?_ ?_ rfl Role.noConfusion trivial
  · exact fun _ started notJoined => Or.inl ⟨started, notJoined⟩
  · intro other role entry holds
    rcases tidy.holder_move here entry holds with ⟨_, same⟩ | ⟨other, locked⟩
    · rw [← same] at holds
      rcases holds with impossible | impossible <;> cases impossible
    · exact absurd (Option.some.inj (locked.symm.trans own)) other

/-- `lcm->count = 0`, when every thread has been joined. -/
theorem tidy_reset (tidy : self.Tidy) (here : self.stages[handler]? = some (.clear .reset)) :
    (({ self with clients := [] } : Server).move handler (.clear .unlock)).Tidy := by
  have loop : self.Loop self.clients.length self.clients.length :=
    tidy.relies _ (List.mem_of_getElem? here)
  have looping : Role.looping ∈ self.roles := mem_role here
  have roles : (({ self with clients := [] } : Server).move handler (.clear .unlock)).roles =
      self.roles.set handler .leaving := roles_move ..
  refine ⟨?_, ?_, ?_, ?_, ?_, ?_, tidy.joins⟩
  · intro session member
    cases member
  · intro session started notJoined
    rw [roles]
    rcases tidy.stored session started notJoined with entry | storing
    · rcases List.getElem?_of_mem entry with ⟨i, entry⟩
      have joined := loop.joined i session (List.getElem?_eq_some_iff.mp entry).1 entry
      cases joined.symm.trans notJoined
    · exact Or.inr (mem_set_other (role_of_stage here) storing Role.noConfusion _)
  · intro i session entry
    cases entry
  · intro other role entry holds
    rw [roles] at entry
    rcases tidy.holder_move here entry holds with ⟨same, _⟩ | ⟨_, locked⟩
    · rw [same]
      exact tidy.alone here (Or.inl rfl)
    · exact locked
  · intro _ role member
    rw [roles] at member
    rcases List.mem_or_eq_of_mem_set member with before | new
    · exact tidy.apart looping role before
    · rw [new]
      rfl
  · intro other member
    rcases tidy.others here rfl member with new | ⟨earlier, outside⟩
    · rw [new]
      trivial
    · refine (tidy.relies other earlier).outside outside ?_ (Nat.le_refl _)
      intro registers
      have role := tidy.apart looping other.role (List.mem_map_of_mem earlier)
      rw [registers] at role
      cases role

theorem Loop.next {i : Nat} (loop : self.Loop i i) : self.Loop i (i + 1) :=
  ⟨loop.joined, fun j session later => loop.threads j session (Nat.le_of_succ_le later)⟩

/-- Another thread joined. -/
theorem Loop.join {i session : Nat} (loop : self.Loop i (i + 1))
    (entry : self.clients[i]? = some session) :
    (self.mark session fun peer => { peer with joined := true }).Loop (i + 1) (i + 1) where
  joined := by
    intro j other earlier found
    by_cases same : other = session
    · rw [same, mark_peers]
    · rw [mark_peers_of_ne self same]
      have different : j ≠ i := by
        intro equal
        subst equal
        exact same (Option.some.inj (found.symm.trans entry))
      exact loop.joined j other (by omega) found
  threads := loop.threads

theorem tidy_clear {stage : ClearStage} (tidy : self.Tidy)
    (here : self.stages[handler]? = some (.clear stage))
    (separate : self.Separates (.clear stage))
    (moved : self.clearNext handler stage = some after) : after.Tidy := by
  have relies := tidy.relies _ (List.mem_of_getElem? here)
  have still : forall {server : Server} {handler : Nat} {stage : Stage} {done next : Nat},
      server.Loop done next -> (server.move handler stage).Loop done next :=
    fun loop => ⟨loop.joined, loop.threads⟩
  cases stage with
  | lock => exact tidy_lock tidy here separate moved
  | count =>
      rw [clearNext] at moved
      by_cases empty : self.clients.length ≤ 0
      · rw [if_pos empty] at moved
        cases moved
        have none : self.clients = [] := List.length_eq_zero_iff.mp (Nat.le_zero.mp empty)
        exact tidy_release tidy here (Or.inr ⟨rfl, none⟩)
      · rw [if_neg empty] at moved
        cases moved
        refine tidy.loops rfl rfl rfl rfl ?_ tidy.joins here rfl rfl (still relies)
        exact fun _ started notJoined => ⟨started, notJoined⟩
  | test i =>
      have loop : self.Loop i i := relies
      rw [clearNext] at moved
      cases entry : self.clients[i]? with
      | some session =>
          rw [entry] at moved
          cases moved
          refine tidy.loops rfl rfl rfl rfl ?_ tidy.joins here rfl rfl ?_
          · exact fun _ started notJoined => ⟨started, notJoined⟩
          · exact ⟨entry, loop.threads i session (Nat.le_refl _) entry, still loop.next⟩
      | none =>
          rw [entry] at moved
          cases moved
          refine tidy.loops rfl rfl rfl rfl ?_ tidy.joins here rfl rfl (still ?_)
          · exact fun _ started notJoined => ⟨started, notJoined⟩
          · have past := List.getElem?_eq_none_iff.mp entry
            refine ⟨fun j session inside =>
              loop.joined j session (Nat.lt_of_lt_of_le inside past), ?_⟩
            intro j session outside found
            exact absurd (List.getElem?_eq_some_iff.mp found).1 (Nat.not_lt.mpr outside)
  | signal i session thread =>
      rcases relies with ⟨entry, own, loop⟩
      cases moved
      have calm : self.Calm (self.mark session fun peer => { peer with die := true }) :=
        .of_mark self session (fun _ => rfl) (fun _ => rfl)
      refine tidy.loops rfl rfl rfl rfl calm.started ?_ here rfl rfl ?_
      · intro join member
        rcases List.mem_append.mp member with earlier | new
        · exact tidy.joins join earlier
        · rw [List.mem_singleton.mp new]
          exact own
      · have marked := loop.alike tidy.known calm.toAlike
        exact ⟨entry, own, marked.joined, marked.threads⟩
  | join i session thread =>
      rcases relies with ⟨entry, own, loop⟩
      subst own
      simp only [clearNext, threadOf] at moved
      split at moved
      · cases moved
        refine tidy.loops rfl rfl rfl rfl ?_ tidy.joins here rfl rfl (still (loop.join entry))
        intro other started notJoined
        by_cases same : other = session
        · rw [same, mark_peers] at notJoined
          cases notJoined
        · rw [mark_peers_of_ne self same] at started notJoined
          exact ⟨started, notJoined⟩
      · cases moved
  | free i session =>
      cases moved
      have calm : self.Calm (self.free session) :=
        .of_mark self session (fun _ => rfl) (fun _ => rfl)
      refine tidy.loops rfl rfl rfl rfl calm.started tidy.joins here rfl rfl (still ?_)
      exact Loop.alike relies tidy.known calm.toAlike
  | null i =>
      have loop : self.Loop (i + 1) (i + 1) := relies
      cases moved
      refine tidy.loops rfl rfl rfl rfl ?_ tidy.joins here rfl rfl (still ⟨loop.joined, ?_⟩)
      · exact fun _ started notJoined => ⟨started, notJoined⟩
      · intro j session later found
        have different : j ≠ i := by omega
        exact (Function.update_of_ne different ..).trans (loop.threads j session later found)
  | reset =>
      cases moved
      exact tidy_reset tidy here
  | unlock =>
      cases moved
      exact tidy_release tidy here (Or.inl rfl)

/-! ## Runs -/

/-- A request that comes in is a bystander, and relies on nothing. -/
theorem accept_bystander (self : Server) (call : ApiCall) :
    (accept call).role = .bystander ∧ self.Relies (accept call) := by
  cases call with
  | connect ip dryRun =>
      rw [accept]
      split
      · exact ⟨rfl, trivial⟩
      · exact ⟨rfl, trivial⟩
  | gate ip dryRun => exact ⟨rfl, trivial⟩
  | clear => exact ⟨rfl, trivial⟩

theorem tidy_request (tidy : self.Tidy) (call : ApiCall) :
    ({ self with stages := self.stages ++ [accept call] } : Server).Tidy := by
  have roles : ({ self with stages := self.stages ++ [accept call] } : Server).roles =
      self.roles ++ [.bystander] := by
    rw [Server.roles, List.map_append, List.map_singleton, (self.accept_bystander call).1,
      Server.roles]
  have earlier : forall {role : Role}, role ∈ self.roles ++ [.bystander] -> role ≠ .bystander ->
      role ∈ self.roles := by
    intro role member other
    rcases List.mem_append.mp member with before | new
    · exact before
    · exact absurd (List.mem_singleton.mp new) other
  refine ⟨tidy.known, ?_, ?_, ?_, ?_, ?_, tidy.joins⟩
  · intro session started notJoined
    rw [roles]
    rcases tidy.stored session started notJoined with entry | storing
    · exact Or.inl entry
    · exact Or.inr (List.mem_append_left _ storing)
  · intro i session entry
    rw [roles]
    rcases tidy.threads i session entry with own | registering | looping
    · exact Or.inl own
    · exact Or.inr (Or.inl (List.mem_append_left _ registering))
    · exact Or.inr (Or.inr (List.mem_append_left _ looping))
  · intro handler role entry holds
    rw [roles] at entry
    by_cases inside : handler < self.roles.length
    · rw [List.getElem?_append_left inside] at entry
      exact tidy.holder handler role entry holds
    · rw [List.getElem?_append_right (Nat.le_of_not_lt inside)] at entry
      rw [List.mem_singleton.mp (List.mem_of_getElem? entry)] at holds
      rcases holds with impossible | impossible <;> cases impossible
  · intro looping role member
    rw [roles] at looping member
    rcases List.mem_append.mp member with before | new
    · exact tidy.apart (earlier looping Role.noConfusion) role before
    · rw [List.mem_singleton.mp new]
      rfl
  · intro stage member
    have relies : self.Relies stage := by
      rcases List.mem_append.mp member with before | new
      · exact tidy.relies stage before
      · rw [List.mem_singleton.mp new]
        exact (self.accept_bystander call).2
    exact relies.alike tidy.known ⟨rfl, rfl, Nat.le_refl _, fun _ _ => rfl⟩

theorem tidy_step {label : ServerLabel} (tidy : self.Tidy) (separate : self.Separate label)
    (moved : self.step label = some after) : after.Tidy := by
  cases label with
  | request call =>
      cases moved
      exact tidy_request tidy call
  | next handler well =>
      simp only [step, handlerNext] at moved
      cases here : self.stages[handler]? with
      | none =>
          rw [here] at moved
          cases moved
      | some stage =>
          have separates := separate stage here
          rw [here] at moved
          cases stage with
          | idle => cases moved
          | connect stage => exact tidy_connect tidy here separates moved
          | gate stage => exact tidy_gate tidy here moved
          | clear stage => exact tidy_clear tidy here separates moved
  | thread session =>
      simp only [step] at moved
      split at moved
      · cases moved
        split
        · refine tidy.calm (.of_mark self session ?_ ?_) rfl ?_ tidy.joins
          · exact fun _ => rfl
          · exact fun _ => rfl
          · exact fun _ member => Or.inl member
        · exact tidy
      · cases moved

end Server

/-- In a run that keeps storing and clearing apart, a clear joins the thread of
the session it frees, and whenever no handler is in progress the table has every
session whose thread runs. -/
theorem kept_of_separate {maxpep : Nat} {server : Server}
    (reached : System.Run Server.step Server.Separate (.start maxpep) server) :
    (server.Quiet -> server.Kept) ∧ server.JoinsOwn := by
  have tidy : server.Tidy :=
    reached.invariant _ (fun _ _ _ tidy separate moved => Server.tidy_step tidy separate moved)
      (Server.tidy_start maxpep)
  exact ⟨tidy.kept, tidy.joins⟩

/-- One request to connect with `dry_run` set, alone. -/
def connectAlone (handler : Nat) (ip : String) : List ServerLabel :=
  .request (.connect ip true) :: List.replicate 7 (.next handler true)

/-- A request to clear a table of one client, alone. -/
def clearAlone (handler session : Nat) : List ServerLabel :=
  [.request .clear, .next handler true, .next handler true, .next handler true,
    .next handler true, .thread session] ++ List.replicate 6 (.next handler true)

theorem kept_connect_clear :
    Exists fun server : Server =>
      server.clients = [1] ∧ server.joins = [(1, 0)] ∧
        (server.Quiet -> server.Kept) ∧ server.JoinsOwn := by
  have executed := (rfl : (System.executeWithin Server.step Server.Separate (.start 4)
    (connectAlone 0 "10.0.0.1" ++ clearAlone 1 0 ++ connectAlone 2 "10.0.0.2")).map
      (fun server => (server.clients, server.joins)) = some ([1], [(1, 0)]))
  rcases Option.map_eq_some_iff.mp executed with ⟨server, executed, same⟩
  rcases Prod.mk.inj same with ⟨clients, joins⟩
  exact ⟨server, clients, joins, kept_of_separate (System.run_of_executeWithin executed)⟩

/-- A clear that comes between `lcm_set` and `gctl_lock_tid` joins no thread, and
one whose loop has ended resets the count over a session stored just then. -/
theorem clear_loses_session :
    (Exists fun server => System.execute Server.step (.start 4)
        (.request (.connect "10.0.0.1" true) :: List.replicate 5 (.next 0 true) ++
          [.request .clear] ++ List.replicate 4 (.next 1 true)) = some server ∧
      server.joins = [(0, 0)] ∧ ¬ server.JoinsOwn) ∧
    Exists fun server => System.execute Server.step (.start 4)
        (connectAlone 0 "10.0.0.1" ++
          .request (.connect "10.0.0.2" true) :: List.replicate 4 (.next 1 true) ++
          [.request .clear, .next 2 true, .next 2 true, .next 2 true, .next 2 true, .thread 0] ++
          List.replicate 4 (.next 2 true) ++ [.next 1 true, .next 2 true, .next 2 true,
            .next 1 true, .next 1 true]) = some server ∧
      server.Quiet ∧ server.clients = [] ∧ (server.peers 1).started = true ∧
        (server.peers 1).joined = false ∧ ¬ server.Kept := by
  refine ⟨⟨_, rfl, rfl, ?_⟩, ⟨_, rfl, ?_, rfl, rfl, rfl, ?_⟩⟩
  · intro joinsOwn
    exact absurd (joinsOwn (0, 0) List.mem_cons_self) (by decide)
  · intro stage member
    exact List.eq_of_mem_replicate (n := 3) member
  · intro kept
    exact absurd (kept.entries 1 rfl rfl) List.not_mem_nil

end PolicyServer
