import PolicyServer.Lib.Descriptors
import PolicyServer.Lib.System

namespace PolicyServer

open Lib

/-!
# Who owns a descriptor

`sock_connect` gets a descriptor from `socket` and stores it in `self->sock` only
after the address and the options were accepted; from then on the number stays
there, whatever becomes of the descriptor.  It is released in `sock_connect`, in
the Client-Close branch of `ps_statemachine`, in `gctl_lcm_reset` and in
`ps_free`, each of them going by the number alone.

The state has the descriptors of the process and where every session is between
the calls that matter to them.  The rest of the process opens and closes what it
likes, at any time.  `gctl_lcm_reset` waits for the thread of a session, which
looks at `die` in the loop of `ps_statemachine` only; `pthread_cancel` is left
out where `linux` is defined.
-/

/-- Who holds a descriptor: a session, with the number of the connection among
those it opened, or the rest of the process, with a socket or another file. -/
inductive Holder where
  | session (session number : Nat)
  | other (socket : Bool)
  deriving DecidableEq, Repr

def Holder.isSocket : Holder -> Bool
  | .session _ _ => true
  | .other socket => socket

/-- Where a session is. -/
inductive Site where
  /-- not made yet -/
  | absent
  /-- in front of `socket` -/
  | connect
  /-- in front of `self->sock = fd` -/
  | opened (fd : Nat)
  /-- in front of the end of `sock_connect` -/
  | connecting (fd : Nat)
  /-- in the rest of `ps_admctl` -/
  | handshake
  /-- in front of `ps_boot` -/
  | booting
  /-- in the loop of `ps_statemachine` -/
  | serving
  /-- in `gctl_lcm_reset`, the thread joined, in front of the test of `sock` -/
  | clearing
  /-- in front of `ps_free` -/
  | freeing
  | freed
  deriving DecidableEq, Repr

structure Tenant where
  site : Site
  /-- `none` for -1 -/
  sock : Option Nat
  /-- its thread has been started -/
  booted : Bool
  /-- how many descriptors `socket` has given it -/
  obtained : Nat
  deriving DecidableEq, Repr

/-- A call of `close` or `sock_close` by a session, with who held the number. -/
structure Release where
  session : Nat
  fd : Nat
  holder : Option Holder
  deriving DecidableEq, Repr

structure Process where
  files : Descriptors Holder
  sessions : Nat -> Tenant
  releases : List Release

/-- Steps of a session, with what the system answers. -/
inductive TenantLabel where
  /-- `ps_new` in a connect request -/
  | new (dryRun : Bool)
  | socket
  | socketFails
  /-- `inet_pton` or `sock_setsockopts` -/
  | refused
  | assign
  | established
  /-- no socket in time, a failing `select`, or too many interruptions -/
  | unreachable
  | handshaken
  /-- no Request in time -/
  | expired
  | boot
  | bootFails
  | clientClose
  /-- `die`, and the thread joined -/
  | clear
  | closeSock
  | free
  deriving DecidableEq, Repr

inductive ProcessLabel where
  | session (session : Nat) (label : TenantLabel)
  | otherOpens (socket : Bool)
  | otherCloses (fd : Nat)
  deriving DecidableEq, Repr

/-- `ps_admctl` answers 0, to the loop of `ps_statemachine` or to the connect
request. -/
def Tenant.attemptFailed (self : Tenant) : Tenant :=
  { self with site := if self.booted then .connect else .freeing }

namespace Process

/-- The process before its first connect request, with what it has open. -/
def start (files : List (Option Bool)) : Process where
  files := { slots := files.map (Option.map Holder.other) }
  sessions := fun _ => { site := .absent, sock := none, booted := false, obtained := 0 }
  releases := []

/-- A session as it is now. -/
def put (self : Process) (session : Nat) (tenant : Tenant) : Process :=
  { self with
    sessions := fun other => if other = session then tenant else self.sessions other }

/-- `socket`, the lowest free number. -/
def socket (self : Process) (session : Nat) : Process :=
  let tenant := self.sessions session
  { self with files := self.files.taken (.session session (tenant.obtained + 1)) }.put session
    { tenant with site := .opened self.files.lowest, obtained := tenant.obtained + 1 }

/-- `close`. -/
def close (self : Process) (session fd : Nat) : Process :=
  { self with
    files := self.files.released fd
    releases := self.releases ++ [{ session, fd, holder := self.files.holder fd }] }

/-- `sock_close`, which goes on only with a socket. -/
def sockClose (self : Process) (session : Nat) : Option Nat -> Process
  | none => self
  | some fd =>
      { self with
        files :=
          if (self.files.holder fd).any Holder.isSocket then self.files.released fd
          else self.files
        releases := self.releases ++ [{ session, fd, holder := self.files.holder fd }] }

def sessionStep (self : Process) (session : Nat) : TenantLabel -> Option Process
  | .new dryRun =>
      let tenant := self.sessions session
      match tenant.site with
      | .absent =>
          some (self.put session
            { tenant with site := if dryRun then .booting else .connect })
      | _ => none
  | .socket =>
      match (self.sessions session).site with
      | .connect => some (self.socket session)
      | _ => none
  | .socketFails =>
      let tenant := self.sessions session
      match tenant.site with
      | .connect => some (self.put session tenant.attemptFailed)
      | _ => none
  | .refused =>
      let tenant := self.sessions session
      match tenant.site with
      | .opened fd =>
          some ((self.sockClose session (some fd)).put session tenant.attemptFailed)
      | _ => none
  | .assign =>
      let tenant := self.sessions session
      match tenant.site with
      | .opened fd =>
          some (self.put session { tenant with site := .connecting fd, sock := some fd })
      | _ => none
  | .established =>
      let tenant := self.sessions session
      match tenant.site with
      | .connecting _ => some (self.put session { tenant with site := .handshake })
      | _ => none
  | .unreachable =>
      let tenant := self.sessions session
      match tenant.site with
      | .connecting fd =>
          some ((self.sockClose session (some fd)).put session tenant.attemptFailed)
      | _ => none
  | .handshaken =>
      let tenant := self.sessions session
      match tenant.site with
      | .handshake =>
          some (self.put session
            { tenant with site := if tenant.booted then .serving else .booting })
      | _ => none
  | .expired =>
      let tenant := self.sessions session
      match tenant.site with
      | .handshake => some (self.put session tenant.attemptFailed)
      | _ => none
  | .boot =>
      let tenant := self.sessions session
      match tenant.site with
      | .booting => some (self.put session { tenant with site := .serving, booted := true })
      | _ => none
  | .bootFails =>
      let tenant := self.sessions session
      match tenant.site with
      | .booting => some (self.put session { tenant with site := .freeing })
      | _ => none
  | .clientClose =>
      let tenant := self.sessions session
      match tenant.site, tenant.sock with
      -- the message has come from a socket
      | .serving, some fd =>
          if (self.files.holder fd).any Holder.isSocket then
            some ((self.close session fd).put session { tenant with site := .connect })
          else none
      | _, _ => none
  | .clear =>
      let tenant := self.sessions session
      match tenant.site with
      | .serving => some (self.put session { tenant with site := .clearing })
      | _ => none
  | .closeSock =>
      let tenant := self.sessions session
      match tenant.site with
      | .clearing =>
          let closed := match tenant.sock with
            | some (fd + 1) => self.sockClose session (some (fd + 1))
            -- `ps->sock <= 0`
            | _ => self
          some (closed.put session { tenant with site := .freeing })
      | _ => none
  | .free =>
      let tenant := self.sessions session
      match tenant.site with
      | .freeing =>
          some ((self.sockClose session tenant.sock).put session { tenant with site := .freed })
      | _ => none

def step (self : Process) : ProcessLabel -> Option Process
  | .session session label => self.sessionStep session label
  | .otherOpens socket => some { self with files := self.files.taken (.other socket) }
  | .otherCloses fd =>
      match self.files.holder fd with
      | some (.other _) => some { self with files := self.files.released fd }
      | _ => none

end Process

/-- How often a connection of a session has been released. -/
def releasesOf (session number : Nat) (releases : List Release) : Nat :=
  releases.countP fun release => release.holder = some (.session session number)

/-- Sessions release what is theirs, and a session that has been freed has
released every descriptor it got, once. -/
structure Process.Owned (process : Process) : Prop where
  calls : forall release, release ∈ process.releases ->
    Exists fun number => release.holder = some (.session release.session number)
  once : forall session number, (process.sessions session).site = .freed -> 1 ≤ number ->
    number ≤ (process.sessions session).obtained ->
    releasesOf session number process.releases = 1

/-- The steps that keep to it: where the first attempt of a connect request fails
it fails before `sock` is set or in the handshake, no attempt to reconnect fails
in the handshake, and only a session without a positive `sock` is cleared. -/
def Tenant.Careful (self : Tenant) : TenantLabel -> Prop
  | .unreachable => self.booted = true
  | .expired => self.booted = false
  | .clear => self.sock = none ∨ self.sock = some 0
  | _ => True

def Process.Careful (self : Process) : ProcessLabel -> Prop
  | .session session label => (self.sessions session).Careful label
  | .otherOpens _ | .otherCloses _ => True

section Decidability

instance (self : Tenant) (label : TenantLabel) : Decidable (self.Careful label) :=
  match label with
  | .unreachable => inferInstanceAs (Decidable (self.booted = true))
  | .expired => inferInstanceAs (Decidable (self.booted = false))
  | .clear => inferInstanceAs (Decidable (self.sock = none ∨ self.sock = some 0))
  | .new _ | .socket | .socketFails | .refused | .assign | .established | .handshaken | .boot
  | .bootFails | .clientClose | .closeSock | .free => instDecidableTrue

instance (self : Process) (label : ProcessLabel) : Decidable (self.Careful label) :=
  match label with
  | .session session label => inferInstanceAs (Decidable ((self.sessions session).Careful label))
  | .otherOpens _ | .otherCloses _ => instDecidableTrue

end Decidability

/-! ## The invariant -/

/-- The number that a session has to release. -/
def Tenant.holds (self : Tenant) : Option Nat :=
  match self.site with
  | .opened fd | .connecting fd => some fd
  | .handshake | .booting | .serving | .clearing | .freeing => self.sock
  | .absent | .connect | .freed => none

/-- What `sock` is worth.  After a close it is stale until the next connection,
and a session whose thread never ran has none to be stale. -/
def Tenant.SockOk (self : Tenant) : Prop :=
  match self.site with
  | .absent => self.sock = none ∧ self.booted = false
  | .connect | .opened _ => self.booted = false -> self.sock = none
  | .connecting fd => self.sock = some fd
  | .serving => self.booted = true
  | .clearing => self.sock = none ∨ self.sock = some 0
  | _ => True

/-- The books of one session are in order. -/
structure Tenant.Tidy (tenant : Tenant) (session : Nat) (files : Descriptors Holder)
    (releases : List Release) : Prop where
  held : forall fd, tenant.holds = some fd ->
    files.holder fd = some (.session session tenant.obtained) ∧
      releasesOf session tenant.obtained releases = 0
  spent : forall number, 1 ≤ number -> number ≤ tenant.obtained ->
    releasesOf session number releases = 1 ∨ number = tenant.obtained ∧ tenant.holds ≠ none
  unused : forall number, tenant.obtained < number -> releasesOf session number releases = 0
  sockOk : tenant.SockOk

structure Process.Kept (process : Process) : Prop where
  calls : forall release, release ∈ process.releases ->
    Exists fun number => release.holder = some (.session release.session number)
  tidy : forall session, (process.sessions session).Tidy session process.files process.releases

theorem releasesOf_append (session number : Nat) (releases : List Release) (last : Release) :
    releasesOf session number (releases ++ [last]) =
      releasesOf session number releases +
        if last.holder = some (.session session number) then 1 else 0 := by
  rw [releasesOf, List.countP_append, List.countP_singleton]
  simp only [decide_eq_true_eq]
  rfl

namespace Tenant

variable {self after : Tenant} {session : Nat} {files : Descriptors Holder}
  {releases : List Release}

/-- What others do does not concern a session. -/
theorem Tidy.frame (tidy : self.Tidy session files releases) {later : Descriptors Holder}
    {longer : List Release}
    (kept : forall fd number, files.holder fd = some (.session session number) ->
      later.holder fd = files.holder fd)
    (same : forall number, releasesOf session number longer = releasesOf session number releases) :
    self.Tidy session later longer where
  held := by
    intro fd holds
    have old := tidy.held fd holds
    rw [kept fd _ old.1, same]
    exact old
  spent := by
    intro number positive bound
    rw [same]
    exact tidy.spent number positive bound
  unused := by
    intro number above
    rw [same]
    exact tidy.unused number above
  sockOk := tidy.sockOk

/-- A step that leaves the descriptor alone. -/
theorem Tidy.moved (tidy : self.Tidy session files releases)
    (holds : after.holds = self.holds) (obtained : after.obtained = self.obtained)
    (sockOk : after.SockOk) : after.Tidy session files releases where
  held := by
    rw [holds, obtained]
    exact tidy.held
  spent := by
    rw [holds, obtained]
    exact tidy.spent
  unused := by
    rw [obtained]
    exact tidy.unused
  sockOk := sockOk

/-- A step that gets a descriptor. -/
theorem Tidy.took (tidy : self.Tidy session files releases) (none : self.holds = none)
    (holds : after.holds = some files.lowest) (obtained : after.obtained = self.obtained + 1)
    (sockOk : after.SockOk) :
    after.Tidy session (files.taken (.session session after.obtained)) releases where
  held := by
    intro fd same
    rw [holds] at same
    rw [Descriptors.holder_taken, if_pos (Option.some.inj same).symm]
    exact ⟨rfl, tidy.unused _ (by omega)⟩
  spent := by
    intro number positive bound
    by_cases last : number = after.obtained
    · exact Or.inr ⟨last, by rw [holds]; exact Option.some_ne_none _⟩
    · rcases tidy.spent number positive (by omega) with once | ⟨_, some⟩
      · exact Or.inl once
      · exact absurd none some
  unused := fun number above => tidy.unused number (by omega)
  sockOk := sockOk

/-- A step that releases the descriptor. -/
theorem Tidy.gave (tidy : self.Tidy session files releases) {fd : Nat}
    (holding : self.holds = some fd) (holds : after.holds = none)
    (obtained : after.obtained = self.obtained) (sockOk : after.SockOk) :
    after.Tidy session (files.released fd)
      (releases ++ [{ session, fd, holder := files.holder fd }]) where
  held := by
    intro other same
    rw [holds] at same
    cases same
  spent := by
    intro number positive bound
    rw [obtained] at bound
    left
    rw [releasesOf_append, (tidy.held fd holding).1]
    rcases tidy.spent number positive bound with once | ⟨last, _⟩
    · have different : self.obtained ≠ number := by
        rintro rfl
        rw [(tidy.held fd holding).2] at once
        cases once
      rw [once, if_neg (by
        rintro ⟨⟩
        exact different rfl)]
    · rw [last, (tidy.held fd holding).2, if_pos rfl]
  unused := by
    intro number above
    rw [obtained] at above
    rw [releasesOf_append, (tidy.held fd holding).1, tidy.unused number above, if_neg (by
      rintro ⟨⟩
      exact Nat.lt_irrefl _ above)]
  sockOk := sockOk

end Tenant

namespace Process

variable {self after : Process} {session : Nat}

theorem sessions_put (self : Process) (session other : Nat) (tenant : Tenant) :
    (self.put session tenant).sessions other =
      if other = session then tenant else self.sessions other :=
  rfl

/-- What a session does to the descriptors in one step. -/
inductive Effect (self : Process) (session : Nat) : Process -> Prop
  | moved (tenant : Tenant) (holds : tenant.holds = (self.sessions session).holds)
      (obtained : tenant.obtained = (self.sessions session).obtained) (sockOk : tenant.SockOk) :
      Effect self session (self.put session tenant)
  | took (none : (self.sessions session).holds = none)
      (sockOk : forall fd, ({ self.sessions session with
        site := .opened fd, obtained := (self.sessions session).obtained + 1 } : Tenant).SockOk) :
      Effect self session (self.socket session)
  | gave (tenant : Tenant) (fd : Nat) (holding : (self.sessions session).holds = some fd)
      (holds : tenant.holds = none)
      (obtained : tenant.obtained = (self.sessions session).obtained) (sockOk : tenant.SockOk) :
      Effect self session ((self.close session fd).put session tenant)

/-- `sock_close` closes what the session holds. -/
theorem sockClose_of_held {fd number : Nat}
    (held : self.files.holder fd = some (.session session number)) :
    self.sockClose session (some fd) = self.close session fd := by
  rw [sockClose, close, held]
  rfl

/-- A failed attempt is followed by the next one, or by `ps_free` with nothing
in `sock`. -/
theorem attemptFailed_holds (tenant : Tenant) (stale : tenant.booted = false -> tenant.sock = none) :
    tenant.attemptFailed.holds = none ∧ tenant.attemptFailed.SockOk := by
  rcases tenant with ⟨site, sock, booted, obtained⟩
  cases booted with
  | false => exact ⟨stale rfl, trivial⟩
  | true => exact ⟨rfl, fun impossible => nomatch impossible⟩

/-- Every careful step of a session in order has one of the three effects. -/
theorem effect_of_step {label : TenantLabel}
    (tidy : (self.sessions session).Tidy session self.files self.releases)
    (careful : (self.sessions session).Careful label)
    (moved : self.sessionStep session label = some after) : Effect self session after := by
  have held := tidy.held
  have sockOk := tidy.sockOk
  unfold Tenant.SockOk at sockOk
  unfold Tenant.holds at held
  cases label with
  | new dryRun =>
      cases site : (self.sessions session).site <;> simp only [sessionStep, site] at moved <;>
        cases moved
      rw [site] at sockOk
      refine .moved _ ?_ rfl ?_
      · cases dryRun <;> simp [Tenant.holds, site, sockOk.1]
      · cases dryRun <;> simp [Tenant.SockOk, sockOk.1]
  | socket =>
      cases site : (self.sessions session).site <;> simp only [sessionStep, site] at moved <;>
        cases moved
      rw [site] at sockOk
      exact .took (by rw [Tenant.holds, site]) fun _ => sockOk
  | socketFails =>
      cases site : (self.sessions session).site <;> simp only [sessionStep, site] at moved <;>
        cases moved
      rw [site] at sockOk
      have failed := attemptFailed_holds _ sockOk
      exact .moved _ (by rw [failed.1, Tenant.holds, site]) rfl failed.2
  | refused =>
      cases site : (self.sessions session).site <;> simp only [sessionStep, site] at moved <;>
        cases moved
      rw [site] at sockOk held
      have failed := attemptFailed_holds _ sockOk
      rw [sockClose_of_held (held _ rfl).1]
      exact .gave _ _ (by rw [Tenant.holds, site]) failed.1 rfl failed.2
  | assign =>
      cases site : (self.sessions session).site <;> simp only [sessionStep, site] at moved <;>
        cases moved
      exact .moved _ (by rw [Tenant.holds, Tenant.holds, site]) rfl rfl
  | established =>
      cases site : (self.sessions session).site <;> simp only [sessionStep, site] at moved <;>
        cases moved
      rw [site] at sockOk
      exact .moved _ (by rw [Tenant.holds, Tenant.holds, site]; exact sockOk) rfl trivial
  | unreachable =>
      cases site : (self.sessions session).site <;> simp only [sessionStep, site] at moved <;>
        cases moved
      rw [site] at held
      have booted : (self.sessions session).booted = true := careful
      have failed := attemptFailed_holds (self.sessions session) (by rw [booted]; simp)
      rw [sockClose_of_held (held _ rfl).1]
      exact .gave _ _ (by rw [Tenant.holds, site]) failed.1 rfl failed.2
  | handshaken =>
      cases site : (self.sessions session).site <;> simp only [sessionStep, site] at moved <;>
        cases moved
      refine .moved _ ?_ rfl ?_
      · cases booted : (self.sessions session).booted <;> simp [Tenant.holds, site]
      · cases booted : (self.sessions session).booted with
        | false => trivial
        | true => rfl
  | expired =>
      cases site : (self.sessions session).site <;> simp only [sessionStep, site] at moved <;>
        cases moved
      have booted : (self.sessions session).booted = false := careful
      refine .moved _ ?_ rfl ?_
      · simp [Tenant.holds, Tenant.attemptFailed, booted, site]
      · simp [Tenant.SockOk, Tenant.attemptFailed, booted]
  | boot =>
      cases site : (self.sessions session).site <;> simp only [sessionStep, site] at moved <;>
        cases moved
      exact .moved _ (by rw [Tenant.holds, Tenant.holds, site]) rfl rfl
  | bootFails | clear =>
      cases site : (self.sessions session).site <;> simp only [sessionStep, site] at moved <;>
        cases moved
      exact .moved _ (by rw [Tenant.holds, Tenant.holds, site]) rfl careful
  | clientClose =>
      cases site : (self.sessions session).site <;>
        cases sock : (self.sessions session).sock <;>
        simp only [sessionStep, site, sock] at moved <;> try cases moved
      rename_i fd
      rw [site] at sockOk
      by_cases received : (self.files.holder fd).any Holder.isSocket = true
      · rw [if_pos received] at moved
        cases moved
        refine .gave _ _ (by rw [Tenant.holds, site]; exact sock) rfl rfl ?_
        intro notBooted
        exact absurd (sockOk.symm.trans notBooted) (by decide)
      · rw [if_neg received] at moved
        cases moved
  | closeSock =>
      cases site : (self.sessions session).site <;> simp only [sessionStep, site] at moved <;>
        cases moved
      rw [site] at sockOk
      rcases sockOk with sock | sock <;> rw [sock]
      · exact .moved _ (by rw [Tenant.holds, Tenant.holds, site]; exact sock.symm) rfl trivial
      · exact .moved _ (by rw [Tenant.holds, Tenant.holds, site]; exact sock.symm) rfl trivial
  | free =>
      cases site : (self.sessions session).site <;> simp only [sessionStep, site] at moved <;>
        cases moved
      rw [site] at held
      cases sock : (self.sessions session).sock with
      | none => exact .moved _ (by rw [Tenant.holds, Tenant.holds, site]; exact sock.symm) rfl trivial
      | some fd =>
          rw [sockClose_of_held (held fd sock).1]
          exact .gave _ _ (by rw [Tenant.holds, site]; exact sock) rfl rfl trivial

/-- The effect of a step keeps the books of every session. -/
theorem kept_of_effect (kept : self.Kept) (effect : Effect self session after) :
    after.Kept := by
  cases effect with
  | moved tenant holds obtained sockOk =>
      refine ⟨kept.calls, fun other => ?_⟩
      rw [sessions_put]
      by_cases same : other = session
      · rw [if_pos same, same]
        exact (kept.tidy session).moved holds obtained sockOk
      · rw [if_neg same]
        exact kept.tidy other
  | took none sockOk =>
      refine ⟨kept.calls, fun other => ?_⟩
      rw [socket, sessions_put]
      by_cases same : other = session
      · rw [if_pos same, same]
        exact (kept.tidy session).took none rfl rfl (sockOk _)
      · rw [if_neg same]
        refine (kept.tidy other).frame ?_ fun _ => rfl
        intro fd number holder
        refine (Descriptors.holder_taken _ _ _).trans (if_neg ?_)
        rintro rfl
        rw [Descriptors.holder_lowest] at holder
        cases holder
  | gave tenant fd holding holds obtained sockOk =>
      have held := ((kept.tidy session).held fd holding).1
      refine ⟨?_, fun other => ?_⟩
      · intro release member
        rcases List.mem_append.mp member with earlier | last
        · exact kept.calls release earlier
        · rw [List.mem_singleton.mp last]
          exact ⟨_, held⟩
      · rw [sessions_put]
        by_cases same : other = session
        · rw [if_pos same, same]
          exact (kept.tidy session).gave holding holds obtained sockOk
        · rw [if_neg same]
          refine (kept.tidy other).frame ?_ ?_
          · intro slot number holder
            refine (Descriptors.holder_released _ _ _).trans (if_neg ?_)
            rintro rfl
            rw [held] at holder
            cases holder
            exact same rfl
          · intro number
            refine (releasesOf_append _ _ _ _).trans ?_
            rw [if_neg]
            · rfl
            · intro holder
              cases held.symm.trans holder
              exact same rfl

/-- One careful step, of a session or of anybody else. -/
theorem kept_step (label : ProcessLabel) (kept : self.Kept) (careful : self.Careful label)
    (moved : self.step label = some after) : after.Kept := by
  cases label with
  | session session label =>
      exact kept_of_effect kept (effect_of_step (kept.tidy session) careful moved)
  | otherOpens socket =>
      cases moved
      refine ⟨kept.calls, fun session => (kept.tidy session).frame ?_ fun _ => rfl⟩
      intro fd number holder
      refine (Descriptors.holder_taken _ _ _).trans (if_neg ?_)
      rintro rfl
      rw [Descriptors.holder_lowest] at holder
      cases holder
  | otherCloses fd =>
      cases holder : self.files.holder fd with
      | none =>
          simp only [step, holder] at moved
          cases moved
      | some found =>
          cases found <;> simp only [step, holder] at moved <;> cases moved
          refine ⟨kept.calls, fun session => (kept.tidy session).frame ?_ fun _ => rfl⟩
          intro other number held
          refine (Descriptors.holder_released _ _ _).trans (if_neg ?_)
          rintro rfl
          rw [holder] at held
          cases held

theorem kept_start (files : List (Option Bool)) : (start files).Kept where
  calls := fun _ member => absurd member List.not_mem_nil
  tidy := fun _ =>
    { held := fun _ impossible => nomatch impossible
      spent := fun _ positive bound => absurd positive (Nat.not_le.mpr (Nat.lt_succ_of_le bound))
      unused := fun _ _ => rfl
      sockOk := ⟨rfl, rfl⟩ }

theorem owned_of_kept (kept : self.Kept) : self.Owned where
  calls := kept.calls
  once := by
    intro session number freed positive bound
    rcases (kept.tidy session).spent number positive bound with once | ⟨_, some⟩
    · exact once
    · rw [Tenant.holds, freed] at some
      exact absurd rfl some

/-! ## Runs -/

/-- In runs of careful steps sessions release what they got, once, and nothing
else, whatever the rest of the process opens and closes meanwhile. -/
theorem owned_of_careful (files : List (Option Bool))
    (run : System.Run step Careful (start files) self) : self.Owned :=
  owned_of_kept (run.invariant Kept (fun _ label _ => kept_step label) (kept_start files))

/-- The number of a connection that its peer closed is given to somebody else
before the session connects again, a connect request gives up on a handshake,
and a session that was never connected is cleared. -/
theorem owned_of_careful_reconnect :
    Exists fun process : Process =>
      process.releases.map Release.fd = [3, 5] ∧
        (process.sessions 1).site = .freed ∧ (process.sessions 2).site = .freed ∧
        process.Owned := by
  have executed : ((System.executeWithin step Careful (start [some false, some false, some false])
      [.session 0 (.new false), .session 0 .socket, .session 0 .assign, .session 0 .established,
        .session 0 .handshaken, .session 0 .boot, .session 0 .clientClose, .otherOpens true,
        .session 0 .socket, .session 0 .assign, .session 1 (.new false), .session 1 .socket,
        .session 1 .assign, .session 1 .established, .session 1 .expired, .session 1 .free,
        .session 2 (.new true), .session 2 .boot, .session 2 .clear, .session 2 .closeSock,
        .session 2 .free]).map fun process =>
        (process.releases.map Release.fd, (process.sessions 1).site, (process.sessions 2).site)) =
      some ([3, 5], .freed, .freed) := by decide +kernel
  rcases Option.map_eq_some_iff.mp executed with ⟨process, moved, ends⟩
  have places := (Prod.mk.inj ends).2
  exact ⟨process, (Prod.mk.inj ends).1, (Prod.mk.inj places).1, (Prod.mk.inj places).2,
    owned_of_careful _ (System.run_of_executeWithin moved)⟩

/-- A clear closes the socket, a connection opened meanwhile gets its number, and
`ps_free` closes that one. -/
theorem clear_closes_another :
    Exists fun process : Process =>
      System.Run step (fun _ _ => True) (start [some false, some false, some false]) process ∧
        ¬ process.Owned := by
  have executed : ((System.execute step (start [some false, some false, some false])
      [.session 0 (.new false), .session 0 .socket, .session 0 .assign, .session 0 .established,
        .session 0 .handshaken, .session 0 .boot, .session 0 .clear, .session 0 .closeSock,
        .session 1 (.new false), .session 1 .socket, .session 0 .free]).map fun process =>
        process.releases.getLast?) = some (some ⟨0, 3, some (.session 1 1)⟩) := by decide +kernel
  rcases Option.map_eq_some_iff.mp executed with ⟨process, moved, last⟩
  refine ⟨process, System.run_of_execute (fun _ _ _ => trivial) moved, fun owned => ?_⟩
  rcases owned.calls _ (List.mem_of_getLast? last) with ⟨number, holder⟩
  cases holder

/-! ## The other steps -/

/-- A number that is free and the lowest is that of another socket by the time it
is closed, if one was opened in between. -/
theorem sockClose_stale (self : Process) (session : Nat) :
    let opened : Process := { self with files := self.files.taken (.other true) }
    (opened.sockClose session (some self.files.lowest)).files.holder self.files.lowest = none ∧
      (opened.sockClose session (some self.files.lowest)).releases =
        self.releases ++ [⟨session, self.files.lowest, some (.other true)⟩] := by
  have taken : (self.files.taken (.other true)).holder self.files.lowest = some (.other true) := by
    rw [Descriptors.holder_taken, if_pos rfl]
  refine ⟨?_, ?_⟩
  · simp only [sockClose, taken, Option.any_some, Holder.isSocket, if_true]
    exact (Descriptors.holder_released _ _ _).trans (if_pos rfl)
  · simp only [sockClose, taken]

/-- `gctl_lcm_reset` closes a positive `sock`, and `ps_free` closes it again: by
then it may be the socket of somebody else. -/
theorem free_after_clear {fd : Nat} (kept : self.Kept)
    (site : (self.sessions session).site = .clearing)
    (sock : (self.sessions session).sock = some (fd + 1))
    (below : forall lower, lower < fd + 1 -> (self.files.holder lower).isSome = true) :
    Exists fun process : Process =>
      System.execute step self
          [.session session .closeSock, .otherOpens true, .session session .free] = some process ∧
        process.files.holder (fd + 1) = none ∧
        process.releases.getLast? = some ⟨session, fd + 1, some (.other true)⟩ := by
  have held := ((kept.tidy session).held (fd + 1) (by rw [Tenant.holds, site]; exact sock)).1
  -- in front of `ps_free`
  let closed := (self.close session (fd + 1)).put session
    { self.sessions session with site := .freeing }
  have lowest : closed.files.lowest = fd + 1 := self.files.lowest_released below
  have moved : self.step (.session session .closeSock) = some closed := by
    simp only [closed, step, sessionStep, site, sock, sockClose_of_held held]
  have stale := sockClose_stale closed session
  rw [lowest] at stale
  have freed : System.execute step closed [.otherOpens true, .session session .free] =
      some (({ closed with files := closed.files.taken (.other true) }.sockClose session
        (some (fd + 1))).put session { self.sessions session with site := .freed }) := by
    simp only [closed, System.execute, step, Option.bind_some, sessionStep, sessions_put, if_true,
      sock]
  refine ⟨_, Eq.trans ?_ freed, stale.1, ?_⟩
  · rw [System.execute, moved, Option.bind_some]
  · exact (congrArg List.getLast? stale.2).trans List.getLast?_concat

end Process

end PolicyServer
