import PolicyServer.Handlers

namespace PolicyServer

open Lib

/-!
# Sessions that were freed

`lcm_getps` gives out a pointer that its caller uses without any lock, and
`gctl_lcm_reset` frees the clients one after the other while they are still in
the table.  `Undisturbed` has the steps where nobody looks up meanwhile, and
where a session is freed with nobody left in `ps_proxy` on it; in runs of these
no session is looked at after it was freed.
-/

/-- The session that a connect request has made and not stored. -/
def Stage.owns : Stage -> Option Nat
  | .connect (.admctl session _) | .connect (.boot session _) | .connect (.set session _) =>
      some session
  | _ => none

/-- The session that `ps_proxy` is about to look at. -/
def Stage.looksAt : Stage -> Option Nat
  | .gate (.handle session dryRun) => if dryRun = 1 then none else some session
  | .gate (.connection session) | .gate (.sock session) => some session
  | _ => none

/-- The session that a clear is about to free. -/
def Stage.clears : Stage -> Option Nat
  | .clear (.signal _ session _) | .clear (.join _ session _) | .clear (.free _ session) =>
      some session
  | _ => none

/-- A clear that has freed a client and not reset the count. -/
def Stage.freeing : Stage -> Bool
  | .clear (.test i) | .clear (.signal i _ _) | .clear (.join i _ _) | .clear (.free i _) =>
      decide (0 < i)
  | .clear (.null _) | .clear .reset => true
  | _ => false

namespace Server

/-- No lookup while a clear has freed a client and not reset the count, and no
session freed while a handler is in `ps_proxy` with it. -/
def Spares (self : Server) : Stage -> Prop
  | .connect (.getps _ _) | .gate (.getps _ _) =>
      forall stage, stage ∈ self.stages -> stage.freeing = false
  | .clear (.free _ session) =>
      forall stage, stage ∈ self.stages -> stage.looksAt ≠ some session
  | _ => True

def Undisturbed (self : Server) : ServerLabel -> Prop
  | .next handler _ => forall stage, stage ∈ self.stages[handler]? -> self.Spares stage
  | _ => True

section Decidability

instance (self : Server) (stage : Stage) : Decidable (self.Spares stage) :=
  match stage with
  | .connect (.getps ..) | .gate (.getps ..) =>
      inferInstanceAs (Decidable (forall stage, stage ∈ self.stages -> stage.freeing = false))
  | .clear (.free _ session) =>
      inferInstanceAs (Decidable
        (forall stage, stage ∈ self.stages -> ¬ stage.looksAt = some session))
  | .connect (.allocOk ..) | .connect (.new ..) | .connect (.admctl ..) | .connect (.boot ..)
  | .connect (.set ..) | .connect (.lockTid ..) | .connect (.answer ..)
  | .gate (.handle ..) | .gate (.connection ..) | .gate (.sock ..)
  | .clear .lock | .clear .count | .clear (.test ..) | .clear (.signal ..) | .clear (.join ..)
  | .clear (.null ..) | .clear .reset | .clear .unlock | .idle => instDecidableTrue

instance (self : Server) (label : ServerLabel) : Decidable (self.Undisturbed label) :=
  match label with
  | .next handler _ =>
      inferInstanceAs (Decidable
        (forall stage, stage ∈ self.stages[handler]? -> self.Spares stage))
  | .request _ | .thread _ => instDecidableTrue

end Decidability

/-! ## The invariant -/

/-- A session that no connect request can still throw away. -/
structure Released (server : Server) (session : Nat) : Prop where
  made : session < server.made
  unowned : forall stage, stage ∈ server.stages -> stage.owns ≠ some session

structure Clean (server : Server) : Prop where
  clients : forall session, session ∈ server.clients -> server.Released session
  looked : forall stage, stage ∈ server.stages -> forall session,
    stage.looksAt = some session -> server.Released session ∧ server.freed session = false
  cleared : forall stage, stage ∈ server.stages -> forall session,
    stage.clears = some session -> server.Released session
  owned : forall stage, stage ∈ server.stages -> forall session,
    stage.owns = some session -> session < server.made ∧ server.freed session = false
  single : forall i j session : Nat, (server.stages[i]?.bind Stage.owns) = some session ->
    (server.stages[j]?.bind Stage.owns) = some session -> i = j
  alive : forall session, session ∈ server.clients -> server.freed session = true ->
    Exists fun stage => stage ∈ server.stages ∧ stage.freeing = true
  unused : server.misused = []

theorem clean_start (maxpep : Nat) : (Server.start maxpep).Clean where
  clients := fun _ member => absurd member List.not_mem_nil
  looked := fun _ member => absurd member List.not_mem_nil
  cleared := fun _ member => absurd member List.not_mem_nil
  owned := fun _ member => absurd member List.not_mem_nil
  single := fun _ _ _ owns => nomatch owns
  alive := fun _ member => absurd member List.not_mem_nil
  unused := rfl

variable {self after : Server} {handler : Nat} {old new : Stage}

/-- Who looks at no freed session leaves no trace. -/
theorem use_unused (unused : self.misused = []) {sessions : List Nat}
    (alive : forall session, session ∈ sessions -> self.freed session = false) :
    (self.use sessions).misused = [] := by
  have none : sessions.filter self.freed = [] := by
    apply List.filter_eq_nil_iff.mpr
    intro session member freed
    rw [alive session member] at freed
    cases freed
  rw [use, unused, none, List.nil_append]

/-- The loop looks at clients only, and finds one of them. -/
theorem getpsLoop_sound (self : Server) (ip : Option String) (clients : List Nat) :
    (forall session, session ∈ (self.getpsLoop ip clients).2 -> session ∈ clients) ∧
      forall session, (self.getpsLoop ip clients).1 = some session -> session ∈ clients := by
  induction clients with
  | nil => exact ⟨fun _ member => member, fun _ found => nomatch found⟩
  | cons temp clients inductionHypothesis =>
      rw [getpsLoop]
      by_cases same : some (self.address temp) = ip
      · rw [if_pos same]
        refine ⟨?_, ?_⟩
        · intro session member
          rw [List.mem_singleton.mp member]
          exact List.mem_cons_self
        · intro session found
          rw [← Option.some.inj found]
          exact List.mem_cons_self
      · rw [if_neg same]
        refine ⟨?_, ?_⟩
        · intro session member
          rcases List.mem_cons.mp member with first | later
          · rw [first]
            exact List.mem_cons_self
          · exact List.mem_cons_of_mem _ (inductionHypothesis.1 session later)
        · intro session found
          exact List.mem_cons_of_mem _ (inductionHypothesis.2 session found)

/-! ## One step -/

theorem Released.move {session : Nat} (released : self.Released session)
    (owns : new.owns = some session -> False) (made : self.made ≤ after.made)
    (stages : after.stages = self.stages) : (after.move handler new).Released session where
  made := Nat.lt_of_lt_of_le released.made made
  unowned := by
    intro stage member
    rcases after.mem_move member with earlier | same
    · exact released.unowned stage (stages ▸ earlier)
    · rw [same]
      exact owns

/-- What a request owns after one of them has moved on. -/
theorem owns_move (here : self.stages[handler]? = some old) (stages : after.stages = self.stages)
    {i session : Nat} (owns : ((after.move handler new).stages[i]?.bind Stage.owns) = some session) :
    (i = handler ∧ new.owns = some session) ∨
      (i ≠ handler ∧ (self.stages[i]?.bind Stage.owns) = some session) := by
  change ((after.stages.set handler new)[i]?.bind Stage.owns) = some session at owns
  rw [stages] at owns
  by_cases same : handler = i
  · subst same
    rw [List.getElem?_set_self (List.getElem?_eq_some_iff.mp here).1] at owns
    exact Or.inl ⟨rfl, owns⟩
  · rw [List.getElem?_set_ne same] at owns
    exact Or.inr ⟨Ne.symm same, owns⟩

/-- A request moves on, with nothing made, stored or freed. -/
theorem Clean.next (clean : self.Clean) (here : self.stages[handler]? = some old)
    (clients : forall session, session ∈ after.clients -> session ∈ self.clients)
    (made : after.made = self.made) (freed : forall session, after.freed session = self.freed session)
    (stages : after.stages = self.stages) (misused : after.misused = [])
    (owns : forall session, new.owns = some session -> old.owns = some session)
    (looks : forall session, new.looksAt = some session ->
      self.Released session ∧ self.freed session = false)
    (clears : forall session, new.clears = some session -> self.Released session)
    (freeing : old.freeing = true -> new.freeing = true ∨ after.clients = []) :
    (after.move handler new).Clean := by
  have present := List.mem_of_getElem? here
  have released : forall {session : Nat}, self.Released session ->
      (after.move handler new).Released session := by
    intro session released
    refine released.move ?_ (Nat.le_of_eq made.symm) stages
    exact fun own => released.unowned old present (owns session own)
  refine ⟨?_, ?_, ?_, ?_, ?_, ?_, misused⟩
  · exact fun session member => released (clean.clients session (clients session member))
  · intro stage member session looking
    have both : self.Released session ∧ self.freed session = false := by
      rcases after.mem_move member with earlier | same
      · exact clean.looked stage (stages ▸ earlier) session looking
      · exact looks session (same ▸ looking)
    exact ⟨released both.1, (freed session).trans both.2⟩
  · intro stage member session clearing
    rcases after.mem_move member with earlier | same
    · exact released (clean.cleared stage (stages ▸ earlier) session clearing)
    · exact released (clears session (same ▸ clearing))
  · intro stage member session owning
    have both : session < self.made ∧ self.freed session = false := by
      rcases after.mem_move member with earlier | same
      · exact clean.owned stage (stages ▸ earlier) session owning
      · exact clean.owned old present session (owns session (same ▸ owning))
    exact ⟨Nat.lt_of_lt_of_le both.1 (Nat.le_of_eq made.symm), (freed session).trans both.2⟩
  · intro i j session first second
    have before : forall {i : Nat},
        ((after.move handler new).stages[i]?.bind Stage.owns) = some session ->
          (self.stages[i]?.bind Stage.owns) = some session := by
      intro i owning
      rcases owns_move here stages owning with ⟨rfl, own⟩ | ⟨_, earlier⟩
      · rw [here]
        exact owns session own
      · exact earlier
    exact clean.single i j session (before first) (before second)
  · intro session present' wasFreed
    have member := clients session present'
    rcases clean.alive session member ((freed session).symm.trans wasFreed) with
      ⟨stage, earlier, isFreeing⟩
    have inTable : after.clients ≠ [] := List.ne_nil_of_mem present'
    rcases mem_set_or_eq here earlier new with kept | same
    · refine ⟨stage, ?_, isFreeing⟩
      change stage ∈ after.stages.set handler new
      rw [stages]
      exact kept
    · have goesOn := (freeing (same ▸ isFreeing)).resolve_right inTable
      exact ⟨new, List.mem_of_getElem? (stage_moved (stages.symm ▸ here)), goesOn⟩

/-- A session freed that no request owns or looks at any more, and that is not in
the table, or is and the clear goes on. -/
theorem Clean.free {session : Nat} (clean : self.Clean) (here : self.stages[handler]? = some old)
    (plain : new.owns = none ∧ new.looksAt = none ∧ new.clears = none)
    (owner : forall i : Nat, (self.stages[i]?.bind Stage.owns) = some session -> i = handler)
    (looks : forall stage, stage ∈ self.stages -> stage.looksAt ≠ some session)
    (goesOn : session ∈ self.clients -> new.freeing = true)
    (freeing : old.freeing = true -> new.freeing = true) :
    ((self.free session).move handler new).Clean := by
  have present := List.mem_of_getElem? here
  have kept : forall {other : Nat}, other ≠ session ->
      (self.free session).freed other = self.freed other :=
    fun different => congrArg Peer.freed (self.mark_peers_of_ne different _)
  have released : forall {other : Nat}, self.Released other ->
      ((self.free session).move handler new).Released other := by
    intro other released
    have before : (self.free session).Released other := ⟨released.made, released.unowned⟩
    refine before.move ?_ (Nat.le_refl _) rfl
    rw [plain.1]
    exact (Option.some_ne_none _).symm
  refine ⟨?_, ?_, ?_, ?_, ?_, ?_, clean.unused⟩
  · exact fun other member => released (clean.clients other member)
  · intro stage member other looking
    rcases (self.free session).mem_move member with earlier | same
    · rcases clean.looked stage earlier other looking with ⟨was, notFreed⟩
      have different : other ≠ session := fun same => looks stage earlier (same ▸ looking)
      exact ⟨released was, (kept different).trans notFreed⟩
    · rw [same, plain.2.1] at looking
      cases looking
  · intro stage member other clearing
    rcases (self.free session).mem_move member with earlier | same
    · exact released (clean.cleared stage earlier other clearing)
    · rw [same, plain.2.2] at clearing
      cases clearing
  · intro stage member other owning
    rcases List.getElem?_of_mem member with ⟨i, entry⟩
    have owns : ((((self.free session).move handler new).stages[i]?).bind Stage.owns) =
        some other := by
      rw [entry]
      exact owning
    rcases owns_move here rfl owns with ⟨_, own⟩ | ⟨elsewhere, earlier⟩
    · rw [plain.1] at own
      cases own
    · have different : other ≠ session := by
        intro same
        subst same
        exact elsewhere (owner i earlier)
      rcases Option.bind_eq_some_iff.mp earlier with ⟨was, found, its⟩
      have both := clean.owned was (List.mem_of_getElem? found) other its
      exact ⟨both.1, (kept different).trans both.2⟩
  · intro i j other first second
    rcases owns_move here rfl first with ⟨_, own⟩ | ⟨_, first⟩
    · rw [plain.1] at own
      cases own
    · rcases owns_move here rfl second with ⟨_, own⟩ | ⟨_, second⟩
      · rw [plain.1] at own
        cases own
      · exact clean.single i j other first second
  · intro other member wasFreed
    by_cases same : other = session
    · have new := goesOn (same ▸ member)
      exact ⟨_, List.mem_of_getElem? (stage_moved here), new⟩
    · have before : self.freed other = true := (kept same).symm.trans wasFreed
      rcases clean.alive other member before with ⟨stage, earlier, isFreeing⟩
      rcases mem_set_or_eq here earlier new with still | was
      · exact ⟨stage, still, isFreeing⟩
      · exact ⟨_, List.mem_of_getElem? (stage_moved here), freeing (was ▸ isFreeing)⟩

/-- A connect request throws its session away. -/
theorem clean_discard {session : Nat} (clean : self.Clean)
    (here : self.stages[handler]? = some old) (owns : old.owns = some session)
    (freeing : old.freeing = false) : ((self.free session).move handler .idle).Clean := by
  have present := List.mem_of_getElem? here
  have own : (self.stages[handler]?.bind Stage.owns) = some session := by
    rw [here]
    exact owns
  refine clean.free here ⟨rfl, rfl, rfl⟩ ?_ ?_ ?_ ?_
  · exact fun i its => clean.single i handler session its own
  · intro stage member looking
    exact (clean.looked stage member session looking).1.unowned old present owns
  · intro member
    exact absurd owns ((clean.clients session member).unowned old present)
  · intro impossible
    rw [freeing] at impossible
    cases impossible

/-- `ps_new`: the new session is the request's. -/
theorem clean_create {ip : String} (clean : self.Clean) (here : self.stages[handler]? = some old)
    (owns : new.owns = some self.made) (plain : new.looksAt = none ∧ new.clears = none)
    (freeing : old.freeing = false) : ((self.create ip).move handler new).Clean := by
  have kept : forall {session : Nat}, session < self.made ->
      (self.create ip).freed session = self.freed session :=
    fun earlier => congrArg Peer.freed (self.create_peers_of_ne (Nat.ne_of_lt earlier) ip)
  have fresh : (self.create ip).freed self.made = false := by
    simp only [Server.freed, create, Function.update_self]
  have released : forall {session : Nat}, self.Released session ->
      ((self.create ip).move handler new).Released session := by
    intro session released
    refine released.move ?_ (Nat.le_succ _) rfl
    intro own
    have same : self.made = session := Option.some.inj (owns.symm.trans own)
    exact Nat.ne_of_gt released.made same
  refine ⟨?_, ?_, ?_, ?_, ?_, ?_, clean.unused⟩
  · exact fun session member => released (clean.clients session member)
  · intro stage member session looking
    rcases (self.create ip).mem_move member with earlier | same
    · rcases clean.looked stage earlier session looking with ⟨was, notFreed⟩
      exact ⟨released was, (kept was.made).trans notFreed⟩
    · rw [same, plain.1] at looking
      cases looking
  · intro stage member session clearing
    rcases (self.create ip).mem_move member with earlier | same
    · exact released (clean.cleared stage earlier session clearing)
    · rw [same, plain.2] at clearing
      cases clearing
  · intro stage member session owning
    rcases (self.create ip).mem_move member with earlier | same
    · rcases clean.owned stage earlier session owning with ⟨made, notFreed⟩
      exact ⟨Nat.lt_succ_of_lt made, (kept made).trans notFreed⟩
    · have made : self.made = session := Option.some.inj (owns.symm.trans (same ▸ owning))
      rw [← made]
      exact ⟨Nat.lt_succ_self _, fresh⟩
  · have older : forall {i session : Nat}, (self.stages[i]?.bind Stage.owns) = some session ->
        session ≠ self.made := by
      intro i session earlier same
      rcases Option.bind_eq_some_iff.mp earlier with ⟨was, found, its⟩
      exact Nat.ne_of_lt (clean.owned was (List.mem_of_getElem? found) session its).1 same
    intro i j session first second
    rcases owns_move here rfl first with ⟨rfl, own⟩ | ⟨_, first⟩
    · rcases owns_move here rfl second with ⟨rfl, _⟩ | ⟨_, second⟩
      · rfl
      · exact absurd (Option.some.inj (own.symm.trans owns)) (older second)
    · rcases owns_move here rfl second with ⟨_, own⟩ | ⟨_, second⟩
      · exact absurd (Option.some.inj (own.symm.trans owns)) (older first)
      · exact clean.single i j session first second
  · intro session member wasFreed
    have made := (clean.clients session member).made
    rcases clean.alive session member ((kept made).symm.trans wasFreed) with
      ⟨stage, earlier, isFreeing⟩
    rcases mem_set_or_eq here earlier new with still | was
    · exact ⟨stage, still, isFreeing⟩
    · rw [was, freeing] at isFreeing
      cases isFreeing

/-- `lcm_set`. -/
theorem clean_set {session pos : Nat} {seen : Seen} (clean : self.Clean)
    (here : self.stages[handler]? = some (.connect (.set session seen))) :
    (({ self with clients := self.clients ++ [session] } : Server).move handler
      (.connect (.lockTid session pos))).Clean := by
  have moved : (self.move handler (.connect (.lockTid session pos))).Clean := by
    refine clean.next here (fun _ member => member) rfl (fun _ => rfl) rfl clean.unused ?_ ?_ ?_ ?_
    · exact fun _ owns => nomatch owns
    · exact fun _ looks => nomatch looks
    · exact fun _ clears => nomatch clears
    · exact fun impossible => nomatch impossible
  have owned := clean.owned _ (List.mem_of_getElem? here) session rfl
  have own : (self.stages[handler]?.bind Stage.owns) = some session := by
    rw [here]
    rfl
  have released : (self.move handler (.connect (.lockTid session pos))).Released session := by
    refine ⟨owned.1, ?_⟩
    intro stage member owns
    rcases List.getElem?_of_mem member with ⟨i, entry⟩
    have its : (((self.move handler (.connect (.lockTid session pos))).stages[i]?).bind
        Stage.owns) = some session := by
      rw [entry]
      exact owns
    rcases owns_move here rfl its with ⟨_, impossible⟩ | ⟨elsewhere, earlier⟩
    · cases impossible
    · exact elsewhere (clean.single i handler session earlier own)
  refine ⟨?_, ?_, ?_, moved.owned, moved.single, ?_, moved.unused⟩
  · intro other member
    rcases List.mem_append.mp member with earlier | new
    · exact ⟨(moved.clients other earlier).made, (moved.clients other earlier).unowned⟩
    · rw [List.mem_singleton.mp new]
      exact ⟨released.made, released.unowned⟩
  · intro stage member other looking
    have both := moved.looked stage member other looking
    exact ⟨⟨both.1.made, both.1.unowned⟩, both.2⟩
  · intro stage member other clearing
    have its := moved.cleared stage member other clearing
    exact ⟨its.made, its.unowned⟩
  · intro other member wasFreed
    rcases List.mem_append.mp member with earlier | new
    · exact moved.alive other earlier wasFreed
    · rw [List.mem_singleton.mp new] at wasFreed
      cases owned.2.symm.trans wasFreed

/-- A request that goes on with no session, or with the one it owns. -/
theorem Clean.pass (clean : self.Clean) (here : self.stages[handler]? = some old)
    (clients : after.clients = self.clients) (made : after.made = self.made)
    (freed : forall session, after.freed session = self.freed session)
    (stages : after.stages = self.stages) (misused : after.misused = [])
    (owns : forall session, new.owns = some session -> old.owns = some session)
    (plain : new.looksAt = none ∧ new.clears = none) (freeing : old.freeing = false) :
    (after.move handler new).Clean := by
  refine clean.next here (fun _ member => clients ▸ member) made freed stages misused owns ?_ ?_ ?_
  · intro session looking
    rw [plain.1] at looking
    cases looking
  · intro session clearing
    rw [plain.2] at clearing
    cases clearing
  · intro impossible
    rw [freeing] at impossible
    cases impossible

/-- While no clear is freeing, a lookup finds no session that was freed. -/
theorem Clean.getps (clean : self.Clean)
    (spares : forall stage, stage ∈ self.stages -> stage.freeing = false) (ip : Option String) :
    (self.use (self.getps ip).2).misused = [] ∧
      forall session, (self.getps ip).1 = some session ->
        self.Released session ∧ self.freed session = false := by
  have alive : forall session, session ∈ self.clients -> self.freed session = false := by
    intro session member
    by_contra wasFreed
    rcases clean.alive session member (Bool.not_eq_false _ ▸ wasFreed) with ⟨stage, present, is⟩
    rw [spares stage present] at is
    cases is
  have sound := self.getpsLoop_sound ip self.clients
  refine ⟨use_unused clean.unused fun session member => alive session (sound.1 session member), ?_⟩
  intro session found
  exact ⟨clean.clients session (sound.2 session found), alive session (sound.2 session found)⟩

theorem clean_connect {stage : ConnectStage} {well : Bool} (clean : self.Clean)
    (here : self.stages[handler]? = some (.connect stage)) (spares : self.Spares (.connect stage))
    (moved : self.connectNext handler well stage = some after) : after.Clean := by
  have plain : forall {new : Stage}, new.owns = none -> new.looksAt = none ∧ new.clears = none ->
      (self.move handler new).Clean := by
    intro new owns plain
    refine clean.pass here rfl rfl (fun _ => rfl) rfl clean.unused ?_ plain rfl
    intro session own
    rw [owns] at own
    cases own
  cases stage with
  | getps ip dryRun =>
      cases moved
      refine clean.pass here rfl rfl (fun _ => rfl) rfl (clean.getps spares _).1 ?_ ?_ rfl
      · cases (self.getps (some ip)).1.isSome <;> exact fun _ owns => nomatch owns
      · cases (self.getps (some ip)).1.isSome <;> exact ⟨rfl, rfl⟩
  | allocOk ip dryRun looked =>
      cases moved
      split
      · exact plain rfl ⟨rfl, rfl⟩
      · exact plain rfl ⟨rfl, rfl⟩
  | new ip dryRun seen =>
      cases well with
      | false =>
          cases moved
          exact plain rfl ⟨rfl, rfl⟩
      | true =>
          cases moved
          cases dryRun with
          | true => exact clean_create clean here rfl ⟨rfl, rfl⟩ rfl
          | false => exact clean_create clean here rfl ⟨rfl, rfl⟩ rfl
  | admctl session seen =>
      cases well with
      | true =>
          cases moved
          refine clean.pass here rfl rfl ?_ rfl clean.unused ?_ ⟨rfl, rfl⟩ rfl
          · exact fun _ => rfl
          · exact fun _ owns => owns
      | false =>
          cases moved
          exact clean_discard clean here rfl rfl
  | boot session seen =>
      cases well with
      | true =>
          cases moved
          refine clean.pass here rfl rfl ?_ rfl clean.unused ?_ ⟨rfl, rfl⟩ rfl
          · exact fun other => self.mark_kept session other fun _ => rfl
          · exact fun _ owns => owns
      | false =>
          cases moved
          exact clean_discard clean here rfl rfl
  | set session seen =>
      cases moved
      exact clean_set clean here
  | lockTid session pos =>
      simp only [connectNext] at moved
      split at moved
      · cases moved
        refine clean.pass here rfl rfl (fun _ => rfl) rfl clean.unused ?_ ⟨rfl, rfl⟩ rfl
        exact fun _ owns => nomatch owns
      · cases moved
  | answer session =>
      cases moved
      exact plain rfl ⟨rfl, rfl⟩

theorem clean_gate {stage : GateStage} {well : Bool} (clean : self.Clean)
    (here : self.stages[handler]? = some (.gate stage)) (spares : self.Spares (.gate stage))
    (moved : self.gateNext handler well stage = some after) : after.Clean := by
  have looked := clean.looked _ (List.mem_of_getElem? here)
  -- the session of the request, if it looks at one, was not freed
  have goes : forall {used : List Nat} {new : Stage}, (self.use used).misused = [] ->
      new.owns = none ∧ new.clears = none ->
        (forall session, new.looksAt = some session ->
          self.Released session ∧ self.freed session = false) ->
        ((self.use used).move handler new).Clean := by
    rintro used new unused ⟨owns, clears⟩ looks
    refine clean.next here (fun _ member => member) rfl (fun _ => rfl) rfl unused ?_ looks ?_ ?_
    · intro session own
      rw [owns] at own
      cases own
    · intro session clearing
      rw [clears] at clearing
      cases clearing
    · exact fun impossible => nomatch impossible
  have one : forall {session : Nat}, self.freed session = false ->
      (self.use [session]).misused = [] := by
    intro session notFreed
    refine use_unused clean.unused ?_
    intro other member
    rw [List.mem_singleton.mp member]
    exact notFreed
  cases stage with
  | getps ip dryRun =>
      cases moved
      rcases clean.getps spares ip with ⟨unused, found⟩
      cases result : (self.getps ip).1 with
      | none => exact goes unused ⟨rfl, rfl⟩ fun _ looks => nomatch looks
      | some session =>
          refine goes unused ⟨rfl, rfl⟩ ?_
          intro other looks
          simp only [Stage.looksAt] at looks
          split at looks
          · cases looks
          · cases looks
            exact found session result
  | handle session dryRun =>
      cases moved
      by_cases dry : dryRun = 1
      · subst dry
        exact goes (use_unused clean.unused fun _ member => nomatch member) ⟨rfl, rfl⟩
          fun _ looks => nomatch looks
      · have both := looked session (if_neg dry)
        rw [if_neg dry]
        by_cases sends : dryRun = 0
        · rw [if_pos sends]
          exact goes (one both.2) ⟨rfl, rfl⟩ fun _ looks => Option.some.inj looks ▸ both
        · rw [if_neg sends]
          exact goes (one both.2) ⟨rfl, rfl⟩ fun _ looks => nomatch looks
  | connection session =>
      have both := looked session rfl
      cases moved
      cases well with
      | true => exact goes (one both.2) ⟨rfl, rfl⟩ fun _ looks => Option.some.inj looks ▸ both
      | false => exact goes (one both.2) ⟨rfl, rfl⟩ fun _ looks => nomatch looks
  | sock session =>
      have both := looked session rfl
      cases moved
      exact goes (one both.2) ⟨rfl, rfl⟩ fun _ looks => nomatch looks

theorem clean_clear {stage : ClearStage} (clean : self.Clean)
    (here : self.stages[handler]? = some (.clear stage)) (spares : self.Spares (.clear stage))
    (moved : self.clearNext handler stage = some after) : after.Clean := by
  have cleared := clean.cleared _ (List.mem_of_getElem? here)
  have goes : forall {after : Server} {new : Stage},
      (forall session, session ∈ after.clients -> session ∈ self.clients) ->
        after.made = self.made -> (forall session, after.freed session = self.freed session) ->
        after.stages = self.stages -> after.misused = self.misused ->
        new.owns = none ∧ new.looksAt = none ->
        (forall session, new.clears = some session -> self.Released session) ->
        (Stage.freeing (.clear stage) = true -> new.freeing = true ∨ after.clients = []) ->
        (after.move handler new).Clean := by
    rintro after new clients made freed stages misused ⟨owns, looks⟩ clears freeing
    refine clean.next here clients made freed stages (misused.trans clean.unused) ?_ ?_ clears freeing
    · intro session own
      rw [owns] at own
      cases own
    · intro session looking
      rw [looks] at looking
      cases looking
  have same : forall session, session ∈ self.clients -> session ∈ self.clients := fun _ => id
  have still : forall {after : Server} {new : Stage}, after.clients = self.clients ->
      after.made = self.made -> after.freed = self.freed -> after.stages = self.stages ->
        after.misused = self.misused -> new.owns = none ∧ new.looksAt = none ∧ new.clears = none ->
          Stage.freeing (.clear stage) = false -> (after.move handler new).Clean := by
    rintro after new clients made freed stages misused ⟨owns, looks, clears⟩ quiet
    refine goes (clients ▸ same) made (congrFun freed) stages misused ⟨owns, looks⟩ ?_ ?_
    · intro session clearing
      rw [clears] at clearing
      cases clearing
    · intro freeing
      rw [quiet] at freeing
      cases freeing
  cases stage with
  | lock =>
      simp only [clearNext] at moved
      split at moved
      · cases moved
        exact still rfl rfl rfl rfl rfl ⟨rfl, rfl, rfl⟩ rfl
      · cases moved
  | count =>
      simp only [clearNext] at moved
      split at moved
      · cases moved
        exact still rfl rfl rfl rfl rfl ⟨rfl, rfl, rfl⟩ rfl
      · cases moved
        exact still rfl rfl rfl rfl rfl ⟨rfl, rfl, rfl⟩ rfl
  | test i =>
      simp only [clearNext] at moved
      split at moved
      · rename_i session entry
        cases moved
        refine goes same rfl (fun _ => rfl) rfl rfl ⟨rfl, rfl⟩ ?_ Or.inl
        intro other clears
        rw [← Option.some.inj clears]
        exact clean.clients session (List.mem_of_getElem? entry)
      · cases moved
        refine goes same rfl (fun _ => rfl) rfl rfl ⟨rfl, rfl⟩ ?_ fun _ => Or.inl rfl
        exact fun _ clears => nomatch clears
  | signal i session thread =>
      have kept : forall other, (self.mark session fun peer => { peer with die := true }).freed other =
          self.freed other := fun other => self.mark_kept session other fun _ => rfl
      cases moved
      exact goes same rfl kept rfl rfl ⟨rfl, rfl⟩ cleared Or.inl
  | join i session thread =>
      cases thread with
      | zero => cases moved
      | succ thread =>
          simp only [clearNext] at moved
          split at moved
          · cases moved
            refine goes same rfl ?_ rfl rfl ⟨rfl, rfl⟩ cleared Or.inl
            exact fun other => self.mark_kept thread other fun _ => rfl
          · cases moved
  | free i session =>
      cases moved
      have released := cleared session rfl
      refine clean.free here ⟨rfl, rfl, rfl⟩ ?_ spares (fun _ => rfl) (fun _ => rfl)
      intro j owning
      rcases Option.bind_eq_some_iff.mp owning with ⟨stage, found, owns⟩
      exact absurd owns (released.unowned stage (List.mem_of_getElem? found))
  | null i =>
      cases moved
      refine goes same rfl (fun _ => rfl) rfl rfl ⟨rfl, rfl⟩ ?_ fun _ => Or.inl ?_
      · exact fun _ clears => nomatch clears
      · exact decide_eq_true (Nat.succ_pos i)
  | reset =>
      cases moved
      refine goes ?_ rfl (fun _ => rfl) rfl rfl ⟨rfl, rfl⟩ ?_ fun _ => Or.inr rfl
      · exact fun _ member => absurd member List.not_mem_nil
      · exact fun _ clears => nomatch clears
  | unlock =>
      cases moved
      exact still rfl rfl rfl rfl rfl ⟨rfl, rfl, rfl⟩ rfl

/-! ## Runs -/

/-- A request that comes in has no session yet. -/
theorem accept_plain (call : ApiCall) :
    (accept call).owns = none ∧ (accept call).looksAt = none ∧ (accept call).clears = none := by
  cases call with
  | connect ip dryRun =>
      rw [accept]
      split
      · exact ⟨rfl, rfl, rfl⟩
      · exact ⟨rfl, rfl, rfl⟩
  | gate ip dryRun => exact ⟨rfl, rfl, rfl⟩
  | clear => exact ⟨rfl, rfl, rfl⟩

theorem clean_request (clean : self.Clean) (call : ApiCall) :
    ({ self with stages := self.stages ++ [accept call] } : Server).Clean := by
  rcases accept_plain call with ⟨owns, looks, clears⟩
  have released : forall {session : Nat}, self.Released session ->
      ({ self with stages := self.stages ++ [accept call] } : Server).Released session := by
    intro session released
    refine ⟨released.made, ?_⟩
    intro stage member
    rcases List.mem_append.mp member with earlier | new
    · exact released.unowned stage earlier
    · rw [List.mem_singleton.mp new, owns]
      exact (Option.some_ne_none _).symm
  have before : forall {i session : Nat},
      ((self.stages ++ [accept call])[i]?.bind Stage.owns) = some session ->
        (self.stages[i]?.bind Stage.owns) = some session := by
    intro i session owning
    by_cases inside : i < self.stages.length
    · rw [List.getElem?_append_left inside] at owning
      exact owning
    · rw [List.getElem?_append_right (Nat.le_of_not_lt inside)] at owning
      rcases Option.bind_eq_some_iff.mp owning with ⟨stage, found, its⟩
      rw [List.mem_singleton.mp (List.mem_of_getElem? found), owns] at its
      cases its
  refine ⟨?_, ?_, ?_, ?_, ?_, ?_, clean.unused⟩
  · exact fun session member => released (clean.clients session member)
  · intro stage member session looking
    rcases List.mem_append.mp member with earlier | new
    · have both := clean.looked stage earlier session looking
      exact ⟨released both.1, both.2⟩
    · rw [List.mem_singleton.mp new, looks] at looking
      cases looking
  · intro stage member session clearing
    rcases List.mem_append.mp member with earlier | new
    · exact released (clean.cleared stage earlier session clearing)
    · rw [List.mem_singleton.mp new, clears] at clearing
      cases clearing
  · intro stage member session owning
    rcases List.mem_append.mp member with earlier | new
    · exact clean.owned stage earlier session owning
    · rw [List.mem_singleton.mp new, owns] at owning
      cases owning
  · exact fun i j session first second => clean.single i j session (before first) (before second)
  · intro session member wasFreed
    rcases clean.alive session member wasFreed with ⟨stage, earlier, isFreeing⟩
    exact ⟨stage, List.mem_append_left _ earlier, isFreeing⟩

/-- A thread that ends. -/
theorem clean_ends (clean : self.Clean) (session : Nat) :
    (self.mark session fun peer => { peer with ended := true }).Clean := by
  have freed : forall other,
      (self.mark session fun peer => { peer with ended := true }).freed other = self.freed other :=
    fun other => self.mark_kept session other fun _ => rfl
  have released : forall {other : Nat}, self.Released other ->
      (self.mark session fun peer => { peer with ended := true }).Released other :=
    fun released => ⟨released.made, released.unowned⟩
  refine ⟨?_, ?_, ?_, ?_, clean.single, ?_, clean.unused⟩
  · exact fun other member => released (clean.clients other member)
  · intro stage member other looking
    have both := clean.looked stage member other looking
    exact ⟨released both.1, (freed other).trans both.2⟩
  · exact fun stage member other clearing => released (clean.cleared stage member other clearing)
  · intro stage member other owning
    have both := clean.owned stage member other owning
    exact ⟨both.1, (freed other).trans both.2⟩
  · exact fun other member wasFreed => clean.alive other member ((freed other).symm.trans wasFreed)

theorem clean_step {label : ServerLabel} (clean : self.Clean) (undisturbed : self.Undisturbed label)
    (moved : self.step label = some after) : after.Clean := by
  cases label with
  | request call =>
      cases moved
      exact clean_request clean call
  | next handler well =>
      simp only [step, handlerNext] at moved
      cases here : self.stages[handler]? with
      | none =>
          rw [here] at moved
          cases moved
      | some stage =>
          have spares := undisturbed stage here
          rw [here] at moved
          cases stage with
          | idle => cases moved
          | connect stage => exact clean_connect clean here spares moved
          | gate stage => exact clean_gate clean here spares moved
          | clear stage => exact clean_clear clean here spares moved
  | thread session =>
      simp only [step] at moved
      split at moved
      · cases moved
        split
        · exact clean_ends clean session
        · exact clean
      · cases moved

end Server

/-- In an undisturbed run neither `lcm_getps` nor `ps_proxy` looks at a session
that was freed. -/
theorem unused_of_undisturbed {maxpep : Nat} {server : Server}
    (reached : System.Run Server.step Server.Undisturbed (.start maxpep) server) :
    server.misused = [] := by
  have clean : server.Clean :=
    reached.invariant _
      (fun _ _ _ clean undisturbed moved => Server.clean_step clean undisturbed moved)
      (Server.clean_start maxpep)
  exact clean.unused

/-- A table of one client, with the requests that follow. -/
def afterConnect (labels : List ServerLabel) : List ServerLabel :=
  .request (.connect "10.0.0.1" true) :: List.replicate 7 (.next 0 true) ++ labels

/-- A gate request that is sent. -/
def gateRequest (ip : String) : ServerLabel := .request (.gate (some ip) 0)

theorem unused_gate_clear :
    Exists fun server : Server =>
      server.clients = [] ∧ server.freed 0 = true ∧ server.misused = [] := by
  have executed := (rfl : (System.executeWithin Server.step Server.Undisturbed (.start 4)
    (afterConnect ([gateRequest "10.0.0.1", .request .clear, .next 1 true, .next 2 true,
      .next 1 true, .next 2 true, .next 1 true, .next 1 true, .next 2 true, .next 2 true,
      .thread 0] ++ List.replicate 6 (.next 2 true)))).map
        (fun server => (server.clients, server.freed 0)) = some ([], true))
  rcases Option.map_eq_some_iff.mp executed with ⟨server, executed, same⟩
  rcases Prod.mk.inj same with ⟨clients, freed⟩
  exact ⟨server, clients, freed, unused_of_undisturbed (System.run_of_executeWithin executed)⟩

/-- A clear between a lookup and `ps_proxy`, and a lookup while a clear is in its
loop. -/
theorem freed_session_used :
    (Exists fun server => System.execute Server.step (.start 4)
        (afterConnect ([gateRequest "10.0.0.1", .next 1 true, .request .clear, .next 2 true,
          .next 2 true, .next 2 true, .next 2 true, .thread 0] ++
            List.replicate 6 (.next 2 true) ++ [.next 1 true])) = some server ∧
      server.misused = [0]) ∧
    Exists fun server => System.execute Server.step (.start 4)
        (afterConnect ([.request .clear, .next 1 true, .next 1 true, .next 1 true, .next 1 true,
          .thread 0, .next 1 true, .next 1 true, gateRequest "10.0.0.1", .next 2 true])) =
            some server ∧
      server.misused = [0] :=
  ⟨⟨_, rfl, rfl⟩, ⟨_, rfl, rfl⟩⟩

end PolicyServer
