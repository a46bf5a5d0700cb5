import PolicyServer.Handlers
import PolicyServer.Lib.Disk

namespace PolicyServer

open Lib

/-!
# Connects side by side

The lookup, the question for room and `lcm_set` are three sections of
`lcm_internal_lock`, with a handshake in front of the last.  What the first two
found may be out of date by then: another request may have stored the same
address, or filled the table.  `Timely` has the steps where this did not happen;
`connects_set_iff` is that these, and no others, keep the table a set within its
limit.
-/

/-- No address twice, and no more than the limit. -/
structure Lcm.IsSet (lcm : Lcm) : Prop where
  distinct : (lcm.clients.map Client.cmtsAddr).Nodup
  within : lcm.count ≤ lcm.maxpep

/-- Requests to connect and their steps. -/
def ServerLabel.Connects : ServerLabel -> Prop
  | .request (.connect _ _) => True
  | .request _ => False
  | .next _ _ => True
  | .thread _ => True

/-- A request stores its session while no session with this address was stored
since its lookup, and fewer were stored since it asked for room than there was
room for. -/
def Server.StoresInTime (self : Server) : Stage -> Prop
  | .connect (.set session seen) =>
      (forall other, other ∈ self.clients.drop seen.looked ->
          self.address other ≠ self.address session) ∧
        (self.clients.drop seen.asked).length < self.maxpep - seen.asked
  | _ => True

def Server.Timely (self : Server) : ServerLabel -> Prop
  | .next handler _ => forall stage, stage ∈ self.stages[handler]? -> self.StoresInTime stage
  | _ => True

section Decidability

instance (label : ServerLabel) : Decidable label.Connects :=
  match label with
  | .request (.connect _ _) | .next _ _ | .thread _ => instDecidableTrue
  | .request (.gate _ _) | .request .clear => instDecidableFalse

instance (self : Server) (stage : Stage) : Decidable (self.StoresInTime stage) :=
  match stage with
  | .connect (.set session seen) =>
      inferInstanceAs (Decidable
        ((forall other, other ∈ self.clients.drop seen.looked ->
            self.address other ≠ self.address session) ∧
          (self.clients.drop seen.asked).length < self.maxpep - seen.asked))
  | .connect (.getps ..) | .connect (.allocOk ..) | .connect (.new ..) | .connect (.admctl ..)
  | .connect (.boot ..) | .connect (.lockTid ..) | .connect (.answer ..)
  | .idle | .gate _ | .clear _ => instDecidableTrue

instance decidableServerTimely (self : Server) (label : ServerLabel) :
    Decidable (self.Timely label) :=
  match label with
  | .next handler _ =>
      inferInstanceAs (Decidable
        (forall stage, stage ∈ self.stages[handler]? -> self.StoresInTime stage))
  | .request _ | .thread _ => instDecidableTrue

end Decidability

/-! ## The invariant -/

/-- An address was not there when the first `looked` clients were looked at. -/
structure Server.Looked (server : Server) (ip : String) (looked : Nat) : Prop where
  earlier : looked ≤ server.clients.length
  absent : forall session, session ∈ server.clients.take looked -> server.address session ≠ ip

/-- What a connect request knows. -/
def Server.Knows (self : Server) : Stage -> Prop
  | .idle | .connect (.getps _ _) | .connect (.lockTid _ _) | .connect (.answer _) => True
  | .connect (.allocOk ip _ looked) => self.Looked ip looked
  | .connect (.new ip _ seen) =>
      self.Looked ip seen.looked ∧ seen.asked ≤ self.clients.length
  | .connect (.admctl session seen) | .connect (.boot session seen)
  | .connect (.set session seen) =>
      session < self.made ∧ self.Looked (self.address session) seen.looked ∧
        seen.asked ≤ self.clients.length
  | .gate _ | .clear _ => False

structure Server.Orderly (server : Server) : Prop where
  known : forall session, session ∈ server.clients -> session < server.made
  isSet : server.lcm.IsSet
  knows : forall stage, stage ∈ server.stages -> server.Knows stage

theorem orderly_start (maxpep : Nat) : (Server.start maxpep).Orderly where
  known := fun _ member => absurd member List.not_mem_nil
  isSet := ⟨List.nodup_nil, Nat.zero_le _⟩
  knows := fun _ member => absurd member List.not_mem_nil

/-- What a step may do to what the requests know: sessions are made and stored. -/
structure Server.Grows (server after : Server) : Prop where
  clients : Exists fun more => after.clients = server.clients ++ more
  made : server.made ≤ after.made
  address : forall session, session < server.made ->
    after.address session = server.address session

/-- A step that stores nothing. -/
structure Server.Steady (server after : Server) : Prop extends server.Grows after where
  same : after.clients = server.clients
  maxpep : after.maxpep = server.maxpep
  stages : after.stages = server.stages

namespace Server

variable {self after : Server} {handler : Nat}

theorem Steady.of_same (clients : after.clients = self.clients) (made : after.made = self.made)
    (peers : after.peers = self.peers) (maxpep : after.maxpep = self.maxpep)
    (stages : after.stages = self.stages) : self.Steady after where
  clients := ⟨[], by rw [clients, List.append_nil]⟩
  made := Nat.le_of_eq made.symm
  address := fun session _ => congrArg (fun all => (all session).cmtsAddr) peers
  same := clients
  maxpep := maxpep
  stages := stages

/-- A change of a session that leaves its address. -/
theorem Steady.of_mark (self : Server) (session : Nat) {change : Peer -> Peer}
    (kept : forall peer, (change peer).cmtsAddr = peer.cmtsAddr) :
    self.Steady (self.mark session change) where
  clients := ⟨[], (List.append_nil _).symm⟩
  made := Nat.le_refl _
  address := fun other _ => self.mark_kept session other kept
  same := rfl
  maxpep := rfl
  stages := rfl

theorem Steady.of_create (self : Server) (ip : String) : self.Steady (self.create ip) where
  clients := ⟨[], (List.append_nil _).symm⟩
  made := Nat.le_succ _
  address := fun _ earlier =>
    congrArg Peer.cmtsAddr (self.create_peers_of_ne (Nat.ne_of_lt earlier) ip)
  same := rfl
  maxpep := rfl
  stages := rfl

theorem Looked.grows {ip : String} {looked : Nat} (absent : self.Looked ip looked)
    (known : forall session, session ∈ self.clients -> session < self.made)
    (grows : self.Grows after) : after.Looked ip looked := by
  rcases grows.clients with ⟨more, clients⟩
  refine ⟨?_, ?_⟩
  · rw [clients, List.length_append]
    exact Nat.le_add_right_of_le absent.earlier
  · intro session member
    rw [clients, List.take_append_of_le_length absent.earlier] at member
    rw [grows.address session (known session (List.mem_of_mem_take member))]
    exact absent.absent session member

theorem Knows.grows {stage : Stage} (knows : self.Knows stage)
    (known : forall session, session ∈ self.clients -> session < self.made)
    (grows : self.Grows after) : after.Knows stage := by
  have longer : self.clients.length ≤ after.clients.length := by
    rcases grows.clients with ⟨more, clients⟩
    rw [clients, List.length_append]
    exact Nat.le_add_right _ _
  have own : forall {session : Nat} {seen : Seen},
      (session < self.made ∧ self.Looked (self.address session) seen.looked ∧
        seen.asked ≤ self.clients.length) ->
      session < after.made ∧ after.Looked (after.address session) seen.looked ∧
        seen.asked ≤ after.clients.length := by
    rintro session seen ⟨made, looked, asked⟩
    rw [grows.address session made]
    exact ⟨Nat.lt_of_lt_of_le made grows.made, looked.grows known grows, Nat.le_trans asked longer⟩
  cases stage with
  | idle => trivial
  | gate => exact knows
  | clear => exact knows
  | connect stage =>
      cases stage with
      | getps | lockTid | answer => trivial
      | allocOk ip dryRun looked => exact Looked.grows knows known grows
      | new ip dryRun seen =>
          exact ⟨knows.1.grows known grows, Nat.le_trans knows.2 longer⟩
      | admctl session seen | boot session seen | set session seen => exact own knows

/-- What a step keeps, if every request still knows what it did or what its new
stage takes. -/
theorem Orderly.grows (orderly : self.Orderly) (grows : self.Grows after) (isSet : after.lcm.IsSet)
    (known : forall session, session ∈ after.clients -> session < after.made)
    (stages : forall stage, stage ∈ after.stages -> stage ∈ self.stages ∨ after.Knows stage) :
    after.Orderly where
  known := known
  isSet := isSet
  knows := by
    intro stage member
    rcases stages stage member with earlier | knows
    · exact (orderly.knows stage earlier).grows orderly.known grows
    · exact knows

/-- It keeps the invariant. -/
theorem Orderly.steady (orderly : self.Orderly) (steady : self.Steady after) :
    after.Orderly := by
  have lcm : after.lcm = self.lcm := by
    rw [lcm, lcm, steady.same, steady.maxpep]
    congr 1
    apply List.map_congr_left
    intro session member
    rw [steady.address session (orderly.known session member)]
  refine orderly.grows steady.toGrows (lcm ▸ orderly.isSet) ?_ ?_
  · intro session member
    rw [steady.same] at member
    exact Nat.lt_of_lt_of_le (orderly.known session member) steady.made
  · exact fun stage member => Or.inl (steady.stages ▸ member)

/-- A handler goes on to a stage for which it knows enough. -/
theorem Orderly.move (orderly : self.Orderly) {stage : Stage} (knows : self.Knows stage) :
    (self.move handler stage).Orderly := by
  have grows : self.Grows (self.move handler stage) :=
    ⟨⟨[], (List.append_nil _).symm⟩, Nat.le_refl _, fun _ _ => rfl⟩
  refine orderly.grows grows orderly.isSet orderly.known ?_
  intro other member
  rcases self.mem_move member with earlier | same
  · exact Or.inl earlier
  · rw [same]
    exact Or.inr (knows.grows orderly.known grows)

theorem Orderly.next (orderly : self.Orderly) (steady : self.Steady after) {stage : Stage}
    (knows : after.Knows stage) : (after.move handler stage).Orderly :=
  (orderly.steady steady).move knows

theorem getpsLoop_absent {ip : String} {clients : List Nat}
    (absent : (self.getpsLoop (some ip) clients).1.isSome = false) :
    forall session, session ∈ clients -> self.address session ≠ ip := by
  induction clients with
  | nil =>
      intro session member
      cases member
  | cons temp clients inductionHypothesis =>
      rw [getpsLoop] at absent
      by_cases same : some (self.address temp) = some ip
      · rw [if_pos same] at absent
        cases absent
      · rw [if_neg same] at absent
        intro session member
        rcases List.mem_cons.mp member with head | rest
        · rw [head]
          exact fun equal => same (congrArg some equal)
        · exact inductionHypothesis absent session rest

/-- What `lcm_set` makes of the table. -/
theorem isSet_append {session : Nat} (isSet : self.lcm.IsSet) :
    ({ self with clients := self.clients ++ [session] } : Server).lcm.IsSet ↔
      (forall other, other ∈ self.clients -> self.address other ≠ self.address session) ∧
        self.clients.length < self.maxpep := by
  have addresses :
      ({ self with clients := self.clients ++ [session] } : Server).lcm.clients.map
          Client.cmtsAddr =
        self.clients.map self.address ++ [self.address session] := by
    simp only [lcm, List.map_append, List.map_map, List.map_cons, List.map_nil]
    rfl
  have earlier : (self.clients.map self.address).Nodup := by
    have distinct := isSet.distinct
    simp only [lcm, List.map_map] at distinct
    exact distinct
  have count : ({ self with clients := self.clients ++ [session] } : Server).lcm.count =
      self.clients.length + 1 := by
    simp only [lcm, Lcm.count, List.length_map, List.length_append, List.length_singleton]
  have new : self.address session ∉ self.clients.map self.address ↔
      forall other, other ∈ self.clients -> self.address other ≠ self.address session := by
    rw [List.mem_map]
    constructor
    · intro missing other member same
      exact missing ⟨other, member, same⟩
    · rintro different ⟨other, member, same⟩
      exact different other member same
  constructor
  · intro after
    have distinct := after.distinct
    have within := after.within
    rw [addresses, List.nodup_append] at distinct
    rw [count] at within
    refine ⟨new.mp ?_, within⟩
    intro member
    exact distinct.2.2 _ member _ (List.mem_singleton.mpr rfl) rfl
  · rintro ⟨different, room⟩
    refine ⟨?_, ?_⟩
    · rw [addresses, List.nodup_append]
      refine ⟨earlier, List.nodup_cons.mpr ⟨List.not_mem_nil, List.nodup_nil⟩, ?_⟩
      intro ip member other single same
      rw [List.mem_singleton.mp single] at same
      exact new.mpr different (same ▸ member)
    · rw [count]
      exact room

/-- What a request found earlier still holds exactly if it stores in time. -/
theorem timely_set_iff {session : Nat} {seen : Seen} {well : Bool}
    (stage : self.stages[handler]? = some (.connect (.set session seen)))
    (looked : self.Looked (self.address session) seen.looked)
    (asked : seen.asked ≤ self.clients.length) :
    self.Timely (.next handler well) ↔
      (forall other, other ∈ self.clients -> self.address other ≠ self.address session) ∧
        self.clients.length < self.maxpep := by
  simp only [Timely, stage, Option.mem_def, Option.some.injEq, forall_eq', StoresInTime,
    List.length_drop]
  have room : self.clients.length - seen.asked < self.maxpep - seen.asked ↔
      self.clients.length < self.maxpep := by omega
  rw [room]
  constructor
  · rintro ⟨later, less⟩
    refine ⟨?_, less⟩
    intro other member
    rw [← List.take_append_drop seen.looked self.clients] at member
    rcases List.mem_append.mp member with first | rest
    · exact looked.absent other first
    · exact later other rest
  · rintro ⟨different, less⟩
    exact ⟨fun other member => different other (List.mem_of_mem_drop member), less⟩

/-- `lcm_set`. -/
theorem orderly_set {session : Nat} {seen : Seen} {well : Bool} (orderly : self.Orderly)
    (stage : self.stages[handler]? = some (.connect (.set session seen)))
    (moved : self.connectNext handler well (.set session seen) = some after) :
    (after.lcm.IsSet ↔ self.Timely (.next handler well)) ∧
      (self.Timely (.next handler well) -> after.Orderly) := by
  rcases orderly.knows _ (List.mem_of_getElem? stage) with ⟨made, looked, asked⟩
  have kept : after.lcm.IsSet ↔ self.Timely (.next handler well) := by
    rw [timely_set_iff stage looked asked, ← isSet_append orderly.isSet]
    cases moved
    exact Iff.rfl
  refine ⟨kept, ?_⟩
  intro timely
  have isSet := kept.mpr timely
  cases moved
  refine Orderly.move ?_ trivial
  refine orderly.grows ?_ isSet ?_ ?_
  · exact ⟨⟨[session], rfl⟩, Nat.le_refl _, fun _ _ => rfl⟩
  · intro other member
    rcases List.mem_append.mp member with earlier | new
    · exact orderly.known other earlier
    · rw [List.mem_singleton.mp new]
      exact made
  · exact fun _ member => Or.inl member

/-- `ps_new`. -/
theorem orderly_new {ip : String} {dryRun well : Bool} {seen : Seen} (orderly : self.Orderly)
    (knows : self.Knows (.connect (.new ip dryRun seen)))
    (moved : self.connectNext handler well (.new ip dryRun seen) = some after) :
    after.Orderly := by
  cases well with
  | false =>
      cases moved
      refine orderly.next ?_ trivial
      exact .of_same rfl rfl rfl rfl rfl
  | true =>
      cases moved
      have steady := Steady.of_create self ip
      have later := Knows.grows knows orderly.known steady.toGrows
      have made : self.made < (self.create ip).made := Nat.lt_succ_self _
      refine orderly.next steady ?_
      cases dryRun with
      | true =>
          refine ⟨made, ?_⟩
          rw [create_address]
          exact later
      | false =>
          refine ⟨made, ?_⟩
          rw [create_address]
          exact later

/-- Any other step of a connect request. -/
theorem orderly_connect {stage : ConnectStage} {well : Bool} (orderly : self.Orderly)
    (knows : self.Knows (.connect stage)) (other : forall session seen, stage ≠ .set session seen)
    (moved : self.connectNext handler well stage = some after) : after.Orderly := by
  cases stage with
  | getps ip dryRun =>
      cases moved
      refine orderly.next ?_ ?_
      · exact .of_same rfl rfl rfl rfl rfl
      · cases found : (self.getps (some ip)).1.isSome with
        | true => trivial
        | false =>
            refine ⟨Nat.le_refl _, ?_⟩
            intro session member
            exact getpsLoop_absent found session (List.mem_of_mem_take member)
  | allocOk ip dryRun looked =>
      cases moved
      refine orderly.next ?_ ?_
      · exact .of_same rfl rfl rfl rfl rfl
      · by_cases room : lcmAllocOk self.lcm true = true
        · rw [if_pos room]
          exact ⟨knows, Nat.le_refl _⟩
        · rw [if_neg room]
          trivial
  | new ip dryRun seen => exact orderly_new orderly knows moved
  | admctl session seen =>
      cases well with
      | true =>
          cases moved
          refine orderly.next ?_ ?_
          · exact .of_same rfl rfl rfl rfl rfl
          · exact knows
      | false =>
          cases moved
          refine orderly.next (.of_mark self session ?_) ?_
          · exact fun _ => rfl
          · trivial
  | boot session seen =>
      cases well with
      | true =>
          cases moved
          have steady : self.Steady (self.mark session fun peer => { peer with started := true }) :=
            .of_mark self session fun _ => rfl
          exact orderly.next steady (Knows.grows knows orderly.known steady.toGrows)
      | false =>
          cases moved
          refine orderly.next (.of_mark self session ?_) ?_
          · exact fun _ => rfl
          · trivial
  | set session seen => exact absurd rfl (other session seen)
  | lockTid session pos =>
      simp only [connectNext] at moved
      split at moved
      · cases moved
        refine orderly.next ?_ ?_
        · exact .of_same rfl rfl rfl rfl rfl
        · trivial
      · cases moved
  | answer session =>
      cases moved
      refine orderly.next ?_ ?_
      · exact .of_same rfl rfl rfl rfl rfl
      · trivial

/-- A step of requests to connect keeps the table a set within its limit exactly
if it is taken in time. -/
theorem orderly_step {label : ServerLabel} (orderly : self.Orderly) (connects : label.Connects)
    (moved : self.step label = some after) :
    (after.lcm.IsSet ↔ self.Timely label) ∧ (self.Timely label -> after.Orderly) := by
  have kept : forall {after : Server}, after.Orderly -> self.Timely label ->
      (after.lcm.IsSet ↔ self.Timely label) ∧ (self.Timely label -> after.Orderly) :=
    fun orderly timely => ⟨⟨fun _ => timely, fun _ => orderly.isSet⟩, fun _ => orderly⟩
  cases label with
  | request call =>
      cases call with
      | connect ip dryRun =>
          cases moved
          refine kept (orderly.grows ?_ orderly.isSet orderly.known ?_) trivial
          · exact ⟨⟨[], (List.append_nil _).symm⟩, Nat.le_refl _, fun _ _ => rfl⟩
          · intro stage member
            rcases List.mem_append.mp member with earlier | new
            · exact Or.inl earlier
            · rw [List.mem_singleton.mp new, accept]
              refine Or.inr ?_
              split
              · trivial
              · trivial
      | gate ip dryRun => exact connects.elim
      | clear => exact connects.elim
  | next handler well =>
      simp only [step, handlerNext] at moved
      cases stage : self.stages[handler]? with
      | none =>
          rw [stage] at moved
          cases moved
      | some here =>
          have knows := orderly.knows here (List.mem_of_getElem? stage)
          rw [stage] at moved
          cases here with
          | idle => cases moved
          | gate => exact knows.elim
          | clear => exact knows.elim
          | connect here =>
              by_cases storing : Exists fun session => Exists fun seen => here = .set session seen
              · rcases storing with ⟨session, seen, rfl⟩
                exact orderly_set orderly stage moved
              · have other : forall session seen, here ≠ .set session seen :=
                  fun session seen same => storing ⟨session, seen, same⟩
                refine kept (orderly_connect orderly knows other moved) ?_
                intro stage' member
                cases (Option.some.inj (stage.symm.trans member))
                cases here with
                | set session seen => exact absurd rfl (other session seen)
                | getps | allocOk | new | admctl | boot | lockTid | answer => trivial
  | thread session =>
      simp only [step] at moved
      split at moved
      · cases moved
        split
        · refine kept (orderly.steady ?_) trivial
          exact .of_mark self session fun _ => rfl
        · exact kept orderly trivial
      · cases moved

end Server

/-- Requests to connect that store in time keep the table a set within its
limit, and the first that does not store in time breaks it. -/
theorem connects_set_iff {maxpep : Nat} {server : Server}
    (reached : System.Run Server.step (fun self label => label.Connects ∧ self.Timely label)
      (.start maxpep) server) :
    server.lcm.IsSet ∧
      forall label after, label.Connects -> server.step label = some after ->
        (after.lcm.IsSet ↔ server.Timely label) := by
  have orderly : server.Orderly := by
    refine reached.invariant _ ?_ (orderly_start maxpep)
    rintro self label after orderly ⟨connects, timely⟩ moved
    exact (Server.orderly_step orderly connects moved).2 timely
  refine ⟨orderly.isSet, ?_⟩
  intro label after connects moved
  exact (Server.orderly_step orderly connects moved).1

/-- Two requests, step by step in turn. -/
def twoConnects (first second : String) : List ServerLabel :=
  [.request (.connect first true), .request (.connect second true)] ++
    (List.replicate 7 [.next 0 true, .next 1 true]).flatten

theorem connects_set_two :
    Exists fun server : Server =>
      server.clients = [0, 1] ∧ server.lcm.IsSet ∧
        forall label after, label.Connects -> server.step label = some after ->
          (after.lcm.IsSet ↔ server.Timely label) := by
  have executed := (rfl : (System.executeWithin Server.step
    (fun self label => label.Connects ∧ self.Timely label) (.start 2)
    (twoConnects "10.0.0.1" "10.0.0.2")).map Server.clients = some [0, 1])
  rcases Option.map_eq_some_iff.mp executed with ⟨server, executed, clients⟩
  exact ⟨server, clients, connects_set_iff (System.run_of_executeWithin executed)⟩

/-- Two requests to one address are both stored, and two addresses where there is
room for one. -/
theorem concurrent_connects_break_set :
    (Exists fun server => System.execute Server.step (.start 4)
        (twoConnects "10.0.0.1" "10.0.0.1") = some server ∧
      server.lcm.clients = [{ cmtsAddr := "10.0.0.1" }, { cmtsAddr := "10.0.0.1" }] ∧
        ¬ server.lcm.IsSet) ∧
    Exists fun server => System.execute Server.step (.start 1)
        (twoConnects "10.0.0.1" "10.0.0.2") = some server ∧
      server.lcm.count = 2 ∧ server.lcm.maxpep = 1 ∧ ¬ server.lcm.IsSet := by
  refine ⟨⟨_, rfl, rfl, ?_⟩, ⟨_, rfl, rfl, rfl, ?_⟩⟩
  · intro isSet
    exact absurd isSet.distinct (by decide)
  · intro isSet
    exact absurd isSet.within (by decide)

end PolicyServer
