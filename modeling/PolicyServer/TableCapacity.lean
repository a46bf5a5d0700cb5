import PolicyServer.Routes

namespace PolicyServer

open Lib

/-!
# The connection table and its room

Requests to connect and to clear come one at a time.  The table has `MAXROOM`
places, and `lcm_alloc_ok` keeps it at most as full as the limit stored by
`lcm_init`.  That limit is the option `max_pep`, which is checked from above
only: a negative option passes both checks and becomes a limit near 2^64.
-/

/-- A request, with what the calls it makes answer. -/
inductive ApiRequest where
  | connect (body : Option ConnectBody) (fate : ConnectFate)
  | clear (lock : LcmLock)

/-- The table after some requests, and all indices written so far. -/
structure ApiRun where
  api : Api
  clientWrites : List Nat
  threadWrites : List Nat

/-- The server has a manager, and has handled no request. -/
def ApiRun.start (lcm : Lcm) : ApiRun :=
  { api := { lcm, threads := fun _ => 0 }, clientWrites := [], threadWrites := [] }

def ApiRequest.handle (self : Api) : ApiRequest -> Option Handled
  | .connect body fate => gctlConnect self body fate
  | .clear lock => gctlLcmReset self lock

/-- The run with a further request handled. -/
def ApiRun.record (run : ApiRun) (handled : Handled) : ApiRun :=
  { api := handled.api
    clientWrites := run.clientWrites ++ handled.clientWrites
    threadWrites := run.threadWrites ++ handled.threadWrites }

/-- One request. -/
def apiStep (run : ApiRun) (request : ApiRequest) : Option ApiRun :=
  (request.handle run.api).map run.record

/-- Every index written is one of the arrays, and so is the count. -/
structure ApiRun.InRoom (run : ApiRun) : Prop where
  count : run.api.lcm.count ≤ maxroom
  clients : forall i, i ∈ run.clientWrites -> i < maxroom
  threads : forall i, i ∈ run.threadWrites -> i < maxroom

/-- `lcm_set` takes its lock, unless it may fail to. -/
def ApiRequest.Stores (lockMayFail : Prop) : ApiRequest -> Prop
  | .connect _ fate => fate.setLock = true ∨ lockMayFail
  | .clear _ => True

/-! ## A limit within the table -/

/-- The table is at most as full as its limit, which the table has room for. -/
structure WithinLimit (limit : Nat) (run : ApiRun) : Prop extends run.InRoom where
  maxpep : run.api.lcm.maxpep = limit
  filled : run.api.lcm.count ≤ limit

private theorem append_lt {first second : List Nat} {bound : Nat}
    (firstLess : forall i, i ∈ first -> i < bound) (secondLess : forall i, i ∈ second -> i < bound) :
    forall i, i ∈ first ++ second -> i < bound := by
  intro i member
  rcases List.mem_append.mp member with inFirst | inSecond
  · exact firstLess i inFirst
  · exact secondLess i inSecond

/-- The place of a stored client is read back as the index it is. -/
theorem sizeT_ofNat {i : Nat} (small : i < 2147483648) : sizeT (Int32.ofNat i).toInt = i := by
  rw [Int32.toInt_ofNat_of_lt small]
  unfold sizeT
  omega

/-- What storing a client writes, where `lcm_set` takes its lock. -/
theorem gctlConnectStore_locked (self : Api) (ip : String) (fate : ConnectFate)
    (locked : fate.setLock = true) :
    (gctlConnectStore self ip fate).api.lcm =
        { maxpep := self.lcm.maxpep, clients := self.lcm.clients ++ [{ cmtsAddr := ip }] } ∧
      (gctlConnectStore self ip fate).clientWrites = [self.lcm.count] ∧
      forall i, i ∈ (gctlConnectStore self ip fate).threadWrites ->
        i = sizeT (Int32.ofNat self.lcm.count).toInt := by
  unfold gctlConnectStore gctlLockTid
  rw [lcmSet, locked]
  cases fate.tidLock.acquired with
  | false => exact ⟨rfl, rfl, fun i member => absurd member List.not_mem_nil⟩
  | true => exact ⟨rfl, rfl, fun i member => List.mem_singleton.mp member⟩

theorem gctlLcmReset_cases {self : Api} {lock : LcmLock} {handled : Handled}
    (returns : gctlLcmReset self lock = some handled) :
    (handled.api = self ∧ handled.clientWrites = [] ∧ handled.threadWrites = []) ∨
      handled.api.lcm = { maxpep := self.lcm.maxpep, clients := [] } ∧ handled.clientWrites = [] ∧
        handled.threadWrites = List.range self.lcm.count := by
  unfold gctlLcmReset at returns
  split at returns
  · cases returns
    exact Or.inl ⟨rfl, rfl, rfl⟩
  split at returns
  · cases returns
    exact Or.inl ⟨rfl, rfl, rfl⟩
  split at returns
  · cases returns
  · cases returns
    exact Or.inr ⟨rfl, rfl, rfl⟩

/-- A request keeps the table within a limit it has room for. -/
theorem withinLimit_step {limit : Nat} (roomy : limit ≤ maxroom) {lockMayFail : Prop}
    (locks : lockMayFail -> limit = 0) {run after : ApiRun} {request : ApiRequest}
    (within : WithinLimit limit run) (stores : request.Stores lockMayFail)
    (moved : apiStep run request = some after) : WithinLimit limit after := by
  rcases Option.map_eq_some_iff.mp moved with ⟨handled, returns, rfl⟩
  have unchanged (same : handled.api = run.api) (noClients : handled.clientWrites = [])
      (noThreads : handled.threadWrites = []) : WithinLimit limit (run.record handled) := by
    rw [ApiRun.record, same, noClients, noThreads, List.append_nil, List.append_nil]
    exact within
  cases request with
  | connect body fate =>
      rcases gctlConnect_cases returns with ⟨same, noClients, noThreads⟩ | ⟨room, ip, rfl⟩
      · exact unchanged same noClients noThreads
      · rw [within.maxpep] at room
        have locked : fate.setLock = true :=
          stores.resolve_right fun mayFail => Nat.not_lt_zero _ (locks mayFail ▸ room)
        have place : run.api.lcm.count < maxroom := Nat.lt_of_lt_of_le room roomy
        rcases gctlConnectStore_locked run.api ip fate locked with ⟨lcm, client, thread⟩
        have count : (gctlConnectStore run.api ip fate).api.lcm.count = run.api.lcm.count + 1 := by
          rw [lcm, Lcm.count, List.length_append, List.length_singleton, Lcm.count]
        have index : sizeT (Int32.ofNat run.api.lcm.count).toInt = run.api.lcm.count :=
          sizeT_ofNat (Nat.lt_trans place (by decide))
        refine ⟨⟨count ▸ place, append_lt within.clients ?_, append_lt within.threads ?_⟩, ?_,
          count ▸ room⟩
        · intro i member
          rw [client, List.mem_singleton] at member
          exact member ▸ place
        · intro i member
          rw [thread i member, index]
          exact place
        · exact (congrArg Lcm.maxpep lcm).trans within.maxpep
  | clear lock =>
      rcases gctlLcmReset_cases returns with
        ⟨same, noClients, noThreads⟩ | ⟨lcm, noClients, cleared⟩
      · exact unchanged same noClients noThreads
      · have count : handled.api.lcm.count = 0 := congrArg Lcm.count lcm
        refine ⟨⟨count ▸ Nat.zero_le _, ?_, append_lt within.threads ?_⟩, ?_,
          count ▸ Nat.zero_le _⟩
        · rw [ApiRun.record, noClients, List.append_nil]
          exact within.clients
        · intro i member
          rw [cleared] at member
          exact Nat.lt_of_lt_of_le (List.mem_range.mp member) within.count
        · exact (congrArg Lcm.maxpep lcm).trans within.maxpep

/-! ## A limit past the table -/

/-- The calls of a request to connect that goes well; only the lock of `lcm_set`
is left open. -/
def calmFate (setLock : Bool) : ConnectFate where
  getpsLock := true
  eventLock := fun _ => true
  allocLock := true
  created := true
  admitted := true
  thread := 1
  setLock := setLock
  tidLock := { first := true, reinit := true, second := true }

/-- A request to connect with `dry_run` set. -/
def dryConnect (setLock : Bool) (ip : String) : ApiRequest :=
  .connect (some { cmtsIp := some ip, dryRun := 1 }) (calmFate setLock)

/-- A new address is stored while the limit is not reached. -/
theorem apiStep_dryConnect (setLock : Bool) {run : ApiRun} {ip : String} (valid : isIp4 ip = true)
    (absent : forall client, client ∈ run.api.lcm.clients -> client.cmtsAddr ≠ ip)
    (room : run.api.lcm.count < run.api.lcm.maxpep) :
    apiStep run (dryConnect setLock ip) =
      some (run.record (gctlConnectStore run.api ip (calmFate setLock))) := by
  have lookup : lcmGetps run.api.lcm ip true (fun _ => true) = { found := none, held := false } :=
    lcmGetpsLoop_absent absent 0
  have alloc : lcmAllocOk run.api.lcm true = true :=
    (lcmAllocOk_iff run.api.lcm true).mpr ⟨rfl, room⟩
  simp only [apiStep, dryConnect, ApiRequest.handle, gctlConnect, calmFate, lookup, valid, alloc,
    Bool.not_true, Bool.false_eq_true, if_false, Option.isSome_none, Nat.one_ne_zero,
    Bool.true_eq_false, and_false, Option.map_some]

/-- New addresses fill the table in order, however far the limit goes. -/
theorem execute_dryConnects {ips : List String} (distinct : ips.Nodup)
    (valid : forall ip, ip ∈ ips -> isIp4 ip = true) (run : ApiRun)
    (absent : forall ip, ip ∈ ips -> forall client, client ∈ run.api.lcm.clients ->
      client.cmtsAddr ≠ ip)
    (room : run.api.lcm.count + ips.length ≤ run.api.lcm.maxpep) :
    Exists fun after => System.execute apiStep run (ips.map (dryConnect true)) = some after ∧
      after.api.lcm.count = run.api.lcm.count + ips.length ∧
      after.clientWrites =
        run.clientWrites ++ List.range' run.api.lcm.count ips.length := by
  induction ips generalizing run with
  | nil => exact ⟨run, rfl, rfl, (List.append_nil _).symm⟩
  | cons ip ips inductionHypothesis =>
      rcases List.nodup_cons.mp distinct with ⟨newIp, distinctRest⟩
      rw [List.length_cons] at room
      have moved := apiStep_dryConnect true (valid ip List.mem_cons_self)
        (absent ip List.mem_cons_self) (by omega)
      rcases gctlConnectStore_locked run.api ip (calmFate true) rfl with ⟨lcm, client, _⟩
      generalize gctlConnectStore run.api ip (calmFate true) = handled at moved lcm client
      have count : handled.api.lcm.count = run.api.lcm.count + 1 := by
        rw [lcm, Lcm.count, List.length_append, List.length_singleton, Lcm.count]
      have absentRest : forall other, other ∈ ips ->
          forall stored, stored ∈ (run.record handled).api.lcm.clients ->
            stored.cmtsAddr ≠ other := by
        intro other member stored storedMember
        rw [ApiRun.record, lcm] at storedMember
        rcases List.mem_append.mp storedMember with earlier | latest
        · exact absent other (List.mem_cons_of_mem _ member) stored earlier
        · intro same
          rw [List.mem_singleton.mp latest] at same
          subst same
          exact newIp member
      have roomRest : (run.record handled).api.lcm.count + ips.length ≤
          (run.record handled).api.lcm.maxpep := by
        have maxpep : handled.api.lcm.maxpep = run.api.lcm.maxpep := by rw [lcm]
        rw [ApiRun.record, count, maxpep]
        omega
      rcases inductionHypothesis distinctRest
          (fun other member => valid other (List.mem_cons_of_mem _ member)) (run.record handled)
          absentRest roomRest with ⟨after, executed, filled, written⟩
      refine ⟨after, ?_, ?_, ?_⟩
      · rw [List.map_cons, System.execute, moved]
        exact executed
      · rw [filled, ApiRun.record, count, List.length_cons]
        omega
      · rw [written, ApiRun.record, client, count, List.length_cons, List.range'_succ,
          List.append_assoc, List.singleton_append]

/-- One address more than the table has places. -/
def addresses : List String :=
  ["10.0.0.1", "10.0.0.2", "10.0.0.3", "10.0.0.4", "10.0.0.5", "10.0.0.6", "10.0.0.7",
    "10.0.0.8", "10.0.0.9", "10.0.0.10", "10.0.0.11", "10.0.0.12", "10.0.0.13", "10.0.0.14",
    "10.0.0.15", "10.0.0.16", "10.0.0.17", "10.0.0.18", "10.0.0.19", "10.0.0.20", "10.0.0.21"]

theorem addresses_distinct : addresses.Nodup := by decide

theorem addresses_valid : forall ip, ip ∈ addresses -> isIp4 ip = true := by decide

/-- With a negative option, 21 new addresses leave the table. -/
theorem execute_addresses {maxPep : Int32} (negative : maxPep.toInt < 0) :
    Exists fun after =>
      System.execute apiStep (.start { maxpep := sizeT maxPep.toInt, clients := [] })
          (addresses.map (dryConnect true)) = some after ∧
        after.api.lcm.count = 21 ∧ maxroom ∈ after.clientWrites := by
  have room : 0 + addresses.length ≤ sizeT maxPep.toInt :=
    Nat.le_trans (by decide) (sizeT_of_neg negative)
  have past : maxroom ∈ List.range' 0 addresses.length := by decide
  rcases execute_dryConnects addresses_distinct addresses_valid
      (.start { maxpep := sizeT maxPep.toInt, clients := [] })
      (fun _ _ client member => absurd member List.not_mem_nil) room with
    ⟨after, executed, count, written⟩
  exact ⟨after, executed, count, written ▸ past⟩

/-- Where `lcm_set` fails, the thread goes to the index that -1 stands for. -/
theorem dryConnect_unlocked {limit : Nat} (room : 0 < limit) :
    Exists fun after =>
      apiStep (.start { maxpep := limit, clients := [] }) (dryConnect false "10.0.0.1") =
          some after ∧
        sizeT (-1) ∈ after.threadWrites := by
  refine ⟨_, apiStep_dryConnect false (by decide) ?_ room, List.mem_singleton.mpr rfl⟩
  intro client member
  exact absurd member List.not_mem_nil

/-- With the option `max_pep` and the manager it gives: the table keeps its room
in every run of requests if and only if the option is not negative, and `lcm_set`
cannot fail to take its lock unless the option is 0. -/
theorem inRoom_iff {maxPep : Int32} {lcm : Lcm} (configured : Configured maxPep lcm)
    (lockMayFail : Prop) :
    (forall run, System.Run apiStep (fun _ request => request.Stores lockMayFail) (.start lcm) run ->
        run.InRoom) ↔
      0 ≤ maxPep ∧ (lockMayFail -> maxPep = 0) := by
  rcases configured.made with ⟨initialized, made⟩
  rcases lcmInit_eq_some made with ⟨atMost, rfl⟩
  have sign : 0 ≤ maxPep ↔ 0 ≤ maxPep.toInt := Int32.le_iff_toInt_le
  constructor
  · intro always
    have nonneg : 0 ≤ maxPep.toInt := by
      apply Int.not_lt.mp
      intro negative
      rcases execute_addresses negative with ⟨after, executed, count, _⟩
      have permitted : forall request, request ∈ addresses.map (dryConnect true) ->
          forall run : ApiRun, request.Stores lockMayFail := by
        intro request member _
        rcases List.mem_map.mp member with ⟨ip, _, rfl⟩
        exact Or.inl rfl
      have full := (always after (System.run_of_execute permitted executed)).count
      rw [count] at full
      exact absurd full (by decide)
    refine ⟨sign.mpr nonneg, ?_⟩
    intro mayFail
    by_contra notZero
    have positive : 0 < sizeT maxPep.toInt := by
      have kept := sizeT_of_nonneg nonneg
      have other : maxPep.toInt ≠ 0 := fun zero => notZero (Int32.toInt_inj.mp zero)
      omega
    rcases dryConnect_unlocked positive with ⟨after, moved, written⟩
    have stores : (dryConnect false "10.0.0.1").Stores lockMayFail := Or.inr mayFail
    have index := (always after (.next .start _ stores moved)).threads _ written
    exact absurd index (by decide)
  · rintro ⟨nonneg, locks⟩ run reached
    have kept := sizeT_of_nonneg (sign.mp nonneg)
    have roomy : sizeT maxPep.toInt ≤ maxroom := by omega
    have within : WithinLimit (sizeT maxPep.toInt) run := by
      refine reached.invariant _ ?_ ?_
      · intro state label after within stores moved
        refine withinLimit_step roomy ?_ within stores moved
        intro mayFail
        rw [locks mayFail]
        rfl
      · refine ⟨⟨Nat.zero_le _, ?_, ?_⟩, rfl, Nat.zero_le _⟩
        · intro i member
          exact absurd member List.not_mem_nil
        · intro i member
          exact absurd member List.not_mem_nil
    exact within.toInRoom

theorem configured_four : Configured 4 { maxpep := 4, clients := [] } where
  accepted :=
    ⟨.word "max_pep=4" 0, (acceptsMaxPep_iff _ _).mpr ⟨by decide, by decide, by decide⟩⟩
  made := ⟨true, by decide⟩

theorem inRoom_four :
    (forall run, System.Run apiStep (fun _ request => request.Stores False)
        (.start { maxpep := 4, clients := [] }) run -> run.InRoom) ↔
      0 ≤ (4 : Int32) ∧ (False -> (4 : Int32) = 0) :=
  inRoom_iff configured_four False

/-- The word `max_pep=-1` is accepted, and its manager takes a client past the
end of the table. -/
theorem negative_option_leaves_table :
    AcceptsMaxPep (.word "max_pep=-1" 0) (-1) ∧
      Exists fun lcm => lcmInit (-1) true = some lcm ∧
        Exists fun run =>
          System.execute apiStep (.start lcm) (addresses.map (dryConnect true)) = some run ∧
            run.api.lcm.count = 21 ∧ maxroom ∈ run.clientWrites := by
  constructor
  · exact (acceptsMaxPep_iff _ _).mpr ⟨by decide, by decide, by decide⟩
  · exact ⟨{ maxpep := sizeT (-1 : Int32).toInt, clients := [] }, rfl, execute_addresses (by decide)⟩

end PolicyServer
