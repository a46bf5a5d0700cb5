import PolicyServer.SessionLoop

namespace PolicyServer

open Lib

/-!
# What the connection flag says

`sock_connect` takes a socket that `select` calls ready for a connected one, and nothing
resets `connection` when the handshake fails.  `truthful_iff` is that these are the only
ways in which the flag comes to be wrong.
-/

/-- The flag is right: behind a `sock_connect` that returns 1, behind a `ps_admctl` that
returns 0, and wherever `sock_write` would write. -/
structure Truthful (thread : Thread) : Prop where
  connected : thread.phase = .handshaking -> thread.wire.sock = .connected
  failed : thread.phase = .sleeping ∨ thread.phase = .freed -> thread.wire.connection = false
  written : thread.wire.connection = true -> thread.wire.sock = .connected

/-- `select` calls a socket ready that is not connected: `connect` has failed at once, or
the socket has a pending error. -/
def Kernel.Misled (kernel : Kernel) : Prop :=
  kernel.addressOk = true ∧ (kernel.socket && kernel.sockoptsOk) = true ∧
    kernel.connect ≠ .connected ∧ selectLoop 0 kernel.selects = some true ∧
      kernel.readied = .unconnected

/-- `connect` and `select` do not mislead, and a request comes in time. -/
def FlagStep (stack : Memory) (thread : Thread) : ThreadStep -> Prop
  | .connect kernel => ¬ kernel.Misled
  | .handshake opens requests =>
      ¬ Expires stack 1 (requests.start + 10) (opens.poll stack thread.self 6).1 requests.start
        requests.calls
  | _ => True

/-- Where the flag is up, and what it says there. -/
structure FlagGood (thread : Thread) : Prop where
  up : thread.wire.connection = true -> thread.wire.sock = .connected
  handshaking : thread.phase = .handshaking -> thread.wire.connection = true
  down : thread.phase = .connecting ∨ thread.phase = .sleeping ∨ thread.phase = .freed ->
    thread.wire.connection = false

theorem flagGood_truthful {thread : Thread} (good : FlagGood thread) : Truthful thread :=
  ⟨fun here => good.up (good.handshaking here), fun here => good.down (Or.inr here), good.up⟩

theorem flagGood_start (dryRun : Bool) : FlagGood (Thread.start dryRun) := by
  refine ⟨fun impossible => ?_, fun impossible => ?_, fun _ => rfl⟩
  · cases impossible
  · cases dryRun <;> cases impossible

/-- In the loop nothing is said about a connection that is down. -/
theorem flagGood_serving {thread : Thread}
    (up : thread.wire.connection = true -> thread.wire.sock = .connected)
    (serving : thread.phase = .head ∨ thread.phase = .receiving ∨ thread.phase = .returned) :
    FlagGood thread := by
  refine ⟨up, fun here => ?_, fun here => ?_⟩
  · rcases serving with there | there | there <;> rw [there] at here <;> cases here
  · rcases serving with there | there | there <;> rw [there] at here <;>
      rcases here with impossible | impossible | impossible <;> cases impossible

section Steps

variable {thread : Thread}

theorem fail_phase (thread : Thread) :
    thread.fail.phase = .sleeping ∨ thread.fail.phase = .freed := by
  unfold Thread.fail
  cases thread.registered with
  | true => exact Or.inl rfl
  | false => exact Or.inr rfl

/-- A failed attempt is well behaved exactly if it leaves the flag down. -/
theorem truthful_fail_iff : Truthful thread.fail ↔ thread.wire.connection = false := by
  constructor
  · intro truthful
    exact truthful.failed (fail_phase thread)
  · intro down
    refine ⟨fun here => ?_, fun _ => down, fun up => ?_⟩
    · rcases fail_phase thread with sleeping | freed
      · rw [sleeping] at here
        cases here
      · rw [freed] at here
        cases here
    · have up : thread.wire.connection = true := up
      rw [down] at up
      cases up

theorem flagGood_fail (down : thread.wire.connection = false) : FlagGood thread.fail := by
  refine ⟨fun up => ?_, fun here => ?_, fun _ => down⟩
  · have up : thread.wire.connection = true := up
    rw [down] at up
    cases up
  · rcases fail_phase thread with sleeping | freed
    · rw [sleeping] at here
      cases here
    · rw [freed] at here
      cases here

end Steps

/-- What `sock_connect` does to a session that is not connected. -/
theorem Wire.connect_cases {wire after : Wire} {kernel : Kernel} {connected : Bool}
    (down : wire.connection = false) (returns : wire.connect kernel = some (after, connected)) :
    connected = false ∧ after.connection = false ∧ ¬ kernel.Misled ∨
      connected = true ∧ after.connection = true ∧
        (after.sock = .connected ∧ ¬ kernel.Misled ∨
          after.sock = .unconnected ∧ kernel.Misled) := by
  unfold Wire.connect at returns
  by_cases address : (!kernel.addressOk) = true
  · rw [if_pos address] at returns
    cases returns
    refine Or.inl ⟨rfl, down, fun misled => ?_⟩
    rw [misled.1] at address
    cases address
  rw [if_neg address] at returns
  by_cases sockopts : (!(kernel.socket && kernel.sockoptsOk)) = true
  · rw [if_pos sockopts] at returns
    cases returns
    refine Or.inl ⟨rfl, down, fun misled => ?_⟩
    rw [misled.2.1] at sockopts
    cases sockopts
  rw [if_neg sockopts] at returns
  by_cases atOnce : kernel.connect = .connected
  · rw [if_pos atOnce] at returns
    cases returns
    exact Or.inr ⟨rfl, rfl, Or.inl ⟨rfl, fun misled => misled.2.2.1 atOnce⟩⟩
  rw [if_neg atOnce] at returns
  rcases Option.map_eq_some_iff.mp returns with ⟨ready, selected, same⟩
  cases ready with
  | false =>
      cases same
      refine Or.inl ⟨rfl, down, fun misled => ?_⟩
      rw [misled.2.2.2.1] at selected
      cases selected
  | true =>
      cases same
      refine Or.inr ⟨rfl, rfl, ?_⟩
      by_cases really : kernel.connect = .inProgress ∧ kernel.pendingError = false
      · have readied : kernel.readied = .connected := if_pos really
        refine Or.inl ⟨readied, fun misled => ?_⟩
        have impossible := misled.2.2.2.2
        rw [readied] at impossible
        cases impossible
      · have readied : kernel.readied = .unconnected := if_neg really
        simp only [Bool.not_eq_true, Bool.not_eq_false'] at address sockopts
        exact Or.inr ⟨readied, address, sockopts, atOnce, selected, readied⟩

/-! ## One step -/

/-- Behind a step the flag is good if the step is, and not right otherwise. -/
structure FlagKept (allowed : Prop) (after : Thread) : Prop where
  good : allowed -> FlagGood after
  bad : ¬ allowed -> ¬ Truthful after

section Kept

variable {stack : Memory} {thread after : Thread}

theorem flagKept_connect {kernel : Kernel} (good : FlagGood thread)
    (moved : thread.step stack (.connect kernel) = some after) :
    FlagKept (FlagStep stack thread (.connect kernel)) after := by
  rcases Thread.step_connect moved with ⟨here, wire, connected, returns, rfl⟩
  rcases Wire.connect_cases (good.down (Or.inl here)) returns with
    ⟨rfl, down, sound⟩ | ⟨rfl, up, ⟨real, sound⟩ | ⟨fake, misled⟩⟩
  · exact ⟨fun _ => flagGood_fail down, fun misled => absurd sound misled⟩
  · refine ⟨fun _ => ⟨fun _ => real, fun _ => up, ?_⟩, fun misled => absurd sound misled⟩
    rintro (impossible | impossible | impossible) <;> cases impossible
  · refine ⟨fun sound => absurd misled sound, fun _ truthful => ?_⟩
    have connected := truthful.connected rfl
    have fake : wire.sock = .unconnected := fake
    rw [if_pos rfl] at connected
    have same : wire.sock = .connected := connected
    rw [fake] at same
    cases same

theorem flagKept_handshake {opens requests : Window} (good : FlagGood thread)
    (moved : thread.step stack (.handshake opens requests) = some after) :
    FlagKept (FlagStep stack thread (.handshake opens requests)) after := by
  rcases Thread.step_handshake moved with ⟨here, admitted, requested, rfl⟩
  have up := good.handshaking here
  cases admitted with
  | true =>
      refine ⟨fun _ => flagGood_serving good.up (Or.inl rfl), fun expires => ?_⟩
      have failed := pollLoop_false_iff.mpr (not_not.mp expires)
      have failed : (requests.poll stack (opens.poll stack thread.self 6).1 1).2 = some false :=
        failed
      rw [requested] at failed
      cases failed
  | false =>
      have expires : Expires stack 1 (requests.start + 10) (opens.poll stack thread.self 6).1
          requests.start requests.calls := pollLoop_false_iff.mp requested
      refine ⟨fun inTime => absurd expires inTime, fun _ truthful => ?_⟩
      have down := truthful_fail_iff.mp truthful
      have down : thread.wire.connection = false := down
      rw [up] at down
      cases down

theorem flagGood_receive {socket : Socket} (good : FlagGood thread)
    (moved : thread.step stack (.receive socket) = some after) : FlagGood after := by
  rcases Thread.step_receive moved with ⟨_, self, opcode, _, rfl⟩
  unfold Thread.dispatch
  split
  · refine ⟨fun impossible => ?_, fun impossible => ?_, fun _ => rfl⟩ <;> cases impossible
  · exact flagGood_serving good.up (Or.inl rfl)

theorem flagKept {label : ThreadStep} (good : FlagGood thread)
    (moved : thread.step stack label = some after) :
    FlagKept (FlagStep stack thread label) after := by
  -- the steps that are always allowed
  have always (good' : FlagGood after) : FlagKept True after :=
    ⟨fun _ => good', fun never => absurd trivial never⟩
  cases label with
  | connect kernel => exact flagKept_connect good moved
  | handshake opens requests => exact flagKept_handshake good moved
  | receive socket => exact always (flagGood_receive good moved)
  | wake =>
      rcases Thread.step_wake moved with ⟨here, rfl⟩
      refine always ⟨good.up, fun impossible => ?_, fun _ => good.down (Or.inr (Or.inl here))⟩
      cases impossible
  | test =>
      rcases Thread.step_test moved with ⟨_, rfl⟩
      refine always (flagGood_serving good.up ?_)
      cases thread.die with
      | true => exact Or.inr (Or.inr rfl)
      | false => exact Or.inr (Or.inl rfl)
  | kill =>
      rcases Thread.step_kill moved with ⟨_, rfl⟩
      exact always ⟨good.up, good.handshaking, good.down⟩

end Kept

/-- In every run the flag is right all the time exactly if no step of the run has `select`
mislead, or a request come too late. -/
theorem truthful_iff (stack : Memory) (dryRun : Bool) (steps : List ThreadStep) :
    System.Along (Thread.step stack) Truthful (Thread.start dryRun) steps ↔
      System.Within (Thread.step stack) (FlagStep stack) (Thread.start dryRun) steps := by
  refine System.along_iff_within (fun thread (good : FlagGood thread) => flagGood_truthful good)
    ?_ ?_ steps (flagGood_start dryRun)
  · intro thread label after good moved
    have kept := flagKept good moved
    exact ⟨fun truthful => by_contra fun bad => kept.bad bad truthful,
      fun allowed => flagGood_truthful (kept.good allowed)⟩
  · intro thread label after good allowed moved
    exact (flagKept good moved).good allowed

/-- A connection that the peer refuses: the socket is ready, with a pending error. -/
def refusedKernel : Kernel where
  socket := true
  addressOk := true
  sockoptsOk := true
  connect := .inProgress
  selects := [.ready]
  pendingError := true

/-- The session counts as connected, then and behind a handshake that has failed. -/
theorem refused_not_truthful :
    ¬ System.Along (Thread.step fun _ => 0) Truthful (Thread.start false)
        [.connect refusedKernel] ∧
      ¬ System.Along (Thread.step fun _ => 0) Truthful (Thread.start false)
        [.connect { refusedKernel with pendingError := false },
          .handshake ⟨0, [(⟨[], []⟩, 10)]⟩ ⟨10, [(⟨[], []⟩, 20)]⟩] := by
  constructor
  · rintro ⟨_, later⟩
    have connected := (later _ rfl).connected rfl
    cases connected
  · rintro ⟨_, later⟩
    have down := ((later _ rfl).2 _ rfl).failed (Or.inr rfl)
    cases down

end PolicyServer
