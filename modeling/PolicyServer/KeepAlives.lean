import PolicyServer.SessionThread

namespace PolicyServer

open Lib

/-!
# Keep-alives and their echoes

`ps_statemachine` echoes a keep-alive.  The polls of `ps_admctl` read from the
same socket, and drop one that comes while they wait for something else; and an
echo that the kernel does not take is only logged.  `Echoing` has the steps
where neither happens; `echoed_iff` is that these, and no others, keep the echoes
sent on every connection as many as the keep-alives received on it.
-/

def Event.isKeepAlive : Event -> Bool
  | .received message => message.opcode == 9
  | .sent _ => false

def Event.isEcho : Event -> Bool
  | .received _ => false
  | .sent bytes => bytes == copsKeepalive

/-- As many echoes sent as keep-alives received. -/
def Balanced (log : List Event) : Prop :=
  log.countP Event.isEcho = log.countP Event.isKeepAlive

namespace Life

/-- Every keep-alive received on a connection has been echoed on it. -/
def Echoed (life : Life) : Prop :=
  forall number, Balanced (life.log number)

/-- What arrives are whole messages. -/
def Whole : LifeLabel -> Prop
  | .thread (.receive (.raw _) _) => False
  | _ => True

/-- A keep-alive is received in the loop of `ps_statemachine`, and the kernel
takes the echo. -/
def Echoing (life : Life) : LifeLabel -> Prop
  | .thread (.receive arrival echoed) =>
      forall message, message ∈ arrival.received -> message.opcode = 9 ->
        forall target, target ∈ life.target -> target ≠ .other ->
          life.place = .serving ∧ echoed = true
  | _ => True

section Decidability

instance (label : LifeLabel) : Decidable (Whole label) :=
  match label with
  | .thread (.receive (.raw _) _) => instDecidableFalse
  | .thread (.receive (.whole _) _) | .thread (.socket _) | .thread .socketFails
  | .thread .refused | .thread .assign | .thread .established | .thread .unreachable
  | .thread .expire | .thread (.accept _) | .thread .close | .thread .clear | .thread .forget
  | .proxy _ _ | .otherOpens _ | .otherCloses _ => instDecidableTrue

instance (life : Life) (label : LifeLabel) : Decidable (life.Echoing label) :=
  match label with
  | .thread (.receive arrival echoed) =>
      inferInstanceAs (Decidable
        (forall message, message ∈ arrival.received -> message.opcode = 9 ->
          forall target, target ∈ life.target -> ¬ target = .other ->
            life.place = .serving ∧ echoed = true))
  | .thread (.socket _) | .thread .socketFails | .thread .refused | .thread .assign
  | .thread .established | .thread .unreachable | .thread .expire | .thread (.accept _)
  | .thread .close | .thread .clear | .thread .forget
  | .proxy _ _ | .otherOpens _ | .otherCloses _ => instDecidableTrue

end Decidability

end Life

/-! ## Logs -/

theorem balanced_append {log events : List Event} (balanced : Balanced log) :
    Balanced (log ++ events) ↔ Balanced events := by
  unfold Balanced at balanced ⊢
  rw [List.countP_append, List.countP_append]
  omega

/-- A Client-Accept is no echo. -/
theorem accept_ne_keepalive (kaTimer acctTimer : UInt32) :
    copsClientAccept kaTimer acctTimer ≠ copsKeepalive := by
  intro same
  have second := congrArg (fun bytes => bytes[1]?) same
  have opcode : (copsClientAccept kaTimer acctTimer)[1]? = some 7 := rfl
  rw [opcode] at second
  cases second

theorem balanced_accept (kaTimer acctTimer : UInt32) :
    Balanced [.sent (copsClientAccept kaTimer acctTimer)] := by
  have other : (copsClientAccept kaTimer acctTimer == copsKeepalive) = false :=
    beq_eq_false_iff_ne.mpr (accept_ne_keepalive kaTimer acctTimer)
  rw [Balanced, List.countP_singleton, List.countP_singleton, Event.isEcho, other,
    Event.isKeepAlive]

namespace Life

variable {stack : Memory} {timers : Timers} {life after : Life}

/-- Only the connection that is used gets a longer log. -/
theorem record_log (life : Life) (number other : Nat) (events : List Event) :
    (life.record number events).log other =
      if other = number then life.log number ++ events else life.log other :=
  Function.update_apply ..

theorem record_record (life : Life) (number : Nat) (first second : List Event) :
    (life.record number first).record number second = life.record number (first ++ second) := by
  unfold record
  simp only [Function.update_self, Function.update_idem, List.append_assoc]

theorem echoed_record (echoed : life.Echoed) (number : Nat) {events : List Event} :
    (life.record number events).Echoed ↔ Balanced events := by
  constructor
  · intro recorded
    have here := recorded number
    rw [record_log, if_pos rfl] at here
    exact (balanced_append (echoed number)).mp here
  · intro balanced other
    rw [record_log]
    split
    · exact (balanced_append (echoed number)).mpr balanced
    · exact echoed other

/-- The connection is up wherever the thread reads from it. -/
def Up (life : Life) : Prop :=
  match life.place with
  | .opening | .accepting | .requesting => life.connection = true
  | .serving | .closing => life.connection = true ∨ life.sock = none
  | _ => True

/-- What has been heard on the connections, and what is known to go on. -/
structure Heard (life : Life) : Prop where
  echoed : life.Echoed
  up : life.Up

theorem heard_start (dryRun : Bool) : (Life.start dryRun).Heard where
  echoed := fun _ => rfl
  up := by
    cases dryRun with
    | false => exact trivial
    | true => exact Or.inr rfl

theorem up_attemptFailed (life : Life) : life.attemptFailed.Up := by
  unfold Up attemptFailed
  cases life.registered <;> exact trivial

/-! ## One step -/

/-- What a call of `ps_recvd` in the session thread does to the logs. -/
theorem receive_whole {incoming : Incoming} {opcode : UInt8}
    (returns : life.receive stack (.whole incoming) = some (after, opcode)) :
    (Exists fun number => Exists fun self => life.target = some (.own number) ∧
        after = { life with self }.record number (incoming.received.map .received) ∧
          opcode = (incoming.received.map Message.opcode).headD 0) ∨
      ((forall number, life.target ≠ some (.own number)) ∧ after = life ∧ opcode = 0) := by
  unfold receive at returns
  split at returns
  · rename_i number own
    rcases Option.map_eq_some_iff.mp returns with ⟨received, called, same⟩
    cases same
    exact Or.inl ⟨number, received.self, own, rfl, opcode_of_recvd called⟩
  · rename_i other
    cases returns
    exact Or.inr ⟨fun number own => other number own, rfl, rfl⟩

/-- What a call adds to a log is balanced without an echo if it is no keep-alive,
and with one if it is. -/
theorem balanced_received (incoming : Incoming) :
    (Balanced (incoming.received.map .received) ↔
        (incoming.received.map Message.opcode).headD 0 ≠ 9) ∧
      (Balanced (incoming.received.map .received ++ [.sent copsKeepalive]) ↔
        (incoming.received.map Message.opcode).headD 0 = 9) := by
  cases incoming with
  | silence =>
      have alone : ¬ Balanced [.sent copsKeepalive] := by
        unfold Balanced
        decide
      exact ⟨iff_of_true rfl (by decide), iff_of_false alone (by decide)⟩
  | message whole more =>
      simp only [Incoming.received, List.map_cons, List.map_nil, List.headD_cons, Balanced,
        List.countP_append, List.countP_singleton, Event.isEcho, Event.isKeepAlive,
        beq_self_eq_true, if_true, Bool.false_eq_true, if_false]
      by_cases keepAlive : whole.opcode = 9
      · simp only [keepAlive, beq_self_eq_true, if_true]
        exact ⟨iff_of_false (by decide) (not_not.mpr rfl), trivial⟩
      · have other : (whole.opcode == 9) = false := beq_eq_false_iff_ne.mpr keepAlive
        simp only [other, Bool.false_eq_true, if_false]
        exact ⟨iff_of_true trivial keepAlive, iff_of_false (by decide) keepAlive⟩

/-- What it takes to echo what a call finds. -/
theorem echoing_iff {incoming : Incoming} {echoed : Bool} {number : Nat}
    (own : life.target = some (.own number)) :
    life.Echoing (.thread (.receive (.whole incoming) echoed)) ↔
      ((incoming.received.map Message.opcode).headD 0 = 9 ->
        life.place = .serving ∧ echoed = true) := by
  have present : forall target, target ∈ life.target -> target = .own number := by
    intro target member
    exact (Option.some.inj (own.symm.trans member)).symm
  cases incoming with
  | silence =>
      refine iff_of_true ?_ fun impossible => absurd impossible (by decide)
      exact fun _ member => absurd member List.not_mem_nil
  | message whole more =>
      constructor
      · intro echoing keepAlive
        exact echoing whole List.mem_cons_self keepAlive (.own number) own Target.noConfusion
      · intro echoes message member keepAlive target _ _
        rw [List.mem_singleton.mp member] at keepAlive
        exact echoes keepAlive

theorem echoing_of_nothing {incoming : Incoming} {echoed : Bool}
    (other : forall number, life.target ≠ some (.own number)) :
    life.Echoing (.thread (.receive (.whole incoming) echoed)) := by
  intro message _ _ target member different
  cases target with
  | own number => exact absurd member (other number)
  | other => exact absurd rfl different

/-- A thread that moves on. -/
theorem Heard.elsewhere (heard : life.Heard) (log : after.log = life.log) (up : after.Up) :
    after.Heard where
  echoed := by
    intro number
    rw [log]
    exact heard.echoed number
  up := up

/-- A call in one of the polls. -/
theorem heard_polled {incoming : Incoming} {echoed : Bool} {opcode : UInt8} (heard : life.Heard)
    (polling : life.place ≠ .serving)
    (returns : life.receive stack (.whole incoming) = some (after, opcode)) :
    after.Echoed ↔ life.Echoing (.thread (.receive (.whole incoming) echoed)) := by
  rcases receive_whole returns with ⟨number, self, own, rfl, _⟩ | ⟨other, rfl, _⟩
  · have before : ({ life with self } : Life).Echoed := heard.echoed
    rw [echoed_record before number, (balanced_received incoming).1, echoing_iff own]
    constructor
    · exact fun none keepAlive => absurd keepAlive none
    · exact fun echoes keepAlive => absurd (echoes keepAlive).1 polling
  · exact iff_of_true heard.echoed (echoing_of_nothing other)

/-- A call in the loop of `ps_statemachine`, and the echo. -/
theorem heard_served {incoming : Incoming} {echoed : Bool} {opcode : UInt8} (heard : life.Heard)
    (serving : life.place = .serving)
    (returns : life.receive stack (.whole incoming) = some (after, opcode)) :
    (if opcode = 9 then after.send copsKeepalive echoed else after).Echoed ↔
      life.Echoing (.thread (.receive (.whole incoming) echoed)) := by
  rcases receive_whole returns with ⟨number, self, own, rfl, rfl⟩ | ⟨other, rfl, rfl⟩
  · have before : ({ life with self } : Life).Echoed := heard.echoed
    have up : life.connection = true := by
      have up := heard.up
      rw [Up, serving] at up
      refine up.resolve_right ?_
      intro closed
      rw [target, closed] at own
      cases own
    rw [echoing_iff own]
    by_cases keepAlive : (incoming.received.map Message.opcode).headD 0 = 9
    · rw [if_pos keepAlive]
      cases echoed with
      | false =>
          have silent : ((({ life with self } : Life).record number
              (incoming.received.map .received)).send copsKeepalive false) =
              ({ life with self } : Life).record number (incoming.received.map .received) := by
            rw [send, Bool.and_false, if_neg Bool.false_ne_true]
          rw [silent, echoed_record before number, (balanced_received incoming).1]
          refine iff_of_false (not_not.mpr keepAlive) ?_
          exact fun echoes => absurd (echoes keepAlive).2 Bool.false_ne_true
      | true =>
          refine iff_of_true ?_ fun _ => ⟨serving, rfl⟩
          have answered : (({ life with self } : Life).record number
              (incoming.received.map .received)).send copsKeepalive true =
                (({ life with self } : Life).record number
                  (incoming.received.map .received)).record number [.sent copsKeepalive] := by
            have used : (({ life with self } : Life).record number
                (incoming.received.map .received)).target = some (.own number) := own
            have open' : (({ life with self } : Life).record number
                (incoming.received.map .received)).connection = true := up
            rw [send, open', Bool.and_self, if_pos rfl, used]
          rw [answered, record_record, echoed_record before number]
          exact (balanced_received incoming).2.mpr keepAlive
    · rw [if_neg keepAlive, echoed_record before number, (balanced_received incoming).1]
      exact iff_of_true keepAlive fun impossible => absurd impossible keepAlive
  · exact iff_of_true heard.echoed (echoing_of_nothing other)

/-- A call leaves the thread and its socket where they are. -/
theorem receive_stays {incoming : Incoming} {opcode : UInt8}
    (returns : life.receive stack (.whole incoming) = some (after, opcode)) :
    after.place = life.place ∧ after.connection = life.connection ∧ after.sock = life.sock := by
  rcases receive_whole returns with ⟨_, _, _, rfl, _⟩ | ⟨_, rfl, _⟩
  · exact ⟨rfl, rfl, rfl⟩
  · exact ⟨rfl, rfl, rfl⟩

/-- An echo, or the attempt at it, changes the logs only. -/
theorem send_stays (life : Life) (bytes : List UInt8) (written : Bool) :
    (life.send bytes written).place = life.place ∧
      (life.send bytes written).connection = life.connection ∧
        (life.send bytes written).sock = life.sock := by
  unfold send
  split
  · split
    · exact ⟨rfl, rfl, rfl⟩
    · exact ⟨rfl, rfl, rfl⟩
  · exact ⟨rfl, rfl, rfl⟩

/-- The thread stays up while it stays where it is. -/
theorem Up.of_same (up : life.Up) (place : after.place = life.place)
    (connection : after.connection = life.connection) (sock : after.sock = life.sock) :
    after.Up := by
  unfold Up at up ⊢
  rw [place, connection, sock]
  exact up

/-- A call in one of the polls, on a connection that is up. -/
theorem heard_poll {incoming : Incoming} {opcode : UInt8} (heard : life.Heard) (echoed : Bool)
    (polling : life.place = .opening ∨ life.place = .requesting)
    (returns : life.receive stack (.whole incoming) = some (after, opcode)) :
    (after.Echoed ↔ life.Echoing (.thread (.receive (.whole incoming) echoed))) ∧
      after.connection = true ∧ after.Up := by
  rcases receive_stays returns with ⟨stays, connection, sock⟩
  have up := heard.up
  refine ⟨heard_polled heard ?_ returns, ?_, up.of_same stays connection sock⟩
  · rcases polling with place | place
    · rw [place]
      exact Place.noConfusion
    · rw [place]
      exact Place.noConfusion
  · rw [connection]
    rcases polling with place | place
    · rw [Up, place] at up
      exact up
    · rw [Up, place] at up
      exact up

theorem heard_receive {incoming : Incoming} {echoed : Bool} (heard : life.Heard)
    (moved : life.threadStep stack timers (.receive (.whole incoming) echoed) = some after) :
    (after.Echoed ↔ life.Echoing (.thread (.receive (.whole incoming) echoed))) ∧ after.Up := by
  cases place : life.place with
  | opening =>
      simp only [threadStep, place] at moved
      rcases Option.map_eq_some_iff.mp moved with ⟨⟨received, opcode⟩, returns, same⟩
      rcases heard_poll heard echoed (Or.inl place) returns with ⟨polled, connected, up⟩
      dsimp only at same
      split at same
      · cases same
        exact ⟨polled, connected⟩
      · cases same
        exact ⟨polled, up⟩
  | requesting =>
      simp only [threadStep, place] at moved
      rcases Option.map_eq_some_iff.mp moved with ⟨⟨received, opcode⟩, returns, same⟩
      rcases heard_poll heard echoed (Or.inr place) returns with ⟨polled, connected, up⟩
      dsimp only at same
      split at same
      · cases same
        exact ⟨polled, Or.inl connected⟩
      · cases same
        exact ⟨polled, up⟩
  | serving =>
      simp only [threadStep, place] at moved
      rcases Option.map_eq_some_iff.mp moved with ⟨⟨received, opcode⟩, returns, same⟩
      rcases receive_stays returns with ⟨stays, connection, sock⟩
      have served : (if opcode = 9 then received.send copsKeepalive echoed else received).Echoed ↔
          life.Echoing (.thread (.receive (.whole incoming) echoed)) :=
        heard_served heard place returns
      have up := heard.up.of_same stays connection sock
      dsimp only at same
      by_cases keepAlive : opcode = 9
      · rw [if_pos keepAlive] at same served
        cases same
        rcases send_stays received copsKeepalive echoed with ⟨stays', connection', sock'⟩
        exact ⟨served, up.of_same stays' connection' sock'⟩
      · rw [if_neg keepAlive] at same served
        split at same
        · cases same
          rw [Up, stays, place] at up
          exact ⟨served, up⟩
        · cases same
          exact ⟨served, up⟩
  | connect | opened _ | pending _ | accepting | closing | clearing | forgetting | freed =>
      simp only [threadStep, place, reduceCtorEq] at moved

/-- What the thread writes beside the echoes are no echoes. -/
theorem echoed_accept (echoed : life.Echoed) (timers : Timers) (written : Bool) :
    (life.send (copsClientAccept timers.kaTimer timers.acTimer) written).Echoed := by
  unfold send
  split
  · split
    · exact (echoed_record echoed _).mpr (balanced_accept timers.kaTimer timers.acTimer)
    · exact echoed
  · exact echoed

/-- A new connection has an empty log. -/
theorem echoed_opened (echoed : life.Echoed) (number other : Nat) :
    Balanced (Function.update life.log number [] other) := by
  rw [Function.update_apply]
  split
  · exact rfl
  · exact echoed other

/-- The steps of the thread that read nothing. -/
theorem heard_thread {label : ThreadLabel} (heard : life.Heard)
    (reads : forall arrival echoed, label ≠ .receive arrival echoed)
    (moved : life.threadStep stack timers label = some after) : after.Heard := by
  cases label with
  | receive arrival echoed => exact absurd rfl (reads arrival echoed)
  | socket fd =>
      simp only [threadStep] at moved
      split at moved
      · cases moved
        exact ⟨echoed_opened heard.echoed _, trivial⟩
      · cases moved
  | socketFails | refused | unreachable =>
      simp only [threadStep] at moved
      split at moved
      · cases moved
        exact heard.elsewhere rfl (up_attemptFailed _)
      · cases moved
  | established =>
      simp only [threadStep] at moved
      split at moved
      · cases moved
        exact heard.elsewhere rfl rfl
      · cases moved
  | expire =>
      simp only [threadStep] at moved
      split at moved
      · rename_i place
        cases moved
        have up := heard.up
        rw [Up, place] at up
        exact heard.elsewhere rfl up
      · cases moved
        exact heard.elsewhere rfl (up_attemptFailed life)
      · cases moved
  | accept written =>
      simp only [threadStep] at moved
      split at moved
      · rename_i place
        cases moved
        refine ⟨echoed_accept heard.echoed timers written, ?_⟩
        have up := heard.up
        rw [Up, place] at up
        exact (send_stays life _ written).2.1.trans up
      · cases moved
  | assign | close | clear | forget =>
      simp only [threadStep] at moved
      split at moved
      · cases moved
        exact heard.elsewhere rfl trivial
      · cases moved

/-- A handler keeps no count, and stays out of the thread's place. -/
theorem heard_proxy {handler : Nat} {label : ProxyLabel} (heard : life.Heard)
    (moved : life.proxyStep handler label = some after) : after.Heard := by
  have move (proxy : Proxy) : (life.move handler proxy).Heard :=
    heard.elsewhere rfl (heard.up.of_same rfl rfl rfl)
  cases label with
  | pack | check =>
      simp only [proxyStep] at moved
      split at moved
      · split at moved
        all_goals
          cases moved
          try exact move _
      · cases moved
  | load =>
      simp only [proxyStep] at moved
      split at moved
      · cases moved
        exact move _
      · cases moved
  | write written =>
      simp only [proxyStep] at moved
      split at moved
      · split at moved
        · rcases Option.map_eq_some_iff.mp moved with ⟨target, _, rfl⟩
          exact heard.elsewhere rfl (heard.up.of_same rfl rfl rfl)
        · cases moved
          exact move _
      · cases moved

theorem heard_step {label : LifeLabel} (heard : life.Heard) (whole : Whole label)
    (moved : life.step stack timers label = some after) :
    (after.Echoed ↔ life.Echoing label) ∧ after.Up := by
  have quiet (echoing : life.Echoing label) (next : after.Heard) :
      (after.Echoed ↔ life.Echoing label) ∧ after.Up :=
    ⟨iff_of_true next.echoed echoing, next.up⟩
  cases label with
  | thread label =>
      have taken : life.threadStep stack timers label = some after := moved
      cases label with
      | receive arrival echoed =>
          cases arrival with
          | raw socket => exact whole.elim
          | whole incoming => exact heard_receive heard taken
      | socket | socketFails | refused | assign | established | unreachable | expire | accept
      | close | clear | forget =>
          refine quiet trivial (heard_thread heard ?_ taken)
          exact fun _ _ => ThreadLabel.noConfusion
  | proxy handler label => exact quiet trivial (heard_proxy heard moved)
  | otherOpens fd | otherCloses fd =>
      refine quiet trivial ?_
      simp only [step] at moved
      split at moved
      · cases moved
        exact heard.elsewhere rfl (heard.up.of_same rfl rfl rfl)
      · cases moved

end Life

/-- In a run on whole messages that echoes as they come, every connection has as
many echoes as keep-alives, and the first step that fails to echo breaks it. -/
theorem echoed_iff {stack : Memory} {timers : Timers} {dryRun : Bool} {life : Life}
    (reached : System.Run (Life.step stack timers)
      (fun life label => Life.Whole label ∧ life.Echoing label) (.start dryRun) life) :
    life.Echoed ∧
      forall label after, Life.Whole label -> life.step stack timers label = some after ->
        (after.Echoed ↔ life.Echoing label) := by
  have heard : life.Heard := by
    refine reached.invariant _ ?_ (Life.heard_start dryRun)
    rintro life label after heard ⟨whole, echoing⟩ moved
    have step := Life.heard_step heard whole moved
    exact ⟨step.1.mpr echoing, step.2⟩
  refine ⟨heard.echoed, ?_⟩
  intro label after whole moved
  exact (Life.heard_step heard whole moved).1

/-- A Client-Open comes on descriptor 5. -/
def openedOn5 : List LifeLabel :=
  [.thread (.socket 5), .thread .assign, .thread .established,
    .thread (.receive (.whole (.message (bareMessage 6) [])) true)]

/-- A keep-alive comes while the thread serves. -/
theorem echoed_serving :
    Exists fun life =>
      System.Run (Life.step (fun _ => 0) ⟨30, 0⟩)
          (fun life label => Life.Whole label ∧ life.Echoing label) (.start false) life ∧
        (life.log 1).countP Event.isEcho = 1 ∧ life.Echoed ∧
          forall label after, Life.Whole label ->
            life.step (fun _ => 0) ⟨30, 0⟩ label = some after ->
              (after.Echoed ↔ life.Echoing label) := by
  have executed : ((System.executeWithin (Life.step (fun _ => 0) ⟨30, 0⟩)
      (fun life label => Life.Whole label ∧ life.Echoing label) (.start false)
      (openedOn5 ++ [.thread (.accept true),
        .thread (.receive (.whole (.message (handleMessage 1 5) [])) true),
        .thread (.receive (.whole (.message (bareMessage 9) [])) true)])).map fun life =>
          (life.log 1).countP Event.isEcho) = some 1 := by decide
  rcases Option.map_eq_some_iff.mp executed with ⟨life, moved, sent⟩
  have reached := System.run_of_executeWithin moved
  exact ⟨life, reached, sent, echoed_iff reached⟩

/-- A keep-alive comes while the thread waits for the request: it is received,
and never echoed. -/
theorem keepalive_dropped :
    Exists fun life =>
      System.Run (Life.step (fun _ => 0) ⟨30, 0⟩) (fun _ label => Life.Whole label)
          (.start false) life ∧
        life.connection = true ∧ (life.log 1).countP Event.isKeepAlive = 1 ∧
          (life.log 1).countP Event.isEcho = 0 := by
  have executed : ((System.executeWithin (Life.step (fun _ => 0) ⟨30, 0⟩)
      (fun _ label => Life.Whole label) (.start false)
      (openedOn5 ++ [.thread (.accept true),
        .thread (.receive (.whole (.message (bareMessage 9) [])) true),
        .thread (.receive (.whole (.message (handleMessage 1 5) [])) true)])).map fun life =>
          (life.connection, (life.log 1).countP Event.isKeepAlive,
            (life.log 1).countP Event.isEcho)) = some (true, 1, 0) := by decide
  rcases Option.map_eq_some_iff.mp executed with ⟨life, moved, counts⟩
  rcases Prod.mk.inj counts with ⟨connected, counts⟩
  rcases Prod.mk.inj counts with ⟨received, sent⟩
  exact ⟨life, System.run_of_executeWithin moved, connected, received, sent⟩

end PolicyServer
