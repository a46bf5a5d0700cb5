import PolicyServer.SessionThread

namespace PolicyServer

open Lib

/-!
# Decisions on admitted connections

A decision should go to a connection whose handshake is complete, and carry a
handle received on it.  `connection` is set as soon as a socket connects, and
`ps_proxy` reads the handle, the flag and the descriptor at three different
times, so this depends on when the handlers run.  `Permitted` has the steps that
keep clear of these windows and of the ones that `ps_admctl` leaves open by
itself; `admitted_of_permitted` is the invariant of the runs made of them.
-/

/-! ## The handshake -/

/-- A Client-Open has been received. -/
def Opened (log : List Event) : Prop :=
  Exists fun message => .received message ∈ log ∧ message.opcode = 6

/-- The Client-Accept has been sent behind a Client-Open. -/
def Accepted (accept : List UInt8) (log : List Event) : Prop :=
  Exists fun before => Exists fun after => log = before ++ .sent accept :: after ∧ Opened before

/-- A request has been received behind that. -/
def HandshakeComplete (accept : List UInt8) (log : List Event) : Prop :=
  Exists fun before => Exists fun after =>
    log = before ++ .sent accept :: after ∧ Opened before ∧
      Exists fun message => .received message ∈ after ∧ message.opcode = 1

theorem Accepted.append {accept : List UInt8} {log : List Event} (accepted : Accepted accept log)
    (more : List Event) : Accepted accept (log ++ more) := by
  rcases accepted with ⟨before, after, rfl, opened⟩
  refine ⟨before, after ++ more, ?_, opened⟩
  rw [List.append_assoc, List.cons_append]

theorem HandshakeComplete.append {accept : List UInt8} {log : List Event}
    (complete : HandshakeComplete accept log) (more : List Event) :
    HandshakeComplete accept (log ++ more) := by
  rcases complete with ⟨before, after, rfl, opened, message, member, opcode⟩
  refine ⟨before, after ++ more, ?_, opened, message, List.mem_append_left more member, opcode⟩
  rw [List.append_assoc, List.cons_append]

/-- A request behind an accepted Client-Open completes the handshake. -/
theorem Accepted.complete {accept : List UInt8} {log : List Event} {message : Message}
    {more : List Event} (accepted : Accepted accept log) (member : .received message ∈ more)
    (opcode : message.opcode = 1) : HandshakeComplete accept (log ++ more) := by
  rcases accepted with ⟨before, after, rfl, opened⟩
  refine ⟨before, after ++ more, ?_, opened, message, List.mem_append_right after member, opcode⟩
  rw [List.append_assoc, List.cons_append]

/-- The decision went to a connection of the session, behind its handshake, and
with a handle received on it. -/
structure Decision.Admitted (accept : List UInt8) (decision : Decision) : Prop where
  own : Exists fun number => decision.target = .own number
  handshake : HandshakeComplete accept decision.log
  handle : decision.handle ∈ handlesOf decision.log

/-! ## The steps that keep clear -/

/-- Nothing is there, or a whole message that the object loop takes as it is. -/
def Arrival.Plain (stack : Memory) : Arrival -> Prop
  | .whole incoming => incoming.Plain stack
  | .raw _ => False

/-- A handler writes to the connection that had received a handle when it packed
it, and the thread has come to its loop since and not closed that connection. -/
def Life.InTime (life : Life) (handler : Nat) : Prop :=
  (life.place = .serving ∨ life.place = .closing) ∧
    match life.proxies handler with
    | .loaded _ since _ => since = some life.opened
    | _ => False

/-- The steps that keep clear of the windows. -/
def Permitted (stack : Memory) (life : Life) : LifeLabel -> Prop
  -- no handle is left over from an attempt that failed
  | .thread (.socket _) => life.self.uuidReceived = false
  -- the Client-Open comes in time
  | .thread .expire => life.place ≠ .opening
  | .thread (.accept written) => written = true
  -- a request comes with a handle, or behind one
  | .thread (.receive arrival _) =>
      (life.place = .opening ∨ life.place = .requesting -> arrival.Plain stack) ∧
        (life.place = .requesting -> forall message, message ∈ arrival.received ->
          message.opcode = 1 ->
            handlesOf (life.log life.opened ++ arrival.received.map .received) ≠ [])
  | .proxy handler (.write written) => written = true -> life.InTime handler
  | _ => True

section Decidability

instance (stack : Memory) (message : Message) : Decidable (message.Plain stack) :=
  decidable_of_iff
    (Unambiguous (frameBuffer stack message.frame) message.frame.opcode false 8 message.objects ∧
      Unambiguous (frameBuffer stack message.frame) message.frame.opcode true 8 message.objects)
    (by rw [Message.Plain, Bool.forall_bool])

instance (stack : Memory) (incoming : Incoming) : Decidable (incoming.Plain stack) :=
  inferInstanceAs (Decidable (forall message, message ∈ incoming.received -> message.Plain stack))

instance (stack : Memory) (arrival : Arrival) : Decidable (arrival.Plain stack) :=
  match arrival with
  | .whole incoming => inferInstanceAs (Decidable (incoming.Plain stack))
  | .raw _ => instDecidableFalse

instance (life : Life) (handler : Nat) : Decidable (life.InTime handler) :=
  match carried : life.proxies handler with
  | .loaded _ since _ =>
      decidable_of_iff
        ((life.place = .serving ∨ life.place = .closing) ∧ since = some life.opened)
        (by rw [Life.InTime, carried])
  | .idle | .packed .. | .checked .. => isFalse (by rw [Life.InTime, carried]; exact And.right)

instance (stack : Memory) (life : Life) (label : LifeLabel) :
    Decidable (Permitted stack life label) :=
  match label with
  | .thread (.socket _) => inferInstanceAs (Decidable (life.self.uuidReceived = false))
  | .thread .expire => inferInstanceAs (Decidable (life.place ≠ .opening))
  | .thread (.accept written) => inferInstanceAs (Decidable (written = true))
  | .thread (.receive arrival _) =>
      inferInstanceAs (Decidable
        ((life.place = .opening ∨ life.place = .requesting -> arrival.Plain stack) ∧
          (life.place = .requesting -> forall message, message ∈ arrival.received ->
            message.opcode = 1 -> ¬ handlesOf _ = [])))
  | .proxy handler (.write written) =>
      inferInstanceAs (Decidable (written = true -> life.InTime handler))
  | .thread .socketFails | .thread .refused | .thread .assign | .thread .established
  | .thread .unreachable | .thread .close | .thread .clear | .thread .forget
  | .proxy _ .pack | .proxy _ .check | .proxy _ .load
  | .otherOpens _ | .otherCloses _ => instDecidableTrue

end Decidability

/-! ## The invariant -/

/-- What has happened on the connection opened last. -/
def Life.current (life : Life) : List Event :=
  life.log life.opened

/-- A socket opened in this attempt, on which nothing has happened. -/
structure Life.New (life : Life) (fd : Nat) : Prop where
  file : life.files fd = some (.own life.opened)
  silent : life.current = []
  unheld : life.self.uuidReceived = false

/-- A connection in its handshake: the session holds a handle exactly if this
connection has received one. -/
structure Life.Attempting (life : Life) : Prop where
  target : life.target = some (.own life.opened)
  connection : life.connection = true
  held : life.self.uuidReceived = true ↔ handlesOf life.current ≠ []

/-- A connection behind its handshake. -/
structure Life.Served (accept : List UInt8) (life : Life) : Prop where
  target : life.target = some (.own life.opened)
  held : life.self.uuidReceived = true
  handles : handlesOf life.current ≠ []
  complete : HandshakeComplete accept life.current

/-- What is known where the thread is. -/
def Life.Here (accept : List UInt8) (life : Life) : Prop :=
  match life.place with
  | .connect | .clearing | .forgetting | .freed => True
  | .opened fd => life.New fd
  | .pending fd => life.New fd ∧ life.sock = some fd
  | .opening => life.Attempting
  | .accepting => life.Attempting ∧ Opened life.current
  | .requesting => life.Attempting ∧ Accepted accept life.current
  | .serving | .closing => life.sock = none ∨ life.Served accept

/-- A handle packed while a connection had received one is one of that
connection's. -/
def Life.Packed (life : Life) (handle : List UInt8) (since : Option Nat) : Prop :=
  forall number, since = some number ->
    number ≤ life.opened ∧ handle ∈ handlesOf (life.log number)

/-- A descriptor read since then is the one in use, unless there is a newer
connection. -/
def Life.Carries (life : Life) : Proxy -> Prop
  | .idle => True
  | .packed handle since => life.Packed handle since
  | .checked handle since => life.Packed handle since
  | .loaded handle since fd =>
      life.Packed handle since ∧ (since = some life.opened -> fd = life.sock)

structure Life.Sound (accept : List UInt8) (life : Life) : Prop where
  here : life.Here accept
  held : handlesOf life.current ≠ [] -> life.self.handle ∈ handlesOf life.current
  carries : forall handler, life.Carries (life.proxies handler)
  admitted : forall decision, decision ∈ life.decisions -> decision.Admitted accept

theorem sound_start (accept : List UInt8) (dryRun : Bool) : (Life.start dryRun).Sound accept where
  here := by
    cases dryRun with
    | false => exact trivial
    | true => exact Or.inl rfl
  held := fun received => absurd rfl received
  carries := fun _ => trivial
  admitted := fun decision member => absurd member List.not_mem_nil

/-- What a step of the thread may do to what the handlers rely on. -/
structure Life.Extends (life after : Life) : Prop where
  opened : life.opened ≤ after.opened
  log : forall number, number ≤ life.opened ->
    Exists fun more => after.log number = life.log number ++ more
  sock : after.sock = life.sock ∨ life.current = []
  proxies : after.proxies = life.proxies
  decisions : after.decisions = life.decisions

/-- A step that leaves these alone. -/
theorem Life.Extends.of_same {life after : Life} (opened : after.opened = life.opened)
    (log : after.log = life.log) (sock : after.sock = life.sock)
    (proxies : after.proxies = life.proxies) (decisions : after.decisions = life.decisions) :
    life.Extends after where
  opened := Nat.le_of_eq opened.symm
  log := fun number _ => ⟨[], by rw [log, List.append_nil]⟩
  sock := Or.inl sock
  proxies := proxies
  decisions := decisions

/-- So may a step that also moves the thread. -/
theorem Life.Extends.elsewhere {life after : Life} (steps : life.Extends after) (place : Place)
    (registered : Bool) : life.Extends { after with place, registered } where
  opened := steps.opened
  log := steps.log
  sock := steps.sock
  proxies := steps.proxies
  decisions := steps.decisions

theorem Life.Extends.packed {life after : Life} (steps : life.Extends after) {handle : List UInt8}
    {since : Option Nat} (packed : life.Packed handle since) : after.Packed handle since := by
  intro number same
  rcases packed number same with ⟨known, member⟩
  rcases steps.log number known with ⟨more, log⟩
  refine ⟨Nat.le_trans known steps.opened, ?_⟩
  rw [log, handlesOf_append]
  exact List.mem_append_left _ member

theorem Life.Extends.carries {life after : Life} (steps : life.Extends after) {proxy : Proxy}
    (carries : life.Carries proxy) : after.Carries proxy := by
  cases proxy with
  | idle => trivial
  | packed handle since => exact steps.packed carries
  | checked handle since => exact steps.packed carries
  | loaded handle since fd =>
      rcases carries with ⟨packed, newest⟩
      refine ⟨steps.packed packed, fun latest => ?_⟩
      rcases packed after.opened latest with ⟨known, member⟩
      have same : after.opened = life.opened := Nat.le_antisymm known steps.opened
      rw [same] at latest member
      rcases steps.sock with sock | silent
      · exact sock ▸ newest latest
      · rw [Life.current] at silent
        rw [silent] at member
        cases member

/-- A step of the thread keeps what is known if it keeps what concerns the
thread itself. -/
theorem Life.Sound.next {accept : List UInt8} {life after : Life} (sound : life.Sound accept)
    (steps : life.Extends after) (here : after.Here accept)
    (held : handlesOf after.current ≠ [] -> after.self.handle ∈ handlesOf after.current) :
    after.Sound accept where
  here := here
  held := held
  carries := by
    intro handler
    rw [steps.proxies]
    exact steps.carries (sound.carries handler)
  admitted := by
    rw [steps.decisions]
    exact sound.admitted

/-! ## Steps of the thread -/

section Thread

variable {stack : Memory} {timers : Timers} {life after : Life}

/-- The Client-Accept of this session. -/
def Timers.accept (timers : Timers) : List UInt8 :=
  copsClientAccept timers.kaTimer timers.acTimer

/-- An attempt that fails, with or without its socket. -/
theorem sound_attemptFailed {accept : List UInt8} (sound : life.Sound accept)
    (files : Nat -> Option Target) :
    ({ life with files } : Life).attemptFailed.Sound accept := by
  refine sound.next (.of_same rfl rfl rfl rfl rfl) ?_ sound.held
  unfold Life.Here Life.attemptFailed
  cases life.registered <;> trivial

theorem sound_socket {accept : List UInt8} {fd : Nat} (sound : life.Sound accept)
    (unheld : life.self.uuidReceived = false)
    (moved : life.threadStep stack timers (.socket fd) = some after) : after.Sound accept := by
  simp only [Life.threadStep] at moved
  split at moved
  · cases moved
    have silent : Function.update life.log (life.opened + 1) [] (life.opened + 1) = [] :=
      Function.update_self ..
    refine sound.next ⟨Nat.le_succ _, ?_, Or.inl rfl, rfl, rfl⟩ ?_ ?_
    · intro number known
      have older : number ≠ life.opened + 1 := Nat.ne_of_lt (Nat.lt_succ_of_le known)
      exact ⟨[], (Function.update_of_ne older ..).trans (List.append_nil _).symm⟩
    · exact ⟨Function.update_self .., silent, unheld⟩
    · intro received
      exact absurd (congrArg handlesOf silent) received
  · cases moved

theorem sound_assign {accept : List UInt8} (sound : life.Sound accept)
    (moved : life.threadStep stack timers .assign = some after) : after.Sound accept := by
  simp only [Life.threadStep] at moved
  split at moved
  · rename_i fd place
    cases moved
    have here := sound.here
    rw [Life.Here, place] at here
    refine sound.next ⟨Nat.le_refl _, fun _ _ => ⟨[], (List.append_nil _).symm⟩, Or.inr here.silent,
      rfl, rfl⟩ ?_ sound.held
    exact ⟨⟨here.file, here.silent, here.unheld⟩, rfl⟩
  · cases moved

theorem sound_established {accept : List UInt8} (sound : life.Sound accept)
    (moved : life.threadStep stack timers .established = some after) : after.Sound accept := by
  simp only [Life.threadStep] at moved
  split at moved
  · rename_i fd place
    cases moved
    have here := sound.here
    rw [Life.Here, place] at here
    rcases here with ⟨new, sock⟩
    refine sound.next (.of_same rfl rfl rfl rfl rfl) ?_ sound.held
    refine ⟨?_, rfl, ?_⟩
    · rw [Life.target, sock]
      exact new.file
    · change life.self.uuidReceived = true ↔ handlesOf life.current ≠ []
      rw [new.unheld, new.silent]
      exact ⟨fun impossible => absurd impossible Bool.false_ne_true, fun some => (some rfl).elim⟩
  · cases moved

/-- What one call of `ps_recvd` does on a connection of the session. -/
theorem receive_own {number : Nat} {arrival : Arrival} {opcode : UInt8}
    (target : life.target = some (.own number))
    (returns : life.receive stack arrival = some (after, opcode)) :
    Exists fun received => psRecvd stack life.self arrival.socket = some received ∧
      received.opcode = opcode ∧
        after = { life with self := received.self }.record number
          (arrival.received.map .received) := by
  unfold Life.receive at returns
  rw [target] at returns
  rcases Option.map_eq_some_iff.mp returns with ⟨received, called, same⟩
  cases same
  exact ⟨received, called, rfl, rfl⟩

theorem record_current (life : Life) (events : List Event) :
    (life.record life.opened events).current = life.current ++ events :=
  Function.update_self ..

/-- More on a connection is more for the handlers too. -/
theorem record_extends (life : Life) (self : Session) (events : List Event) :
    life.Extends ({ life with self }.record life.opened events) where
  opened := Nat.le_refl _
  log := by
    intro number _
    by_cases same : number = life.opened
    · subst same
      exact ⟨events, Function.update_self ..⟩
    · exact ⟨[], (Function.update_of_ne same ..).trans (List.append_nil _).symm⟩
  sock := Or.inl rfl
  proxies := rfl
  decisions := rfl

/-- A session in its handshake takes the first handle of its connection. -/
theorem capture_held {self : Session} {log : List Event} (events : List Event)
    (marked : self.uuidReceived = true ↔ handlesOf log ≠ [])
    (held : handlesOf log ≠ [] -> self.handle ∈ handlesOf log) :
    ((self.capture (handlesOf events)).uuidReceived = true ↔ handlesOf (log ++ events) ≠ []) ∧
      (handlesOf (log ++ events) ≠ [] ->
        (self.capture (handlesOf events)).handle ∈ handlesOf (log ++ events)) := by
  rw [handlesOf_append]
  cases uuid : self.uuidReceived with
  | true =>
      have some := marked.mp uuid
      have kept : self.capture (handlesOf events) = self := by
        simp only [Session.capture, uuid, if_true]
      rw [kept]
      refine ⟨⟨fun _ => List.append_ne_nil_of_left_ne_nil some _, fun _ => uuid⟩, fun _ => ?_⟩
      exact List.mem_append_left _ (held some)
  | false =>
      have none : handlesOf log = [] := by
        by_contra some
        exact absurd (marked.mpr some) (by rw [uuid]; exact Bool.false_ne_true)
      rw [none, List.nil_append]
      cases handles : handlesOf events with
      | nil =>
          rw [Session.capture_nil, uuid]
          exact ⟨⟨fun impossible => absurd impossible Bool.false_ne_true, fun some => (some rfl).elim⟩,
            fun some => (some rfl).elim⟩
      | cons first rest =>
          have taken : self.capture (first :: rest) = { handle := first, uuidReceived := true } := by
            simp only [Session.capture, uuid, Bool.false_eq_true, if_false]
          rw [taken]
          exact ⟨⟨fun _ => List.cons_ne_nil _ _, fun _ => rfl⟩, fun _ => List.mem_cons_self⟩

/-- What a call finds in a handshake: it takes the handles of the messages that
are there, and returns the opcode of one of them or 0. -/
theorem receive_attempting {accept : List UInt8} {arrival : Arrival} {opcode : UInt8}
    (sound : life.Sound accept) (attempting : life.Attempting) (plain : arrival.Plain stack)
    (returns : life.receive stack arrival = some (after, opcode)) :
    life.Extends after ∧ after.Attempting ∧
      (handlesOf after.current ≠ [] -> after.self.handle ∈ handlesOf after.current) ∧
      after.current = life.current ++ arrival.received.map .received ∧
      after.place = life.place ∧
      (opcode ≠ 0 -> Exists fun message => message ∈ arrival.received ∧ message.opcode = opcode) := by
  rcases receive_own attempting.target returns with ⟨received, called, opcodeEq, rfl⟩
  cases arrival with
  | raw socket => exact plain.elim
  | whole incoming =>
      rcases psRecvd_capture life.self plain with ⟨received', called', captured⟩
      have same : received' = received := Option.some.inj (called'.symm.trans called)
      subst same
      have current := record_current { life with self := received'.self }
        (incoming.received.map .received)
      have handles := capture_held (incoming.received.map .received) attempting.held sound.held
      rw [← captured] at handles
      refine ⟨record_extends life _ _, ⟨attempting.target, attempting.connection, ?_⟩, ?_, current,
        rfl, ?_⟩
      · rw [Arrival.received, current]
        exact handles.1
      · rw [Arrival.received, current]
        exact handles.2
      · intro real
        rw [← opcodeEq] at real ⊢
        exact (hit_iff real called).mp rfl

theorem mem_events {message : Message} {messages : List Message} (member : message ∈ messages) :
    Event.received message ∈ messages.map .received :=
  List.mem_map_of_mem member

/-- A message in the first poll. -/
theorem sound_receive_opening {accept : List UInt8} {arrival : Arrival} {echoed : Bool}
    (sound : life.Sound accept) (place : life.place = .opening) (plain : arrival.Plain stack)
    (moved : life.threadStep stack timers (.receive arrival echoed) = some after) :
    after.Sound accept := by
  have attempting := sound.here
  rw [Life.Here, place] at attempting
  simp only [Life.threadStep, place] at moved
  rcases Option.map_eq_some_iff.mp moved with ⟨⟨received, opcode⟩, returns, rfl⟩
  rcases receive_attempting sound attempting plain returns with
    ⟨steps, attempts, held, current, same, found⟩
  dsimp only
  split
  · rename_i isOpen
    rcases found (by rw [isOpen]; decide) with ⟨message, member, isMessage⟩
    refine sound.next (steps.elsewhere .accepting received.registered) ?_ held
    refine ⟨⟨attempts.target, attempts.connection, attempts.held⟩, message, ?_,
      isMessage.trans isOpen⟩
    change Event.received message ∈ received.current
    rw [current]
    exact List.mem_append_right _ (mem_events member)
  · refine sound.next steps ?_ held
    rw [Life.Here, same, place]
    exact attempts

/-- A message in the second poll. -/
theorem sound_receive_requesting {accept : List UInt8} {arrival : Arrival} {echoed : Bool}
    (sound : life.Sound accept) (place : life.place = .requesting) (plain : arrival.Plain stack)
    (handed : forall message, message ∈ arrival.received -> message.opcode = 1 ->
      handlesOf (life.current ++ arrival.received.map .received) ≠ [])
    (moved : life.threadStep stack timers (.receive arrival echoed) = some after) :
    after.Sound accept := by
  have here := sound.here
  rw [Life.Here, place] at here
  rcases here with ⟨attempting, accepted⟩
  simp only [Life.threadStep, place] at moved
  rcases Option.map_eq_some_iff.mp moved with ⟨⟨received, opcode⟩, returns, rfl⟩
  rcases receive_attempting sound attempting plain returns with
    ⟨steps, attempts, held, current, same, found⟩
  dsimp only
  split
  · rename_i isRequest
    rcases found (by rw [isRequest]; decide) with ⟨message, member, isMessage⟩
    have handles := handed message member (isMessage.trans isRequest)
    rw [← current] at handles
    have complete := accepted.complete (mem_events member) (isMessage.trans isRequest)
    rw [← current] at complete
    refine sound.next (steps.elsewhere .serving true) ?_ held
    exact Or.inr ⟨attempts.target, attempts.held.mpr handles, handles, complete⟩
  · refine sound.next steps ?_ held
    rw [Life.Here, same, place]
    refine ⟨attempts, ?_⟩
    rw [current]
    exact accepted.append _

/-- Sending adds to what happened on the connection. -/
theorem send_own (bytes : List UInt8) (written : Bool)
    (target : life.target = some (.own life.opened)) :
    Exists fun events => life.send bytes written = life.record life.opened events := by
  unfold Life.send
  split
  · rw [target]
    exact ⟨_, rfl⟩
  · refine ⟨[], ?_⟩
    unfold Life.record
    rw [List.append_nil, Function.update_eq_self]

theorem Life.Served.elsewhere {accept : List UInt8} (served : life.Served accept) (place : Place) :
    ({ life with place } : Life).Served accept :=
  ⟨served.target, served.held, served.handles, served.complete⟩

theorem Life.Served.record {accept : List UInt8} (served : life.Served accept)
    (events : List Event) : (life.record life.opened events).Served accept where
  target := served.target
  held := served.held
  handles := by
    rw [record_current, handlesOf_append]
    exact List.append_ne_nil_of_left_ne_nil served.handles _
  complete := by
    rw [record_current]
    exact served.complete.append events

/-- More may happen on an admitted connection. -/
theorem sound_record {accept : List UInt8} (sound : life.Sound accept) (place : life.place = .serving)
    (served : life.Served accept) (events : List Event) :
    (life.record life.opened events).Sound accept := by
  refine sound.next (record_extends life life.self events) ?_ ?_
  · rw [Life.Here, Life.record, place]
    exact Or.inr ((served.record events).elsewhere .serving)
  · intro _
    rw [record_current, handlesOf_append]
    exact List.mem_append_left _ (sound.held served.handles)

/-- A message in the loop of `ps_statemachine`. -/
theorem sound_receive_serving {accept : List UInt8} {arrival : Arrival} {echoed : Bool}
    (sound : life.Sound accept) (place : life.place = .serving)
    (moved : life.threadStep stack timers (.receive arrival echoed) = some after) :
    after.Sound accept := by
  have here := sound.here
  rw [Life.Here, place] at here
  simp only [Life.threadStep, place] at moved
  rcases Option.map_eq_some_iff.mp moved with ⟨⟨received, opcode⟩, returns, rfl⟩
  rcases here with unconnected | served
  · -- nothing comes from a descriptor of -1
    have nothing : life.target = none := by
      rw [Life.target, unconnected]
      rfl
    rw [Life.receive, nothing] at returns
    cases returns
    exact sound
  · rcases receive_own served.target returns with ⟨called, calls, _, rfl⟩
    rw [psRecvd_keeps served.held calls]
    have soundAfter := sound_record sound place served (arrival.received.map .received)
    have servedAfter := served.record (arrival.received.map .received)
    dsimp only
    split
    · rcases send_own copsKeepalive echoed servedAfter.target with ⟨events, sends⟩
      rw [sends]
      exact sound_record soundAfter place servedAfter events
    split
    · exact soundAfter.next (.of_same rfl rfl rfl rfl rfl) (Or.inr (servedAfter.elsewhere .closing))
        soundAfter.held
    · exact soundAfter

theorem sound_receive {accept : List UInt8} {arrival : Arrival} {echoed : Bool}
    (sound : life.Sound accept)
    (permitted : Permitted stack life (.thread (.receive arrival echoed)))
    (moved : life.threadStep stack timers (.receive arrival echoed) = some after) :
    after.Sound accept := by
  cases place : life.place with
  | opening => exact sound_receive_opening sound place (permitted.1 (Or.inl place)) moved
  | requesting =>
      exact sound_receive_requesting sound place (permitted.1 (Or.inr place)) (permitted.2 place) moved
  | serving => exact sound_receive_serving sound place moved
  | connect | opened | pending | accepting | closing | clearing | forgetting | freed =>
      simp only [Life.threadStep, place, reduceCtorEq] at moved

/-- The Client-Accept goes out on the connection that brought the Client-Open. -/
theorem sound_accept (sound : life.Sound timers.accept)
    (moved : life.threadStep stack timers (.accept true) = some after) :
    after.Sound timers.accept := by
  simp only [Life.threadStep] at moved
  split at moved
  · rename_i place
    cases moved
    have here := sound.here
    rw [Life.Here, place] at here
    rcases here with ⟨attempting, opened⟩
    have sends : life.send timers.accept true = life.record life.opened [.sent timers.accept] := by
      simp only [Life.send, attempting.connection, attempting.target, Bool.and_self, if_true]
    have unheard : handlesOf [.sent timers.accept] = [] := rfl
    have handles : handlesOf (life.record life.opened [.sent timers.accept]).current =
        handlesOf life.current := by
      rw [record_current, handlesOf_append, unheard, List.append_nil]
    have steps := record_extends life life.self [.sent timers.accept]
    change ({ life.send timers.accept true with place := .requesting } : Life).Sound timers.accept
    rw [sends]
    refine sound.next (steps.elsewhere .requesting life.registered) ?_ ?_
    · refine ⟨⟨attempting.target, attempting.connection, ?_⟩, life.current, [], ?_, opened⟩
      · exact handles ▸ attempting.held
      · change (life.record life.opened [.sent timers.accept]).current = _
        exact record_current life [.sent timers.accept]
    · exact handles ▸ sound.held
  · cases moved

theorem sound_expire {accept : List UInt8} (sound : life.Sound accept)
    (inTime : life.place ≠ .opening)
    (moved : life.threadStep stack timers .expire = some after) : after.Sound accept := by
  simp only [Life.threadStep] at moved
  split at moved
  · rename_i place
    exact absurd place inTime
  · cases moved
    exact sound_attemptFailed sound life.files
  · cases moved

/-- Every permitted step of the thread. -/
theorem sound_thread {label : ThreadLabel} (sound : life.Sound timers.accept)
    (permitted : Permitted stack life (.thread label))
    (moved : life.threadStep stack timers label = some after) : after.Sound timers.accept := by
  cases label with
  | socket fd => exact sound_socket sound permitted moved
  | assign => exact sound_assign sound moved
  | established => exact sound_established sound moved
  | receive arrival echoed => exact sound_receive sound permitted moved
  | expire => exact sound_expire sound permitted moved
  | accept written =>
      cases (permitted : written = true)
      exact sound_accept sound moved
  | socketFails =>
      simp only [Life.threadStep] at moved
      split at moved
      · cases moved
        exact sound_attemptFailed sound life.files
      · cases moved
  | refused | unreachable =>
      simp only [Life.threadStep] at moved
      split at moved
      · cases moved
        exact sound_attemptFailed sound _
      · cases moved
  | close | clear | forget =>
      simp only [Life.threadStep] at moved
      split at moved
      · cases moved
        exact sound.next (.of_same rfl rfl rfl rfl rfl) trivial sound.held
      · cases moved

end Thread

/-! ## Steps of the handlers, and of the rest of the process -/

section Handlers

variable {accept : List UInt8} {life after : Life}

/-- The thread relies on its own fields, and on its own descriptors. -/
theorem here_kept (here : life.Here accept) (self : after.self = life.self)
    (connection : after.connection = life.connection) (sock : after.sock = life.sock)
    (place : after.place = life.place) (opened : after.opened = life.opened)
    (log : after.log = life.log)
    (files : forall fd number, life.files fd = some (.own number) ->
      after.files fd = some (.own number)) : after.Here accept := by
  have current : after.current = life.current := by rw [Life.current, log, opened]; rfl
  have target (same : life.target = some (.own life.opened)) :
      after.target = some (.own after.opened) := by
    rcases Option.bind_eq_some_iff.mp same with ⟨fd, used, file⟩
    rw [Life.target, sock, used, opened]
    exact files fd life.opened file
  have new {fd : Nat} (same : life.New fd) : after.New fd :=
    ⟨opened ▸ files fd life.opened same.file, current ▸ same.silent, self ▸ same.unheld⟩
  have attempting (same : life.Attempting) : after.Attempting :=
    ⟨target same.target, connection ▸ same.connection, self ▸ current ▸ same.held⟩
  have served (same : life.Served accept) : after.Served accept :=
    ⟨target same.target, self ▸ same.held, current ▸ same.handles, current ▸ same.complete⟩
  unfold Life.Here at here ⊢
  rw [place]
  cases there : life.place with
  | connect | clearing | forgetting | freed => trivial
  | opened fd =>
      rw [there] at here
      exact new here
  | pending fd =>
      rw [there] at here
      exact ⟨new here.1, sock.trans here.2⟩
  | opening =>
      rw [there] at here
      exact attempting here
  | accepting | requesting =>
      rw [there] at here
      exact ⟨attempting here.1, current ▸ here.2⟩
  | serving | closing =>
      rw [there] at here
      exact here.imp sock.trans served

/-- A handler moves by itself. -/
theorem sound_move (sound : life.Sound accept) (handler : Nat) (proxy : Proxy)
    (carries : life.Carries proxy) : (life.move handler proxy).Sound accept where
  here := here_kept sound.here rfl rfl rfl rfl rfl rfl (fun _ _ own => own)
  held := sound.held
  carries := by
    intro other
    change life.Carries (Function.update life.proxies handler proxy other)
    by_cases same : other = handler
    · rw [same, Function.update_self]
      exact carries
    · rw [Function.update_of_ne same]
      exact sound.carries other
  admitted := sound.admitted

/-- A handle packed now is of the connection it is said to be of. -/
theorem packed_since (sound : life.Sound accept) : life.Packed life.self.handle life.since := by
  intro number same
  unfold Life.since at same
  split at same
  · cases same
  · rename_i received
    cases same
    exact ⟨Nat.le_refl _, sound.held received⟩

/-- A decision written in time is admitted. -/
theorem admitted_of_inTime {handler : Nat} {handle : List UInt8} {since fd : Option Nat}
    {target : Target} (sound : life.Sound accept) (inTime : life.InTime handler)
    (loaded : life.proxies handler = .loaded handle since fd)
    (written : fd.bind life.files = some target) :
    target = .own life.opened ∧ HandshakeComplete accept life.current ∧
      handle ∈ handlesOf life.current := by
  rcases inTime with ⟨place, latest⟩
  rw [loaded] at latest
  cases (latest : since = some life.opened)
  have carries := sound.carries handler
  rw [loaded] at carries
  rcases carries with ⟨packed, newest⟩
  rw [newest rfl] at written
  have here : life.sock = none ∨ life.Served accept := by
    have here := sound.here
    rcases place with place | place <;> simpa only [Life.Here, place] using here
  rcases here with unconnected | served
  · rw [unconnected] at written
    cases written
  · have same : some (Target.own life.opened) = some target := served.target.symm.trans written
    exact ⟨(Option.some.inj same).symm, served.complete, (packed life.opened rfl).2⟩

theorem sound_proxy {stack : Memory} {handler : Nat} {label : ProxyLabel} (sound : life.Sound accept)
    (permitted : Permitted stack life (.proxy handler label))
    (moved : life.proxyStep handler label = some after) : after.Sound accept := by
  have carries := sound.carries handler
  cases label with
  | pack =>
      simp only [Life.proxyStep] at moved
      split at moved
      · split at moved
        · cases moved
          exact sound_move sound handler _ (packed_since sound)
        · cases moved
      · cases moved
  | check =>
      simp only [Life.proxyStep] at moved
      split at moved
      · rename_i packed
        rw [packed] at carries
        split at moved
        · cases moved
          exact sound_move sound handler _ carries
        · cases moved
          exact sound_move sound handler .idle trivial
      · cases moved
  | load =>
      simp only [Life.proxyStep] at moved
      split at moved
      · rename_i checked
        rw [checked] at carries
        cases moved
        exact sound_move sound handler _ ⟨carries, fun _ => rfl⟩
      · cases moved
  | write written =>
      simp only [Life.proxyStep] at moved
      split at moved
      · rename_i loaded
        have idle := sound_move sound handler .idle trivial
        split at moved
        · rename_i goesOut
          rcases Option.map_eq_some_iff.mp moved with ⟨target, there, rfl⟩
          rcases admitted_of_inTime sound (permitted goesOut) loaded there with
            ⟨rfl, complete, member⟩
          refine ⟨here_kept sound.here rfl rfl rfl rfl rfl rfl (fun _ _ own => own), idle.held,
            idle.carries, ?_⟩
          intro decision old
          rcases List.mem_append.mp old with earlier | now
          · exact sound.admitted decision earlier
          · rw [List.mem_singleton.mp now]
            exact ⟨⟨life.opened, rfl⟩, complete, member⟩
        · cases moved
          exact idle
      · cases moved

/-- The rest of the process takes and releases descriptors of its own. -/
theorem sound_update {fd : Nat} {file : Option Target} (sound : life.Sound accept)
    (foreign : forall number, life.files fd ≠ some (.own number)) :
    ({ life with files := Function.update life.files fd file } : Life).Sound accept := by
  refine ⟨here_kept sound.here rfl rfl rfl rfl rfl rfl ?_, sound.held, sound.carries, sound.admitted⟩
  intro other number own
  have apart : other ≠ fd := fun same => foreign number (same ▸ own)
  exact (Function.update_of_ne apart ..).trans own

end Handlers

/-- In every run of the session and its handlers, made of permitted steps, every
decision written went to a connection behind its handshake, with a handle
received on it. -/
theorem admitted_of_permitted (stack : Memory) (timers : Timers) (dryRun : Bool) (life : Life)
    (reached : System.Run (Life.step stack timers) (Permitted stack) (.start dryRun) life) :
    forall decision, decision ∈ life.decisions -> decision.Admitted timers.accept := by
  have sound : life.Sound timers.accept := by
    refine reached.invariant (Life.Sound timers.accept) ?_ (sound_start timers.accept dryRun)
    intro life label after sound permitted moved
    cases label with
    | thread label => exact sound_thread sound permitted moved
    | proxy handler label => exact sound_proxy sound permitted moved
    | otherOpens fd =>
        simp only [Life.step] at moved
        split at moved
        · rename_i free
          cases moved
          exact sound_update sound (fun number own => by rw [free] at own; cases own)
        · cases moved
    | otherCloses fd =>
        simp only [Life.step] at moved
        split at moved
        · rename_i other
          cases moved
          exact sound_update sound (fun number own => by rw [other] at own; cases own)
        · cases moved
  exact sound.admitted

/-- The thread is admitted on descriptor 5, by a request with a handle. -/
def admission : List LifeLabel :=
  [.thread (.socket 5), .thread .assign, .thread .established,
    .thread (.receive (.whole (.message (bareMessage 6) [])) true), .thread (.accept true),
    .thread (.receive (.whole (.message (handleMessage 1 5) [])) true)]

/-- A handler goes through `ps_proxy`. -/
def proxyCall (handler : Nat) : List LifeLabel :=
  [.proxy handler .pack, .proxy handler .check, .proxy handler .load, .proxy handler (.write true)]

/-- A Client-Close comes, and the thread connects again. -/
def reconnection : List LifeLabel :=
  [.thread (.receive (.whole (.message (bareMessage 8) [])) true), .thread .close, .thread .clear,
    .thread .forget, .thread (.socket 5), .thread .assign, .thread .established]

/-- A decision written while the thread serves. -/
theorem admitted_of_permitted_serving :
    Exists fun life =>
      System.Run (Life.step (fun _ => 0) ⟨30, 0⟩) (Permitted (fun _ => 0)) (.start false) life ∧
        life.decisions.map (fun decision => (decision.target, decision.handle)) =
          [(.own 1, [0, 0, 0, 5])] ∧
        forall decision, decision ∈ life.decisions ->
          decision.Admitted (Timers.accept ⟨30, 0⟩) := by
  have executed : ((System.executeWithin (Life.step (fun _ => 0) ⟨30, 0⟩) (Permitted (fun _ => 0))
      (.start false) (admission ++ proxyCall 0)).map fun life =>
        life.decisions.map fun decision => (decision.target, decision.handle)) =
      some [(.own 1, [0, 0, 0, 5])] := by decide
  rcases Option.map_eq_some_iff.mp executed with ⟨life, moved, decisions⟩
  have reached := System.run_of_executeWithin moved
  exact ⟨life, reached, decisions,
    admitted_of_permitted (fun _ => 0) ⟨30, 0⟩ false life reached⟩

/-- Behind a reconnection, a handler writes the handle of the closed connection
to the new one, before anything has happened on it. -/
theorem decision_before_handshake :
    Exists fun life =>
      System.Run (Life.step (fun _ => 0) ⟨30, 0⟩) (fun _ _ => True) (.start false) life ∧
        Exists fun decision => decision ∈ life.decisions ∧
          decision.target = .own 2 ∧ decision.handle = [0, 0, 0, 5] ∧
            ¬ decision.Admitted (Timers.accept ⟨30, 0⟩) := by
  have executed : ((System.execute (Life.step (fun _ => 0) ⟨30, 0⟩) (.start false)
      (admission ++ reconnection ++ proxyCall 0)).map fun life =>
        life.decisions.map fun decision =>
          (decision.target, decision.handle, handlesOf decision.log)) =
      some [(.own 2, [0, 0, 0, 5], [])] := by decide
  rcases Option.map_eq_some_iff.mp executed with ⟨life, moved, decisions⟩
  rcases List.map_eq_singleton_iff.mp decisions with ⟨decision, all, same⟩
  rcases Prod.mk.inj same with ⟨target, rest⟩
  rcases Prod.mk.inj rest with ⟨handle, unheard⟩
  refine ⟨life, System.run_of_execute (fun _ _ _ => trivial) moved, decision,
    all ▸ List.mem_singleton_self decision, target, handle, fun admitted => ?_⟩
  have member := admitted.handle
  rw [unheard] at member
  cases member

end PolicyServer
