import PolicyServer.Connect
import PolicyServer.Dispatch

namespace PolicyServer

/-!
# Admission control

`ps_admctl` opens a connection, polls for a Client-Open, sends a Client-Accept
and polls for a request.  A poll calls `ps_recvd` until it returns the opcode
waited for or ten seconds have passed; what the calls find in the socket and
what the clock says after each is the input of the poll.

The log of an attempt has the messages received on its connection and what the
kernel took of the bytes written to it, in order.  An input that ends before the poll
does leaves a run that has not returned.
-/

/-- A well-formed message: a frame tiled by objects. -/
structure Message where
  frame : Frame
  objects : List CopsObject
  tiled : frame.body = encode objects

def Message.opcode (message : Message) : UInt8 :=
  message.frame.opcode

/-- The handles of the message's Handle objects. -/
def Message.handles (message : Message) : List (List UInt8) :=
  (message.objects.filter (Object.isA 1)).map (fun object => object.body.take 4)

/-- What a call of `ps_recvd` finds: nothing, or a message with more behind it. -/
inductive Incoming where
  | silence
  | message (message : Message) (more : List UInt8)

namespace Incoming

def socket : Incoming -> Socket
  | .silence => { queue := [], arrivals := [] }
  | .message whole more => { queue := whole.frame.bytes ++ more, arrivals := [] }

/-- The message received by the call, if any. -/
def received : Incoming -> List Message
  | .silence => []
  | .message whole _ => [whole]

end Incoming

/-- `sent` has the bytes that a call of `sock_write` puts on the connection; there may be
none. -/
inductive Event where
  | received (message : Message)
  | sent (bytes : List UInt8)

/-! ## Polling -/

/-- The clock at the start of a poll, and the calls with the clock after each. -/
structure Poll where
  start : Int
  calls : List (Incoming × Int)

structure Outcome where
  self : Session
  log : List Event
  returned : Option Bool

/-- The loop of `ps_polld`, up to its `end`.  A call that never returns leaves the
poll unreturned. -/
def psPolldLoop (stack : Lib.Memory) (target : UInt8) (deadline : Int) :
    Session -> (cur : Int) -> List (Incoming × Int) -> Outcome
  | self, cur, [] =>
      if cur < deadline then { self, log := [], returned := none }
      else { self, log := [], returned := some false }
  | self, cur, (incoming, next) :: calls =>
      if cur < deadline then
        match psRecvd stack self incoming.socket with
        | none => { self, log := incoming.received.map .received, returned := none }
        | some received =>
            if received.opcode = target then
              { self := received.self
                log := incoming.received.map .received
                returned := some true }
            else
              let rest := psPolldLoop stack target deadline received.self next calls
              { rest with log := incoming.received.map .received ++ rest.log }
      else { self, log := [], returned := some false }

def psPolld (stack : Lib.Memory) (self : Session) (target : UInt8) (poll : Poll) : Outcome :=
  psPolldLoop stack target (poll.start + 10) self poll.start poll.calls

/-! ## Admission -/

/-- The timers of the session, as configured. -/
structure Timers where
  kaTimer : UInt32
  acTimer : UInt32

/-- `sock_write`, given what is on the connection: `bytes` is what `write` answers,
`none` for -1.  An error and a short count are logged, and that is all. -/
def sockWrite (connection : Bool) (stream msg : List UInt8) (bytes : Option Nat) : List UInt8 :=
  if !connection then stream
  else
    match bytes with
    | none => stream
    | some bytes => stream ++ msg.take bytes

/-- What one run of `ps_admctl` meets; `accepted` is what `write` answers for the
Client-Accept. -/
structure Attempt where
  connect : ConnectEnv
  opens : Poll
  accepted : Option Nat
  requests : Poll

/-- Neither the result of the first poll nor that of the write is used.  `sock_connect`
has set `connection`. -/
def psAdmctl (stack : Lib.Memory) (timers : Timers) (self : Session) (attempt : Attempt) :
    Outcome :=
  match sockConnect attempt.connect with
  | none => { self, log := [], returned := none }
  | some false => { self, log := [], returned := some false }
  | some true =>
      let opened := psPolld stack self 6 attempt.opens
      match opened.returned with
      | none => opened
      | some _ =>
          let msg := copsClientAccept timers.kaTimer timers.acTimer
          let requested := psPolld stack opened.self 1 attempt.requests
          { requested with
            log := opened.log ++ .sent (sockWrite true [] msg attempt.accepted) :: requested.log }

/-! ## What a poll returns -/

section Polling

variable {stack : Lib.Memory}

/-- A call returns the opcode of the message it finds, and 0 if it finds none. -/
theorem opcode_of_recvd {self : Session} {incoming : Incoming} {received : Received}
    (returns : psRecvd stack self incoming.socket = some received) :
    received.opcode = (incoming.received.map Message.opcode).headD 0 := by
  cases incoming with
  | silence =>
      cases returns
      rfl
  | message whole more =>
      rw [Incoming.socket, psRecvd_of_queued] at returns
      rcases Option.map_eq_some_iff.mp returns with ⟨last, _, rfl⟩
      rfl

/-- How the window of a poll ends, and with which session: a message with the opcode
waited for is there, or the clock passes the end of the window first. -/
inductive WindowEnds (stack : Lib.Memory) (target : UInt8) (deadline : Int) :
    Session -> (cur : Int) -> List (Incoming × Int) -> (found : Bool) -> Session -> Prop
  | elapsed {self : Session} {cur : Int} {calls : List (Incoming × Int)} (late : deadline ≤ cur) :
      WindowEnds stack target deadline self cur calls false self
  | found {self : Session} {cur next : Int} {incoming : Incoming} {calls : List (Incoming × Int)}
      {received : Received} (early : cur < deadline)
      (returns : psRecvd stack self incoming.socket = some received) {message : Message}
      (there : message ∈ incoming.received) (same : message.opcode = target) :
      WindowEnds stack target deadline self cur ((incoming, next) :: calls) true received.self
  | call {self after : Session} {cur next : Int} {incoming : Incoming}
      {calls : List (Incoming × Int)} {received : Received} {found : Bool} (early : cur < deadline)
      (returns : psRecvd stack self incoming.socket = some received)
      (other : forall message, message ∈ incoming.received -> message.opcode ≠ target)
      (later : WindowEnds stack target deadline received.self next calls found after) :
      WindowEnds stack target deadline self cur ((incoming, next) :: calls) found after

theorem psPolldLoop_late (target : UInt8) {deadline cur : Int} (self : Session)
    (calls : List (Incoming × Int)) (late : ¬ cur < deadline) :
    psPolldLoop stack target deadline self cur calls =
      { self, log := [], returned := some false } := by
  cases calls with
  | nil => rw [psPolldLoop, if_neg late]
  | cons call calls => rw [psPolldLoop, if_neg late]

theorem psPolldLoop_stuck (target : UInt8) {deadline cur next : Int} {self : Session}
    {incoming : Incoming} (calls : List (Incoming × Int)) (early : cur < deadline)
    (stuck : psRecvd stack self incoming.socket = none) :
    psPolldLoop stack target deadline self cur ((incoming, next) :: calls) =
      { self, log := incoming.received.map .received, returned := none } := by
  rw [psPolldLoop, if_pos early]
  simp only [stuck]

theorem psPolldLoop_hit {target : UInt8} {deadline cur next : Int} {self : Session}
    {incoming : Incoming} {received : Received} (calls : List (Incoming × Int))
    (early : cur < deadline) (returns : psRecvd stack self incoming.socket = some received)
    (hit : received.opcode = target) :
    psPolldLoop stack target deadline self cur ((incoming, next) :: calls) =
      { self := received.self
        log := incoming.received.map .received
        returned := some true } := by
  rw [psPolldLoop, if_pos early]
  simp only [returns, if_pos hit]

theorem psPolldLoop_miss {target : UInt8} {deadline cur next : Int} {self : Session}
    {incoming : Incoming} {received : Received} (calls : List (Incoming × Int))
    (early : cur < deadline) (returns : psRecvd stack self incoming.socket = some received)
    (miss : received.opcode ≠ target) :
    psPolldLoop stack target deadline self cur ((incoming, next) :: calls) =
      { psPolldLoop stack target deadline received.self next calls with
        log := incoming.received.map .received ++
          (psPolldLoop stack target deadline received.self next calls).log } := by
  rw [psPolldLoop, if_pos early]
  simp only [returns, if_neg miss]

/-- A call hits the opcode waited for exactly if the message it finds has it. -/
theorem hit_iff {target : UInt8} (real : target ≠ 0) {self : Session} {incoming : Incoming}
    {received : Received} (returns : psRecvd stack self incoming.socket = some received) :
    received.opcode = target ↔
      Exists fun message => message ∈ incoming.received ∧ message.opcode = target := by
  rw [opcode_of_recvd returns]
  cases incoming with
  | silence =>
      constructor
      · intro zero
        exact absurd zero.symm real
      · rintro ⟨message, member, _⟩
        cases member
  | message whole more =>
      constructor
      · intro same
        exact ⟨whole, List.mem_cons_self, same⟩
      · rintro ⟨message, member, same⟩
        rw [← List.mem_singleton.mp member]
        exact same

/-- A poll only logs what it receives. -/
theorem psPolldLoop_log {target : UInt8} {deadline cur : Int} {self : Session}
    {calls : List (Incoming × Int)} {event : Event}
    (member : event ∈ (psPolldLoop stack target deadline self cur calls).log) :
    Exists fun message => event = .received message := by
  have single : forall incoming : Incoming, event ∈ incoming.received.map Event.received ->
      Exists fun message => event = .received message := by
    intro incoming there
    rcases List.mem_map.mp there with ⟨message, _, same⟩
    exact ⟨message, same.symm⟩
  induction calls generalizing self cur with
  | nil =>
      by_cases early : cur < deadline
      · rw [psPolldLoop, if_pos early] at member
        cases member
      · rw [psPolldLoop_late target self [] early] at member
        cases member
  | cons call calls inductionHypothesis =>
      rcases call with ⟨incoming, next⟩
      by_cases early : cur < deadline
      · cases returns : psRecvd stack self incoming.socket with
        | none =>
            rw [psPolldLoop_stuck target calls early returns] at member
            exact single incoming member
        | some received =>
            by_cases hit : received.opcode = target
            · rw [psPolldLoop_hit calls early returns hit] at member
              exact single incoming member
            · rw [psPolldLoop_miss calls early returns hit] at member
              rcases List.mem_append.mp member with first | later
              · exact single incoming first
              · exact inductionHypothesis later
      · rw [psPolldLoop_late target self _ early] at member
        cases member

/-- A poll that succeeds has received the message it waited for. -/
theorem psPolldLoop_true {target : UInt8} (real : target ≠ 0) {deadline cur : Int} {self : Session}
    {calls : List (Incoming × Int)}
    (succeeds : (psPolldLoop stack target deadline self cur calls).returned = some true) :
    Exists fun message =>
      .received message ∈ (psPolldLoop stack target deadline self cur calls).log ∧
        message.opcode = target := by
  induction calls generalizing self cur with
  | nil =>
      by_cases early : cur < deadline
      · rw [psPolldLoop, if_pos early] at succeeds
        cases succeeds
      · rw [psPolldLoop_late target self [] early] at succeeds
        cases succeeds
  | cons call calls inductionHypothesis =>
      rcases call with ⟨incoming, next⟩
      by_cases early : cur < deadline
      · cases returns : psRecvd stack self incoming.socket with
        | none =>
            rw [psPolldLoop_stuck target calls early returns] at succeeds
            cases succeeds
        | some received =>
            by_cases hit : received.opcode = target
            · rw [psPolldLoop_hit calls early returns hit]
              rcases (hit_iff real returns).mp hit with ⟨message, member, same⟩
              exact ⟨message, List.mem_map_of_mem member, same⟩
            · rw [psPolldLoop_miss calls early returns hit] at succeeds ⊢
              rcases inductionHypothesis succeeds with ⟨message, member, same⟩
              exact ⟨message, List.mem_append_right _ member, same⟩
      · rw [psPolldLoop_late target self _ early] at succeeds
        cases succeeds

/-- A poll for a real opcode returns what its window ends with. -/
theorem psPolldLoop_ends_iff {target : UInt8} (real : target ≠ 0) {deadline cur : Int}
    {self after : Session} {calls : List (Incoming × Int)} {found : Bool} :
    WindowEnds stack target deadline self cur calls found after ↔
      (psPolldLoop stack target deadline self cur calls).returned = some found ∧
        (psPolldLoop stack target deadline self cur calls).self = after := by
  constructor
  · intro ends
    induction ends with
    | elapsed late =>
        rw [psPolldLoop_late target _ _ (Int.not_lt.mpr late)]
        exact ⟨rfl, rfl⟩
    | found early returns there same =>
        have hit := (hit_iff real returns).mpr ⟨_, there, same⟩
        rw [psPolldLoop_hit _ early returns hit]
        exact ⟨rfl, rfl⟩
    | @call self after cur next incoming calls received found early returns other _
        inductionHypothesis =>
        have miss : received.opcode ≠ target := by
          intro hit
          rcases (hit_iff real returns).mp hit with ⟨message, member, same⟩
          exact other message member same
        rw [psPolldLoop_miss _ early returns miss]
        exact inductionHypothesis
  · rintro ⟨result, rfl⟩
    induction calls generalizing self cur with
    | nil =>
        by_cases early : cur < deadline
        · rw [psPolldLoop, if_pos early] at result
          cases result
        · rw [psPolldLoop_late target self [] early] at result ⊢
          cases result
          exact .elapsed (Int.not_lt.mp early)
    | cons call calls inductionHypothesis =>
        rcases call with ⟨incoming, next⟩
        by_cases early : cur < deadline
        · cases returns : psRecvd stack self incoming.socket with
          | none =>
              rw [psPolldLoop_stuck target calls early returns] at result
              cases result
          | some received =>
              by_cases hit : received.opcode = target
              · rw [psPolldLoop_hit calls early returns hit] at result ⊢
                cases result
                rcases (hit_iff real returns).mp hit with ⟨message, there, same⟩
                exact .found early returns there same
              · rw [psPolldLoop_miss calls early returns hit] at result ⊢
                refine .call early returns ?_ (inductionHypothesis result)
                intro message member same
                exact hit ((hit_iff real returns).mpr ⟨message, member, same⟩)
        · rw [psPolldLoop_late target self _ early] at result ⊢
          cases result
          exact .elapsed (Int.not_lt.mp early)

/-- What is received in a window that runs out is not what was waited for. -/
theorem WindowEnds.log_other {target : UInt8} (real : target ≠ 0) {deadline cur : Int}
    {self after : Session} {calls : List (Incoming × Int)} {found : Bool}
    (ends : WindowEnds stack target deadline self cur calls found after) (expires : found = false)
    {message : Message}
    (member : .received message ∈ (psPolldLoop stack target deadline self cur calls).log) :
    message.opcode ≠ target := by
  induction ends with
  | elapsed late =>
      rw [psPolldLoop_late target _ _ (Int.not_lt.mpr late)] at member
      cases member
  | found => cases expires
  | @call self after cur next incoming calls received found early returns other _
      inductionHypothesis =>
      have miss : received.opcode ≠ target := by
        intro hit
        rcases (hit_iff real returns).mp hit with ⟨message, member, same⟩
        exact other message member same
      rw [psPolldLoop_miss _ early returns miss] at member
      rcases List.mem_append.mp member with first | later
      · rcases List.mem_map.mp first with ⟨found, there, same⟩
        cases same
        exact other message there
      · exact inductionHypothesis expires later

end Polling

/-! ## The order of the handshake -/

/-- The accept is sent, as a whole, only after a Client-Open was received. -/
def AcceptAfterOpen (accept : List UInt8) (log : List Event) : Prop :=
  forall before after, log = before ++ .sent accept :: after ->
    Exists fun message => .received message ∈ before ∧ message.opcode = 6

/-- A run that succeeds has received a request after it sent the accept. -/
def RequestAfterAccept (accept : List UInt8) (outcome : Outcome) : Prop :=
  outcome.returned = some true ->
    Exists fun before => Exists fun after =>
      outcome.log = before ++ .sent accept :: after ∧
        Exists fun message => .received message ∈ after ∧ message.opcode = 1

section Admission

variable {stack : Lib.Memory} {timers : Timers} {self : Session} {attempt : Attempt}

/-! The three ways a run of `ps_admctl` goes. -/

theorem psAdmctl_unconnected (failed : sockConnect attempt.connect ≠ some true) :
    psAdmctl stack timers self attempt =
      { self, log := [], returned := sockConnect attempt.connect } := by
  unfold psAdmctl
  cases connects : sockConnect attempt.connect with
  | none => rfl
  | some connected =>
      cases connected with
      | false => rfl
      | true => exact absurd connects failed

theorem psAdmctl_waiting (connects : sockConnect attempt.connect = some true)
    (waiting : (psPolld stack self 6 attempt.opens).returned = none) :
    psAdmctl stack timers self attempt = psPolld stack self 6 attempt.opens := by
  simp only [psAdmctl, connects, waiting]

theorem psAdmctl_opened (connects : sockConnect attempt.connect = some true)
    (opened : (psPolld stack self 6 attempt.opens).returned ≠ none) :
    psAdmctl stack timers self attempt =
      { psPolld stack (psPolld stack self 6 attempt.opens).self 1 attempt.requests with
        log := (psPolld stack self 6 attempt.opens).log ++
          .sent (sockWrite true [] (copsClientAccept timers.kaTimer timers.acTimer)
            attempt.accepted) ::
            (psPolld stack (psPolld stack self 6 attempt.opens).self 1 attempt.requests).log } := by
  rcases Option.ne_none_iff_exists'.mp opened with ⟨result, returned⟩
  simp only [psAdmctl, connects, returned]

end Admission

/-- Nothing is sent in a log that only has what was received. -/
theorem not_sent_of_received {log : List Event}
    (received : forall event, event ∈ log -> Exists fun message => event = .received message)
    (bytes : List UInt8) : Event.sent bytes ∉ log := by
  intro sent
  rcases received _ sent with ⟨message, impossible⟩
  cases impossible

/-- What precedes something sent contains every part of the log in front of it
in which nothing is sent. -/
theorem subset_before {log rest before after : List Event} {bytes : List UInt8}
    (silent : Event.sent bytes ∉ log) (split : log ++ rest = before ++ .sent bytes :: after) :
    log ⊆ before := by
  rcases List.append_eq_append_iff.mp split with ⟨between, first, _⟩ | ⟨between, first, later⟩
  · rw [first]
    exact List.subset_append_left _ _
  · cases between with
    | nil =>
        rw [List.append_nil] at first
        rw [first]
        exact List.Subset.refl _
    | cons event between =>
        cases later
        exact absurd (first ▸ List.mem_append_right _ List.mem_cons_self) silent

/-! ## Which runs keep the order -/

/-- The kernel takes all bytes of the Client-Accept. -/
def Attempt.TakesAccept (attempt : Attempt) (accept : List UInt8) : Prop :=
  Exists fun bytes => attempt.accepted = some bytes ∧ accept.length ≤ bytes

theorem sockWrite_accept {attempt : Attempt} {accept : List UInt8} :
    sockWrite true [] accept attempt.accepted = accept ↔
      attempt.TakesAccept accept ∨ accept = [] := by
  unfold Attempt.TakesAccept sockWrite
  cases attempt.accepted with
  | none => simp [eq_comm]
  | some bytes =>
      simp only [Bool.not_true, Bool.false_eq_true, if_false, List.nil_append,
        List.take_eq_self_iff, Option.some.injEq]
      constructor
      · exact fun short => Or.inl ⟨bytes, rfl, short⟩
      · rintro (⟨_, rfl, short⟩ | rfl)
        · exact short
        · exact Nat.zero_le _

/-- The connection is made and the window for the Client-Open ends, either without one in
front of an accept that is taken, or in front of one that is not, and the window for the
request ends with it all the same. -/
def Attempt.Disordered (stack : Lib.Memory) (timers : Timers) (self : Session)
    (attempt : Attempt) : Prop :=
  sockConnect attempt.connect = some true ∧
    Exists fun found => Exists fun opened =>
      WindowEnds stack 6 (attempt.opens.start + 10) self attempt.opens.start attempt.opens.calls
          found opened ∧
        ((attempt.TakesAccept (copsClientAccept timers.kaTimer timers.acTimer) ∧ found = false) ∨
          ¬ attempt.TakesAccept (copsClientAccept timers.kaTimer timers.acTimer) ∧
            Exists fun after =>
              WindowEnds stack 1 (attempt.requests.start + 10) opened attempt.requests.start
                attempt.requests.calls true after)

section Order

variable {stack : Lib.Memory} {timers : Timers} {self opened : Session} {attempt : Attempt}
  {found : Bool}

theorem sent_unique {first second before after : List Event} {bytes accept : List UInt8}
    (silent : forall event, event ∈ first ++ second -> Exists fun message =>
      event = .received message)
    (split : first ++ .sent bytes :: second = before ++ .sent accept :: after) :
    bytes = accept := by
  have member : Event.sent accept ∈ first ++ .sent bytes :: second :=
    split ▸ List.mem_append_right _ List.mem_cons_self
  rcases List.mem_append.mp member with inside | inside
  · rcases silent _ (List.mem_append_left _ inside) with ⟨message, impossible⟩
    cases impossible
  · rcases List.mem_cons.mp inside with same | later
    · cases same
      rfl
    · rcases silent _ (List.mem_append_right _ later) with ⟨message, impossible⟩
      cases impossible

/-- Both polls only log what they receive. -/
theorem polls_received (stack : Lib.Memory) (self opened : Session) (attempt : Attempt) :
    forall event, event ∈ (psPolld stack self 6 attempt.opens).log ++
        (psPolld stack opened 1 attempt.requests).log ->
      Exists fun message => event = .received message := by
  intro event member
  rcases List.mem_append.mp member with first | second
  · exact psPolldLoop_log first
  · exact psPolldLoop_log second

/-- The accept is on the connection: it is in order exactly behind a Client-Open. -/
theorem order_of_taken (connects : sockConnect attempt.connect = some true)
    (ends : WindowEnds stack 6 (attempt.opens.start + 10) self attempt.opens.start
      attempt.opens.calls found opened)
    (taken : attempt.TakesAccept (copsClientAccept timers.kaTimer timers.acTimer)) :
    AcceptAfterOpen (copsClientAccept timers.kaTimer timers.acTimer)
          (psAdmctl stack timers self attempt).log ∧
        RequestAfterAccept (copsClientAccept timers.kaTimer timers.acTimer)
          (psAdmctl stack timers self attempt) ↔
      found = true := by
  have six : (6 : UInt8) ≠ 0 := by decide
  have one : (1 : UInt8) ≠ 0 := by decide
  rcases (psPolldLoop_ends_iff six).mp ends with ⟨returned, rfl⟩
  have waited : (psPolld stack self 6 attempt.opens).returned ≠ none := by
    rw [psPolld, returned]
    exact Option.some_ne_none found
  rw [psAdmctl_opened connects waited, sockWrite_accept.mpr (Or.inl taken)]
  constructor
  · rintro ⟨order, _⟩
    rcases order _ _ rfl with ⟨message, member, same⟩
    cases found with
    | true => rfl
    | false => exact absurd same (ends.log_other six rfl member)
  · rintro rfl
    rcases psPolldLoop_true six returned with ⟨message, member, same⟩
    have unsent : Event.sent (copsClientAccept timers.kaTimer timers.acTimer) ∉
        (psPolld stack self 6 attempt.opens).log :=
      not_sent_of_received (fun event member => psPolldLoop_log member) _
    constructor
    · intro before after split
      exact ⟨message, subset_before unsent split member, same⟩
    · intro succeeds
      rcases psPolldLoop_true one succeeds with ⟨request, there, isRequest⟩
      exact ⟨_, _, rfl, request, there, isRequest⟩

/-- The accept is not on the connection: nothing must succeed. -/
theorem order_of_lost (connects : sockConnect attempt.connect = some true)
    (ends : WindowEnds stack 6 (attempt.opens.start + 10) self attempt.opens.start
      attempt.opens.calls found opened)
    (lost : ¬ attempt.TakesAccept (copsClientAccept timers.kaTimer timers.acTimer)) :
    AcceptAfterOpen (copsClientAccept timers.kaTimer timers.acTimer)
          (psAdmctl stack timers self attempt).log ∧
        RequestAfterAccept (copsClientAccept timers.kaTimer timers.acTimer)
          (psAdmctl stack timers self attempt) ↔
      ¬ Exists fun after =>
        WindowEnds stack 1 (attempt.requests.start + 10) opened attempt.requests.start
          attempt.requests.calls true after := by
  have six : (6 : UInt8) ≠ 0 := by decide
  have one : (1 : UInt8) ≠ 0 := by decide
  rcases (psPolldLoop_ends_iff six).mp ends with ⟨returned, rfl⟩
  have waited : (psPolld stack self 6 attempt.opens).returned ≠ none := by
    rw [psPolld, returned]
    exact Option.some_ne_none found
  have filled : copsClientAccept timers.kaTimer timers.acTimer ≠ [] := by
    unfold copsClientAccept
    split <;> exact List.cons_ne_nil _ _
  -- what is sent is no accept
  have absent {before after : List Event} (split : (psAdmctl stack timers self attempt).log =
      before ++ .sent (copsClientAccept timers.kaTimer timers.acTimer) :: after) : False := by
    rw [psAdmctl_opened connects waited] at split
    rcases sockWrite_accept.mp (sent_unique (polls_received stack self _ attempt) split) with
      taken | empty
    · exact lost taken
    · exact filled empty
  have result : (psAdmctl stack timers self attempt).returned =
      (psPolld stack (psPolld stack self 6 attempt.opens).self 1 attempt.requests).returned := by
    rw [psAdmctl_opened connects waited]
  constructor
  · rintro ⟨_, request⟩ ⟨after, found⟩
    rcases request (result.trans ((psPolldLoop_ends_iff one).mp found).1) with
      ⟨_, _, split, _⟩
    exact absent split
  · intro unfound
    refine ⟨fun before after split => (absent split).elim, fun succeeds => ?_⟩
    exact absurd ⟨_, (psPolldLoop_ends_iff one).mpr ⟨result.symm.trans succeeds, rfl⟩⟩ unfound

end Order

/-- For every run of `ps_admctl`, the handshake is in order if and only if the run does not
send the accept without a Client-Open, and does not succeed without the accept. -/
theorem handshake_order_iff (stack : Lib.Memory) (timers : Timers) (self : Session)
    (attempt : Attempt) :
    AcceptAfterOpen (copsClientAccept timers.kaTimer timers.acTimer)
          (psAdmctl stack timers self attempt).log ∧
        RequestAfterAccept (copsClientAccept timers.kaTimer timers.acTimer)
          (psAdmctl stack timers self attempt) ↔
      ¬ attempt.Disordered stack timers self := by
  have six : (6 : UInt8) ≠ 0 := by decide
  by_cases connects : sockConnect attempt.connect = some true
  · cases returned : (psPolld stack self 6 attempt.opens).returned with
    | none =>
        constructor
        · rintro _ ⟨_, found, opened, ends, _⟩
          rw [psPolld, ((psPolldLoop_ends_iff six).mp ends).1] at returned
          cases returned
        · intro _
          rw [psAdmctl_waiting connects returned]
          constructor
          · intro before after split
            rcases psPolldLoop_log (split ▸ List.mem_append_right _ List.mem_cons_self) with
              ⟨message, impossible⟩
            cases impossible
          · intro succeeds
            rw [returned] at succeeds
            cases succeeds
    | some found =>
        have ends := (psPolldLoop_ends_iff six).mpr ⟨returned, rfl⟩
        by_cases taken :
            attempt.TakesAccept (copsClientAccept timers.kaTimer timers.acTimer)
        · rw [order_of_taken connects ends taken]
          constructor
          · rintro rfl ⟨_, other, opened, ends', ⟨_, rfl⟩ | ⟨lost, _⟩⟩
            · have same := ((psPolldLoop_ends_iff six).mp ends').1.symm.trans returned
              cases same
            · exact lost taken
          · intro ordered
            cases found with
            | true => rfl
            | false => exact absurd ⟨connects, false, _, ends, Or.inl ⟨taken, rfl⟩⟩ ordered
        · rw [order_of_lost connects ends taken, not_iff_not]
          constructor
          · exact fun requested => ⟨connects, found, _, ends, Or.inr ⟨taken, requested⟩⟩
          · rintro ⟨_, other, opened, ends', ⟨there, _⟩ | ⟨_, requested⟩⟩
            · exact absurd there taken
            · rw [← ((psPolldLoop_ends_iff six).mp ends').2] at requested
              exact requested
  · constructor
    · exact fun _ disordered => connects disordered.1
    · intro _
      rw [psAdmctl_unconnected connects]
      constructor
      · intro before after split
        exact absurd split.symm (List.append_ne_nil_of_right_ne_nil _ (List.cons_ne_nil _ _))
      · intro succeeds
        exact absurd succeeds connects

/-- A peer that accepts the connection and stays silent. -/
def silentAttempt : Attempt where
  connect := { addressOk := true, sockoptsOk := true, connected := true, selects := [] }
  opens := { start := 0, calls := [(.silence, 10)] }
  accepted := some 16
  requests := { start := 10, calls := [(.silence, 20)] }

/-- It is sent a Client-Accept all the same. -/
theorem silence_accepted :
    ¬ AcceptAfterOpen (copsClientAccept 30 0)
      (psAdmctl (fun _ => 0) ⟨30, 0⟩ ⟨[0, 0, 0, 0], false⟩ silentAttempt).log := by
  intro order
  have log : (psAdmctl (fun _ => 0) ⟨30, 0⟩ ⟨[0, 0, 0, 0], false⟩ silentAttempt).log =
      [] ++ .sent (copsClientAccept 30 0) :: [] := rfl
  rcases order _ _ log with ⟨message, member, _⟩
  cases member

end PolicyServer
