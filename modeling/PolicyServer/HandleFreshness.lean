import PolicyServer.Admission
import PolicyServer.Lib.System

namespace PolicyServer

open Lib

/-!
# Whose handle a session holds

A session stores the first handle it receives while it has none, and forgets
that it has one when a Client-Close arrives.  A run of `ps_admctl` that fails
forgets nothing, so a handle it received is still held when a later run
succeeds on another connection.

`SessionRun` follows one session from its creation through admissions, messages
and reconnections.  Next to what the program keeps it records, for every
admission, the handles received on its connection and those received since the
last Client-Close in front of it; `admissions_fresh_iff` says by these which
admissions hold a handle of their own connection.
-/

/-! ## What a session makes of handles -/

/-- The session once these handles have been received. -/
def Session.capture (self : Session) (handles : List (List UInt8)) : Session :=
  if self.uuidReceived then self
  else
    match handles with
    | [] => self
    | handle :: _ => { handle, uuidReceived := true }

theorem Session.capture_nil (self : Session) : self.capture [] = self := by
  unfold Session.capture
  split <;> rfl

theorem Session.capture_append (self : Session) (first second : List (List UInt8)) :
    (self.capture first).capture second = self.capture (first ++ second) := by
  cases first with
  | nil => rw [Session.capture_nil, List.nil_append]
  | cons handle first =>
      cases received : self.uuidReceived with
      | true => simp only [Session.capture, received, if_true]
      | false =>
          simp only [Session.capture, received, Bool.false_eq_true, if_false, if_true,
            List.cons_append]

/-- A message's objects leave the session that its handles do. -/
theorem ownSession_eq_capture (self : Session) (message : Message) :
    ownSession self message.objects = self.capture message.handles := by
  unfold ownSession Session.capture Message.handles
  cases self.uuidReceived with
  | true => rfl
  | false =>
      rw [if_neg Bool.false_ne_true, if_neg Bool.false_ne_true, ← List.head?_filter]
      cases message.objects.filter (Object.isA 1) with
      | nil => rfl
      | cons object objects => rfl

/-- The object loop acts on this message's own objects only, whether a handle
has been received or not. -/
def Message.Plain (stack : Memory) (message : Message) : Prop :=
  forall uuidReceived,
    Unambiguous (frameBuffer stack message.frame) message.frame.opcode uuidReceived 8 message.objects

def Incoming.Plain (stack : Memory) (incoming : Incoming) : Prop :=
  forall message, message ∈ incoming.received -> message.Plain stack

/-- The handles received in a log, in order. -/
def handlesOf (log : List Event) : List (List UInt8) :=
  log.flatMap fun event =>
    match event with
    | .received message => message.handles
    | .sent _ => []

theorem handlesOf_append (first second : List Event) :
    handlesOf (first ++ second) = handlesOf first ++ handlesOf second :=
  List.flatMap_append

section Capturing

variable {stack : Memory}

/-- A call that finds plain input captures the handles in it. -/
theorem psRecvd_capture (self : Session) {incoming : Incoming} (plain : incoming.Plain stack) :
    Exists fun received => psRecvd stack self incoming.socket = some received ∧
      received.self = self.capture (handlesOf (incoming.received.map .received)) := by
  cases incoming with
  | silence => exact ⟨_, rfl, (Session.capture_nil self).symm⟩
  | message whole more =>
      have clear := plain whole List.mem_cons_self self.uuidReceived
      rcases deliver_of_unambiguous stack self whole.tiled clear with ⟨last, delivers, _, session⟩
      refine ⟨receivedFrame whole.frame { queue := more, arrivals := [] } last, ?_, ?_⟩
      · rw [Incoming.socket, psRecvd_of_queued, delivers, Option.map_some]
      · rw [receivedFrame, session, ownSession_eq_capture]
        simp only [Incoming.received, List.map_cons, List.map_nil, handlesOf, List.flatMap_cons,
          List.flatMap_nil, List.append_nil]

/-- A poll captures the handles it logs. -/
theorem psPolldLoop_capture (target : UInt8) (deadline : Int) {calls : List (Incoming × Int)}
    (plain : forall call, call ∈ calls -> call.1.Plain stack) (self : Session) (cur : Int) :
    (psPolldLoop stack target deadline self cur calls).self =
      self.capture (handlesOf (psPolldLoop stack target deadline self cur calls).log) := by
  induction calls generalizing self cur with
  | nil =>
      rw [psPolldLoop]
      split <;> exact (Session.capture_nil self).symm
  | cons call calls inductionHypothesis =>
      rcases call with ⟨incoming, next⟩
      by_cases early : cur < deadline
      · rcases psRecvd_capture self (plain (incoming, next) List.mem_cons_self) with
          ⟨received, returns, captured⟩
        by_cases hit : received.opcode = target
        · rw [psPolldLoop_hit calls early returns hit]
          exact captured
        · rw [psPolldLoop_miss calls early returns hit]
          have rest := inductionHypothesis
            (fun call member => plain call (List.mem_cons_of_mem _ member)) received.self next
          rw [handlesOf_append, ← Session.capture_append, ← captured]
          exact rest
      · rw [psPolldLoop_late target self _ early]
        exact (Session.capture_nil self).symm

/-- All that an attempt may receive is plain. -/
structure Attempt.Plain (stack : Memory) (attempt : Attempt) : Prop where
  opens : forall call, call ∈ attempt.opens.calls -> call.1.Plain stack
  requests : forall call, call ∈ attempt.requests.calls -> call.1.Plain stack

/-- So does an attempt. -/
theorem psAdmctl_capture (timers : Timers) (self : Session) {attempt : Attempt}
    (plain : attempt.Plain stack) :
    (psAdmctl stack timers self attempt).self =
      self.capture (handlesOf (psAdmctl stack timers self attempt).log) := by
  by_cases connects : sockConnect attempt.connect = some true
  · have opened : (psPolld stack self 6 attempt.opens).self =
        self.capture (handlesOf (psPolld stack self 6 attempt.opens).log) :=
      psPolldLoop_capture 6 _ plain.opens self _
    by_cases waiting : (psPolld stack self 6 attempt.opens).returned = none
    · rw [psAdmctl_waiting connects waiting]
      exact opened
    · rw [psAdmctl_opened connects waiting]
      have requested := psPolldLoop_capture 1 (attempt.requests.start + 10) plain.requests
        (psPolld stack self 6 attempt.opens).self attempt.requests.start
      rw [handlesOf_append, ← Session.capture_append, ← opened]
      exact requested
  · rw [psAdmctl_unconnected connects]
    exact (Session.capture_nil self).symm

end Capturing

/-! ## The life of a session -/

/-- Where the life of a session is: created and not admitted yet, in the loop of
`ps_statemachine`, in the reconnecting loop inside it, or freed because the
first admission failed. -/
inductive Mode where
  | created
  | serving
  | reconnecting
  | freed
  deriving DecidableEq, Repr

/-- A run of `ps_admctl` that returned 1: the handle held then, the handles
received on its connection, and the ones received in front of it since the last
Client-Close. -/
structure Admission where
  handle : List UInt8
  received : List (List UInt8)
  earlier : List (List UInt8)

structure SessionRun where
  self : Session
  mode : Mode
  earlier : List (List UInt8)
  admissions : List Admission

inductive SessionLabel where
  | admctl (attempt : Attempt)
  | recvd (incoming : Incoming)

/-- `ps_new`. -/
def SessionRun.new : SessionRun where
  self := { handle := [0, 0, 0, 0], uuidReceived := false }
  mode := .created
  earlier := []
  admissions := []

/-- The session behind a finished run of `ps_admctl`. -/
def SessionRun.admitted (run : SessionRun) (outcome : Outcome) (succeeded : Bool) : SessionRun where
  self := outcome.self
  mode :=
    if succeeded then .serving else if run.mode = .created then .freed else .reconnecting
  earlier := run.earlier ++ handlesOf outcome.log
  admissions :=
    if succeeded then
      run.admissions ++ [{ handle := outcome.self.handle
                           received := handlesOf outcome.log
                           earlier := run.earlier }]
    else run.admissions

/-- A message in the loop of `ps_statemachine`: a Client-Close has the session
forget that it has a handle, and reconnect. -/
def SessionRun.served (run : SessionRun) (received : Received) : SessionRun :=
  if received.opcode = 8 then
    { run with
      self := { received.self with uuidReceived := false }
      mode := .reconnecting
      earlier := [] }
  else { run with self := received.self }

def sessionStep (stack : Memory) (timers : Timers) (run : SessionRun) :
    SessionLabel -> Option SessionRun
  | .admctl attempt =>
      match run.mode with
      | .created | .reconnecting =>
          let outcome := psAdmctl stack timers run.self attempt
          outcome.returned.map (run.admitted outcome)
      | .serving | .freed => none
  | .recvd incoming =>
      match run.mode with
      | .serving => (psRecvd stack run.self incoming.socket).map run.served
      | .created | .reconnecting | .freed => none

/-- A step in which only plain messages are received. -/
def SessionLabel.Plain (stack : Memory) : SessionLabel -> Prop
  | .admctl attempt => attempt.Plain stack
  | .recvd incoming => incoming.Plain stack

/-! ## Which handle is held -/

/-- The first handle received since the last Client-Close is one of this
connection's own. -/
def Admission.FirstIsOwn (admission : Admission) : Prop :=
  Exists fun handle =>
    (admission.earlier ++ admission.received).head? = some handle ∧ handle ∈ admission.received

/-- What is known of a run: where the session may be admitted it holds the
first handle received since the last Client-Close, and every admission is fresh
exactly if the first handle was its own. -/
structure Explained (run : SessionRun) : Prop where
  captured : run.mode = .created ∨ run.mode = .reconnecting ->
    Exists fun old =>
      run.self = Session.capture { handle := old, uuidReceived := false } run.earlier
  admissions : forall admission, admission ∈ run.admissions ->
    (admission.handle ∈ admission.received ↔ admission.FirstIsOwn)

theorem explained_new : Explained .new where
  captured := fun _ => ⟨[0, 0, 0, 0], rfl⟩
  admissions := fun admission member => by cases member

/-- A session that starts without a handle holds the first one. -/
theorem fresh_iff_first (old : List UInt8) (earlier received : List (List UInt8)) :
    (Session.capture { handle := old, uuidReceived := false } (earlier ++ received)).handle ∈
        received ↔
      Exists fun handle => (earlier ++ received).head? = some handle ∧ handle ∈ received := by
  cases all : earlier ++ received with
  | nil =>
      have none : received = [] := (List.append_eq_nil_iff.mp all).2
      rw [none]
      constructor
      · intro member
        cases member
      · rintro ⟨handle, _, member⟩
        cases member
  | cons first rest =>
      constructor
      · intro member
        exact ⟨first, rfl, member⟩
      · rintro ⟨handle, same, member⟩
        cases same
        exact member

section Life

variable {stack : Memory} {timers : Timers}

theorem explained_admitted {run : SessionRun} (explained : Explained run)
    (open' : run.mode = .created ∨ run.mode = .reconnecting) {attempt : Attempt}
    (plain : attempt.Plain stack) (succeeded : Bool) :
    Explained (run.admitted (psAdmctl stack timers run.self attempt) succeeded) := by
  rcases explained.captured open' with ⟨old, held⟩
  have outcome := psAdmctl_capture timers run.self plain
  have all : (psAdmctl stack timers run.self attempt).self =
      Session.capture { handle := old, uuidReceived := false }
        (run.earlier ++ handlesOf (psAdmctl stack timers run.self attempt).log) := by
    rw [← Session.capture_append, ← held]
    exact outcome
  refine ⟨fun _ => ⟨old, all⟩, ?_⟩
  cases succeeded with
  | false => exact explained.admissions
  | true =>
      intro admission member
      rcases List.mem_append.mp member with before | now
      · exact explained.admissions admission before
      · rw [List.mem_singleton.mp now]
        dsimp only [Admission.FirstIsOwn]
        rw [all]
        exact fresh_iff_first old _ _

theorem explained_served {run : SessionRun} (explained : Explained run)
    (serving : run.mode = .serving) (received : Received) : Explained (run.served received) := by
  unfold SessionRun.served
  split
  · exact ⟨fun _ => ⟨received.self.handle, rfl⟩, explained.admissions⟩
  · refine ⟨fun reopened => ?_, explained.admissions⟩
    rcases reopened with created | reconnecting
    · exact absurd (serving.symm.trans created) (by decide)
    · exact absurd (serving.symm.trans reconnecting) (by decide)

theorem explained_step {run after : SessionRun} {label : SessionLabel} (explained : Explained run)
    (plain : label.Plain stack) (moved : sessionStep stack timers run label = some after) :
    Explained after := by
  cases label with
  | admctl attempt =>
      have open' : run.mode = .created ∨ run.mode = .reconnecting := by
        cases mode : run.mode with
        | created => exact Or.inl rfl
        | reconnecting => exact Or.inr rfl
        | serving | freed =>
            simp only [sessionStep, mode, reduceCtorEq] at moved
      have finished : (psAdmctl stack timers run.self attempt).returned.map
          (run.admitted (psAdmctl stack timers run.self attempt)) = some after := by
        rcases open' with mode | mode <;> simpa only [sessionStep, mode] using moved
      rcases Option.map_eq_some_iff.mp finished with ⟨succeeded, _, rfl⟩
      exact explained_admitted explained open' plain succeeded
  | recvd incoming =>
      cases mode : run.mode with
      | created | reconnecting | freed => simp only [sessionStep, mode, reduceCtorEq] at moved
      | serving =>
          simp only [sessionStep, mode] at moved
          rcases Option.map_eq_some_iff.mp moved with ⟨received, _, rfl⟩
          exact explained_served explained mode received

end Life

/-- In every run of a session on plain messages: every admission holds a handle
of its own connection if and only if at each of them the first handle received
since the last Client-Close was one of its own connection. -/
theorem admissions_fresh_iff (stack : Memory) (timers : Timers) (run : SessionRun)
    (reached : System.Run (sessionStep stack timers) (fun _ label => label.Plain stack) .new run) :
    (forall admission, admission ∈ run.admissions -> admission.handle ∈ admission.received) ↔
      forall admission, admission ∈ run.admissions -> admission.FirstIsOwn := by
  have explained := reached.invariant Explained
    (fun _ _ _ explained plain moved => explained_step explained plain moved) explained_new
  constructor
  · intro fresh admission member
    exact (explained.admissions admission member).mp (fresh admission member)
  · intro own admission member
    exact (explained.admissions admission member).mpr (own admission member)

/-- A message without objects. -/
def bareMessage (opcode : UInt8) : Message where
  frame := .pcmm opcode [] (by decide)
  objects := []
  tiled := rfl

/-- A message with a Handle object. -/
def handleMessage (opcode fourth : UInt8) : Message where
  frame := .pcmm opcode (encode [handleObject 0 0 0 fourth]) (by decide : 16 < 65536)
  objects := [handleObject 0 0 0 fourth]
  tiled := rfl

/-- A connection that completes at once, on which a Client-Open comes and then,
behind the Client-Accept, a message with a handle. -/
def attemptWith (opcode fourth : UInt8) : Attempt where
  connect := { addressOk := true, sockoptsOk := true, connected := true, selects := [] }
  opens := { start := 0, calls := [(.message (bareMessage 6) [], 1)] }
  accepted := some 16
  requests := { start := 1, calls := [(.message (handleMessage opcode fourth) [], 11)] }

theorem attemptWith_plain {fourth : UInt8} (five : fourth = 5 ∨ fourth = 6) :
    (attemptWith 1 fourth).Plain (fun _ => 0) := by
  constructor
  · intro call member message there uuidReceived
    rw [List.mem_singleton.mp member] at there
    rw [List.mem_singleton.mp there]
    trivial
  · intro call member message there uuidReceived
    rw [List.mem_singleton.mp member] at there
    rw [List.mem_singleton.mp there]
    rcases five with rfl | rfl <;> cases uuidReceived <;> decide

/-- A session is admitted with handle 5, closed by the peer and admitted with handle 6. -/
theorem admissions_fresh_attemptWith :
    Exists fun run =>
      System.Run (sessionStep (fun _ => 0) ⟨30, 0⟩) (fun _ label => label.Plain (fun _ => 0)) .new run ∧
        run.admissions.map Admission.handle = [[0, 0, 0, 5], [0, 0, 0, 6]] ∧
          ((forall admission, admission ∈ run.admissions ->
              admission.handle ∈ admission.received) ↔
            forall admission, admission ∈ run.admissions -> admission.FirstIsOwn) := by
  have executed : ((System.execute (sessionStep (fun _ => 0) ⟨30, 0⟩) .new
      [.admctl (attemptWith 1 5), .recvd (.message (bareMessage 8) []),
        .admctl (attemptWith 1 6)]).map fun run => run.admissions.map Admission.handle) =
      some [[0, 0, 0, 5], [0, 0, 0, 6]] := by decide
  rcases Option.map_eq_some_iff.mp executed with ⟨run, moved, handles⟩
  rcases Option.bind_eq_some_iff.mp moved with ⟨first, admits, moved⟩
  rcases Option.bind_eq_some_iff.mp moved with ⟨second, closes, moved⟩
  rcases Option.bind_eq_some_iff.mp moved with ⟨third, admits', moved⟩
  cases moved
  have reached : System.Run (sessionStep (fun _ => 0) ⟨30, 0⟩)
      (fun _ label => label.Plain (fun _ => 0)) .new run := by
    refine .next (.next (.next .start (.admctl (attemptWith 1 5)) (attemptWith_plain (Or.inl rfl))
      admits) (.recvd (.message (bareMessage 8) [])) ?_ closes) (.admctl (attemptWith 1 6))
      (attemptWith_plain (Or.inr rfl)) admits'
    intro message there uuidReceived
    rw [List.mem_singleton.mp there]
    trivial
  exact ⟨run, reached, handles, admissions_fresh_iff (fun _ => 0) ⟨30, 0⟩ run reached⟩

/-- A session is admitted with handle 1 and closed.  The next run of `ps_admctl`
receives handle 2 with a message that is not the request it waits for, and
fails; the one after it succeeds on a request with handle 3, and handle 2 is
held. -/
theorem stale_handle_held :
    Exists fun run =>
      System.Run (sessionStep (fun _ => 0) ⟨30, 0⟩) (fun _ _ => True) .new run ∧
        Exists fun admission => admission ∈ run.admissions ∧
          admission.handle = [0, 0, 0, 2] ∧ admission.received = [[0, 0, 0, 3]] := by
  have executed : ((System.execute (sessionStep (fun _ => 0) ⟨30, 0⟩) .new
      [.admctl (attemptWith 1 1), .recvd (.message (bareMessage 8) []),
        .admctl (attemptWith 4 2), .admctl (attemptWith 1 3)]).map
      fun run => run.admissions.getLast?.map
        (fun admission => (admission.handle, admission.received))) =
      some (some ([0, 0, 0, 2], [[0, 0, 0, 3]])) := by decide
  rcases Option.map_eq_some_iff.mp executed with ⟨run, moved, last⟩
  rcases Option.map_eq_some_iff.mp last with ⟨admission, found, same⟩
  refine ⟨run, System.run_of_execute (fun _ _ _ => trivial) moved, admission,
    List.mem_of_getLast? found, (Prod.mk.inj same).1, (Prod.mk.inj same).2⟩

end PolicyServer
