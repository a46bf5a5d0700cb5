import PolicyServer.Cops
import PolicyServer.Report
import PolicyServer.Socket

namespace PolicyServer

open Lib

/-!
# Receiving a message

`ps_recvd` peeks at the socket, takes a header from what it sees, resynchronises
on the client-type when that header will not do, reads the message the header
announces, and walks its objects.

Two of its loops need not end: the tail of a message that came in part is read
by calls that each have to bring all of it, and the walk over the objects stops
where a Client-Specific-Info object does (`psPcmmReport`) or announces length 0.
`none` is a call that never returns.  The fuel of the loops is what a run that
ends can use (`dueLoop_iff`, `dispatchLoop_iff`).

The buffer has 65535 bytes; `stack` stands for the memory behind it.
-/

def bufferSize : Nat := 65535

/-- The part of `ps_session_t` that receiving changes.  Only the first four
bytes of `handle` are ever used. -/
structure Session where
  handle : List UInt8
  uuidReceived : Bool
  deriving DecidableEq, Repr

/-- What the object loop does, with the place in the buffer it does it at. -/
inductive Act where
  | report (ptr : Nat) (length : UInt16) (body : List UInt8)
  | handle (ptr : Nat) (bytes : List UInt8)
  | packetCableError (ptr : Nat)
  deriving DecidableEq, Repr

/-! ## The object loop -/

structure DispatchState where
  idx : Nat
  self : Session
  acts : List Act
  files : List FileAction

def dispatchGuard (bytes : Nat) (state : DispatchState) : Bool :=
  decide (state.idx < bytes)

def dispatchBody (buf : Memory) (opc : UInt8) (state : DispatchState) : Option DispatchState :=
  let (len, idx) := unpackU16It buf state.idx
  let (cnv, idx) := unpackU8It buf idx
  let (ctv, idx) := unpackU8It buf idx
  if !copsClassOk cnv ctv then
    some { state with idx }
  else if cnv == 9 && opc == 3 then
    match psPcmmReport buf idx len with
    | none => none
    | some (after, file) =>
        some { state with
          idx := after
          acts := state.acts ++ [.report idx len (buf.read idx (len.toNat - 4))]
          files := state.files ++ file.toList }
  else if cnv == 1 && !state.self.uuidReceived then
    some { state with
      idx := sizeT (idx + 4)
      self := { handle := buf.read idx 4, uuidReceived := true }
      acts := state.acts ++ [.handle idx (buf.read idx 4)] }
  else if cnv == 8 then
    some { state with idx, acts := state.acts ++ [.packetCableError idx] }
  else
    some { state with idx }

def dispatchStart (self : Session) : DispatchState where
  idx := 8
  self := self
  acts := []
  files := []

/-- The object loop over `bytes` bytes.  An iteration is determined by the
index and by whether a handle has been received, so twice as many iterations as
there are bytes suffice for a walk that ends. -/
def dispatchLoop (buf : Memory) (opc : UInt8) (bytes : Nat) (self : Session) :
    Option DispatchState :=
  Loop.run (dispatchGuard bytes) (dispatchBody buf opc) (2 * bytes) (dispatchStart self)

/-! ## Reading a message -/

structure DueState where
  socket : Socket
  buf : Memory
  complete : Bool

def dueBody (due : Nat) (state : DueState) : Option DueState :=
  match state.socket.recv due with
  | (none, socket) => some { state with socket }
  | (some got, socket) =>
      some { socket, buf := state.buf.write 0 got, complete := got.length == due }

def dueGuard (state : DueState) : Bool :=
  !state.complete

/-- `while (recv(..., due, ...) != due);`.  Once nothing is to arrive any more a
call either brings everything or empties the queue, so one call more than there
are arrivals suffices for a loop that ends. -/
def dueLoop (due : Nat) (socket : Socket) (buf : Memory) : Option DueState :=
  Loop.run dueGuard (dueBody due) (socket.arrivals.length + 1) { socket, buf, complete := false }

/-- A call of `ps_recvd` that returns: its result and all it has done. -/
structure Received where
  opcode : UInt8
  self : Session
  socket : Socket
  acts : List Act
  files : List FileAction

/-- `return 0`. -/
def Received.nothing (self : Session) (socket : Socket) : Received where
  opcode := 0
  self := self
  socket := socket
  acts := []
  files := []

/-- From the second `memset` on, with the header's opcode and length.  The two
`recv` calls of the source take the same count. -/
def psRecvdMessage (stack : Memory) (self : Session) (socket : Socket) (opc : UInt8)
    (length : UInt32) : Option Received :=
  let buf := stack.clear bufferSize
  match socket.recv length.toNat with
  | (none, socket) => some (.nothing self socket)
  | (some got, socket) =>
      let filled :=
        if got.length < length.toNat then
          dueLoop (length.toNat - got.length) socket ((buf.write 0 got).clear got.length)
        else
          some { socket, buf := buf.write 0 got, complete := true }
      match filled with
      | none => none
      | some filled =>
          match dispatchLoop filled.buf opc length.toNat self with
          | none => none
          | some last =>
              some { opcode := opc, self := last.self, socket := filled.socket,
                     acts := last.acts, files := last.files }

/-- The resynchronisation: the first index from `i` on that holds the
client-type with two words behind it in the `ub` bytes seen. -/
def psRecvdScan (buf : Memory) (ub : Nat) : (fuel i : Nat) -> Option Nat
  | 0, _ => none
  | fuel + 1, i =>
      if ub ≤ i + 2 ∨ ub ≤ i + 4 then none
      else if unpackU16 buf i ≠ pcmmClientType then psRecvdScan buf ub fuel (i + 1)
      else some i

def psRecvd (stack : Memory) (self : Session) (socket : Socket) : Option Received :=
  match socket.peek bufferSize with
  | (none, socket) => some (.nothing self socket)
  | (some seen, socket) =>
      let buf := (stack.clear bufferSize).write 0 seen
      let (opc, idx) := unpackU8It buf 1
      let (client, idx) := unpackU16It buf idx
      let (length, _) := unpackU32It buf idx
      if copsHeaderOk opc client length then
        psRecvdMessage stack self socket opc length
      else
        match psRecvdScan buf seen.length seen.length 0 with
        | none => some (.nothing self (socket.recv seen.length).2)
        | some i =>
            let length := unpackN buf (i + 2)
            if 2 ≤ i then psRecvdMessage stack self (socket.recv (i - 2)).2 opc length
            else psRecvdMessage stack self socket 3 length

/-! ## One iteration of the object loop -/

/-- The branches of the object loop that do something. -/
inductive ActKind where
  | report
  | handle
  | packetCableError
  deriving DecidableEq, Repr

/-- The branch a header takes, by its tags, the opcode of the message and
whether a handle has been received. -/
def actKind (opc : UInt8) (uuidReceived : Bool) (cnv ctv : UInt8) : Option ActKind :=
  if !copsClassOk cnv ctv then none
  else if cnv == 9 && opc == 3 then some .report
  else if cnv == 1 && !uuidReceived then some .handle
  else if cnv == 8 then some .packetCableError
  else none

section Iteration

variable {buf : Memory} {opc : UInt8} {state : DispatchState}

theorem dispatchBody_eq (small : state.idx + 8 < 18446744073709551616) :
    dispatchBody buf opc state =
      match actKind opc state.self.uuidReceived (buf (state.idx + 2)) (buf (state.idx + 3)) with
      | none => some { state with idx := state.idx + 4 }
      | some .report =>
          (psPcmmReport buf (state.idx + 4) (unpackU16 buf state.idx)).map fun result =>
            { state with
              idx := result.1
              acts := state.acts ++ [.report (state.idx + 4) (unpackU16 buf state.idx)
                (buf.read (state.idx + 4) ((unpackU16 buf state.idx).toNat - 4))]
              files := state.files ++ result.2.toList }
      | some .handle =>
          some { state with
            idx := state.idx + 8
            self := { handle := buf.read (state.idx + 4) 4, uuidReceived := true }
            acts := state.acts ++ [.handle (state.idx + 4) (buf.read (state.idx + 4) 4)] }
      | some .packetCableError =>
          some { state with
            idx := state.idx + 4
            acts := state.acts ++ [.packetCableError (state.idx + 4)] } := by
  have word : sizeT (state.idx + 2) = state.idx + 2 := sizeT_add_two (by omega)
  have cnv : sizeT ((state.idx + 2 : Nat) + 1) = state.idx + 3 := sizeT_succ (by omega)
  have ctv : sizeT ((state.idx + 3 : Nat) + 1) = state.idx + 4 := sizeT_succ (by omega)
  have body : sizeT ((state.idx + 4 : Nat) + 4) = state.idx + 8 := by
    unfold sizeT
    omega
  simp only [dispatchBody, unpackU16It, unpackU8It, word, cnv, ctv, body, actKind]
  by_cases unclassed : (!copsClassOk (buf (state.idx + 2)) (buf (state.idx + 3))) = true
  · rw [if_pos unclassed, if_pos unclassed]
  rw [if_neg unclassed, if_neg unclassed]
  by_cases report : (buf (state.idx + 2) == 9 && opc == 3) = true
  · rw [if_pos report, if_pos report]
    cases psPcmmReport buf (state.idx + 4) (unpackU16 buf state.idx) <;> rfl
  rw [if_neg report, if_neg report]
  by_cases handle : (buf (state.idx + 2) == 1 && !state.self.uuidReceived) = true
  · rw [if_pos handle, if_pos handle]
  rw [if_neg handle, if_neg handle]
  by_cases error : (buf (state.idx + 2) == 8) = true
  · rw [if_pos error, if_pos error]
  · rw [if_neg error, if_neg error]

end Iteration

/-! ## The fuel suffices -/

theorem dispatchGuard_iff {bytes : Nat} {state : DispatchState} :
    dispatchGuard bytes state = true ↔ state.idx < bytes :=
  decide_eq_true_iff

theorem dispatchGuard_done_iff {bytes : Nat} {state : DispatchState} :
    dispatchGuard bytes state = false ↔ bytes ≤ state.idx :=
  decide_eq_false_iff_not.trans Nat.not_lt

/-- What decides where the object loop goes. -/
def DispatchState.control (state : DispatchState) : Nat :=
  2 * state.idx + state.self.uuidReceived.toNat

theorem DispatchState.control_inj {left right : DispatchState}
    (same : left.control = right.control) :
    left.idx = right.idx ∧ left.self.uuidReceived = right.self.uuidReceived := by
  unfold control at same
  have small := left.self.uuidReceived.toNat_le
  have small' := right.self.uuidReceived.toNat_le
  refine ⟨by omega, ?_⟩
  cases uuid : left.self.uuidReceived <;> cases uuid' : right.self.uuidReceived <;>
    simp only [uuid, uuid', Bool.toNat_true, Bool.toNat_false] at same <;>
    first | rfl | omega

theorem dispatch_controlled (buf : Memory) (opc : UInt8) {bytes : Nat}
    (small : bytes < 4294967296) :
    Loop.ControlledBy (dispatchGuard bytes) (dispatchBody buf opc) DispatchState.control := by
  constructor
  · intro left right same
    simp only [dispatchGuard, (DispatchState.control_inj same).1]
  · rintro ⟨idx, ⟨handle, uuid⟩, acts, files⟩ ⟨idx', ⟨handle', uuid'⟩, acts', files'⟩ left' right'
      same entered leftStep rightStep
    rcases DispatchState.control_inj same with ⟨sameIdx, sameUuid⟩
    have inside : idx < bytes := dispatchGuard_iff.mp entered
    cases sameIdx
    cases sameUuid
    rw [dispatchBody_eq (by dsimp only; omega)] at leftStep rightStep
    dsimp only at leftStep rightStep
    cases kind : actKind opc uuid (buf (idx + 2)) (buf (idx + 3)) with
    | none =>
        rw [kind] at leftStep rightStep
        cases leftStep
        cases rightStep
        rfl
    | some kind' =>
        rw [kind] at leftStep rightStep
        cases kind' with
        | report =>
            dsimp only at leftStep rightStep
            cases report : psPcmmReport buf (idx + 4) (unpackU16 buf idx) with
            | none =>
                rw [report] at leftStep
                cases leftStep
            | some result =>
                rw [report] at leftStep rightStep
                cases leftStep
                cases rightStep
                rfl
        | handle | packetCableError =>
            cases leftStep
            cases rightStep
            rfl

theorem dispatchLoop_iff {buf : Memory} {opc : UInt8} {bytes : Nat} {self : Session}
    {last : DispatchState} (small : bytes < 4294967296) :
    dispatchLoop buf opc bytes self = some last ↔
      Loop.Exits (dispatchGuard bytes) (dispatchBody buf opc) (dispatchStart self) last := by
  constructor
  · intro finished
    exact ⟨2 * bytes, finished⟩
  · intro exits
    refine (dispatch_controlled buf opc small).run_of_exits ?_ exits
    intro state entered
    have inside := dispatchGuard_iff.mp entered
    have flag := state.self.uuidReceived.toNat_le
    unfold DispatchState.control
    omega

/-- A tail that is not there and will not come is waited for forever. -/
theorem due_stuck {due : Nat} {state last : DueState} (incomplete : state.complete = false)
    (empty : state.socket = ⟨[], []⟩) : ¬ Loop.Exits dueGuard (dueBody due) state last := by
  refine Loop.not_exits_of_trap
    (fun state => state.complete = false ∧ state.socket = ⟨[], []⟩) ?_ ?_ ⟨incomplete, empty⟩
  · intro state trapped
    simp only [dueGuard, trapped.1, Bool.not_false]
  · intro state after trapped moved
    have nothing : state.socket.recv due = (none, ⟨[], []⟩) := by
      rw [trapped.2]
      rfl
    simp only [dueBody, nothing, Option.some.injEq] at moved
    rw [← moved]
    exact ⟨trapped.1, rfl⟩

theorem dueBody_arrivals {due : Nat} {state after : DueState}
    (moved : dueBody due state = some after) :
    after.socket.arrivals = state.socket.arrivals.tail := by
  rw [← Socket.recv_arrivals state.socket due]
  unfold dueBody at moved
  split at moved
  all_goals
    cases moved
    simp only [*]

/-- A call that does not bring everything empties the queue. -/
theorem dueBody_queue {due : Nat} {state after : DueState} (moved : dueBody due state = some after)
    (incomplete : after.complete = false) : after.socket.queue = [] := by
  by_cases empty : state.socket.arrive.queue = []
  · simp only [dueBody, Socket.recv_of_empty empty, Option.some.injEq] at moved
    rw [← moved]
    exact empty
  · simp only [dueBody, Socket.recv_of_queued empty, Option.some.injEq] at moved
    rw [← moved] at incomplete ⊢
    have short : state.socket.arrive.queue.length < due := by
      have other := beq_eq_false_iff_ne.mp incomplete
      rw [List.length_take] at other
      omega
    exact List.drop_eq_nil_of_le (Nat.le_of_lt short)

theorem due_run {due : Nat} {state last : DueState}
    (exits : Loop.Exits dueGuard (dueBody due) state last) :
    Loop.run dueGuard (dueBody due) (state.socket.arrivals.length + 1) state = some last := by
  generalize pending : state.socket.arrivals = arrivals
  induction arrivals generalizing state with
  | nil =>
      rcases exits.cases with ⟨done, rfl⟩ | ⟨after, entered, moved, later⟩
      · exact Loop.run_of_done _ done
      · rw [Loop.run_succ _ entered moved]
        rcases later.cases with ⟨done, rfl⟩ | ⟨_, incomplete, _⟩
        · exact Loop.run_of_done _ done
        · have missing : after.complete = false := by
            simpa only [dueGuard, Bool.not_eq_true'] using incomplete
          have arrivals := dueBody_arrivals moved
          rw [pending] at arrivals
          have queue := dueBody_queue moved missing
          have empty : after.socket = ⟨[], []⟩ := by
            rcases after with ⟨⟨_, _⟩, _, _⟩
            cases queue
            cases arrivals
            rfl
          exact absurd later (due_stuck missing empty)
  | cons arrival arrivals inductionHypothesis =>
      rcases exits.cases with ⟨done, rfl⟩ | ⟨after, entered, moved, later⟩
      · exact Loop.run_of_done _ done
      · rw [List.length_cons, Loop.run_succ _ entered moved]
        have remaining := dueBody_arrivals moved
        rw [pending] at remaining
        exact inductionHypothesis later remaining

theorem dueLoop_iff {due : Nat} {socket : Socket} {buf : Memory} {last : DueState} :
    dueLoop due socket buf = some last ↔
      Loop.Exits dueGuard (dueBody due) { socket, buf, complete := false } last :=
  ⟨fun finished => ⟨_, finished⟩, fun exits => due_run exits⟩

/-! ## A handle received is kept -/

theorem dispatchLoop_keeps {buf : Memory} {opc : UInt8} {bytes : Nat} {self : Session}
    {last : DispatchState} (held : self.uuidReceived = true)
    (finished : dispatchLoop buf opc bytes self = some last) : last.self = self := by
  have exits : Loop.Exits (dispatchGuard bytes) (dispatchBody buf opc) (dispatchStart self) last :=
    ⟨2 * bytes, finished⟩
  refine Loop.Visits.invariant (fun state => state.self = self) ?_ rfl exits.visits
  intro state after same _ moved
  unfold dispatchBody at moved
  dsimp only at moved
  split at moved
  · cases moved
    exact same
  split at moved
  · split at moved
    · cases moved
    · cases moved
      exact same
  split at moved
  · rename_i handle
    rw [same, held, Bool.not_true, Bool.and_false] at handle
    cases handle
  split at moved
  · cases moved
    exact same
  · cases moved
    exact same

/-- How the reading of a message ends: nothing is there, it comes whole, or what is due is
read behind it. -/
inductive MessageRead (stack : Memory) (self : Session) (socket : Socket) (opc : UInt8)
    (length : UInt32) : Received -> Prop where
  | nothing {after : Socket} (called : socket.recv length.toNat = (none, after)) :
      MessageRead stack self socket opc length (.nothing self after)
  | whole {got : List UInt8} {after : Socket} {last : DispatchState}
      (called : socket.recv length.toNat = (some got, after))
      (whole : ¬got.length < length.toNat)
      (walked : dispatchLoop ((stack.clear bufferSize).write 0 got) opc length.toNat self =
        some last) :
      MessageRead stack self socket opc length
        { opcode := opc, self := last.self, socket := after, acts := last.acts,
          files := last.files }
  | due {got : List UInt8} {after : Socket} {filled : DueState} {last : DispatchState}
      (called : socket.recv length.toNat = (some got, after))
      (short : got.length < length.toNat)
      (fills : dueLoop (length.toNat - got.length) after
        (((stack.clear bufferSize).write 0 got).clear got.length) = some filled)
      (walked : dispatchLoop filled.buf opc length.toNat self = some last) :
      MessageRead stack self socket opc length
        { opcode := opc, self := last.self, socket := filled.socket, acts := last.acts,
          files := last.files }

theorem psRecvdMessage_cases {stack : Memory} {self : Session} {socket : Socket} {opc : UInt8}
    {length : UInt32} {received : Received}
    (returns : psRecvdMessage stack self socket opc length = some received) :
    MessageRead stack self socket opc length received := by
  unfold psRecvdMessage at returns
  dsimp only at returns
  split at returns
  · rename_i after called
    cases returns
    exact .nothing called
  · rename_i got after called
    split at returns
    · cases returns
    · rename_i state filled
      split at returns
      · cases returns
      · rename_i last walked
        cases returns
        by_cases short : got.length < length.toNat
        · rw [if_pos short] at filled
          exact .due called short filled walked
        · rw [if_neg short] at filled
          cases filled
          exact .whole called short walked

theorem psRecvdMessage_keeps {stack : Memory} {self : Session} {socket : Socket} {opc : UInt8}
    {length : UInt32} {received : Received} (held : self.uuidReceived = true)
    (returns : psRecvdMessage stack self socket opc length = some received) :
    received.self = self := by
  cases psRecvdMessage_cases returns with
  | nothing called => rfl
  | whole called whole walked => exact dispatchLoop_keeps held walked
  | due called short fills walked => exact dispatchLoop_keeps held walked

/-- Once a handle has been received no call changes it, whatever bytes it finds. -/
theorem psRecvd_keeps {stack : Memory} {self : Session} {socket : Socket} {received : Received}
    (held : self.uuidReceived = true) (returns : psRecvd stack self socket = some received) :
    received.self = self := by
  unfold psRecvd at returns
  dsimp only at returns
  split at returns
  · cases returns
    rfl
  split at returns
  · exact psRecvdMessage_keeps held returns
  split at returns
  · cases returns
    rfl
  split at returns
  · exact psRecvdMessage_keeps held returns
  · exact psRecvdMessage_keeps held returns

end PolicyServer
