import PolicyServer.ParserTermination
import PolicyServer.Progress
import PolicyServer.SessionLoop

namespace PolicyServer

open Lib

/-!
# Connections that are lost

`ps_recvd` again, over whatever each call of `recv` may answer: bytes, the end of the
stream, no data yet, or another error.  It returns 0 for all of the last three and for a
call that was read in vain, and never -1, so that `ps_statemachine` reconnects for nothing
but the opcode 8.
-/

/-! ## Answers of `recv` -/

/-- `recv` returns so many bytes, where none is the end of the stream; or -1, with EAGAIN,
EWOULDBLOCK or EINTR, or with another error. -/
inductive RecvResult where
  | data (bytes : List UInt8)
  | again
  | broken
  deriving DecidableEq, Repr

namespace RecvResult

/-- The bytes that a call with this count has; `none` for -1. -/
def got (count : Nat) : RecvResult -> Option (List UInt8)
  | .data bytes => some (bytes.take count)
  | .again => none
  | .broken => none

/-- The call reports that the connection is lost.  A call for no bytes always returns 0. -/
def lost (count : Nat) : RecvResult -> Bool
  | .data bytes => bytes.isEmpty && count != 0
  | .again => false
  | .broken => true

/-- The call has all the bytes it asked for. -/
def full (count : Nat) (result : RecvResult) : Bool :=
  (result.got count).any fun got => got.length == count

end RecvResult

/-- `while (recv(..., due, ...) != due);` over these answers: the buffer when the loop has
ended, and whether a call has reported a loss. -/
def dueCalls (due : Nat) (buf : Memory) : List RecvResult -> Option Memory × Bool
  | [] => (none, false)
  | result :: results =>
      let buf := match result.got due with
        | some got => buf.write 0 got
        | none => buf
      if result.full due then (some buf, result.lost due)
      else
        let rest := dueCalls due buf results
        (rest.1, result.lost due || rest.2)

/-- A call of `ps_recvd` so far: the opcode it has returned, with the session behind it,
and whether a call of `recv` has reported a loss. -/
structure RecvdCall where
  returned : Option (UInt8 × Session)
  lost : Bool

/-- The object loop, and `return opc`. -/
def psRecvdObjects (self : Session) (opc : UInt8) (length : UInt32) (buf : Memory) :
    Option (UInt8 × Session) :=
  (dispatchLoop buf opc length.toNat self).map fun last => (opc, last.self)

/-- `ps_recvd` from the second `memset` on. -/
def psRecvdMessageCalls (stack : Memory) (self : Session) (opc : UInt8) (length : UInt32) :
    List RecvResult -> RecvdCall
  | [] => { returned := none, lost := false }
  | result :: results =>
      let buf := stack.clear bufferSize
      match result.got length.toNat with
      | none => { returned := some (0, self), lost := result.lost length.toNat }
      | some got =>
          if got.length < length.toNat then
            let filled := dueCalls (length.toNat - got.length)
              ((buf.write 0 got).clear got.length) results
            { returned := filled.1.bind (psRecvdObjects self opc length)
              lost := result.lost length.toNat || filled.2 }
          else
            { returned := psRecvdObjects self opc length (buf.write 0 got)
              lost := result.lost length.toNat }

/-- A message that `ps_recvd` goes on to read: what it has peeked at, the index of the
client-type if it had to look for it, the opcode and the length it uses, the answers of
the calls to come, and whether the skipped bytes were lost. -/
structure Announced where
  seen : List UInt8
  scanned : Option Nat
  opc : UInt8
  length : UInt32
  results : List RecvResult
  lost : Bool

/-- The start of a call. -/
inductive Start where
  | nothing (returned lost : Bool)
  | message (message : Announced)

/-- `ps_recvd` up to the second `memset`. -/
def psRecvdStart (stack : Memory) : List RecvResult -> Start
  | [] => .nothing false false
  | result :: results =>
      match result.got bufferSize with
      | none => .nothing true (result.lost bufferSize)
      | some seen =>
          if seen = [] then .nothing true (result.lost bufferSize)
          else
            let buf := (stack.clear bufferSize).write 0 seen
            let (opc, idx) := unpackU8It buf 1
            let (client, idx) := unpackU16It buf idx
            let (length, _) := unpackU32It buf idx
            if copsHeaderOk opc client length then
              .message { seen, scanned := none, opc, length, results, lost := false }
            else
              match psRecvdScan buf seen.length seen.length 0, results with
              | none, [] => .nothing false false
              | none, flush :: _ => .nothing true (flush.lost seen.length)
              | some i, results =>
                  let length := unpackN buf (i + 2)
                  if 2 ≤ i then
                    match results with
                    | [] => .nothing false false
                    | skip :: results =>
                        .message { seen, scanned := some i, opc, length, results,
                                   lost := skip.lost (i - 2) }
                  else
                    .message { seen, scanned := some i, opc := 3, length, results, lost := false }

def psRecvdCalls (stack : Memory) (self : Session) (results : List RecvResult) : RecvdCall :=
  match psRecvdStart stack results with
  | .nothing returned lost => { returned := if returned then some (0, self) else none, lost }
  | .message m =>
      let heard := psRecvdMessageCalls stack self m.opc m.length m.results
      { heard with lost := m.lost || heard.lost }

/-- One iteration of the loop of `ps_statemachine`. -/
def Thread.iterate (stack : Memory) (thread : Thread) (results : List RecvResult) :
    Option Thread :=
  if thread.die then some { thread with phase := .returned }
  else
    (psRecvdCalls stack thread.self results).returned.map fun (opcode, self) =>
      thread.dispatch self opcode

/-! ## On a connection that is not lost -/

section Sockets

/-- What a call of `recv` on this socket answers. -/
def Socket.result (socket : Socket) (count : Nat) : RecvResult :=
  match (socket.recv count).1 with
  | none => .again
  | some got => .data got

theorem Socket.result_got (socket : Socket) (count : Nat) :
    (socket.result count).got count = (socket.recv count).1 := by
  unfold Socket.result Socket.recv
  by_cases empty : socket.arrive.queue = []
  · rw [if_pos empty]
    rfl
  · rw [if_neg empty]
    simp only [RecvResult.got, List.take_take, Nat.min_self]

theorem Socket.result_lost (socket : Socket) (count : Nat) :
    (socket.result count).lost count = false := by
  unfold Socket.result Socket.recv
  by_cases empty : socket.arrive.queue = []
  · rw [if_pos empty]
    rfl
  · rw [if_neg empty]
    dsimp only [RecvResult.lost]
    cases count with
    | zero => rw [List.take_zero]; rfl
    | succ count =>
        cases queue : socket.arrive.queue with
        | nil => exact absurd queue empty
        | cons byte queue => rfl

variable {stack : Memory} {self : Session}

/-- One answer more. -/
theorem dueCalls_cons {due : Nat} {buf : Memory} {result : RecvResult} (results : List RecvResult)
    (kept : result.lost due = false) :
    dueCalls due buf (result :: results) =
      match result.got due with
      | none => dueCalls due buf results
      | some got =>
          if got.length == due then (some (buf.write 0 got), false)
          else dueCalls due (buf.write 0 got) results := by
  rw [dueCalls, RecvResult.full, kept]
  cases result.got due with
  | none => rfl
  | some got =>
      rw [Option.any_some]
      dsimp only
      cases got.length == due <;> rfl

theorem dueCalls_of_exits {due : Nat} {state last : DueState}
    (incomplete : state.complete = false)
    (exits : Loop.Exits dueGuard (dueBody due) state last) :
    Exists fun results => dueCalls due state.buf results = (some last.buf, false) := by
  rcases exits with ⟨fuel, finished⟩
  have both : (state.complete = true -> state = last) ∧ (state.complete = false ->
      Exists fun results => dueCalls due state.buf results = (some last.buf, false)) := by
    refine Loop.run_induction (fun _ state => (state.complete = true -> state = last) ∧
      (state.complete = false -> Exists fun results =>
        dueCalls due state.buf results = (some last.buf, false))) ?_ ?_ finished
    · intro _ done
      refine ⟨fun _ => rfl, fun missing => ?_⟩
      rw [dueGuard, missing] at done
      cases done
    · intro _ state after entered moved later
      have got := state.socket.result_got due
      have kept := state.socket.result_lost due
      refine ⟨fun complete => ?_, fun missing => ?_⟩
      · rw [dueGuard, complete] at entered
        cases entered
      · unfold dueBody at moved
        rcases called : state.socket.recv due with ⟨answer, socket⟩
        rw [called] at got moved
        cases answer with
        | none =>
            cases moved
            rcases later.2 missing with ⟨results, ends⟩
            refine ⟨state.socket.result due :: results, ?_⟩
            rw [dueCalls_cons results kept, got]
            exact ends
        | some bytes =>
            cases moved
            cases complete : bytes.length == due with
            | true =>
                refine ⟨[state.socket.result due], ?_⟩
                rw [dueCalls_cons [] kept, got]
                dsimp only
                rw [complete, if_pos rfl, ← later.1 complete]
            | false =>
                rcases later.2 complete with ⟨results, ends⟩
                refine ⟨state.socket.result due :: results, ?_⟩
                rw [dueCalls_cons results kept, got]
                dsimp only
                rw [complete, if_neg Bool.false_ne_true]
                exact ends
  exact both.2 incomplete

theorem psRecvdMessageCalls_of_socket {socket : Socket} {opc : UInt8} {length : UInt32}
    {received : Received} (returns : psRecvdMessage stack self socket opc length = some received) :
    Exists fun results => psRecvdMessageCalls stack self opc length results =
      { returned := some (received.opcode, received.self), lost := false } := by
  have got := socket.result_got length.toNat
  have kept := socket.result_lost length.toNat
  cases psRecvdMessage_cases returns with
  | nothing called =>
      rw [called] at got
      refine ⟨[socket.result length.toNat], ?_⟩
      simp only [psRecvdMessageCalls, got, kept, Received.nothing]
  | whole called whole walked =>
      rw [called] at got
      refine ⟨[socket.result length.toNat], ?_⟩
      rw [psRecvdMessageCalls]
      simp only [got, kept, if_neg whole, psRecvdObjects, walked, Option.map_some]
  | due called short fills walked =>
      rw [called] at got
      rcases dueCalls_of_exits rfl (dueLoop_iff.mp fills) with ⟨results, ends⟩
      refine ⟨socket.result length.toNat :: results, ?_⟩
      rw [psRecvdMessageCalls]
      simp only [got, kept, if_pos short, ends, Option.bind_some, psRecvdObjects, walked,
        Option.map_some, Bool.or_self]

/-- Every call of `psRecvd` that returns is one of these calls, without a loss. -/
theorem psRecvdCalls_of_socket {socket : Socket} {received : Received}
    (returns : psRecvd stack self socket = some received) :
    Exists fun results => psRecvdCalls stack self results =
      { returned := some (received.opcode, received.self), lost := false } := by
  unfold psRecvd at returns
  by_cases empty : socket.arrive.queue = []
  · rw [Socket.peek_of_empty empty] at returns
    cases returns
    exact ⟨[.again], rfl⟩
  rw [Socket.peek_of_queued empty] at returns
  dsimp only at returns
  have some' : socket.arrive.queue.take bufferSize ≠ [] := by
    rw [Ne, List.take_eq_nil_iff]
    exact fun nothing => nothing.elim (by decide) empty
  have got : (RecvResult.data (socket.arrive.queue.take bufferSize)).got bufferSize =
      some (socket.arrive.queue.take bufferSize) := by
    rw [RecvResult.got, List.take_take, Nat.min_self]
  generalize socket.arrive.queue.take bufferSize = seen at returns some' got
  split at returns
  · rename_i taken
    rcases psRecvdMessageCalls_of_socket returns with ⟨results, calls⟩
    refine ⟨.data seen :: results, ?_⟩
    simp only [psRecvdCalls, psRecvdStart, got, if_neg some', if_pos taken, calls, Bool.or_self]
  · rename_i refused
    split at returns
    · rename_i nothing
      cases returns
      refine ⟨[.data seen, socket.arrive.result seen.length], ?_⟩
      simp only [psRecvdCalls, psRecvdStart, got, if_neg some', if_neg refused, nothing,
        Socket.result_lost, Received.nothing, if_true]
    · rename_i i found
      split at returns
      · rename_i far
        rcases psRecvdMessageCalls_of_socket returns with ⟨results, calls⟩
        refine ⟨.data seen :: socket.arrive.result (i - 2) :: results, ?_⟩
        simp only [psRecvdCalls, psRecvdStart, got, if_neg some', if_neg refused, found, if_pos far,
          calls, Socket.result_lost, Bool.or_self]
      · rename_i near
        rcases psRecvdMessageCalls_of_socket returns with ⟨results, calls⟩
        refine ⟨.data seen :: results, ?_⟩
        simp only [psRecvdCalls, psRecvdStart, got, if_neg some', if_neg refused, found,
          if_neg near, calls, Bool.or_self]

end Sockets

/-! ## What should make the thread reconnect -/

namespace Announced

/-- The opcode of the message itself: the byte in front of its client-type. -/
def real (m : Announced) : Option UInt8 :=
  match m.scanned with
  | none => some m.opc
  | some 0 => none
  | some (i + 1) => m.seen[i]?

/-- The calls bring the whole message. -/
def whole (m : Announced) : Bool :=
  match m.results with
  | [] => false
  | result :: results =>
      match result.got m.length.toNat with
      | none => false
      | some got =>
          if got.length < m.length.toNat then
            results.any (RecvResult.full (m.length.toNat - got.length))
          else true

end Announced

/-- A Client-Close is received. -/
def CloseReceived (stack : Memory) (results : List RecvResult) : Prop :=
  Exists fun m => psRecvdStart stack results = .message m ∧ m.real = some 8 ∧ m.whole = true

/-- A message is received that counts as a Client-Close. -/
def CloseTaken (stack : Memory) (results : List RecvResult) : Prop :=
  Exists fun m => psRecvdStart stack results = .message m ∧ m.opc = 8 ∧ m.whole = true

/-- The branch has been taken: the socket is closed, and the next attempt begins. -/
structure Thread.Reconnecting (thread : Thread) : Prop where
  phase : thread.phase = .connecting
  connection : thread.wire.connection = false
  uuidReceived : thread.self.uuidReceived = false

section Start

variable {stack : Memory} {results : List RecvResult} {m : Announced}

theorem shown_eq_iff {seen : List UInt8} {i : Nat} {byte : UInt8} (nonzero : byte ≠ 0) :
    shown seen i = byte ↔ seen[i]? = some byte := by
  rw [shown]
  cases seen[i]? with
  | none => exact iff_of_false (Ne.symm nonzero) (fun impossible => by cases impossible)
  | some there => exact Option.some_inj.symm

/-- A client-type at one of the first two indices puts one of its bytes at the second. -/
theorem second_ne_close {seen : List UInt8} {i : Nat} (near : ¬ 2 ≤ i)
    (client : unpackU16 (shown seen) i = pcmmClientType) : shown seen 1 ≠ 8 := by
  intro close
  have value := congrArg UInt16.toNat client
  rw [unpackU16_toNat] at value
  have high := (shown seen i).toNat_lt
  have low := (shown seen (i + 1)).toNat_lt
  have type : pcmmClientType.toNat = 128 * 256 + 10 := rfl
  have eight : (8 : UInt8).toNat = 8 := rfl
  have first : i = 0 ∨ i = 1 := by omega
  rcases first with rfl | rfl
  · rw [close, type] at value
    omega
  · rw [close, type] at value
    omega

/-- A message is taken for a Client-Close if the second byte peeked at is 8. -/
theorem start_close_iff (start : psRecvdStart stack results = .message m) :
    m.opc = 8 ↔ m.seen[1]? = some 8 := by
  cases results with
  | nil => cases start
  | cons result results =>
      rw [psRecvdStart] at start
      cases peeked : result.got bufferSize with
      | none =>
          rw [peeked] at start
          cases start
      | some seen =>
          have second := @shown_eq_iff seen 1 8 (by decide)
          simp only [peeked, opcode_read, client_read] at start
          split at start
          · cases start
          split at start
          · cases start
            exact second
          split at start
          · cases start
          · cases start
          · rename_i i found
            split at start
            · split at start
              · cases start
              · cases start
                exact second
            · rename_i near
              cases start
              rw [← second]
              refine iff_of_false (show ¬ (3 : UInt8) = 8 by decide) (second_ne_close near ?_)
              rcases psRecvdScan_eq_some found with ⟨_, _, client, _⟩
              have inside : i + 2 ≤ bufferSize := by
                unfold bufferSize
                omega
              rw [← client]
              exact (buffer_u16 stack seen inside).symm

/-- The opcode of a message that had to be looked for. -/
theorem Announced.real_scanned {i : Nat} (scanned : m.scanned = some i) :
    m.real = some 8 ↔ i ≠ 0 ∧ m.seen[i - 1]? = some 8 := by
  rw [Announced.real, scanned]
  cases i with
  | zero => exact iff_of_false (fun impossible => by cases impossible) fun both => both.1 rfl
  | succ i => exact (and_iff_right (Nat.succ_ne_zero i)).symm

theorem closeTaken_iff :
    CloseTaken stack results ↔ Exists fun m => psRecvdStart stack results = .message m ∧
      m.seen[1]? = some 8 ∧ m.whole = true := by
  constructor
  · rintro ⟨m, start, close, whole⟩
    exact ⟨m, start, (start_close_iff start).mp close, whole⟩
  · rintro ⟨m, start, close, whole⟩
    exact ⟨m, start, (start_close_iff start).mpr close, whole⟩

end Start

section Calls

variable {stack : Memory} {self : Session}

theorem dueCalls_isSome (due : Nat) (buf : Memory) (results : List RecvResult) :
    (dueCalls due buf results).1.isSome = results.any (RecvResult.full due) := by
  induction results generalizing buf with
  | nil => rfl
  | cons result results inductionHypothesis =>
      rw [List.any_cons, dueCalls]
      dsimp only
      cases full : result.full due with
      | true => rw [if_pos rfl]; rfl
      | false =>
          rw [if_neg Bool.false_ne_true, Bool.false_or]
          exact inductionHypothesis _

theorem actKind_report {opc cnv ctv : UInt8} {uuidReceived : Bool}
    (report : actKind opc uuidReceived cnv ctv = some .report) : opc = 3 := by
  unfold actKind at report
  split at report
  · cases report
  split at report
  · rename_i both
    exact beq_iff_eq.mp (Bool.and_eq_true_iff.mp both).2
  split at report
  · cases report
  split at report <;> cases report

/-- The object loop ends for every message that is no report. -/
theorem dispatchLoop_isSome {opc : UInt8} (noReport : opc ≠ 3) (buf : Memory) (length : UInt32)
    (self : Session) : (dispatchLoop buf opc length.toNat self).isSome = true := by
  have small := length.toNat_lt
  have sound : LengthsSound buf opc length.toNat self.uuidReceived :=
    fun _ _ _ _ report => absurd (actKind_report report) noReport
  rcases (parsersTerminate_of_lengthsSound (Nat.le_of_lt small) sound).exits with ⟨last, exits⟩
  exact Option.isSome_iff_exists.mpr ⟨last, (dispatchLoop_iff small).mpr exits⟩

theorem psRecvdObjects_close_iff (self : Session) (opc : UInt8) (length : UInt32) (buf : Memory) :
    (Exists fun after => psRecvdObjects self opc length buf = some (8, after)) ↔ opc = 8 := by
  constructor
  · rintro ⟨after, returned⟩
    rcases Option.map_eq_some_iff.mp returned with ⟨_, _, same⟩
    exact (Prod.mk.inj same).1
  · rintro rfl
    have ends := dispatchLoop_isSome (by decide : (8 : UInt8) ≠ 3) buf length self
    rcases Option.isSome_iff_exists.mp ends with ⟨last, finished⟩
    exact ⟨last.self, by rw [psRecvdObjects, finished, Option.map_some]⟩

/-- A message is returned as a Client-Close if it counts as one, once it is there. -/
theorem message_close_iff (m : Announced) :
    (Exists fun after =>
        (psRecvdMessageCalls stack self m.opc m.length m.results).returned = some (8, after)) ↔
      m.opc = 8 ∧ m.whole = true := by
  rcases m with ⟨seen, scanned, opc, length, results, lost⟩
  -- a message that does not come is not returned
  have unclosed {closes : Prop} {returned : Option (UInt8 × Session)}
      (other : forall after, returned ≠ some (8, after)) :
      (Exists fun after => returned = some (8, after)) ↔ closes ∧ false = true := by
    constructor
    · rintro ⟨after, same⟩
      exact absurd same (other after)
    · rintro ⟨_, impossible⟩
      cases impossible
  unfold Announced.whole
  dsimp only
  cases results with
  | nil => exact unclosed fun _ impossible => by cases impossible
  | cons result results =>
      rw [psRecvdMessageCalls]
      dsimp only
      cases result.got length.toNat with
      | none => exact unclosed fun _ impossible => by cases impossible
      | some got =>
          dsimp only
          by_cases short : got.length < length.toNat
          · rw [if_pos short, if_pos short, ← dueCalls_isSome _
              (((stack.clear bufferSize).write 0 got).clear got.length)]
            dsimp only
            cases (dueCalls (length.toNat - got.length)
              (((stack.clear bufferSize).write 0 got).clear got.length) results).1 with
            | none => exact unclosed fun _ impossible => by cases impossible
            | some buf =>
                rw [Option.bind_some, psRecvdObjects_close_iff, Option.isSome_some]
                exact (and_iff_left rfl).symm
          · rw [if_neg short, if_neg short]
            dsimp only
            rw [psRecvdObjects_close_iff]
            exact (and_iff_left rfl).symm

/-- `ps_recvd` returns 8 exactly for a message that counts as a Client-Close. -/
theorem returned_close_iff (stack : Memory) (self : Session) (results : List RecvResult) :
    (Exists fun after => (psRecvdCalls stack self results).returned = some (8, after)) ↔
      CloseTaken stack results := by
  unfold psRecvdCalls CloseTaken
  cases psRecvdStart stack results with
  | nothing returned lost =>
      constructor
      · rintro ⟨_, impossible⟩
        cases returned <;> cases impossible
      · rintro ⟨_, impossible, _⟩
        cases impossible
  | message m =>
      dsimp only
      rw [message_close_iff m]
      constructor
      · intro taken
        exact ⟨m, rfl, taken⟩
      · rintro ⟨_, same, taken⟩
        cases same
        exact taken

end Calls

/-! ## When it does -/

theorem reconnecting_dispatch_iff (thread : Thread) (self : Session) (opcode : UInt8) :
    (thread.dispatch self opcode).Reconnecting ↔ opcode = 8 := by
  unfold Thread.dispatch
  by_cases close : opcode = 8
  · rw [if_pos close]
    exact iff_of_true ⟨rfl, rfl, rfl⟩ close
  · rw [if_neg close]
    refine iff_of_false (fun reconnecting => ?_) close
    have phase := reconnecting.phase
    cases phase

/-- A thread that is not killed reconnects behind a message that counts as a
Client-Close, and behind nothing else. -/
theorem reconnecting_iff {stack : Memory} {thread : Thread} (alive : thread.die = false)
    (results : List RecvResult) :
    (Exists fun after => thread.iterate stack results = some after ∧ after.Reconnecting) ↔
      CloseTaken stack results := by
  rw [← returned_close_iff stack thread.self, Thread.iterate, alive, if_neg Bool.false_ne_true]
  constructor
  · rintro ⟨after, moved, reconnecting⟩
    rcases Option.map_eq_some_iff.mp moved with ⟨⟨opcode, self⟩, returned, rfl⟩
    rw [(reconnecting_dispatch_iff thread self opcode).mp reconnecting] at returned
    exact ⟨self, returned⟩
  · rintro ⟨self, returned⟩
    rw [returned]
    exact ⟨_, rfl, (reconnecting_dispatch_iff thread self 8).mpr rfl⟩

/-- The conditions under which this is right: a loss goes unnoticed only behind a message
whose second byte is 8, and a message that was looked for has an 8 there exactly if it has
one in front of its client-type. -/
def LossSound (stack : Memory) (self : Session) (results : List RecvResult) : Prop :=
  if (psRecvdCalls stack self results).lost then
    Exists fun m => psRecvdStart stack results = .message m ∧ m.seen[1]? = some 8 ∧ m.whole = true
  else forall m i, psRecvdStart stack results = .message m -> m.scanned = some i ->
    m.whole = true -> (m.seen[1]? = some 8 ↔ i ≠ 0 ∧ m.seen[i - 1]? = some 8)

/-- An accepted header has the opcode of the message. -/
theorem taken_iff_received {stack : Memory} {results : List RecvResult}
    (same : forall m i, psRecvdStart stack results = .message m -> m.scanned = some i ->
      m.whole = true -> (m.seen[1]? = some 8 ↔ i ≠ 0 ∧ m.seen[i - 1]? = some 8)) {m : Announced}
    (start : psRecvdStart stack results = .message m) (whole : m.whole = true) :
    m.opc = 8 ↔ m.real = some 8 := by
  cases scanned : m.scanned with
  | none =>
      rw [Announced.real, scanned]
      exact Option.some_inj.symm
  | some i =>
      rw [start_close_iff start, Announced.real_scanned scanned]
      exact same m i start scanned whole

/-- A live thread reconnects for a Client-Close or a loss, and for nothing else, exactly
under these conditions. -/
theorem reconnects_iff {stack : Memory} {thread : Thread} (alive : thread.die = false)
    (results : List RecvResult) :
    ((Exists fun after => thread.iterate stack results = some after ∧ after.Reconnecting) ↔
        CloseReceived stack results ∨ (psRecvdCalls stack thread.self results).lost = true) ↔
      LossSound stack thread.self results := by
  rw [reconnecting_iff alive, LossSound]
  cases (psRecvdCalls stack thread.self results).lost with
  | true =>
      rw [if_pos rfl, ← closeTaken_iff]
      exact ⟨fun right => right.mpr (Or.inr rfl), fun taken => iff_of_true taken (Or.inr rfl)⟩
  | false =>
      rw [if_neg Bool.false_ne_true]
      constructor
      · intro right m i start scanned whole
        rw [← start_close_iff start, ← Announced.real_scanned scanned]
        constructor
        · intro close
          rcases right.mp ⟨m, start, close, whole⟩ with ⟨other, start', real, _⟩ | impossible
          · rw [start] at start'
            cases start'
            exact real
          · cases impossible
        · intro real
          rcases right.mpr (Or.inl ⟨m, start, real, whole⟩) with ⟨other, start', close, _⟩
          rw [start] at start'
          cases start'
          exact close
      · intro same
        constructor
        · rintro ⟨m, start, close, whole⟩
          exact Or.inl ⟨m, start, (taken_iff_received same start whole).mp close, whole⟩
        · rintro (⟨m, start, real, whole⟩ | impossible)
          · exact ⟨m, start, (taken_iff_received same start whole).mpr real, whole⟩
          · cases impossible

/-- A thread on a connection. -/
def servingThread : Thread :=
  { Thread.start true with wire := { connection := true, sock := .connected } }

/-- A Client-Close, seen and then taken. -/
def closeResults : List RecvResult :=
  [.data [16, 8, 128, 10, 0, 0, 0, 8], .data [16, 8, 128, 10, 0, 0, 0, 8]]

theorem close_reconnects :
    Exists fun after => servingThread.iterate (fun _ => 0) closeResults = some after ∧
      after.Reconnecting := by
  have sound : LossSound (fun _ => 0) servingThread.self closeResults := by
    intro m i start scanned _
    cases start
    cases scanned
  exact ((reconnects_iff rfl closeResults).mpr sound).mpr (Or.inl ⟨_, rfl, rfl, rfl⟩)

/-- The peer closes the connection: the thread goes back to the head of its loop. -/
theorem ended_not_noticed :
    ¬ ((Exists fun after => servingThread.iterate (fun _ => 0) [.data []] = some after ∧
        after.Reconnecting) ↔
      CloseReceived (fun _ => 0) [.data []] ∨
        (psRecvdCalls (fun _ => 0) servingThread.self [.data []]).lost = true) := by
  intro same
  rcases same.mpr (Or.inr rfl) with ⟨after, moved, reconnecting⟩
  cases moved
  cases reconnecting.phase

end PolicyServer
