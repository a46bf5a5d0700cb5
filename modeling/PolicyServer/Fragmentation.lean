import Mathlib.Data.List.TakeWhile
import PolicyServer.Framing

namespace PolicyServer

open Lib

/-!
# Fragmented messages

TCP delivers a message in whatever pieces it likes.  `Drains` calls `ps_recvd`
until everything that is to arrive has been consumed, and collects the effect
of the calls; `drains_timely_iff` shows that for a timely delivery this is the
effect of the message delivered in one piece.  A delivery is timely if the call
that first sees anything sees the header, and the rest has arrived when that
call comes to read the message.  Any other delivery has `ps_recvd` take a part
of the message for the message.
-/

/-- What a sequence of calls has done: the opcodes returned, 0 left out, the
session they leave, and the acts and files in order. -/
structure Effect where
  opcodes : List UInt8
  self : Session
  acts : List Act
  files : List FileAction

structure DrainState where
  socket : Socket
  effect : Effect

def drainGuard (state : DrainState) : Bool :=
  !state.socket.exhausted

def Effect.add (effect : Effect) (received : Received) : Effect where
  opcodes := effect.opcodes ++ (if received.opcode = 0 then [] else [received.opcode])
  self := received.self
  acts := effect.acts ++ received.acts
  files := effect.files ++ received.files

def drainBody (stack : Memory) (state : DrainState) : Option DrainState :=
  (psRecvd stack state.effect.self state.socket).map fun received =>
    { socket := received.socket, effect := state.effect.add received }

def Effect.initial (self : Session) : Effect where
  opcodes := []
  self := self
  acts := []
  files := []

/-- Calling `ps_recvd` until all of a delivery is consumed has this effect.  The
delivery lists what arrives before each `recv` to come. -/
def Drains (stack : Memory) (self : Session) (delivery : List (List UInt8)) (effect : Effect) :
    Prop :=
  Exists fun last =>
    Loop.Exits drainGuard (drainBody stack)
        { socket := { queue := [], arrivals := delivery }, effect := .initial self } last ∧
      last.effect = effect

/-- The `recv` calls behind the one that peeks, up to the one that reads. -/
def readCalls (frame : Frame) : Nat :=
  if copsHeaderOk frame.opcode frame.clientType frame.length then 1 else 2

/-- The first bytes that are seen show the header (a last byte of the length
that is missing is read as 0), and the rest is there when the message is read. -/
def Timely (frame : Frame) (delivery : List (List UInt8)) : Prop :=
  match delivery.dropWhile List.isEmpty with
  | [] => False
  | first :: rest =>
      (8 ≤ first.length ∨ first.length = 7 ∧ 256 ∣ frame.size) ∧
        first ++ (rest.take (readCalls frame)).flatten = frame.bytes

instance (frame : Frame) (delivery : List (List UInt8)) : Decidable (Timely frame delivery) := by
  unfold Timely
  split <;> infer_instance

/-- The effect of a frame that is received whole. -/
def frameEffect (self : Session) (frame : Frame) (last : DispatchState) : Effect :=
  (Effect.initial self).add (receivedFrame frame { queue := [], arrivals := [] } last)

/-! ## Calls that see nothing -/

section Calls

variable {stack : Memory} {self : Session}

theorem psRecvd_of_empty {socket : Socket} (empty : socket.arrive.queue = []) :
    psRecvd stack self socket = some (.nothing self socket.arrive) := by
  simp only [psRecvd, Socket.peek_of_empty empty]

theorem Effect.add_nothing (effect : Effect) (socket : Socket) :
    effect.add (.nothing effect.self socket) = effect := by
  simp only [Effect.add, Received.nothing, if_true, List.append_nil]

/-- Calls that find the socket empty have no effect. -/
theorem drain_waits (stack : Memory) {waits : List (List UInt8)}
    (empty : forall wait, wait ∈ waits -> wait = []) (rest : List (List UInt8)) (effect : Effect) :
    Loop.Visits drainGuard (drainBody stack)
      { socket := { queue := [], arrivals := waits ++ rest }, effect := effect }
      { socket := { queue := [], arrivals := rest }, effect := effect } := by
  induction waits with
  | nil => exact .here
  | cons wait waits inductionHypothesis =>
      have nothing : wait = [] := empty wait List.mem_cons_self
      cases nothing
      have moved : drainBody stack
          { socket := { queue := [], arrivals := [] :: waits ++ rest }, effect := effect } =
          some { socket := { queue := [], arrivals := waits ++ rest }, effect := effect } := by
        rw [drainBody, psRecvd_of_empty rfl, Option.map_some]
        simp only [Effect.add_nothing]
        rfl
      have later := inductionHypothesis (fun wait member => empty wait (List.mem_cons_of_mem _ member))
      exact later.after_step rfl moved

/-- When only empty arrivals are left the calls are over. -/
theorem drain_done {waits : List (List UInt8)} (empty : forall wait, wait ∈ waits -> wait = [])
    (effect : Effect) {last : DrainState} :
    Loop.Exits drainGuard (drainBody stack)
        { socket := { queue := [], arrivals := waits }, effect := effect } last ↔
      last = { socket := { queue := [], arrivals := [] }, effect := effect } := by
  have visits := drain_waits stack empty [] effect
  rw [List.append_nil] at visits
  rw [visits.exits_iff, Loop.exits_of_done_iff rfl, eq_comm]

end Calls

/-! ## Timely deliveries -/

section Timely

variable {stack : Memory} {self : Session} {frame : Frame}

theorem sighted_of_first {first more : List UInt8}
    (enough : 8 ≤ first.length ∨ first.length = 7 ∧ 256 ∣ frame.size)
    (whole : first ++ more = frame.bytes) : Sighted frame stack (first.take bufferSize) := by
  have size : frame.bytes.length = frame.size := frame.bytes_length
  have fits := frame.size_lt
  have short : first.length ≤ bufferSize := by
    have total := congrArg List.length whole
    rw [List.length_append, size] at total
    unfold bufferSize
    omega
  rw [List.take_of_length_le short]
  have header : frame.header <+: first ++ more := whole ▸ List.prefix_append _ _
  rcases enough with long | ⟨seven, round⟩
  · apply sighted_of_header
    exact List.prefix_of_prefix_length_le header (List.prefix_append _ _) long
  · refine sighted_of_seven ?_ round
    have prefixed : first <+: frame.header := by
      refine List.prefix_of_prefix_length_le (List.prefix_append _ more) header ?_
      rw [seven]
      exact (by decide : 7 ≤ 8)
    rw [List.prefix_iff_eq_take.mp prefixed, seven]

/-- What is left of a delivery behind the frame is empty. -/
theorem rest_empty {first : List UInt8} {rest : List (List UInt8)} {calls : Nat}
    (delivered : first ++ rest.flatten = frame.bytes)
    (whole : first ++ (rest.take calls).flatten = frame.bytes) :
    forall wait, wait ∈ rest.drop calls -> wait = [] := by
  have split : (rest.take calls).flatten ++ (rest.drop calls).flatten = rest.flatten := by
    rw [← List.flatten_append, List.take_append_drop]
  have nothing : (rest.drop calls).flatten = [] := by
    rw [← split, ← List.append_assoc, whole] at delivered
    exact List.append_right_eq_self.mp delivered
  exact List.flatten_eq_nil_iff.mp nothing

/-- The call that sees the first bytes of a timely delivery receives the frame. -/
theorem psRecvd_of_timely {first : List UInt8} {rest : List (List UInt8)}
    (enough : 8 ≤ first.length ∨ first.length = 7 ∧ 256 ∣ frame.size)
    (whole : first ++ (rest.take (readCalls frame)).flatten = frame.bytes) :
    psRecvd stack self { queue := [], arrivals := first :: rest } =
      (deliver stack self frame).map
        (receivedFrame frame { queue := [], arrivals := rest.drop (readCalls frame) }) := by
  have sighted : Sighted frame stack
      ((Socket.mk [] (first :: rest)).arrive.queue.take bufferSize) :=
    sighted_of_first enough whole
  have nonempty : first ≠ [] := by
    intro empty
    rw [empty] at enough
    simp only [List.length_nil] at enough
    omega
  have seen : (Socket.mk [] (first :: rest)).arrive = ⟨first, rest⟩ := rfl
  have ready : (if copsHeaderOk frame.opcode frame.clientType frame.length then
        (Socket.mk [] (first :: rest)).arrive
      else ((Socket.mk [] (first :: rest)).arrive.recv 0).2).arrive =
      { queue := frame.bytes, arrivals := rest.drop (readCalls frame) } := by
    unfold readCalls at whole ⊢
    split
    · next ok =>
      rw [if_pos ok] at whole
      rw [seen, Socket.arrive_eq, whole]
    · next refused =>
      rw [if_neg refused] at whole
      have queued : (Socket.mk first rest).arrive.queue ≠ [] := by
        rw [Socket.arrive_eq]
        exact List.append_ne_nil_of_left_ne_nil nonempty _
      -- The resynchronisation reads 0 bytes, and lets one more arrival in.
      rw [seen, Socket.recv_of_queued queued, List.drop_zero, Socket.arrive_eq, Socket.arrive_eq]
      dsimp only
      rw [List.append_assoc, ← List.flatten_append, ← List.take_add, whole, List.drop_drop]
  rw [psRecvd_of_sighted sighted]
  have queued := congrArg Socket.queue ready
  rw [← List.append_nil frame.bytes] at queued
  rw [psRecvdMessage_of_whole queued, ready]

theorem drainBody_of_timely (stack : Memory) (self : Session) {first : List UInt8}
    {rest : List (List UInt8)}
    (enough : 8 ≤ first.length ∨ first.length = 7 ∧ 256 ∣ frame.size)
    (whole : first ++ (rest.take (readCalls frame)).flatten = frame.bytes) :
    drainBody stack { socket := { queue := [], arrivals := first :: rest }, effect := .initial self } =
      (deliver stack self frame).map fun last =>
        { socket := { queue := [], arrivals := rest.drop (readCalls frame) }
          effect := frameEffect self frame last } := by
  have receives : psRecvd stack (Effect.initial self).self { queue := [], arrivals := first :: rest } =
      _ := psRecvd_of_timely enough whole
  rw [drainBody, receives, Option.map_map]
  rfl

/-- The effect of a timely delivery is the effect of the frame. -/
theorem drains_timely_iff {delivery : List (List UInt8)} (delivered : delivery.flatten = frame.bytes)
    (timely : Timely frame delivery) {effect : Effect} :
    Drains stack self delivery effect ↔
      Exists fun last => deliver stack self frame = some last ∧
        frameEffect self frame last = effect := by
  have split : delivery = delivery.takeWhile List.isEmpty ++ delivery.dropWhile List.isEmpty :=
    List.takeWhile_append_dropWhile.symm
  have waits : forall wait, wait ∈ delivery.takeWhile List.isEmpty -> wait = [] :=
    fun wait member => List.isEmpty_iff.mp (List.mem_takeWhile_imp member)
  unfold Timely at timely
  cases found : delivery.dropWhile List.isEmpty with
  | nil =>
      rw [found] at timely
      exact timely.elim
  | cons first rest =>
      rw [found] at timely split
      rcases timely with ⟨enough, whole⟩
      have visits := drain_waits stack waits (first :: rest) (.initial self)
      rw [← split] at visits
      have flat : first ++ rest.flatten = frame.bytes := by
        rw [split, List.flatten_append, List.flatten_eq_nil_iff.mpr waits, List.nil_append,
          List.flatten_cons] at delivered
        exact delivered
      have empty := rest_empty flat whole
      have receives := drainBody_of_timely stack self enough whole
      unfold Drains
      cases delivers : deliver stack self frame with
      | none =>
          rw [delivers, Option.map_none] at receives
          constructor
          · rintro ⟨last, exits, _⟩
            rw [visits.exits_iff] at exits
            exact absurd exits (Loop.not_exits_of_stuck rfl receives)
          · rintro ⟨last, impossible, _⟩
            cases impossible
      | some final =>
          rw [delivers, Option.map_some] at receives
          have ends : forall last, Loop.Exits drainGuard (drainBody stack)
              { socket := { queue := [], arrivals := delivery }, effect := .initial self } last ↔
              last = { socket := { queue := [], arrivals := [] }
                       effect := frameEffect self frame final } := by
            intro last
            rw [visits.exits_iff, Loop.exits_step_iff rfl receives]
            exact drain_done empty _
          constructor
          · rintro ⟨last, exits, rfl⟩
            exact ⟨final, rfl, by rw [(ends last).mp exits]⟩
          · rintro ⟨last, same, rfl⟩
            cases same
            exact ⟨_, (ends _).mpr rfl, rfl⟩

end Timely

/-- For every session and every frame: a timely delivery of it has the effect
of its delivery in one piece. -/
theorem timely_same_effect (stack : Memory) (self : Session) (frame : Frame)
    (delivery : List (List UInt8)) (delivered : delivery.flatten = frame.bytes)
    (timely : Timely frame delivery) (effect : Effect) :
    Drains stack self delivery effect ↔ Drains stack self [frame.bytes] effect := by
  have onePiece : Timely frame [frame.bytes] := by
    have first : [frame.bytes].dropWhile List.isEmpty = [frame.bytes] := rfl
    unfold Timely
    rw [first]
    refine ⟨Or.inl ?_, ?_⟩
    · rw [frame.bytes_length]
      exact frame.size_pos
    · rw [List.take_nil, List.flatten_nil, List.append_nil]
  rw [drains_timely_iff delivered timely, drains_timely_iff List.flatten_singleton onePiece]

/-- A request with a Handle object in it. -/
def requestFrame : Frame :=
  .pcmm 1 [0, 8, 1, 1, 0, 0, 0, 5] (by decide)

theorem timely_same_effect_request :
    Exists fun effect =>
      Drains (fun _ => 0) ⟨[0, 0, 0, 0], false⟩
        [requestFrame.bytes.take 8, requestFrame.bytes.drop 8] effect ∧
      effect.self.handle = [0, 0, 0, 5] := by
  have whole : (Loop.run drainGuard (drainBody (fun _ => 0)) 2
      { socket := { queue := [], arrivals := [requestFrame.bytes] }
        effect := .initial ⟨[0, 0, 0, 0], false⟩ }).map (fun last => last.effect.self.handle) =
      some [0, 0, 0, 5] := by decide
  rcases Option.map_eq_some_iff.mp whole with ⟨last, run, handle⟩
  refine ⟨last.effect, ?_, handle⟩
  apply (timely_same_effect (fun _ => 0) ⟨[0, 0, 0, 0], false⟩ requestFrame
    [requestFrame.bytes.take 8, requestFrame.bytes.drop 8] (by decide) (by decide) _).mpr
  exact ⟨last, ⟨2, run⟩, rfl⟩

/-- When the objects of a request arrive one `recv` later than its header does,
its handle is not stored: they are read to the start of the buffer, in front of
where the object loop looks. -/
theorem late_objects_lost :
    ¬ forall effect, Drains (fun _ => 0) ⟨[0, 0, 0, 0], false⟩
        [requestFrame.bytes.take 8, [], requestFrame.bytes.drop 8] effect ↔
      Drains (fun _ => 0) ⟨[0, 0, 0, 0], false⟩ [requestFrame.bytes] effect := by
  intro same
  have late : (Loop.run drainGuard (drainBody (fun _ => 0)) 2
      { socket := { queue := [], arrivals :=
          [requestFrame.bytes.take 8, [], requestFrame.bytes.drop 8] }
        effect := .initial ⟨[0, 0, 0, 0], false⟩ }).map (fun last => last.effect.self.handle) =
      some [0, 0, 0, 0] := by decide
  have whole : (Loop.run drainGuard (drainBody (fun _ => 0)) 2
      { socket := { queue := [], arrivals := [requestFrame.bytes] }
        effect := .initial ⟨[0, 0, 0, 0], false⟩ }).map (fun last => last.effect.self.handle) =
      some [0, 0, 0, 5] := by decide
  rcases Option.map_eq_some_iff.mp late with ⟨lateLast, lateRun, lateHandle⟩
  rcases Option.map_eq_some_iff.mp whole with ⟨wholeLast, wholeRun, wholeHandle⟩
  rcases (same lateLast.effect).mp ⟨lateLast, ⟨2, lateRun⟩, rfl⟩ with ⟨last, exits, effect⟩
  rw [exits.unique ⟨2, wholeRun⟩] at effect
  rw [← effect, wholeHandle] at lateHandle
  exact absurd lateHandle (by decide)

end PolicyServer
