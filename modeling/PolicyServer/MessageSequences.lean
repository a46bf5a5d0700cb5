import PolicyServer.Framing

namespace PolicyServer

open Lib

/-!
# Messages one after the other

`ps_recvd` keeps nothing between two calls but the session and what is left in
the socket, so it stays aligned with the messages as long as each call takes one
of them.  A message whose header is refused goes through the
resynchronisation, which has to stop at the client-type of the very message.
-/

/-- Successive calls of `ps_recvd`, each with the session and the stack it finds;
`none` if one of them never returns. -/
def psRecvds : List (Memory × Session) -> Socket -> Option (List Received)
  | [], _ => some []
  | (stack, self) :: calls, socket =>
      (psRecvd stack self socket).bind fun received =>
        (psRecvds calls received.socket).map (received :: ·)

/-- The bytes of frames that lie one behind the other. -/
def frameStream (frames : List Frame) : List UInt8 :=
  frames.flatMap Frame.bytes

/-- The calls so far, when the next one is made. -/
theorem psRecvds_cons {stack : Memory} {self : Session} {calls : List (Memory × Session)}
    {socket : Socket} {all : List Received}
    (returns : psRecvds ((stack, self) :: calls) socket = some all) :
    Exists fun received => Exists fun rest => all = received :: rest ∧
      psRecvd stack self socket = some received ∧
        psRecvds calls received.socket = some rest := by
  rcases Option.bind_eq_some_iff.mp returns with ⟨received, first, later⟩
  rcases Option.map_eq_some_iff.mp later with ⟨rest, second, same⟩
  exact ⟨received, rest, same.symm, first, second⟩

/-- Of frames lying in the queue the calls that return have taken one each: the
`k`-th returns the opcode of the `k`-th frame and leaves what is behind it. -/
theorem psRecvds_of_frames (frames : List Frame) (more : List UInt8)
    (calls : List (Memory × Session)) (enough : calls.length ≤ frames.length)
    (all : List Received)
    (returns : psRecvds calls { queue := frameStream frames ++ more, arrivals := [] } = some all) :
    all.length = calls.length ∧
      forall (k : Nat) (received : Received), all[k]? = some received ->
        Exists fun frame => frames[k]? = some frame ∧ received.opcode = frame.opcode ∧
          received.socket = { queue := frameStream (frames.drop (k + 1)) ++ more, arrivals := [] } := by
  induction calls generalizing frames all with
  | nil =>
      cases returns
      exact ⟨rfl, fun _ _ impossible => nomatch impossible⟩
  | cons call calls inductionHypothesis =>
      rcases call with ⟨stack, self⟩
      rcases psRecvds_cons returns with ⟨received, rest, rfl, first, later⟩
      cases frames with
      | nil => exact absurd enough (Nat.not_succ_le_zero _)
      | cons frame frames =>
          have queue : frameStream (frame :: frames) ++ more =
              frame.bytes ++ (frameStream frames ++ more) := by
            rw [frameStream, List.flatMap_cons, List.append_assoc, frameStream]
          rw [queue, psRecvd_of_queued] at first
          rcases Option.map_eq_some_iff.mp first with ⟨last, _, rfl⟩
          rcases inductionHypothesis frames (Nat.le_of_succ_le_succ enough) rest later with
            ⟨count, others⟩
          refine ⟨congrArg Nat.succ count, ?_⟩
          intro k received found
          cases k with
          | zero =>
              cases found
              exact ⟨frame, rfl, rfl, rfl⟩
          | succ k => exact others k received found

theorem empty_fits : ([] : List UInt8).length + 8 < 65536 := by decide

/-- A Synchronize request and its completion, without objects. -/
def bareFrames : List Frame :=
  [.pcmm 5 [] empty_fits, .pcmm 10 [] empty_fits]

/-- Two calls in one state. -/
def twoCalls : List (Memory × Session) :=
  List.replicate 2 (fun _ => 0, { handle := [], uuidReceived := false })

/-- Both go through the resynchronisation. -/
theorem psRecvds_of_bareFrames :
    Exists fun all : List Received => all.length = 2 ∧
      forall (k : Nat) (received : Received), all[k]? = some received ->
        Exists fun frame => bareFrames[k]? = some frame ∧ received.opcode = frame.opcode ∧
          received.socket =
            { queue := frameStream (bareFrames.drop (k + 1)) ++ [1], arrivals := [] } := by
  have executed : (psRecvds twoCalls
      { queue := frameStream bareFrames ++ [1], arrivals := [] }).isSome = true := rfl
  rcases Option.isSome_iff_exists.mp executed with ⟨all, returns⟩
  exact ⟨all, psRecvds_of_frames bareFrames [1] twoCalls (Nat.le_refl 2) all returns⟩

end PolicyServer
