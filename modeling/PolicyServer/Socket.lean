import PolicyServer.Lib.Memory

namespace PolicyServer

/-!
# The receiving side of a non-blocking socket

Bytes arrive between the calls of `recv`, never during one: `arrivals` lists,
for each call to come, what the network has brought by then.  A call with a
count takes the smaller of the count and what is queued, `MSG_WAITALL` or not,
or fails with EAGAIN when nothing is queued.
-/

structure Socket where
  queue : List UInt8
  arrivals : List (List UInt8)
  deriving DecidableEq, Repr

namespace Socket

/-- The socket at the next call. -/
def arrive (socket : Socket) : Socket where
  queue := socket.queue ++ socket.arrivals.headD []
  arrivals := socket.arrivals.tail

/-- `recv`: the bytes taken, or `none` for -1. -/
def recv (socket : Socket) (count : Nat) : Option (List UInt8) × Socket :=
  let arrived := socket.arrive
  if arrived.queue = [] then (none, arrived)
  else (some (arrived.queue.take count), { arrived with queue := arrived.queue.drop count })

/-- `recv` with `MSG_PEEK`. -/
def peek (socket : Socket) (count : Nat) : Option (List UInt8) × Socket :=
  let arrived := socket.arrive
  if arrived.queue = [] then (none, arrived) else (some (arrived.queue.take count), arrived)

/-- Nothing queued, and nothing to come. -/
def exhausted (socket : Socket) : Bool :=
  socket.queue.isEmpty && socket.arrivals.isEmpty

@[simp] theorem arrive_idle (queue : List UInt8) :
    (Socket.mk queue []).arrive = { queue, arrivals := [] } := by
  rw [arrive, List.headD_nil, List.append_nil, List.tail_nil]

theorem arrive_eq (socket : Socket) : socket.arrive =
    { queue := socket.queue ++ (socket.arrivals.take 1).flatten
      arrivals := socket.arrivals.drop 1 } := by
  rcases socket with ⟨queue, arrivals⟩
  cases arrivals with
  | nil => rfl
  | cons arrival arrivals =>
      rw [arrive, List.headD_cons, List.tail_cons, List.take_succ_cons, List.take_zero,
        List.flatten_cons, List.flatten_nil, List.append_nil, List.drop_one, List.tail_cons]

section Calls

variable {socket : Socket} {count : Nat}

theorem recv_of_empty (empty : socket.arrive.queue = []) :
    socket.recv count = (none, socket.arrive) := by
  simp only [recv, if_pos empty]

theorem recv_of_queued (queued : socket.arrive.queue ≠ []) :
    socket.recv count = (some (socket.arrive.queue.take count),
      { socket.arrive with queue := socket.arrive.queue.drop count }) := by
  simp only [recv, if_neg queued]

theorem peek_of_empty (empty : socket.arrive.queue = []) :
    socket.peek count = (none, socket.arrive) := by
  simp only [peek, if_pos empty]

theorem peek_of_queued (queued : socket.arrive.queue ≠ []) :
    socket.peek count = (some (socket.arrive.queue.take count), socket.arrive) := by
  simp only [peek, if_neg queued]

theorem recv_arrivals (socket : Socket) (count : Nat) :
    (socket.recv count).2.arrivals = socket.arrivals.tail := by
  unfold recv arrive
  dsimp only
  split <;> rfl

end Calls

end Socket

end PolicyServer
