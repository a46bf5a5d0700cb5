import PolicyServer.Receive

namespace PolicyServer

open Lib

/-!
# Progress on any input

A call of `ps_recvd` that finds bytes should take some, or the session thread
looks at the same bytes for ever.  The header check asks for a length other than
0, but not of a keep-alive with client-type 0, and the resynchronisation does not
ask at all.  `Stalls` has the bytes for which the call reads a length of 0 and
has skipped nothing; `consumes_iff` is that on all others it takes at least one.
-/

namespace Socket

/-- What is queued and what will be. -/
def pending (socket : Socket) : List UInt8 :=
  socket.queue ++ socket.arrivals.flatten

@[simp] theorem arrive_pending (socket : Socket) : socket.arrive.pending = socket.pending := by
  rcases socket with ⟨queue, arrivals⟩
  cases arrivals with
  | nil => simp only [arrive_idle]
  | cons arrival arrivals =>
      simp only [pending, arrive, List.headD_cons, List.tail_cons, List.flatten_cons,
        List.append_assoc]

/-- A call takes its bytes from the front. -/
theorem recv_pending (socket : Socket) (count : Nat) :
    ((socket.recv count).1.getD []) ++ (socket.recv count).2.pending = socket.pending := by
  by_cases empty : socket.arrive.queue = []
  · rw [recv_of_empty empty, Option.getD_none, List.nil_append, arrive_pending]
  · rw [recv_of_queued empty, Option.getD_some, ← socket.arrive_pending, pending, pending,
      ← List.append_assoc, List.take_append_drop]

theorem recv_pending_le (socket : Socket) (count : Nat) :
    (socket.recv count).2.pending.length ≤ socket.pending.length := by
  rw [← recv_pending socket count, List.length_append]
  exact Nat.le_add_left _ _

/-- A call with a count other than 0 takes something if anything is there. -/
theorem recv_pending_lt {socket : Socket} {count : Nat} (queued : socket.arrive.queue ≠ [])
    (positive : 0 < count) : (socket.recv count).2.pending.length < socket.pending.length := by
  rw [← recv_pending socket count, List.length_append, recv_of_queued queued, Option.getD_some,
    List.length_take]
  have some := List.length_pos_iff.mpr queued
  omega

/-- A call with count 0 takes nothing. -/
theorem recv_zero {socket : Socket} (queued : socket.arrive.queue ≠ []) :
    socket.recv 0 = (some [], socket.arrive) := by
  rw [recv_of_queued queued, List.take_zero, List.drop_zero]

theorem arrive_queued {socket : Socket} (queued : socket.queue ≠ []) :
    socket.arrive.queue ≠ [] :=
  List.append_ne_nil_of_left_ne_nil queued _

end Socket

/-- The buffer that shows these bytes. -/
def shown (seen : List UInt8) : Memory :=
  fun i => seen[i]?.getD 0

/-- The bytes seen announce a length of 0 and nothing is in front of them to be
skipped: a keep-alive with client-type 0, or the client-type at one of the first
three places. -/
def Stalls (seen : List UInt8) : Prop :=
  (shown seen 1 = 9 ∧ unpackU16 (shown seen) 2 = 0 ∧ unpackN (shown seen) 4 = 0) ∨
    Exists fun i => i ≤ 2 ∧ i + 4 < seen.length ∧
      unpackU16 (shown seen) i = pcmmClientType ∧ unpackN (shown seen) (i + 2) = 0 ∧
        forall j, j < i -> unpackU16 (shown seen) j ≠ pcmmClientType

section Messages

variable {stack : Memory} {self : Session} {socket : Socket} {opc : UInt8} {length : UInt32}
  {received : Received}

theorem dueBody_pending {due : Nat} {state after : DueState}
    (moved : dueBody due state = some after) :
    after.socket.pending.length ≤ state.socket.pending.length := by
  have taken := state.socket.recv_pending_le due
  unfold dueBody at moved
  split at moved
  all_goals
    rename_i called
    rw [called] at taken
    cases moved
    exact taken

theorem dueLoop_pending {due : Nat} {buf : Memory} {last : DueState}
    (finished : dueLoop due socket buf = some last) :
    last.socket.pending.length ≤ socket.pending.length := by
  have visits := (dueLoop_iff.mp finished).visits
  refine visits.invariant (fun state => state.socket.pending.length ≤ socket.pending.length) ?_
    (Nat.le_refl _)
  exact fun state after less _ moved => Nat.le_trans (dueBody_pending moved) less

/-- The first call for a message takes all that a call takes, or more is taken. -/
theorem psRecvdMessage_pending
    (returns : psRecvdMessage stack self socket opc length = some received) :
    received.socket.pending.length ≤ (socket.recv length.toNat).2.pending.length := by
  cases psRecvdMessage_cases returns with
  | nothing called | whole called whole walked =>
      exact Nat.le_of_eq (congrArg (fun call => call.2.pending.length) called).symm
  | due called short fills walked =>
      rw [called]
      exact dueLoop_pending fills

/-- A message of a length other than 0. -/
theorem psRecvdMessage_consumes (queued : socket.arrive.queue ≠ []) (positive : length ≠ 0)
    (returns : psRecvdMessage stack self socket opc length = some received) :
    received.socket.pending.length < socket.pending.length := by
  have count : 0 < length.toNat := by
    apply Nat.pos_of_ne_zero
    exact fun zero => positive (UInt32.toNat_inj.mp zero)
  exact Nat.lt_of_le_of_lt (psRecvdMessage_pending returns)
    (Socket.recv_pending_lt queued count)

/-- A message of length 0 is read without taking anything. -/
theorem psRecvdMessage_zero (queued : socket.arrive.queue ≠ []) :
    psRecvdMessage stack self socket opc 0 =
      some { opcode := opc, self, socket := socket.arrive, acts := [], files := [] } := by
  simp only [psRecvdMessage, UInt32.toNat_zero, Socket.recv_zero queued, List.length_nil,
    Nat.lt_irrefl, if_false, dispatchLoop]
  rw [Loop.run_of_done]
  · rfl
  · exact decide_eq_false (Nat.not_lt_zero 8)

end Messages

/-! ## The resynchronisation -/

section Scan

variable {buf : Memory} {ub : Nat}

/-- The scan finds the first client-type with two words behind it. -/
theorem psRecvdScan_eq_some {fuel i k : Nat} (found : psRecvdScan buf ub fuel i = some k) :
    i ≤ k ∧ k + 4 < ub ∧ unpackU16 buf k = pcmmClientType ∧
      forall j, i ≤ j -> j < k -> unpackU16 buf j ≠ pcmmClientType := by
  induction fuel generalizing i with
  | zero => cases found
  | succ fuel inductionHypothesis =>
      rw [psRecvdScan] at found
      split at found
      · cases found
      · rename_i inside
        split at found
        · rename_i other
          rcases inductionHypothesis found with ⟨later, within, here, first⟩
          refine ⟨Nat.le_of_succ_le later, within, here, ?_⟩
          intro j behind before
          rcases Nat.eq_or_lt_of_le behind with same | more
          · exact same ▸ other
          · exact first j more before
        · rename_i here
          cases found
          refine ⟨Nat.le_refl _, by omega, not_not.mp here, ?_⟩
          exact fun j behind before => absurd behind (Nat.not_le_of_lt before)

theorem psRecvdScan_of_first {fuel i k : Nat} (fuelled : k < i + fuel) (from' : i ≤ k)
    (within : k + 4 < ub) (here : unpackU16 buf k = pcmmClientType)
    (first : forall j, i ≤ j -> j < k -> unpackU16 buf j ≠ pcmmClientType) :
    psRecvdScan buf ub fuel i = some k := by
  induction fuel generalizing i with
  | zero => omega
  | succ fuel inductionHypothesis =>
      rw [psRecvdScan, if_neg (by omega)]
      rcases Nat.eq_or_lt_of_le from' with same | more
      · subst same
        rw [if_neg (not_not.mpr here)]
      · rw [if_pos (first i (Nat.le_refl _) more)]
        refine inductionHypothesis (by omega) more ?_
        exact fun j behind before => first j (Nat.le_of_succ_le behind) before

end Scan

/-! ## What the bytes say -/

section Bytes

variable {stack : Memory} {seen : List UInt8}

/-- The first bytes of the buffer are those seen, and zeros. -/
theorem buffer_eq_shown (stack : Memory) (seen : List UInt8) {i : Nat} (inside : i < bufferSize) :
    (stack.clear bufferSize).write 0 seen i = shown seen i := by
  rw [Memory.write, if_pos (Nat.zero_le i), Nat.sub_zero, Memory.clear_of_lt stack inside, shown]

theorem buffer_u16 (stack : Memory) (seen : List UInt8) {i : Nat} (inside : i + 2 ≤ bufferSize) :
    unpackU16 ((stack.clear bufferSize).write 0 seen) i = unpackU16 (shown seen) i :=
  unpackU16_agree (fun _ => buffer_eq_shown stack seen) inside

theorem buffer_n (stack : Memory) (seen : List UInt8) {i : Nat} (inside : i + 4 ≤ bufferSize) :
    unpackN ((stack.clear bufferSize).write 0 seen) i = unpackN (shown seen) i :=
  unpackN_agree (fun _ => buffer_eq_shown stack seen) inside

theorem opcode_read (stack : Memory) (seen : List UInt8) :
    unpackU8It ((stack.clear bufferSize).write 0 seen) 1 = (shown seen 1, 2) := by
  rw [unpackU8It, buffer_eq_shown stack seen (show 1 < bufferSize by decide)]
  rfl

theorem client_read (stack : Memory) (seen : List UInt8) :
    unpackU16It ((stack.clear bufferSize).write 0 seen) 2 = (unpackU16 (shown seen) 2, 4) := by
  rw [unpackU16It, buffer_u16 stack seen (show 2 + 2 ≤ bufferSize by decide)]
  rfl

theorem announced_read (stack : Memory) (seen : List UInt8) :
    unpackU32It ((stack.clear bufferSize).write 0 seen) 4 = (unpackN (shown seen) 4, 8) := by
  rw [unpackU32It, buffer_n stack seen (show 4 + 4 ≤ bufferSize by decide)]
  rfl

/-- The bytes of the client-type. -/
theorem bytes_of_client {memory : Memory} {i : Nat}
    (client : unpackU16 memory i = pcmmClientType) : memory i = 128 ∧ memory (i + 1) = 10 := by
  have value := congrArg UInt16.toNat client
  rw [unpackU16_toNat, show pcmmClientType.toNat = 32778 from rfl] at value
  have high := (memory i).toNat_lt
  have low := (memory (i + 1)).toNat_lt
  constructor
  · apply UInt8.toNat_inj.mp
    rw [show (128 : UInt8).toNat = 128 from rfl]
    omega
  · apply UInt8.toNat_inj.mp
    rw [show (10 : UInt8).toNat = 10 from rfl]
    omega

/-- No header with one of these opcodes is taken. -/
theorem header_refused {opcode : UInt8} (odd : opcode = 10 ∨ opcode = 128) (client : UInt16)
    (length : UInt32) : copsHeaderOk opcode client length = false := by
  rcases odd with rfl | rfl <;> rfl

/-- A header that is taken stalls with length 0. -/
theorem stalls_of_header (taken : copsHeaderOk (shown seen 1) (unpackU16 (shown seen) 2)
    (unpackN (shown seen) 4) = true) : Stalls seen ↔ unpackN (shown seen) 4 = 0 := by
  constructor
  · rintro (⟨_, _, zero⟩ | ⟨i, near, _, client, zero, _⟩)
    · exact zero
    · have bytes := bytes_of_client client
      have place : i = 0 ∨ i = 1 ∨ i = 2 := by omega
      rcases place with rfl | rfl | rfl
      · rw [header_refused (Or.inl bytes.2)] at taken
        cases taken
      · rw [header_refused (Or.inr bytes.1)] at taken
        cases taken
      · exact zero
  · intro zero
    rw [zero, copsHeaderOk] at taken
    simp only [bne_self_eq_false, Bool.and_false, Bool.false_and, Bool.false_or, Bool.and_eq_true,
      beq_iff_eq] at taken
    exact Or.inl ⟨taken.1, taken.2, zero⟩

/-- A header that is refused stalls where the resynchronisation does. -/
theorem stalls_of_scan {k : Nat} (refused : copsHeaderOk (shown seen 1)
    (unpackU16 (shown seen) 2) (unpackN (shown seen) 4) = false)
    (within : k + 4 < seen.length) (client : unpackU16 (shown seen) k = pcmmClientType)
    (first : forall j, j < k -> unpackU16 (shown seen) j ≠ pcmmClientType) :
    Stalls seen ↔ k ≤ 2 ∧ unpackN (shown seen) (k + 2) = 0 := by
  constructor
  · rintro (⟨opcode, none, _⟩ | ⟨i, near, _, its, zero, earlier⟩)
    · rw [opcode, none, copsHeaderOk, beq_self_eq_true, beq_self_eq_true, Bool.and_self,
        Bool.or_true] at refused
      cases refused
    · have same : i = k := by
        rcases Nat.lt_trichotomy i k with less | same | more
        · exact absurd its (first i less)
        · exact same
        · exact absurd client (earlier k more)
      subst same
      exact ⟨near, zero⟩
  · rintro ⟨near, zero⟩
    exact Or.inr ⟨k, near, within, client, zero, first⟩

/-- Bytes without a client-type to resynchronise on do not stall. -/
theorem not_stalls_of_nothing (refused : copsHeaderOk (shown seen 1)
    (unpackU16 (shown seen) 2) (unpackN (shown seen) 4) = false)
    (nothing : psRecvdScan (shown seen) seen.length seen.length 0 = none) : ¬ Stalls seen := by
  rintro (⟨opcode, none, _⟩ | ⟨i, near, within, client, _, first⟩)
  · rw [opcode, none, copsHeaderOk, beq_self_eq_true, beq_self_eq_true, Bool.and_self,
      Bool.or_true] at refused
    cases refused
  · have found : psRecvdScan (shown seen) seen.length seen.length 0 = some i :=
      psRecvdScan_of_first (by omega) (Nat.zero_le i) within client fun j _ => first j
    rw [found] at nothing
    cases nothing

/-- The scan looks at the bytes seen only. -/
theorem psRecvdScan_shown (stack : Memory) (small : seen.length ≤ bufferSize) (fuel i : Nat) :
    psRecvdScan ((stack.clear bufferSize).write 0 seen) seen.length fuel i =
      psRecvdScan (shown seen) seen.length fuel i := by
  induction fuel generalizing i with
  | zero => rfl
  | succ fuel inductionHypothesis =>
      rw [psRecvdScan, psRecvdScan]
      by_cases past : seen.length ≤ i + 2 ∨ seen.length ≤ i + 4
      · rw [if_pos past, if_pos past]
      · rw [if_neg past, if_neg past, buffer_u16 stack seen (by omega), inductionHypothesis]

end Bytes

/-! ## One call -/

section Seen

variable {stack : Memory} {self : Session} {socket : Socket} {seen : List UInt8}

/-- The header that a call reads from the bytes it sees. -/
def headerTaken (seen : List UInt8) : Bool :=
  copsHeaderOk (shown seen 1) (unpackU16 (shown seen) 2) (unpackN (shown seen) 4)

/-- A call sees no more than its buffer holds. -/
theorem seen_small (sees : socket.arrive.queue.take bufferSize = seen) :
    seen.length ≤ bufferSize := by
  rw [← sees, List.length_take]
  exact Nat.min_le_left _ _

theorem psRecvd_of_taken (queued : socket.arrive.queue ≠ [])
    (sees : socket.arrive.queue.take bufferSize = seen) (taken : headerTaken seen = true) :
    psRecvd stack self socket =
      psRecvdMessage stack self socket.arrive (shown seen 1) (unpackN (shown seen) 4) := by
  rw [headerTaken] at taken
  simp only [psRecvd, Socket.peek_of_queued queued, sees, opcode_read, client_read,
    announced_read, taken, if_true]

theorem psRecvd_of_nothing (queued : socket.arrive.queue ≠ [])
    (sees : socket.arrive.queue.take bufferSize = seen) (refused : headerTaken seen = false)
    (nothing : psRecvdScan (shown seen) seen.length seen.length 0 = none) :
    psRecvd stack self socket =
      some (.nothing self (socket.arrive.recv seen.length).2) := by
  have small := seen_small sees
  rw [headerTaken] at refused
  simp only [psRecvd, Socket.peek_of_queued queued, sees, opcode_read, client_read,
    announced_read, psRecvdScan_shown stack small, refused, Bool.false_eq_true, if_false, nothing]

theorem psRecvd_of_scanned (queued : socket.arrive.queue ≠ [])
    (sees : socket.arrive.queue.take bufferSize = seen) (refused : headerTaken seen = false)
    {i : Nat} (found : psRecvdScan (shown seen) seen.length seen.length 0 = some i) :
    psRecvd stack self socket =
      if 2 ≤ i then
        psRecvdMessage stack self (socket.arrive.recv (i - 2)).2 (shown seen 1)
          (unpackN ((stack.clear bufferSize).write 0 seen) (i + 2))
      else
        psRecvdMessage stack self socket.arrive 3
          (unpackN ((stack.clear bufferSize).write 0 seen) (i + 2)) := by
  have small := seen_small sees
  rw [headerTaken] at refused
  simp only [psRecvd, Socket.peek_of_queued queued, sees, opcode_read, client_read,
    announced_read, psRecvdScan_shown stack small, refused, Bool.false_eq_true, if_false, found]

end Seen

/-- A message read from where the call stands is progress exactly if its length
is not 0. -/
theorem message_consumes_iff {stack : Memory} {self : Session} {socket : Socket} {opc : UInt8}
    {length : UInt32} {bound : Nat} (queued : socket.arrive.queue ≠ [])
    (pending : socket.pending.length = bound) :
    (forall received, psRecvdMessage stack self socket opc length = some received ->
        received.socket.pending.length < bound) ↔ length ≠ 0 := by
  constructor
  · intro progress zero
    subst zero
    have same := progress _ (psRecvdMessage_zero queued)
    rw [Socket.arrive_pending, pending] at same
    exact Nat.lt_irrefl _ same
  · intro positive received returns
    rw [← pending]
    exact psRecvdMessage_consumes queued positive returns

/-- A call that finds bytes and returns has taken some of them, if and only if
they do not stall. -/
theorem consumes_iff (stack : Memory) (self : Session) (socket : Socket)
    (queued : socket.arrive.queue ≠ []) :
    (forall received, psRecvd stack self socket = some received ->
        received.socket.pending.length < socket.pending.length) ↔
      ¬ Stalls (socket.arrive.queue.take bufferSize) := by
  generalize sees : socket.arrive.queue.take bufferSize = seen
  have again : socket.arrive.arrive.queue ≠ [] := Socket.arrive_queued queued
  have pending : socket.arrive.pending.length = socket.pending.length :=
    congrArg List.length socket.arrive_pending
  cases header : headerTaken seen with
  | true =>
      rw [psRecvd_of_taken queued sees header, stalls_of_header header]
      exact message_consumes_iff again pending
  | false =>
      cases scan : psRecvdScan (shown seen) seen.length seen.length 0 with
      | none =>
          rw [psRecvd_of_nothing queued sees header scan]
          refine iff_of_true ?_ (not_stalls_of_nothing header scan)
          intro received returns
          cases returns
          have some : 0 < seen.length := by
            rw [← sees, List.length_take]
            have some := List.length_pos_iff.mpr queued
            have room : 0 < bufferSize := by decide
            omega
          rw [← pending]
          exact Socket.recv_pending_lt again some
      | some i =>
          rcases psRecvdScan_eq_some scan with ⟨_, within, client, first⟩
          rw [psRecvd_of_scanned queued sees header scan,
            stalls_of_scan header within client fun j before => first j (Nat.zero_le j) before]
          by_cases skips : 2 < i
          · rw [if_pos (Nat.le_of_lt skips)]
            refine iff_of_true ?_ fun both => absurd both.1 (Nat.not_le_of_lt skips)
            intro received returns
            have skipped := Socket.recv_pending_lt again (Nat.sub_pos_of_lt skips)
            rw [pending] at skipped
            refine Nat.lt_of_le_of_lt (psRecvdMessage_pending returns) ?_
            exact Nat.lt_of_le_of_lt (Socket.recv_pending_le _ _) skipped
          · have near : i ≤ 2 := Nat.not_lt.mp skips
            have length : unpackN ((stack.clear bufferSize).write 0 seen) (i + 2) =
                unpackN (shown seen) (i + 2) := by
              apply buffer_n
              have small : i + 2 + 4 ≤ 8 := by omega
              exact Nat.le_trans small (by decide)
            have condition : (¬ (i ≤ 2 ∧ unpackN (shown seen) (i + 2) = 0)) ↔
                unpackN (shown seen) (i + 2) ≠ 0 := by
              simp only [near, true_and, ne_eq]
            rw [length, condition]
            by_cases two : 2 ≤ i
            · have same : i - 2 = 0 := by omega
              have stays : socket.arrive.arrive.arrive.queue ≠ [] := Socket.arrive_queued again
              have still : socket.arrive.arrive.pending.length = socket.pending.length := by
                rw [Socket.arrive_pending, pending]
              rw [if_pos two, same, Socket.recv_zero again]
              exact message_consumes_iff stays still
            · rw [if_neg two]
              exact message_consumes_iff again pending

/-- Eight bytes that announce a keep-alive of length 0. -/
def emptyKeepAlive : List UInt8 := [16, 9, 0, 0, 0, 0, 0, 0]

theorem consumes_keepalive :
    (forall received, psRecvd (fun _ => 0) { handle := [], uuidReceived := false }
        { queue := copsKeepalive, arrivals := [] } = some received ->
      received.socket.pending.length < (Socket.mk copsKeepalive []).pending.length) ↔
        ¬ Stalls ((Socket.mk copsKeepalive []).arrive.queue.take bufferSize) :=
  consumes_iff _ _ _ (List.cons_ne_nil _ _)

/-- They are answered like a keep-alive, and stay where they are. -/
theorem emptyKeepAlive_stays :
    psRecvd (fun _ => 0) { handle := [], uuidReceived := false }
        { queue := emptyKeepAlive, arrivals := [] } =
      some { opcode := 9, self := { handle := [], uuidReceived := false },
             socket := { queue := emptyKeepAlive, arrivals := [] }, acts := [], files := [] } := by
  rfl

end PolicyServer
