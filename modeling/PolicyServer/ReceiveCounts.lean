import PolicyServer.Progress

namespace PolicyServer

open Lib

/-!
# How much `recv` is asked for

`ps_recvd` hands `recv` a buffer of 65535 bytes and a count that it takes from the
bytes it has seen.  Too large a length is logged and used.  `psRecvdCounts` are
the counts of one call, and `psRecvd_takes` is that the call takes its bytes from
the socket by `recv` calls with these; `Overlong` has the bytes for which one of
them is larger than the buffer.
-/

/-- The counts of the `recv` calls from the second `memset` on.  The calls of the
loop behind them all take what is due. -/
def psRecvdMessageCounts (socket : Socket) (length : UInt32) : List Nat :=
  match (socket.recv length.toNat).1 with
  | none => [length.toNat]
  | some got =>
      length.toNat ::
        if got.length < length.toNat then [length.toNat - got.length] else []

/-- The counts of the `recv` calls of `ps_recvd`, the one that peeks first. -/
def psRecvdCounts (stack : Memory) (socket : Socket) : List Nat :=
  bufferSize ::
    match socket.peek bufferSize with
    | (none, _) => []
    | (some seen, socket) =>
        let buf := (stack.clear bufferSize).write 0 seen
        let (opc, idx) := unpackU8It buf 1
        let (client, idx) := unpackU16It buf idx
        let (length, _) := unpackU32It buf idx
        if copsHeaderOk opc client length then
          psRecvdMessageCounts socket length
        else
          match psRecvdScan buf seen.length seen.length 0 with
          | none => [seen.length]
          | some i =>
              let length := unpackN buf (i + 2)
              if 2 ≤ i then (i - 2) :: psRecvdMessageCounts (socket.recv (i - 2)).2 length
              else psRecvdMessageCounts socket length

/-- The bytes seen announce more than the buffer holds: in a keep-alive with
client-type 0, or behind the first client-type where the header is refused. -/
def Overlong (stack : Memory) (seen : List UInt8) : Prop :=
  (shown seen 1 = 9 ∧ unpackU16 (shown seen) 2 = 0 ∧
      bufferSize < (unpackN (shown seen) 4).toNat) ∨
    headerTaken seen = false ∧ Exists fun i => i + 4 < seen.length ∧
      unpackU16 (shown seen) i = pcmmClientType ∧
      (forall j, j < i -> unpackU16 (shown seen) j ≠ pcmmClientType) ∧
      bufferSize < (unpackN ((stack.clear bufferSize).write 0 seen) (i + 2)).toNat

namespace Socket

/-- The socket behind some calls of `recv`. -/
def after (socket : Socket) (counts : List Nat) : Socket :=
  counts.foldl (fun socket count => (socket.recv count).2) socket

theorem after_append (socket : Socket) (first second : List Nat) :
    socket.after (first ++ second) = (socket.after first).after second :=
  List.foldl_append

end Socket

section Counts

variable {stack : Memory} {self : Session} {socket : Socket} {opc : UInt8} {length : UInt32}
  {received : Received} {seen : List UInt8}

theorem psRecvdCounts_of_empty (empty : socket.arrive.queue = []) :
    psRecvdCounts stack socket = [bufferSize] := by
  simp only [psRecvdCounts, Socket.peek_of_empty empty]

theorem psRecvdCounts_of_taken (queued : socket.arrive.queue ≠ [])
    (sees : socket.arrive.queue.take bufferSize = seen) (taken : headerTaken seen = true) :
    psRecvdCounts stack socket =
      bufferSize :: psRecvdMessageCounts socket.arrive (unpackN (shown seen) 4) := by
  rw [headerTaken] at taken
  simp only [psRecvdCounts, Socket.peek_of_queued queued, sees, opcode_read, client_read,
    announced_read, taken, if_true]

theorem psRecvdCounts_of_nothing (queued : socket.arrive.queue ≠ [])
    (sees : socket.arrive.queue.take bufferSize = seen) (refused : headerTaken seen = false)
    (nothing : psRecvdScan (shown seen) seen.length seen.length 0 = none) :
    psRecvdCounts stack socket = [bufferSize, seen.length] := by
  have small := seen_small sees
  rw [headerTaken] at refused
  simp only [psRecvdCounts, Socket.peek_of_queued queued, sees, opcode_read, client_read,
    announced_read, psRecvdScan_shown stack small, refused, Bool.false_eq_true, if_false, nothing]

theorem psRecvdCounts_of_scanned (queued : socket.arrive.queue ≠ [])
    (sees : socket.arrive.queue.take bufferSize = seen) (refused : headerTaken seen = false)
    {i : Nat} (found : psRecvdScan (shown seen) seen.length seen.length 0 = some i) :
    psRecvdCounts stack socket =
      bufferSize ::
        if 2 ≤ i then
          (i - 2) :: psRecvdMessageCounts (socket.arrive.recv (i - 2)).2
            (unpackN ((stack.clear bufferSize).write 0 seen) (i + 2))
        else
          psRecvdMessageCounts socket.arrive
            (unpackN ((stack.clear bufferSize).write 0 seen) (i + 2)) := by
  have small := seen_small sees
  rw [headerTaken] at refused
  simp only [psRecvdCounts, Socket.peek_of_queued queued, sees, opcode_read, client_read,
    announced_read, psRecvdScan_shown stack small, refused, Bool.false_eq_true, if_false, found]

/-- Both counts for a message fit exactly if its length does. -/
theorem messageCounts_le_iff :
    (forall count, count ∈ psRecvdMessageCounts socket length -> count ≤ bufferSize) ↔
      length.toNat ≤ bufferSize := by
  unfold psRecvdMessageCounts
  cases (socket.recv length.toNat).1 with
  | none => exact List.forall_mem_singleton
  | some got =>
      rw [List.forall_mem_cons]
      refine and_iff_left_of_imp fun fits => ?_
      intro count member
      split at member
      · rw [List.mem_singleton.mp member]
        exact Nat.le_trans (Nat.sub_le _ _) fits
      · cases member

/-- A header that is taken announces too much only in a keep-alive. -/
theorem overlong_of_taken (taken : headerTaken seen = true) :
    Overlong stack seen ↔ bufferSize < (unpackN (shown seen) 4).toNat := by
  constructor
  · rintro (⟨_, _, long⟩ | ⟨refused, _⟩)
    · exact long
    · rw [taken] at refused
      cases refused
  · intro long
    left
    simp only [headerTaken, copsHeaderOk, Bool.or_eq_true, Bool.and_eq_true, beq_iff_eq,
      decide_eq_true_eq] at taken
    rcases taken with ⟨_, short⟩ | ⟨keepAlive, none⟩
    · have room : 1000 ≤ bufferSize := by decide
      omega
    · exact ⟨keepAlive, none, long⟩

/-- A header that is refused is not a keep-alive's. -/
theorem overlong_of_refused (refused : headerTaken seen = false) :
    Overlong stack seen ↔ Exists fun i =>
      psRecvdScan (shown seen) seen.length seen.length 0 = some i ∧
        bufferSize < (unpackN ((stack.clear bufferSize).write 0 seen) (i + 2)).toNat := by
  constructor
  · rintro (⟨keepAlive, none, _⟩ | ⟨_, i, within, client, first, long⟩)
    · rw [headerTaken, keepAlive, none, copsHeaderOk, beq_self_eq_true, beq_self_eq_true,
        Bool.and_self, Bool.or_true] at refused
      cases refused
    · exact ⟨i, psRecvdScan_of_first (by omega) (Nat.zero_le i) within client fun j _ => first j,
        long⟩
  · rintro ⟨i, found, long⟩
    rcases psRecvdScan_eq_some found with ⟨_, within, client, first⟩
    exact Or.inr ⟨refused, i, within, client, fun j => first j (Nat.zero_le j), long⟩

/-! ## The counts are those of the call -/

theorem dueBody_takes {due : Nat} {state after : DueState}
    (moved : dueBody due state = some after) :
    after.socket = (state.socket.recv due).2 := by
  unfold dueBody at moved
  split at moved
  all_goals
    rename_i called
    rw [called]
    cases moved
    rfl

theorem dueLoop_takes {due : Nat} {buf : Memory} {last : DueState}
    (finished : dueLoop due socket buf = some last) :
    Exists fun times => last.socket = socket.after (List.replicate times due) := by
  have visits := (dueLoop_iff.mp finished).visits
  refine visits.invariant (fun state => Exists fun times =>
    state.socket = socket.after (List.replicate times due)) ?_ ⟨0, rfl⟩
  rintro state after ⟨times, before⟩ _ moved
  refine ⟨times + 1, ?_⟩
  rw [dueBody_takes moved, before, List.replicate_succ', Socket.after_append]
  rfl

theorem psRecvdMessage_takes
    (returns : psRecvdMessage stack self socket opc length = some received) :
    Exists fun calls => (forall count, count ∈ calls -> count ∈ psRecvdMessageCounts socket length) ∧
      received.socket = socket.after calls := by
  unfold psRecvdMessageCounts
  cases psRecvdMessage_cases returns with
  | nothing called =>
      refine ⟨[length.toNat], ?_, ?_⟩
      · rw [called]
        exact fun _ member => member
      · rw [Received.nothing, Socket.after, List.foldl_cons, called]
        rfl
  | whole called whole walked =>
      refine ⟨[length.toNat], ?_, (congrArg Prod.snd called).symm⟩
      intro count member
      rw [called, List.mem_singleton.mp member]
      exact List.mem_cons_self
  | @due got after filled last called short fills walked =>
      have first : socket.after [length.toNat] = after := congrArg Prod.snd called
      rcases dueLoop_takes fills with ⟨times, taken⟩
      refine ⟨[length.toNat] ++ List.replicate times (length.toNat - got.length), ?_, ?_⟩
      · intro count member
        rw [called]
        dsimp only
        rw [if_pos short]
        rcases List.mem_append.mp member with first | due
        · rw [List.mem_singleton.mp first]
          exact List.mem_cons_self
        · rw [List.eq_of_mem_replicate due]
          exact List.mem_cons_of_mem _ List.mem_cons_self
      · rw [Socket.after_append, first, taken]

/-- A call that returns has taken what some calls of `recv` with its counts take. -/
theorem psRecvd_takes (returns : psRecvd stack self socket = some received) :
    Exists fun calls => (forall count, count ∈ calls -> count ∈ psRecvdCounts stack socket) ∧
      received.socket = socket.arrive.after calls := by
  generalize sees : socket.arrive.queue.take bufferSize = seen
  by_cases empty : socket.arrive.queue = []
  · rw [psRecvd, Socket.peek_of_empty empty] at returns
    cases returns
    exact ⟨[], fun _ member => absurd member List.not_mem_nil, rfl⟩
  · cases header : headerTaken seen with
    | true =>
        rw [psRecvd_of_taken empty sees header] at returns
        rw [psRecvdCounts_of_taken empty sees header]
        rcases psRecvdMessage_takes returns with ⟨calls, counted, after⟩
        exact ⟨calls, fun count member => List.mem_cons_of_mem _ (counted count member), after⟩
    | false =>
        cases scan : psRecvdScan (shown seen) seen.length seen.length 0 with
        | none =>
            rw [psRecvd_of_nothing empty sees header scan] at returns
            rw [psRecvdCounts_of_nothing empty sees header scan]
            cases returns
            exact ⟨[seen.length], fun _ member => List.mem_cons_of_mem _ member, rfl⟩
        | some i =>
            rw [psRecvd_of_scanned empty sees header scan] at returns
            rw [psRecvdCounts_of_scanned empty sees header scan]
            by_cases skips : 2 ≤ i
            · rw [if_pos skips] at returns ⊢
              rcases psRecvdMessage_takes returns with ⟨calls, counted, after⟩
              refine ⟨(i - 2) :: calls, ?_, after⟩
              intro count member
              rcases List.mem_cons.mp member with skipped | later
              · rw [skipped]
                exact List.mem_cons_of_mem _ List.mem_cons_self
              · exact List.mem_cons_of_mem _ (List.mem_cons_of_mem _ (counted count later))
            · rw [if_neg skips] at returns ⊢
              rcases psRecvdMessage_takes returns with ⟨calls, counted, after⟩
              exact ⟨calls, fun count member => List.mem_cons_of_mem _ (counted count member),
                after⟩

end Counts

/-- `recv` is never asked for more than the buffer holds, if and only if what is in
the socket does not announce more. -/
theorem recvCounts_le_iff (stack : Memory) (socket : Socket) :
    (forall count, count ∈ psRecvdCounts stack socket -> count ≤ bufferSize) ↔
      ¬ Overlong stack (socket.arrive.queue.take bufferSize) := by
  generalize sees : socket.arrive.queue.take bufferSize = seen
  have small := seen_small sees
  by_cases empty : socket.arrive.queue = []
  · have nothing : seen = [] := by
      rw [← sees, empty, List.take_nil]
    rw [psRecvdCounts_of_empty empty, nothing]
    refine iff_of_true (List.forall_mem_singleton.mpr (Nat.le_refl _)) ?_
    rintro (⟨keepAlive, _⟩ | ⟨_, i, within, _⟩)
    · exact absurd keepAlive (by decide)
    · exact absurd within (Nat.not_lt_zero _)
  · cases header : headerTaken seen with
    | true =>
        rw [psRecvdCounts_of_taken empty sees header, List.forall_mem_cons, messageCounts_le_iff,
          overlong_of_taken header, Nat.not_lt]
        exact and_iff_right (Nat.le_refl _)
    | false =>
        rw [overlong_of_refused header]
        cases scan : psRecvdScan (shown seen) seen.length seen.length 0 with
        | none =>
            rw [psRecvdCounts_of_nothing empty sees header scan]
            refine iff_of_true ?_ (by rintro ⟨i, ⟨⟩, _⟩)
            rw [List.forall_mem_cons, List.forall_mem_singleton]
            exact ⟨Nat.le_refl _, small⟩
        | some i =>
            have within := (psRecvdScan_eq_some scan).2.1
            have announced : (¬ Exists fun k => some i = some k ∧
                bufferSize < (unpackN ((stack.clear bufferSize).write 0 seen) (k + 2)).toNat) ↔
                (unpackN ((stack.clear bufferSize).write 0 seen) (i + 2)).toNat ≤ bufferSize := by
              rw [← Nat.not_lt]
              refine not_congr ⟨?_, fun long => ⟨i, rfl, long⟩⟩
              rintro ⟨k, same, long⟩
              cases same
              exact long
            rw [psRecvdCounts_of_scanned empty sees header scan, List.forall_mem_cons, announced]
            refine (and_iff_right (Nat.le_refl _)).trans ?_
            split
            · rw [List.forall_mem_cons, messageCounts_le_iff]
              exact and_iff_right (by omega)
            · exact messageCounts_le_iff

/-- A keep-alive that announces 2^32 - 1 bytes. -/
theorem keepAlive_overruns : ¬ forall count,
    count ∈ psRecvdCounts (fun _ => 0) ⟨[16, 9, 0, 0, 255, 255, 255, 255], []⟩ ->
      count ≤ bufferSize := by
  intro bounded
  exact absurd (bounded 4294967295 (by decide +kernel)) (by decide)

end PolicyServer
