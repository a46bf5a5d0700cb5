import PolicyServer.Framing
import PolicyServer.ParserTermination
import PolicyServer.Progress

namespace PolicyServer

open Lib

/-!
# Resynchronisation

Bytes that are not a message stand in front of one.  The scan finds the
client-type of the message, the junk is skipped, and the length is read again;
the opcode is not.  `recovers_iff` says for which junk the message is received
as it would be alone: the byte in the place of the opcode has to be its opcode,
and the scan has to see its length.
-/

/-- `ps_recvd` takes the junk and the message, returns the opcode of the message,
and does with its objects what it does with a message alone. -/
def Recovers (stack : Memory) (self : Session) (junk : List UInt8) (frame : Frame)
    (more : List UInt8) : Prop :=
  Exists fun received => Exists fun alone =>
    psRecvd stack self { queue := junk ++ frame.bytes ++ more, arrivals := [] } = some received ∧
      psRecvd stack self { queue := frame.bytes, arrivals := [] } = some alone ∧
      received.socket = { queue := more, arrivals := [] } ∧ received.opcode = frame.opcode ∧
      received.self = alone.self ∧ received.acts = alone.acts ∧ received.files = alone.files

/-- The junk does not start with a header that would be taken, and the client-type
stands for the first time in the message. -/
structure Junk (junk : List UInt8) (frame : Frame) : Prop where
  some : junk ≠ []
  clientType : frame.clientType = pcmmClientType
  refused : headerTaken (junk ++ frame.bytes) = false
  first : forall j, j < junk.length + 2 ->
    unpackU16 (shown (junk ++ frame.bytes)) j ≠ pcmmClientType

/-- The length of the message is read as it is.  The last byte of it may lie just
behind the buffer. -/
def LengthSeen (stack : Memory) (junk : List UInt8) (frame : Frame) : Prop :=
  junk.length + 7 < bufferSize ∨
    junk.length + 7 = bufferSize ∧ stack bufferSize = frame.length.toUInt8

/-- The length fields of the message lead the object loop to its end. -/
def Frame.Ends (stack : Memory) (self : Session) (frame : Frame) : Prop :=
  MessageEnds (frameBuffer stack frame) frame.opcode frame.size self.uuidReceived

section Shown

theorem shown_append_left {left right : List UInt8} {i : Nat} (inside : i < left.length) :
    shown (left ++ right) i = shown left i := by
  rw [shown, shown, List.getElem?_append_left inside]

theorem shown_append_right (left right : List UInt8) (i : Nat) :
    shown (left ++ right) (left.length + i) = shown right i := by
  rw [shown, shown, List.getElem?_append_right (Nat.le_add_right _ _), Nat.add_sub_cancel_left]

theorem shown_take {bytes : List UInt8} {count i : Nat} (inside : i < count) :
    shown (bytes.take count) i = shown bytes i := by
  rw [shown, shown, List.getElem?_take, if_pos inside]

/-- The header is decided by the first eight bytes. -/
theorem headerTaken_congr {left right : List UInt8}
    (same : forall i, i < 8 -> shown left i = shown right i) :
    headerTaken left = headerTaken right := by
  rw [headerTaken, headerTaken, same 1 (by decide), unpackU16_agree same (by decide),
    unpackN_agree same (by decide)]

/-- A frame shows its fields. -/
theorem shown_holds (bytes : List UInt8) : (shown bytes).Holds 0 bytes := by
  intro i small
  rw [Nat.zero_add, shown, List.getElem?_eq_getElem small]
  rfl

end Shown

section Recovery

variable {stack : Memory} {self : Session} {junk more : List UInt8} {frame : Frame}

/-- What a call sees of junk, message and more. -/
theorem shown_seen (junk more : List UInt8) (frame : Frame) {i : Nat} (buffered : i < bufferSize)
    (inside : i < junk.length + frame.size) :
    shown ((junk ++ frame.bytes ++ more).take bufferSize) i = shown (junk ++ frame.bytes) i := by
  rw [shown_take buffered, shown_append_left]
  rw [List.length_append, frame.bytes_length]
  exact inside

theorem frame_stored (frame : Frame) : frame.StoredIn (shown frame.bytes) :=
  Frame.storedIn_of_holds (shown_holds frame.bytes)

theorem clientType_shown (clientType : frame.clientType = pcmmClientType) :
    unpackU16 (shown (junk ++ frame.bytes)) (junk.length + 2) = pcmmClientType := by
  rw [← clientType, ← (frame_stored frame).clientType]
  exact unpackU16_congr (shown_append_right _ _ _)
    (by rw [Nat.add_assoc]; exact shown_append_right _ _ _)

theorem seen_length (junk more : List UInt8) (frame : Frame) :
    ((junk ++ frame.bytes ++ more).take bufferSize).length =
      min bufferSize (junk.length + frame.size + more.length) := by
  rw [List.length_take, List.length_append, List.length_append, frame.bytes_length]

theorem seen_refused (refused : headerTaken (junk ++ frame.bytes) = false) :
    headerTaken ((junk ++ frame.bytes ++ more).take bufferSize) = false := by
  have size := frame.size_pos
  rw [← refused]
  refine headerTaken_congr fun i small => ?_
  have room : 8 ≤ bufferSize := by decide
  exact shown_seen junk more frame (by omega) (by omega)

/-- The scan gets to the message if its client-type and half of its length are
seen. -/
theorem scan_near (is : Junk junk frame) (near : junk.length + 7 ≤ bufferSize) :
    psRecvdScan (shown ((junk ++ frame.bytes ++ more).take bufferSize))
        ((junk ++ frame.bytes ++ more).take bufferSize).length
        ((junk ++ frame.bytes ++ more).take bufferSize).length 0 =
      some (junk.length + 2) := by
  have size := frame.size_pos
  have length := seen_length junk more frame
  have agree : forall i, i ≤ junk.length + 3 ->
      shown ((junk ++ frame.bytes ++ more).take bufferSize) i = shown (junk ++ frame.bytes) i :=
    fun i small => shown_seen junk more frame (by omega) (by omega)
  have agree16 : forall i, i ≤ junk.length + 2 ->
      unpackU16 (shown ((junk ++ frame.bytes ++ more).take bufferSize)) i =
        unpackU16 (shown (junk ++ frame.bytes)) i :=
    fun i small => unpackU16_congr (agree i (by omega)) (agree (i + 1) (by omega))
  refine psRecvdScan_of_first (by omega) (Nat.zero_le _) (by omega) ?_ ?_
  · rw [agree16 _ (Nat.le_refl _)]
    exact clientType_shown is.clientType
  · intro j _ before
    rw [agree16 j (Nat.le_of_lt before)]
    exact is.first j before

/-- Behind more junk than the buffer holds it gets nowhere. -/
theorem scan_far (is : Junk junk frame) (far : bufferSize < junk.length + 7) :
    psRecvdScan (shown ((junk ++ frame.bytes ++ more).take bufferSize))
        ((junk ++ frame.bytes ++ more).take bufferSize).length
        ((junk ++ frame.bytes ++ more).take bufferSize).length 0 = none := by
  have size := frame.size_pos
  have length := seen_length junk more frame
  apply Option.eq_none_iff_forall_ne_some.mpr
  intro k found
  rcases psRecvdScan_eq_some found with ⟨_, within, client, _⟩
  have before : k < junk.length + 2 := by omega
  refine is.first k before ?_
  rw [← client]
  exact unpackU16_congr (shown_seen junk more frame (by omega) (by omega)).symm
    (shown_seen junk more frame (by omega) (by omega)).symm

/-- Words that agree on three bytes agree if they do on the last. -/
theorem unpackN_last_iff {left right : Memory} {i j : Nat} (first : left i = right j)
    (second : left (i + 1) = right (j + 1)) (third : left (i + 2) = right (j + 2)) :
    unpackN left i = unpackN right j ↔ left (i + 3) = right (j + 3) := by
  rw [← UInt32.toNat_inj, unpackN_toNat, unpackN_toNat, first, second, third, ← UInt8.toNat_inj]
  exact Nat.add_left_cancel_iff

/-- The length behind the client-type that was found. -/
theorem length_seen_iff (stack : Memory) (more : List UInt8)
    (near : junk.length + 7 ≤ bufferSize) :
    unpackN ((stack.clear bufferSize).write 0 ((junk ++ frame.bytes ++ more).take bufferSize))
        (junk.length + 2 + 2) = frame.length ↔ LengthSeen stack junk frame := by
  have size := frame.size_pos
  have bytes : forall k, k < 8 -> junk.length + k < bufferSize ->
      (stack.clear bufferSize).write 0 ((junk ++ frame.bytes ++ more).take bufferSize)
        (junk.length + k) = shown frame.bytes k := by
    intro k small inside
    rw [buffer_eq_shown stack _ inside, shown_seen junk more frame inside (by omega),
      shown_append_right]
  have last : shown frame.bytes 7 = frame.length.toUInt8 := by
    have header := (Memory.holds_append.mp (shown_holds frame.bytes)).1
    have fields := (Memory.holds_append.mp (Memory.holds_append.mp header).2).2
    exact (Memory.holds_word.mp fields).2.2.2.1
  rw [← (frame_stored frame).length, LengthSeen,
    unpackN_last_iff (bytes 4 (by decide) (by omega)) (bytes 5 (by decide) (by omega))
      (bytes 6 (by decide) (by omega))]
  rcases Nat.lt_or_eq_of_le near with inside | atEnd
  · refine iff_of_true (bytes 7 (by decide) inside) (Or.inl inside)
  · have behind : (stack.clear bufferSize).write 0
        ((junk ++ frame.bytes ++ more).take bufferSize) bufferSize = stack bufferSize := by
      have within : 0 + ((junk ++ frame.bytes ++ more).take bufferSize).length ≤ bufferSize := by
        rw [Nat.zero_add]
        exact List.length_take_le _ _
      rw [Memory.write_of_ge _ within, Memory.clear, if_neg (Nat.lt_irrefl _)]
    rw [show junk.length + 2 + 2 + 3 = bufferSize by omega, behind, last]
    constructor
    · exact fun same => Or.inr ⟨rfl, same⟩
    · rintro (less | ⟨_, same⟩)
      · omega
      · exact same

/-- A message is read from a queue that nothing more comes to if it is all there. -/
theorem psRecvdMessage_idle {queue : List UInt8} {opc : UInt8} {length : UInt32}
    {received : Received} (queued : queue ≠ [])
    (returns : psRecvdMessage stack self { queue, arrivals := [] } opc length = some received) :
    length.toNat ≤ queue.length ∧ received.opcode = opc ∧
      received.socket = { queue := queue.drop length.toNat, arrivals := [] } := by
  have taken : (Socket.mk queue []).recv length.toNat =
      (some (queue.take length.toNat), { queue := queue.drop length.toNat, arrivals := [] }) := by
    rw [Socket.recv_of_queued (by rwa [Socket.arrive_idle]), Socket.arrive_idle]
  simp only [psRecvdMessage, taken, List.length_take] at returns
  by_cases short : queue.length < length.toNat
  · -- The rest never comes.
    have drained : queue.drop length.toNat = [] := List.drop_eq_nil_of_le (Nat.le_of_lt short)
    rw [if_pos (by omega), drained] at returns
    cases due : dueLoop (length.toNat - min length.toNat queue.length) { queue := [], arrivals := [] }
        (((stack.clear bufferSize).write 0 (queue.take length.toNat)).clear
          (min length.toNat queue.length)) with
    | none =>
        rw [due] at returns
        cases returns
    | some last => exact absurd (dueLoop_iff.mp due) (due_stuck rfl rfl)
  · rw [if_neg (by omega)] at returns
    dsimp only at returns
    refine ⟨Nat.le_of_not_lt short, ?_⟩
    cases loop : dispatchLoop ((stack.clear bufferSize).write 0 (queue.take length.toNat)) opc
        length.toNat self with
    | none =>
        rw [loop] at returns
        cases returns
    | some last =>
        rw [loop] at returns
        cases returns
        exact ⟨rfl, rfl⟩

/-- The call, once the scan has found the message. -/
theorem psRecvd_of_junk (stack : Memory) (self : Session) (more : List UInt8)
    (is : Junk junk frame) (near : junk.length + 7 ≤ bufferSize) :
    psRecvd stack self { queue := junk ++ frame.bytes ++ more, arrivals := [] } =
      psRecvdMessage stack self { queue := frame.bytes ++ more, arrivals := [] }
        (shown (junk ++ frame.bytes) 1)
        (unpackN ((stack.clear bufferSize).write 0
          ((junk ++ frame.bytes ++ more).take bufferSize)) (junk.length + 2 + 2)) := by
  have size := frame.size_pos
  have queued : (Socket.mk (junk ++ frame.bytes ++ more) []).arrive.queue ≠ [] := by
    rw [Socket.arrive_idle]
    exact List.append_ne_nil_of_left_ne_nil (List.append_ne_nil_of_left_ne_nil is.some _) _
  have sees : (Socket.mk (junk ++ frame.bytes ++ more) []).arrive.queue.take bufferSize =
      (junk ++ frame.bytes ++ more).take bufferSize := by
    rw [Socket.arrive_idle]
  have skipped : ((Socket.mk (junk ++ frame.bytes ++ more) []).arrive.recv
      (junk.length + 2 - 2)).2 = { queue := frame.bytes ++ more, arrivals := [] } := by
    rw [Socket.recv_of_queued (Socket.arrive_queued queued), Socket.arrive_idle,
      Socket.arrive_idle, Nat.add_sub_cancel, List.append_assoc, List.drop_left]
  have opcode : shown ((junk ++ frame.bytes ++ more).take bufferSize) 1 =
      shown (junk ++ frame.bytes) 1 :=
    shown_seen junk more frame (by decide) (by omega)
  rw [psRecvd_of_scanned queued sees (seen_refused is.refused) (scan_near is near),
    if_pos (Nat.le_add_left 2 _), skipped, opcode]

/-- A message alone. -/
theorem psRecvd_alone (stack : Memory) (self : Session) (frame : Frame) :
    psRecvd stack self { queue := frame.bytes, arrivals := [] } =
      (deliver stack self frame).map (receivedFrame frame { queue := [], arrivals := [] }) := by
  have alone := psRecvd_of_queued stack self frame []
  rwa [List.append_nil] at alone

/-- It is received if its objects lead to its end. -/
theorem psRecvd_alone_iff (stack : Memory) (self : Session) (frame : Frame) :
    (psRecvd stack self { queue := frame.bytes, arrivals := [] }).isSome = true ↔
      frame.Ends stack self := by
  have small := frame.size_lt
  rw [psRecvd_alone, Option.isSome_map, deliver, dispatchLoop_ends_iff (by omega)]
  rfl

theorem recovers_of_seen (is : Junk junk frame)
    (opcode : shown (junk ++ frame.bytes) 1 = frame.opcode)
    (length : LengthSeen stack junk frame)
    (ends : frame.Ends stack self) : Recovers stack self junk frame more := by
  have near : junk.length + 7 ≤ bufferSize := by
    rcases length with less | ⟨same, _⟩
    · exact Nat.le_of_lt less
    · exact Nat.le_of_eq same
  have returns := (psRecvd_alone_iff stack self frame).mpr ends
  rw [psRecvd_alone, Option.isSome_map] at returns
  rcases Option.isSome_iff_exists.mp returns with ⟨last, delivered⟩
  refine ⟨receivedFrame frame { queue := more, arrivals := [] } last,
    receivedFrame frame { queue := [], arrivals := [] } last, ?_, ?_, rfl, rfl, rfl, rfl, rfl⟩
  · rw [psRecvd_of_junk stack self more is near, opcode, (length_seen_iff stack more near).mpr length,
      psRecvdMessage_of_whole (by rw [Socket.arrive_idle]), delivered, Socket.arrive_idle]
    rfl
  · rw [psRecvd_alone, delivered]
    rfl

theorem seen_of_recovers (is : Junk junk frame) (recovers : Recovers stack self junk frame more) :
    shown (junk ++ frame.bytes) 1 = frame.opcode ∧ LengthSeen stack junk frame ∧
      frame.Ends stack self := by
  rcases recovers with ⟨received, alone, returns, whole, socket, opcode, _⟩
  have size := frame.size_pos
  by_cases near : junk.length + 7 ≤ bufferSize
  · rw [psRecvd_of_junk stack self more is near] at returns
    have nonempty : frame.bytes ++ more ≠ [] := List.cons_ne_nil _ _
    rcases psRecvdMessage_idle nonempty returns with ⟨fits, stale, rest⟩
    refine ⟨stale ▸ opcode, (length_seen_iff stack more near).mp ?_,
      (psRecvd_alone_iff stack self frame).mp (whole ▸ rfl)⟩
    rw [socket] at rest
    have counts := congrArg List.length (Socket.mk.inj rest).1
    rw [List.length_drop] at counts
    rw [List.length_append, frame.bytes_length] at counts fits
    apply UInt32.toNat_inj.mp
    rw [frame.length_toNat]
    omega
  · -- Nothing is found, and as many bytes are thrown away as were seen.
    exfalso
    have queued : (Socket.mk (junk ++ frame.bytes ++ more) []).arrive.queue ≠ [] := by
      rw [Socket.arrive_idle]
      exact List.append_ne_nil_of_left_ne_nil (List.append_ne_nil_of_left_ne_nil is.some _) _
    have sees : (Socket.mk (junk ++ frame.bytes ++ more) []).arrive.queue.take bufferSize =
        (junk ++ frame.bytes ++ more).take bufferSize := by
      rw [Socket.arrive_idle]
    rw [psRecvd_of_nothing queued sees (seen_refused is.refused)
      (scan_far is (Nat.lt_of_not_le near))] at returns
    cases returns
    have thrown : ((Socket.mk (junk ++ frame.bytes ++ more) []).arrive.recv
        ((junk ++ frame.bytes ++ more).take bufferSize).length).2.queue =
        (junk ++ frame.bytes ++ more).drop
          ((junk ++ frame.bytes ++ more).take bufferSize).length := by
      rw [Socket.recv_of_queued (Socket.arrive_queued queued), Socket.arrive_idle,
        Socket.arrive_idle]
    have counts := congrArg List.length (thrown.symm.trans (congrArg Socket.queue socket))
    rw [List.length_drop, seen_length, List.length_append, List.length_append,
      frame.bytes_length] at counts
    dsimp only at counts
    omega

end Recovery

/-- Behind junk a message is received exactly if the junk, or the version byte
behind a single byte of it, has the opcode of the message in the second place, the
whole length is seen, and the objects of the message lead to its end. -/
theorem recovers_iff (stack : Memory) (self : Session) {junk : List UInt8} {frame : Frame}
    (more : List UInt8) (is : Junk junk frame) :
    Recovers stack self junk frame more ↔
      shown (junk ++ frame.bytes) 1 = frame.opcode ∧ LengthSeen stack junk frame ∧
        frame.Ends stack self :=
  ⟨seen_of_recovers is, fun conditions =>
    recovers_of_seen is conditions.1 conditions.2.1 conditions.2.2⟩

instance (junk : List UInt8) (frame : Frame) : Decidable (Junk junk frame) :=
  decidable_of_iff (junk ≠ [] ∧ frame.clientType = pcmmClientType ∧
      headerTaken (junk ++ frame.bytes) = false ∧
      forall j, j < junk.length + 2 -> unpackU16 (shown (junk ++ frame.bytes)) j ≠ pcmmClientType)
    ⟨fun conditions => ⟨conditions.1, conditions.2.1, conditions.2.2.1, conditions.2.2.2⟩,
      fun is => ⟨is.some, is.clientType, is.refused, is.first⟩⟩

/-- A Report-State with the response to transaction 7. -/
def reportFrame : Frame :=
  .pcmm 3 [0, 12, 9, 1, 0, 8, 1, 1, 0, 7, 0, 5] (by decide)

/-- It is received behind two bytes of which the second is a 3. -/
theorem recovers_behind_three :
    Recovers (fun _ => 0) ⟨[0, 0, 0, 0], true⟩ [0, 3] reportFrame [16] :=
  (recovers_iff (fun _ => 0) ⟨[0, 0, 0, 0], true⟩ [16] (by decide +kernel)).mpr
    ⟨by decide +kernel, Or.inl (by decide), (psRecvd_alone_iff ..).mp (by decide +kernel)⟩

/-- Behind two bytes of which the second is an 8 it is taken for a Client-Close. -/
theorem not_recovers_behind_eight :
    Junk [0, 8] reportFrame ∧
      (psRecvd (fun _ => 0) ⟨[0, 0, 0, 0], true⟩ ⟨[0, 8] ++ reportFrame.bytes, []⟩).map
        Received.opcode = some 8 ∧
      ¬ Recovers (fun _ => 0) ⟨[0, 0, 0, 0], true⟩ [0, 8] reportFrame [] := by
  have is : Junk [0, 8] reportFrame := by decide +kernel
  refine ⟨is, by decide +kernel, fun recovers => ?_⟩
  exact absurd (seen_of_recovers is recovers).1 (by decide +kernel)

end PolicyServer
