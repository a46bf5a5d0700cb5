import PolicyServer.Receive

namespace PolicyServer

open Lib

/-!
# Receiving a frame

What `ps_recvd` does with a well-formed message, given how much of it has
arrived when it looks.  `Sighted` says that the bytes a call peeks at show the
whole header; the call then knows opcode and length, by way of the
resynchronisation if the header check refuses the frame, and if the rest has
arrived when it reads, it delivers the frame to the object loop.
-/

/-- The buffer with a frame read into it. -/
def frameBuffer (stack : Memory) (frame : Frame) : Memory :=
  (stack.clear bufferSize).write 0 frame.bytes

/-- The object loop on a frame received whole. -/
def deliver (stack : Memory) (self : Session) (frame : Frame) : Option DispatchState :=
  dispatchLoop (frameBuffer stack frame) frame.opcode frame.size self

/-- The result of `ps_recvd` on a frame received whole. -/
def receivedFrame (frame : Frame) (socket : Socket) (last : DispatchState) : Received where
  opcode := frame.opcode
  self := last.self
  socket := socket
  acts := last.acts
  files := last.files

/-- The zeroed buffer shows the frame's header once these bytes are in it. -/
structure Sighted (frame : Frame) (stack : Memory) (seen : List UInt8) : Prop where
  enough : 7 ≤ seen.length
  version : (stack.clear bufferSize).write 0 seen 0 = frame.version
  opcode : (stack.clear bufferSize).write 0 seen 1 = frame.opcode
  clientType : (stack.clear bufferSize).write 0 seen 2 = (frame.clientType >>> 8).toUInt8 ∧
    (stack.clear bufferSize).write 0 seen 3 = frame.clientType.toUInt8
  length : unpackN ((stack.clear bufferSize).write 0 seen) 4 = frame.length

section Reception

variable {stack : Memory} {self : Session} {frame : Frame} {socket : Socket}

theorem frameBuffer_holds (stack : Memory) (frame : Frame) :
    (frameBuffer stack frame).Holds 0 frame.bytes :=
  Memory.write_holds _ 0 frame.bytes

theorem frameBuffer_storedIn (stack : Memory) (frame : Frame) :
    frame.StoredIn (frameBuffer stack frame) :=
  Frame.storedIn_of_holds (frameBuffer_holds stack frame)

/-- With the whole frame at hand the message is read at once. -/
theorem psRecvdMessage_of_whole {more : List UInt8}
    (queued : socket.arrive.queue = frame.bytes ++ more) :
    psRecvdMessage stack self socket frame.opcode frame.length =
      (deliver stack self frame).map
        (receivedFrame frame { socket.arrive with queue := more }) := by
  have positive := frame.size_pos
  have size : frame.bytes.length = frame.size := frame.bytes_length
  have nonempty : socket.arrive.queue ≠ [] := by
    intro empty
    rw [queued] at empty
    have none := congrArg List.length empty
    rw [List.length_append, size, List.length_nil] at none
    omega
  have taken : socket.arrive.queue.take frame.size = frame.bytes := by
    rw [queued, ← size, List.take_left]
  have left : socket.arrive.queue.drop frame.size = more := by
    rw [queued, ← size, List.drop_left]
  simp only [psRecvdMessage, Socket.recv_of_queued nonempty, frame.length_toNat, taken, left,
    frame.bytes_length, Nat.lt_irrefl, if_false]
  unfold deliver frameBuffer
  cases dispatchLoop ((stack.clear bufferSize).write 0 frame.bytes) frame.opcode frame.size self <;>
    rfl

/-- No index in front of the client-type field holds the client-type. -/
theorem psRecvdScan_of_sighted {seen : List UInt8} (sighted : Sighted frame stack seen)
    (clientType : frame.clientType = pcmmClientType) :
    psRecvdScan ((stack.clear bufferSize).write 0 seen) seen.length seen.length 0 = some 2 := by
  have enough := sighted.enough
  have versionByte : frame.version.toNat < 128 := by
    have nibble := congrArg UInt8.toNat frame.versionOk
    rw [UInt8.toNat_shiftRight, Nat.shiftRight_eq_div_pow] at nibble
    have amount : (4 : UInt8).toNat % 8 = 4 := rfl
    have one : (1 : UInt8).toNat = 1 := rfl
    rw [amount, one] at nibble
    omega
  have first : unpackU16 ((stack.clear bufferSize).write 0 seen) 0 ≠ pcmmClientType := by
    intro same
    have value := congrArg UInt16.toNat same
    rw [unpackU16_toNat, sighted.version, show pcmmClientType.toNat = 32778 from rfl] at value
    have low := ((stack.clear bufferSize).write 0 seen (0 + 1)).toNat_lt
    omega
  have second : unpackU16 ((stack.clear bufferSize).write 0 seen) 1 ≠ pcmmClientType := by
    intro same
    have value := congrArg UInt16.toNat same
    rw [unpackU16_toNat, show (1 : Nat) + 1 = 2 from rfl, sighted.clientType.1, clientType,
      show pcmmClientType.toNat = 32778 from rfl] at value
    have low : (pcmmClientType >>> 8).toUInt8.toNat = 128 := rfl
    omega
  have third : unpackU16 ((stack.clear bufferSize).write 0 seen) 2 = pcmmClientType := by
    apply unpackU16_of_holds
    rw [packU16Be, Memory.holds_cons, Memory.holds_cons]
    refine ⟨?_, ?_, Memory.holds_nil _⟩
    · rw [sighted.clientType.1, clientType]
    · rw [sighted.clientType.2, clientType]
  match length : seen.length, enough with
  | fuel + 7, _ =>
      simp only [psRecvdScan]
      rw [if_neg (by omega), if_pos first, if_neg (by omega), if_pos second, if_neg (by omega),
        if_neg (not_not.mpr third)]

theorem sighted_of_header {seen : List UInt8} (header : frame.header <+: seen) :
    Sighted frame stack seen := by
  rcases header with ⟨more, rfl⟩
  have holds := Memory.write_holds (stack.clear bufferSize) 0 (frame.header ++ more)
  have fields := (Memory.holds_append.mp holds).1
  rcases Memory.holds_append.mp fields with ⟨tags, fields⟩
  rcases Memory.holds_cons.mp tags with ⟨version, tags⟩
  have opcode := (Memory.holds_cons.mp tags).1
  rcases Memory.holds_append.mp fields with ⟨clientType, length⟩
  rcases Memory.holds_cons.mp clientType with ⟨high, low⟩
  refine ⟨?_, version, opcode, ⟨high, (Memory.holds_cons.mp low).1⟩, unpackN_of_holds length⟩
  rw [List.length_append, frame.header_length]
  omega

/-- A missing last byte of the length field reads as 0. -/
theorem sighted_of_seven {seen : List UInt8} (seven : seen = frame.header.take 7)
    (round : 256 ∣ frame.size) : Sighted frame stack seen := by
  have holds := Memory.write_holds (stack.clear bufferSize) 0 seen
  have within : 0 + seen.length ≤ 7 := by
    rw [seven]
    exact Nat.le_refl 7
  have beyond := (Memory.write_of_ge (stack.clear bufferSize) within).trans
    (Memory.clear_of_lt stack (by decide))
  have low : frame.length.toUInt8 = 0 := by
    rw [← UInt8.toNat_inj, UInt32.toNat_toUInt8, frame.length_toNat]
    exact Nat.mod_eq_zero_of_dvd round
  have fields : seen = frame.version :: frame.opcode :: (frame.clientType >>> 8).toUInt8 ::
      frame.clientType.toUInt8 :: (frame.length >>> 24).toUInt8 :: (frame.length >>> 16).toUInt8 ::
      (frame.length >>> 8).toUInt8 :: [] := seven
  nth_rewrite 2 [fields] at holds
  rcases Memory.holds_word.mp holds with ⟨version, opcode, high, lower, holds⟩
  rcases Memory.holds_cons.mp holds with ⟨first, holds⟩
  rcases Memory.holds_cons.mp holds with ⟨second, holds⟩
  have third := (Memory.holds_cons.mp holds).1
  refine ⟨?_, version, opcode, ⟨high, lower⟩, ?_⟩
  · rw [fields]
    exact Nat.le_refl 7
  · apply unpackN_of_holds
    rw [packU32Be, Memory.holds_word, low]
    exact ⟨first, second, third, beyond, Memory.holds_nil _⟩

/-- A call that sights the header goes on to read the frame. -/
theorem psRecvd_of_sighted
    (sighted : Sighted frame stack (socket.arrive.queue.take bufferSize)) :
    psRecvd stack self socket =
      psRecvdMessage stack self
        (if copsHeaderOk frame.opcode frame.clientType frame.length then socket.arrive
          else (socket.arrive.recv 0).2) frame.opcode frame.length := by
  have nonempty : socket.arrive.queue ≠ [] := by
    intro empty
    have enough := sighted.enough
    rw [empty, List.take_nil] at enough
    cases enough
  have clientType : unpackU16 ((stack.clear bufferSize).write 0 (socket.arrive.queue.take bufferSize))
      2 = frame.clientType := by
    apply unpackU16_of_holds
    rw [packU16Be, Memory.holds_cons, Memory.holds_cons]
    exact ⟨sighted.clientType.1, sighted.clientType.2, Memory.holds_nil _⟩
  have index : sizeT ((1 : Nat) + 1) = 2 := rfl
  have index' : sizeT ((2 : Nat) + 2) = 4 := rfl
  simp only [psRecvd, Socket.peek_of_queued nonempty, unpackU8It, unpackU16It, unpackU32It, index,
    index', sighted.opcode, clientType, sighted.length]
  by_cases ok : copsHeaderOk frame.opcode frame.clientType frame.length = true
  · rw [if_pos ok, if_pos ok]
  · have pcmm : frame.clientType = pcmmClientType := by
      rcases frame.clientOk with pcmm | ⟨keepAlive, zero⟩
      · exact pcmm
      · exfalso
        apply ok
        simp only [copsHeaderOk, keepAlive, zero, beq_self_eq_true, Bool.and_true, Bool.or_true]
    rw [if_neg ok, if_neg ok, psRecvdScan_of_sighted sighted pcmm]
    simp only [Nat.le_refl, if_true, Nat.sub_self, sighted.length, show 2 + 2 = 4 from rfl]

end Reception

/-- A frame in the queue is received whole, whatever is behind it. -/
theorem psRecvd_of_queued (stack : Memory) (self : Session) (frame : Frame) (more : List UInt8) :
    psRecvd stack self { queue := frame.bytes ++ more, arrivals := [] } =
      (deliver stack self frame).map (receivedFrame frame { queue := more, arrivals := [] }) := by
  have header : frame.header <+: (frame.bytes ++ more).take bufferSize := by
    have whole : frame.header <+: frame.bytes ++ more :=
      (List.prefix_append _ _).trans (List.prefix_append _ _)
    apply List.prefix_take_iff.mpr
    exact ⟨whole, (by decide : 8 ≤ bufferSize)⟩
  have nonempty : frame.bytes ++ more ≠ [] := List.cons_ne_nil _ _
  have sighted : Sighted frame stack
      ((Socket.mk (frame.bytes ++ more) []).arrive.queue.take bufferSize) := by
    rw [Socket.arrive_idle]
    exact sighted_of_header header
  have ready : (if copsHeaderOk frame.opcode frame.clientType frame.length then
        (Socket.mk (frame.bytes ++ more) []).arrive
      else ((Socket.mk (frame.bytes ++ more) []).arrive.recv 0).2) =
      { queue := frame.bytes ++ more, arrivals := [] } := by
    rw [Socket.arrive_idle]
    split
    · rfl
    · rw [Socket.recv_of_queued (by rwa [Socket.arrive_idle]), Socket.arrive_idle, List.drop_zero]
  rw [psRecvd_of_sighted sighted, ready]
  refine psRecvdMessage_of_whole ?_
  rw [Socket.arrive_idle]

end PolicyServer
