import PolicyServer.Lib.Memory

namespace Lib

/-!
# Arrays of a fixed size

A byte stored inside an array changes it, and a byte stored outside changes
something else.  `Buffer` keeps the two apart: it has the bytes of the array, and
counts the bytes that went outside.  Most arrays are cleared and then filled from
the front, in pieces that touch or leave a gap; `filled` is an array in that
state, and the lemmas about it are what such code is verified with.
-/

/-- An array, and how many bytes have been stored outside of it. -/
structure Buffer where
  bytes : List UInt8
  outside : Nat
  deriving DecidableEq, Repr

namespace Buffer

/-- Store one byte. -/
def set (buffer : Buffer) (i : Nat) (byte : UInt8) : Buffer :=
  if i < buffer.bytes.length then { buffer with bytes := buffer.bytes.set i byte }
  else { buffer with outside := buffer.outside + 1 }

/-- Store bytes, one behind the other. -/
def write (buffer : Buffer) : (start : Nat) -> List UInt8 -> Buffer
  | _, [] => buffer
  | start, byte :: bytes => (buffer.set start byte).write (start + 1) bytes

/-- An array that is cleared behind the bytes in front. -/
def filled (front : List UInt8) (room : Nat) : Buffer where
  bytes := front ++ List.replicate room 0
  outside := 0

/-- An array as `memset` leaves it. -/
def cleared (size : Nat) : Buffer := filled [] size

/-! ## Writing -/

@[simp] theorem set_length (buffer : Buffer) (i : Nat) (byte : UInt8) :
    (buffer.set i byte).bytes.length = buffer.bytes.length := by
  unfold set
  split
  · exact List.length_set
  · rfl

@[simp] theorem write_length (buffer : Buffer) (start : Nat) (bytes : List UInt8) :
    (buffer.write start bytes).bytes.length = buffer.bytes.length := by
  induction bytes generalizing buffer start with
  | nil => rfl
  | cons byte bytes inductionHypothesis => rw [write, inductionHypothesis, set_length]

theorem write_append (buffer : Buffer) (start : Nat) (left right : List UInt8) :
    buffer.write start (left ++ right) =
      (buffer.write start left).write (start + left.length) right := by
  induction left generalizing buffer start with
  | nil => rfl
  | cons byte left inductionHypothesis =>
      rw [List.cons_append, write, write, inductionHypothesis, List.length_cons,
        Nat.add_assoc, Nat.add_comm 1]

/-- Bytes stored inside replace those that were there. -/
theorem write_inside {front old behind bytes : List UInt8} {outside : Nat}
    (same : bytes.length = old.length) :
    (Buffer.mk (front ++ (old ++ behind)) outside).write front.length bytes =
      ⟨front ++ (bytes ++ behind), outside⟩ := by
  induction bytes generalizing front old with
  | nil =>
      have empty : old = [] := List.length_eq_zero_iff.mp same.symm
      rw [empty]
      rfl
  | cons byte bytes inductionHypothesis =>
      cases old with
      | nil => cases same
      | cons first old =>
          have inside : front.length < (front ++ (first :: old ++ behind)).length := by
            simp only [List.length_append, List.length_cons]
            omega
          have stored : (Buffer.mk (front ++ (first :: old ++ behind)) outside).set
              front.length byte = ⟨(front ++ [byte]) ++ (old ++ behind), outside⟩ := by
            rw [set, if_pos inside, List.set_append_right _ _ (Nat.le_refl _), Nat.sub_self]
            simp only [List.cons_append, List.set_cons_zero, List.append_assoc, List.nil_append]
          have next : front.length + 1 = (front ++ [byte]).length := by
            rw [List.length_append, List.length_singleton]
          rw [write, stored, next, inductionHypothesis (Nat.succ.inj same), List.append_assoc,
            List.cons_append, List.nil_append, List.cons_append]

theorem take_start_length {buffer : Buffer} {start : Nat} {bytes : List UInt8}
    (room : start + bytes.length ≤ buffer.bytes.length) :
    (buffer.bytes.take start).length = start := by
  rw [List.length_take]
  exact Nat.min_eq_left (Nat.le_trans (Nat.le_add_right _ _) room)

/-- What an array with room for the bytes is after they are stored. -/
theorem write_eq {buffer : Buffer} {start : Nat} {bytes : List UInt8}
    (room : start + bytes.length ≤ buffer.bytes.length) :
    buffer.write start bytes =
      ⟨buffer.bytes.take start ++ (bytes ++ buffer.bytes.drop (start + bytes.length)),
        buffer.outside⟩ := by
  rcases buffer with ⟨old, outside⟩
  have front : (old.take start).length = start := take_start_length room
  have middle : bytes.length = ((old.drop start).take bytes.length).length := by
    rw [List.length_take, List.length_drop]
    exact (Nat.min_eq_left (Nat.le_sub_of_add_le' room)).symm
  have parts : old = old.take start ++
      ((old.drop start).take bytes.length ++ old.drop (start + bytes.length)) := by
    rw [← List.drop_drop, List.take_append_drop, List.take_append_drop]
  have stored : (Buffer.mk (old.take start ++ ((old.drop start).take bytes.length ++
      old.drop (start + bytes.length))) outside).write (old.take start).length bytes =
        ⟨old.take start ++ (bytes ++ old.drop (start + bytes.length)), outside⟩ :=
    write_inside middle
  rwa [← parts, front] at stored

/-- The array in a memory that goes on behind it. -/
def memory (buffer : Buffer) (rest : Memory) : Memory := Memory.behind buffer.bytes rest

/-- What is stored inside is there. -/
theorem write_holds {buffer : Buffer} {start : Nat} {bytes : List UInt8} (rest : Memory)
    (room : start + bytes.length ≤ buffer.bytes.length) :
    ((buffer.write start bytes).memory rest).Holds start bytes := by
  have front := take_start_length room
  have holds := Memory.behind_holds (buffer.bytes.take start ++
    (bytes ++ buffer.bytes.drop (start + bytes.length))) rest
  have behind := (Memory.holds_append.mp holds).2
  rw [front, Nat.zero_add] at behind
  rw [memory, write_eq room]
  exact (Memory.holds_append.mp behind).1

/-! ## What goes outside -/

theorem outside_le_set (buffer : Buffer) (i : Nat) (byte : UInt8) :
    buffer.outside ≤ (buffer.set i byte).outside := by
  unfold set
  split
  · exact Nat.le_refl _
  · exact Nat.le_succ _

theorem outside_le_write (buffer : Buffer) (start : Nat) (bytes : List UInt8) :
    buffer.outside ≤ (buffer.write start bytes).outside := by
  induction bytes generalizing buffer start with
  | nil => exact Nat.le_refl _
  | cons byte bytes inductionHypothesis =>
      exact Nat.le_trans (outside_le_set buffer start byte) (inductionHypothesis _ _)

/-- The count stays as it is exactly if all the bytes are stored inside. -/
theorem write_outside_iff (buffer : Buffer) (start : Nat) (bytes : List UInt8) :
    (buffer.write start bytes).outside = buffer.outside ↔
      forall place, start ≤ place -> place < start + bytes.length ->
        place < buffer.bytes.length := by
  induction bytes generalizing buffer start with
  | nil =>
      refine iff_of_true rfl fun place least most => absurd most ?_
      exact Nat.not_lt_of_le least
  | cons byte bytes inductionHypothesis =>
      rw [write, List.length_cons]
      by_cases inside : start < buffer.bytes.length
      · have counted : (buffer.set start byte).outside = buffer.outside := by
          rw [set, if_pos inside]
        have rest := inductionHypothesis (buffer.set start byte) (start + 1)
        rw [counted, set_length] at rest
        rw [rest]
        constructor
        · intro behind place least most
          rcases Nat.eq_or_lt_of_le least with rfl | later
          · exact inside
          · exact behind place later (by omega)
        · intro each place least most
          exact each place (by omega) (by omega)
      · have counted : (buffer.set start byte).outside = buffer.outside + 1 := by
          rw [set, if_neg inside]
        have more := outside_le_write (buffer.set start byte) (start + 1) bytes
        refine iff_of_false (by omega) fun each => inside ?_
        exact each start (Nat.le_refl _) (by omega)

/-! ## Filling from the front -/

@[simp] theorem filled_length (front : List UInt8) (room : Nat) :
    (filled front room).bytes.length = front.length + room := by
  rw [filled, List.length_append, List.length_replicate]

@[simp] theorem filled_full (front : List UInt8) : (filled front 0).bytes = front := by
  rw [filled, List.replicate_zero, List.append_nil]

@[simp] theorem cleared_length (size : Nat) : (cleared size).bytes.length = size := by
  rw [cleared, filled_length, List.length_nil, Nat.zero_add]

/-- The next piece. -/
theorem filled_write {front bytes : List UInt8} {room start : Nat} (next : start = front.length)
    (fits : bytes.length ≤ room) :
    (filled front room).write start bytes = filled (front ++ bytes) (room - bytes.length) := by
  have split : List.replicate room (0 : UInt8) =
      List.replicate bytes.length 0 ++ List.replicate (room - bytes.length) 0 := by
    rw [List.replicate_append_replicate, Nat.add_sub_cancel' fits]
  rw [next, filled, filled, split, write_inside List.length_replicate.symm, List.append_assoc]

/-- A gap. -/
theorem filled_skip (front : List UInt8) {gap room : Nat} (fits : gap ≤ room) :
    filled front room = filled (front ++ List.replicate gap 0) (room - gap) := by
  rw [filled, filled, List.append_assoc, List.replicate_append_replicate,
    Nat.add_sub_cancel' fits]

/-- The next piece, behind a gap. -/
theorem filled_behind (gap : Nat) {front bytes : List UInt8} {room start : Nat}
    (next : start = front.length + gap) (fits : gap + bytes.length ≤ room) :
    (filled front room).write start bytes =
      filled (front ++ List.replicate gap 0 ++ bytes) (room - gap - bytes.length) := by
  have there : start = (front ++ List.replicate gap 0).length := by
    rw [next, List.length_append, List.length_replicate]
  have before : gap ≤ room := Nat.le_trans (Nat.le_add_right _ _) fits
  have after : bytes.length ≤ room - gap := Nat.le_sub_of_add_le' fits
  rw [filled_skip front before, filled_write there after]

/-- The next piece, and a byte of 0 behind it. -/
theorem filled_terminated {front bytes : List UInt8} {room start : Nat}
    (next : start = front.length) (fits : bytes.length < room) :
    (filled front room).write start (bytes ++ [0]) =
      filled (front ++ bytes) (room - bytes.length) := by
  have behind : 1 ≤ room - bytes.length := by omega
  have enough : (bytes ++ [0]).length ≤ room := by
    rw [List.length_append, List.length_singleton]
    exact fits
  rw [filled_write next enough, filled_skip (front ++ bytes) behind, List.length_append,
    List.length_singleton, List.append_assoc, Nat.sub_sub]
  rfl

/-- The last piece: the byte of 0 goes outside. -/
theorem filled_overrun {front bytes : List UInt8} {room start : Nat}
    (next : start = front.length) (full : bytes.length = room) :
    (filled front room).write start (bytes ++ [0]) = ⟨front ++ bytes, 1⟩ := by
  have end' : start + bytes.length = (filled (front ++ bytes) (room - bytes.length)).bytes.length := by
    rw [filled_length, List.length_append, next, full, Nat.sub_self, Nat.add_zero]
  rw [write_append, filled_write next (Nat.le_of_eq full), end', write, write, set,
    if_neg (Nat.lt_irrefl _), filled, full, Nat.sub_self, List.replicate_zero, List.append_nil]

end Buffer
end Lib
