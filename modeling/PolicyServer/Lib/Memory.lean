namespace Lib

/-!
# Byte memory

A memory is a total map from addresses to bytes: what lies outside a buffer is
some byte too, it is only unknown.  `Memory.Holds` says that a list of bytes is
stored from an address on, and is the predicate through which everything else
is proved about stored data: it splits along an append, so the fields of a
record and the records of a list are found by splitting, not by index
arithmetic at every use.
-/

/-- The bytes at all addresses. -/
abbrev Memory := Nat -> UInt8

namespace Memory

/-- Copy `bytes` to the addresses from `start` on. -/
def write (memory : Memory) (start : Nat) (bytes : List UInt8) : Memory :=
  fun i => if start ≤ i then bytes[i - start]?.getD (memory i) else memory i

/-- Zero the `count` addresses from 0 on. -/
def clear (memory : Memory) (count : Nat) : Memory :=
  fun i => if i < count then 0 else memory i

/-- The `count` bytes from `start` on. -/
def read (memory : Memory) : (start count : Nat) -> List UInt8
  | _, 0 => []
  | start, count + 1 => memory start :: read memory (start + 1) count

/-- The memory seen from a pointer to `start`. -/
def shift (memory : Memory) (start : Nat) : Memory :=
  fun i => memory (start + i)

/-- A memory that begins with `bytes`, with `rest` behind them. -/
def behind (bytes : List UInt8) (rest : Memory) : Memory :=
  fun i => bytes[i]?.getD (rest (i - bytes.length))

/-- `bytes` is stored from `start` on. -/
def Holds (memory : Memory) (start : Nat) (bytes : List UInt8) : Prop :=
  forall i (small : i < bytes.length), memory (start + i) = bytes[i]

variable {memory : Memory}

@[simp] theorem holds_nil (start : Nat) : memory.Holds start [] :=
  fun _ small => absurd small (Nat.not_lt_zero _)

theorem holds_cons {start : Nat} {byte : UInt8} {bytes : List UInt8} :
    memory.Holds start (byte :: bytes) ↔ memory start = byte ∧ memory.Holds (start + 1) bytes := by
  constructor
  · intro holds
    refine ⟨holds 0 (Nat.zero_lt_succ _), fun i small => ?_⟩
    have there := holds (i + 1) (Nat.succ_lt_succ small)
    rwa [List.getElem_cons_succ, Nat.add_comm i 1, ← Nat.add_assoc] at there
  · rintro ⟨first, rest⟩ i small
    cases i with
    | zero => exact first
    | succ i =>
        have there := rest i (Nat.lt_of_succ_lt_succ small)
        rwa [Nat.add_assoc, Nat.add_comm 1 i] at there

theorem holds_append {start : Nat} {left right : List UInt8} :
    memory.Holds start (left ++ right) ↔
      memory.Holds start left ∧ memory.Holds (start + left.length) right := by
  induction left generalizing start with
  | nil => simp only [List.nil_append, holds_nil, true_and, List.length_nil, Nat.add_zero]
  | cons byte left inductionHypothesis =>
      rw [List.cons_append, holds_cons, holds_cons, inductionHypothesis, and_assoc,
        List.length_cons, Nat.add_comm left.length 1, ← Nat.add_assoc]

/-- A word of four bytes with more behind it. -/
theorem holds_word {start : Nat} {first second third fourth : UInt8} {bytes : List UInt8} :
    memory.Holds start (first :: second :: third :: fourth :: bytes) ↔
      memory start = first ∧ memory (start + 1) = second ∧ memory (start + 2) = third ∧
        memory (start + 3) = fourth ∧ memory.Holds (start + 4) bytes := by
  rw [holds_cons, holds_cons, holds_cons, holds_cons]

/-- Two places that hold the same bytes agree on them. -/
theorem Holds.agree {other : Memory} {start start' : Nat} {bytes : List UInt8}
    (left : memory.Holds start bytes) (right : other.Holds start' bytes) {i : Nat}
    (small : i < bytes.length) : memory (start + i) = other (start' + i) :=
  (left i small).trans (right i small).symm

theorem shift_holds {start offset : Nat} {bytes : List UInt8} :
    (memory.shift start).Holds offset bytes ↔ memory.Holds (start + offset) bytes := by
  unfold Holds shift
  simp only [Nat.add_assoc]

/-! ## Writing and reading -/

theorem write_holds (memory : Memory) (start : Nat) (bytes : List UInt8) :
    (memory.write start bytes).Holds start bytes := by
  intro i small
  simp only [write, Nat.le_add_right, if_true, Nat.add_sub_cancel_left,
    List.getElem?_eq_getElem small, Option.getD_some]

theorem write_of_ge (memory : Memory) {start i : Nat} {bytes : List UInt8}
    (past : start + bytes.length ≤ i) :
    memory.write start bytes i = memory i := by
  have outside : bytes.length ≤ i - start := by omega
  simp only [write, List.getElem?_eq_none outside, Option.getD_none, ite_self]

theorem clear_of_lt (memory : Memory) {count i : Nat} (small : i < count) :
    memory.clear count i = 0 := by
  simp only [clear, if_pos small]

theorem read_of_holds {start : Nat} {bytes : List UInt8} (holds : memory.Holds start bytes) :
    memory.read start bytes.length = bytes := by
  induction bytes generalizing start with
  | nil => rfl
  | cons byte bytes inductionHypothesis =>
      rcases holds_cons.mp holds with ⟨first, rest⟩
      rw [List.length_cons, read, first, inductionHypothesis rest]

@[simp] theorem read_length (memory : Memory) (start count : Nat) :
    (memory.read start count).length = count := by
  induction count generalizing start with
  | zero => rfl
  | succ count inductionHypothesis => rw [read, List.length_cons, inductionHypothesis]

/-! ## A list of bytes with more behind it -/

theorem behind_holds (bytes : List UInt8) (rest : Memory) : (behind bytes rest).Holds 0 bytes := by
  intro i small
  simp only [behind, Nat.zero_add, List.getElem?_eq_getElem small, Option.getD_some]

theorem behind_add (bytes : List UInt8) (rest : Memory) (i : Nat) :
    behind bytes rest (bytes.length + i) = rest i := by
  simp only [behind, List.getElem?_eq_none (Nat.le_add_right _ _), Option.getD_none,
    Nat.add_sub_cancel_left]

theorem behind_append (left right : List UInt8) (rest : Memory) :
    behind (left ++ right) rest = behind left (behind right rest) := by
  funext i
  by_cases small : i < left.length
  · simp only [behind, List.getElem?_append_left small, List.getElem?_eq_getElem small,
      Option.getD_some]
  · have large := Nat.le_of_not_lt small
    simp only [behind, List.getElem?_append_right large, List.getElem?_eq_none large,
      Option.getD_none, List.length_append, Nat.sub_sub]

end Memory
end Lib
