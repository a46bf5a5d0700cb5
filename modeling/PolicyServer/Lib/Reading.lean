import PolicyServer.Lib.Memory

namespace Lib

universe u

/-!
# Computations that read a memory

A `Reading` gets at a memory by fetching single bytes, and in no other way.  Run
on a memory it has a value and the places it has fetched from.
-/

inductive Reading (α : Type u) : Type u where
  | done (value : α)
  | fetch (place : Nat) (next : UInt8 -> Reading α)

namespace Reading

variable {α β : Type u}

def bind : Reading α -> (α -> Reading β) -> Reading β
  | .done value, following => following value
  | .fetch place next, following => .fetch place fun byte => (next byte).bind following

instance : Monad Reading where
  pure := .done
  bind := bind

/-- One byte. -/
def byte (place : Nat) : Reading UInt8 :=
  .fetch place .done

/-- The same computation behind a pointer to `base`. -/
def behind (base : Nat) : Reading α -> Reading α
  | .done value => .done value
  | .fetch place next => .fetch (base + place) fun byte => (next byte).behind base

def eval (memory : Memory) : Reading α -> α
  | .done value => value
  | .fetch place next => (next (memory place)).eval memory

/-- Where it fetches from, in this order. -/
def places (memory : Memory) : Reading α -> List Nat
  | .done _ => []
  | .fetch place next => place :: (next (memory place)).places memory

variable {memory : Memory}

@[simp] theorem eval_pure (value : α) : (pure value : Reading α).eval memory = value := rfl

@[simp] theorem places_pure (value : α) : (pure value : Reading α).places memory = [] := rfl

@[simp] theorem eval_byte (place : Nat) : (byte place).eval memory = memory place := rfl

@[simp] theorem places_byte (place : Nat) : (byte place).places memory = [place] := rfl

@[simp] theorem eval_bind (first : Reading α) (following : α -> Reading β) :
    (first >>= following).eval memory = (following (first.eval memory)).eval memory := by
  induction first with
  | done value => rfl
  | fetch place next inductionHypothesis => exact inductionHypothesis (memory place)

@[simp] theorem places_bind (first : Reading α) (following : α -> Reading β) :
    (first >>= following).places memory =
      first.places memory ++ (following (first.eval memory)).places memory := by
  induction first with
  | done value => rfl
  | fetch place next inductionHypothesis =>
      exact congrArg (place :: ·) (inductionHypothesis (memory place))

@[simp] theorem eval_behind (base : Nat) (reading : Reading α) :
    (reading.behind base).eval memory = reading.eval (memory.shift base) := by
  induction reading with
  | done value => rfl
  | fetch place next inductionHypothesis => exact inductionHypothesis (memory (base + place))

@[simp] theorem places_behind (base : Nat) (reading : Reading α) :
    (reading.behind base).places memory = (reading.places (memory.shift base)).map (base + ·) := by
  induction reading with
  | done value => rfl
  | fetch place next inductionHypothesis =>
      exact congrArg ((base + place) :: ·) (inductionHypothesis (memory (base + place)))

/-- What a computation does not fetch does not matter to it. -/
theorem eval_congr {other : Memory} (reading : Reading α)
    (same : forall place, place ∈ reading.places memory -> memory place = other place) :
    reading.eval memory = reading.eval other := by
  induction reading with
  | done value => rfl
  | fetch place next inductionHypothesis =>
      have first := same place List.mem_cons_self
      have rest := inductionHypothesis (memory place)
        fun later member => same later (List.mem_cons_of_mem _ member)
      rw [eval, eval, rest, first]

/-! ## Below a bound -/

/-- Every place fetched from is below the bound. -/
def Below (memory : Memory) (bound : Nat) (reading : Reading α) : Prop :=
  forall place, place ∈ reading.places memory -> place < bound

variable {bound : Nat}

theorem below_pure_iff {value : α} : (pure value : Reading α).Below memory bound ↔ True :=
  iff_true_intro fun _ member => absurd member List.not_mem_nil

theorem below_byte_iff {place : Nat} : (byte place).Below memory bound ↔ place < bound := by
  unfold Below
  rw [places_byte]
  constructor
  · intro below
    exact below place List.mem_cons_self
  · intro small other member
    exact List.mem_singleton.mp member ▸ small

theorem below_bind_iff {first : Reading α} {following : α -> Reading β} :
    (first >>= following).Below memory bound ↔
      first.Below memory bound ∧ (following (first.eval memory)).Below memory bound := by
  unfold Below
  rw [places_bind]
  constructor
  · intro below
    exact ⟨fun place member => below place (List.mem_append_left _ member),
      fun place member => below place (List.mem_append_right _ member)⟩
  · rintro ⟨left, right⟩ place member
    rcases List.mem_append.mp member with earlier | later
    · exact left place earlier
    · exact right place later

/-- A computation that needs exactly the first `extent` bytes, behind a pointer. -/
theorem below_behind_iff {base extent : Nat} {reading : Reading α} (positive : 0 < extent)
    (needs : forall bound, reading.Below (memory.shift base) bound ↔ extent ≤ bound) :
    (reading.behind base).Below memory bound ↔ base + extent ≤ bound := by
  have moved : (reading.behind base).Below memory bound ↔
      forall place, place ∈ reading.places (memory.shift base) -> base + place < bound := by
    unfold Below
    rw [places_behind]
    exact List.forall_mem_map
  rw [moved]
  constructor
  · intro below
    by_cases room : base ≤ bound
    · have inside : reading.Below (memory.shift base) (bound - base) := by
        intro place member
        have small := below place member
        omega
      have enough := (needs (bound - base)).mp inside
      omega
    · have none : reading.Below (memory.shift base) 0 := by
        intro place member
        have small := below place member
        omega
      have enough := (needs 0).mp none
      omega
  · intro enough place member
    have small := (needs extent).mpr (Nat.le_refl extent) place member
    omega

/-! ## Texts -/

/-- The bytes from a place on. -/
def bytes : (start count : Nat) -> Reading (List UInt8)
  | _, 0 => return []
  | start, count + 1 => do
      let first <- byte start
      let rest <- bytes (start + 1) count
      return first :: rest

/-- How many bytes there are before the first null byte, looking at `room` of
them at most. -/
def textLength : (room start : Nat) -> Reading Nat
  | 0, _ => return 0
  | room + 1, start => do
      let first <- byte start
      if first = 0 then return 0
      else
        let rest <- textLength room (start + 1)
        return rest + 1

@[simp] theorem eval_bytes (start count : Nat) :
    (bytes start count).eval memory = memory.read start count := by
  induction count generalizing start with
  | zero => rfl
  | succ count inductionHypothesis =>
      rw [bytes, eval_bind, eval_bind, eval_byte, eval_pure, inductionHypothesis, Memory.read]

theorem below_bytes_iff {start count : Nat} (positive : 0 < count) :
    (bytes start count).Below memory bound ↔ start + count ≤ bound := by
  induction count generalizing start with
  | zero => exact absurd positive (Nat.lt_irrefl 0)
  | succ count inductionHypothesis =>
      rw [bytes, below_bind_iff, below_byte_iff, below_bind_iff, below_pure_iff, and_true]
      cases count with
      | zero =>
          rw [bytes, below_pure_iff, and_true]
          omega
      | succ count =>
          rw [inductionHypothesis (Nat.zero_lt_succ count)]
          omega

/-- The length of a text that is stored with its null byte, which is the last
byte looked at. -/
theorem textLength_of_holds {start room : Nat} {text : List UInt8}
    (holds : memory.Holds start (text ++ [0])) (nonzero : forall byte, byte ∈ text -> byte ≠ 0)
    (enough : text.length < room) :
    (textLength room start).eval memory = text.length ∧
      (textLength room start).Below memory (start + text.length + 1) := by
  induction text generalizing start room with
  | nil =>
      cases room with
      | zero => exact absurd enough (Nat.not_lt_zero _)
      | succ room =>
          have null : memory start = 0 := (Memory.holds_cons.mp holds).1
          rw [textLength, eval_bind, below_bind_iff, eval_byte, null, if_pos rfl]
          exact ⟨rfl, below_byte_iff.mpr (Nat.lt_succ_self start), below_pure_iff.mpr trivial⟩
  | cons first text inductionHypothesis =>
      cases room with
      | zero => exact absurd enough (Nat.not_lt_zero _)
      | succ room =>
          rcases Memory.holds_cons.mp holds with ⟨here, rest⟩
          have other : first ≠ 0 := nonzero first List.mem_cons_self
          rcases inductionHypothesis rest
            (fun byte member => nonzero byte (List.mem_cons_of_mem _ member))
            (Nat.lt_of_succ_lt_succ enough) with ⟨counted, below⟩
          rw [Nat.add_right_comm start 1] at below
          rw [textLength, eval_bind, below_bind_iff, eval_byte, here, if_neg other, eval_bind,
            below_bind_iff, counted, List.length_cons]
          refine ⟨rfl, below_byte_iff.mpr (by omega), ?_, below_pure_iff.mpr trivial⟩
          rwa [← Nat.add_assoc]

end Reading
end Lib
