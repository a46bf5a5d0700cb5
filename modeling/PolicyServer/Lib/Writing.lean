import PolicyServer.Lib.Buffer

namespace Lib

universe u v

/-!
# Computations that store into an array

A `Writing` is what a computation stores, piece by piece, each piece for a part of
what it makes, up to its end or to where it stops.  What it stores does not depend
on the array; run on an array it leaves what the pieces leave, and nothing where it
stops.
-/

/-- Bytes stored one behind the other. -/
structure Write (ι : Type u) where
  part : ι
  start : Nat
  bytes : List UInt8

structure Writing (ι : Type u) where
  writes : List (Write ι)
  finished : Bool

namespace Writing

variable {ι : Type u} {α : Type v}

/-- Pieces of one part. -/
def puts (part : ι) (pieces : List (Nat × List UInt8)) : Writing ι where
  writes := pieces.map fun piece => { part, start := piece.1, bytes := piece.2 }
  finished := true

/-- Nothing, and no further. -/
def stopped : Writing ι where
  writes := []
  finished := false

/-- One computation, and another if it comes to its end. -/
def andThen (first second : Writing ι) : Writing ι :=
  if first.finished then
    { writes := first.writes ++ second.writes, finished := second.finished }
  else first

/-- A computation that needs a value. -/
def needing (value : Option α) (next : α -> Writing ι) : Writing ι :=
  value.elim stopped next

def run (writing : Writing ι) (dst : Buffer) : Option Buffer :=
  if writing.finished then
    some (writing.writes.foldl (fun dst write => dst.write write.start write.bytes) dst)
  else none

@[simp] theorem run_puts (part : ι) (pieces : List (Nat × List UInt8)) (dst : Buffer) :
    (puts part pieces).run dst =
      some (pieces.foldl (fun dst piece => dst.write piece.1 piece.2) dst) := by
  rw [run, puts, if_pos rfl, List.foldl_map]

@[simp] theorem run_andThen (first second : Writing ι) (dst : Buffer) :
    (first.andThen second).run dst = (first.run dst).bind second.run := by
  unfold andThen run
  cases whole : first.finished with
  | false => simp only [Bool.false_eq_true, if_false, whole, Option.bind_none]
  | true => simp only [if_true, Option.bind_some, List.foldl_append]

@[simp] theorem run_needing (value : Option α) (next : α -> Writing ι) (dst : Buffer) :
    (needing value next).run dst = value.bind fun value => (next value).run dst := by
  cases value with
  | none => rfl
  | some value => rfl

@[simp] theorem finished_puts (part : ι) (pieces : List (Nat × List UInt8)) :
    (puts part pieces).finished = true :=
  rfl

@[simp] theorem finished_andThen (first second : Writing ι) :
    (first.andThen second).finished = (first.finished && second.finished) := by
  unfold andThen
  cases whole : first.finished with
  | false => exact whole
  | true => rfl

@[simp] theorem finished_needing (value : Option α) (next : α -> Writing ι) :
    (needing value next).finished = value.any fun value => (next value).finished := by
  cases value with
  | none => rfl
  | some value => rfl

theorem finished_of_run {writing : Writing ι} {dst : Buffer} :
    (writing.run dst).isSome = writing.finished := by
  unfold run
  cases writing.finished with
  | false => rfl
  | true => rfl

/-! ## Where it stores -/

/-- A byte of the part is stored at the place. -/
def Stores (writing : Writing ι) (part : ι) (place : Nat) : Prop :=
  Exists fun write => write ∈ writing.writes ∧ write.part = part ∧
    write.start ≤ place ∧ place < write.start + write.bytes.length

variable {part other : ι} {place : Nat}

theorem stores_puts_iff {pieces : List (Nat × List UInt8)} :
    (puts part pieces).Stores other place ↔
      part = other ∧ Exists fun piece => piece ∈ pieces ∧
        piece.1 ≤ place ∧ place < piece.1 + piece.2.length := by
  constructor
  · rintro ⟨write, member, same, inside⟩
    rcases List.mem_map.mp member with ⟨piece, there, rfl⟩
    exact ⟨same, piece, there, inside⟩
  · rintro ⟨same, piece, member, inside⟩
    exact ⟨_, List.mem_map_of_mem member, same, inside⟩

theorem stores_andThen_iff {first second : Writing ι} :
    (first.andThen second).Stores part place ↔
      first.Stores part place ∨ first.finished = true ∧ second.Stores part place := by
  unfold andThen
  cases whole : first.finished with
  | false =>
      rw [if_neg Bool.false_ne_true]
      exact (or_iff_left fun impossible => Bool.false_ne_true impossible.1).symm
  | true =>
      rw [if_pos rfl]
      constructor
      · rintro ⟨write, member, inside⟩
        rcases List.mem_append.mp member with earlier | later
        · exact Or.inl ⟨write, earlier, inside⟩
        · exact Or.inr ⟨rfl, write, later, inside⟩
      · rintro (⟨write, member, inside⟩ | ⟨_, write, member, inside⟩)
        · exact ⟨write, List.mem_append_left _ member, inside⟩
        · exact ⟨write, List.mem_append_right _ member, inside⟩

theorem stores_needing_iff {value : Option α} {next : α -> Writing ι} :
    (needing value next).Stores part place ↔
      Exists fun given => value = some given ∧ (next given).Stores part place := by
  cases value with
  | none =>
      constructor
      · rintro ⟨write, member, _⟩
        cases member
      · rintro ⟨given, impossible, _⟩
        cases impossible
  | some given =>
      constructor
      · intro stores
        exact ⟨given, rfl, stores⟩
      · rintro ⟨_, same, stores⟩
        cases same
        exact stores

/-- Every byte stored is at a place that is right for its part. -/
def Each (writing : Writing ι) (right : ι -> Nat -> Prop) : Prop :=
  forall part place, writing.Stores part place -> right part place

variable {right : ι -> Nat -> Prop}

theorem each_puts_iff {pieces : List (Nat × List UInt8)} :
    (puts part pieces).Each right ↔ forall piece, piece ∈ pieces -> forall place,
      piece.1 ≤ place -> place < piece.1 + piece.2.length -> right part place := by
  constructor
  · intro each piece member place least most
    exact each part place (stores_puts_iff.mpr ⟨rfl, piece, member, least, most⟩)
  · intro each other place stores
    rcases stores_puts_iff.mp stores with ⟨rfl, piece, member, least, most⟩
    exact each piece member place least most

theorem each_andThen_iff {first second : Writing ι} :
    (first.andThen second).Each right ↔
      first.Each right ∧ (first.finished = true -> second.Each right) := by
  constructor
  · intro each
    refine ⟨fun part place stores => each part place ?_, fun whole part place stores =>
      each part place ?_⟩
    · exact stores_andThen_iff.mpr (Or.inl stores)
    · exact stores_andThen_iff.mpr (Or.inr ⟨whole, stores⟩)
  · rintro ⟨early, late⟩ part place stores
    rcases stores_andThen_iff.mp stores with earlier | ⟨whole, later⟩
    · exact early part place earlier
    · exact late whole part place later

theorem each_needing_iff {value : Option α} {next : α -> Writing ι} :
    (needing value next).Each right ↔
      forall given, value = some given -> (next given).Each right := by
  constructor
  · intro each given same part place stores
    exact each part place (stores_needing_iff.mpr ⟨given, same, stores⟩)
  · intro each part place stores
    rcases stores_needing_iff.mp stores with ⟨given, same, inner⟩
    exact each given same part place inner

/-! ## What goes outside -/

theorem outside_le_writes (writes : List (Write ι)) (dst : Buffer) :
    dst.outside ≤
      (writes.foldl (fun dst write => dst.write write.start write.bytes) dst).outside := by
  induction writes generalizing dst with
  | nil => exact Nat.le_refl _
  | cons write writes inductionHypothesis =>
      exact Nat.le_trans (Buffer.outside_le_write dst write.start write.bytes)
        (inductionHypothesis _)

theorem writes_outside_iff (writes : List (Write ι)) (dst : Buffer) :
    (writes.foldl (fun dst write => dst.write write.start write.bytes) dst).outside =
        dst.outside ↔
      forall write, write ∈ writes -> forall place, write.start ≤ place ->
        place < write.start + write.bytes.length -> place < dst.bytes.length := by
  induction writes generalizing dst with
  | nil => exact iff_of_true rfl fun _ member => nomatch member
  | cons write writes inductionHypothesis =>
      rw [List.foldl_cons, List.forall_mem_cons,
        ← Buffer.write_outside_iff dst write.start write.bytes]
      have least := Buffer.outside_le_write dst write.start write.bytes
      have most := outside_le_writes writes (dst.write write.start write.bytes)
      have rest := inductionHypothesis (dst.write write.start write.bytes)
      rw [Buffer.write_length] at rest
      rw [← rest]
      omega

/-- The count of an array stays as it is exactly if every place is inside. -/
theorem run_outside_iff {writing : Writing ι} {dst stored : Buffer}
    (runs : writing.run dst = some stored) :
    stored.outside = dst.outside ↔ writing.Each fun _ place => place < dst.bytes.length := by
  unfold run at runs
  split at runs
  · cases runs
    rw [writes_outside_iff]
    constructor
    · rintro inside _ place ⟨write, member, rfl, least, most⟩
      exact inside write member place least most
    · intro each write member place least most
      exact each write.part place ⟨write, member, rfl, least, most⟩
  · cases runs

end Writing
end Lib
