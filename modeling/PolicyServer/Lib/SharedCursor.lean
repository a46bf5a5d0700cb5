import Mathlib.Logic.Function.Basic
import PolicyServer.Lib.System

namespace Lib
namespace SharedCursor

universe u

/-!
# Readers that share a cursor

A reader puts the cursor behind the first of its own items, and from then on takes what
comes behind the cursor, until nothing is left there.  Two readers share one cursor, and
take their steps in any order.  Each of them ends with its own items if no step of one
comes while the other is between its first item and its last; and if some step does, they
do not even end with the right numbers of items, as every item is taken once at most.
-/

inductive Reader where
  | first
  | second
  deriving DecidableEq, Repr

def Reader.other : Reader -> Reader
  | .first => .second
  | .second => .first

@[simp] theorem Reader.other_other (reader : Reader) : reader.other.other = reader := by
  cases reader <;> rfl

theorem Reader.other_ne (reader : Reader) : reader.other ≠ reader := by
  cases reader <;> decide

theorem Reader.eq_other {reader other : Reader} (different : other ≠ reader) :
    other = reader.other := by
  cases reader <;> cases other <;> first | rfl | exact absurd rfl different

/-- Numbers of both readers, from either side. -/
theorem Reader.add_other (number : Reader -> Nat) (reader : Reader) :
    number .first + number .second = number reader + number reader.other := by
  cases reader with
  | first => rfl
  | second => exact Nat.add_comm ..

inductive Place where
  | outside
  | reading
  | done
  deriving DecidableEq, Repr

structure Reading (Item : Type u) where
  place : Place
  taken : List Item

/-- What is behind the cursor, and where the readers are. -/
structure Readers (Item : Type u) where
  cursor : List Item
  readings : Reader -> Reading Item

variable {Item : Type u}

namespace Readers

/-- Nobody has begun. -/
def start (cursor : List Item) : Readers Item where
  cursor := cursor
  readings := fun _ => { place := .outside, taken := [] }

def put (self : Readers Item) (reader : Reader) (cursor : List Item) (reading : Reading Item) :
    Readers Item where
  cursor := cursor
  readings := Function.update self.readings reader reading

/-- One step of a reader; a reader without items cannot begin. -/
def step (items : Reader -> List Item) (self : Readers Item) (reader : Reader) :
    Option (Readers Item) :=
  let reading := self.readings reader
  match reading.place with
  | .outside =>
      match items reader with
      | [] => none
      | item :: rest => some (self.put reader rest { place := .reading, taken := [item] })
  | .reading =>
      match self.cursor with
      | [] => some (self.put reader [] { reading with place := .done })
      | item :: rest => some (self.put reader rest { reading with taken := reading.taken ++ [item] })
  | .done => none

/-- The other reader has none of its items, or all. -/
def Apart (items : Reader -> List Item) (self : Readers Item) (reader : Reader) : Prop :=
  (self.readings reader.other).taken.length = 0 ∨
    (self.readings reader.other).taken.length = (items reader.other).length

@[simp] theorem put_cursor (self : Readers Item) (reader : Reader) (cursor : List Item)
    (reading : Reading Item) : (self.put reader cursor reading).cursor = cursor := rfl

@[simp] theorem put_reading (self : Readers Item) (reader : Reader) (cursor : List Item)
    (reading : Reading Item) : (self.put reader cursor reading).readings reader = reading :=
  Function.update_self ..

@[simp] theorem put_other (self : Readers Item) (reader : Reader) (cursor : List Item)
    (reading : Reading Item) :
    (self.put reader cursor reading).readings reader.other = self.readings reader.other :=
  Function.update_of_ne reader.other_ne ..

/-! ## What one step can do -/

/-- A reader begins, takes an item, or finds none. -/
theorem step_cases {items : Reader -> List Item} {self after : Readers Item} {reader : Reader}
    (moved : self.step items reader = some after) :
    ((self.readings reader).place = .outside ∧ Exists fun item => Exists fun rest =>
        items reader = item :: rest ∧
          after = self.put reader rest { place := .reading, taken := [item] }) ∨
      (self.readings reader).place = .reading ∧
        ((self.cursor = [] ∧
            after = self.put reader []
              { place := .done, taken := (self.readings reader).taken }) ∨
          Exists fun item => Exists fun rest => self.cursor = item :: rest ∧
            after = self.put reader rest
              { place := .reading, taken := (self.readings reader).taken ++ [item] }) := by
  unfold step at moved
  dsimp only at moved
  cases place : (self.readings reader).place with
  | outside =>
      rw [place] at moved
      cases own : items reader with
      | nil =>
          rw [own] at moved
          cases moved
      | cons item rest =>
          rw [own] at moved
          cases moved
          exact Or.inl ⟨rfl, item, rest, rfl, rfl⟩
  | reading =>
      rw [place] at moved
      cases left : self.cursor with
      | nil =>
          rw [left] at moved
          cases moved
          exact Or.inr ⟨rfl, Or.inl ⟨rfl, rfl⟩⟩
      | cons item rest =>
          rw [left] at moved
          cases moved
          exact Or.inr ⟨rfl, Or.inr ⟨item, rest, rfl, rfl⟩⟩
  | done =>
      rw [place] at moved
      cases moved

variable {items : Reader -> List Item} {self after : Readers Item} {reader : Reader}

theorem step_other (moved : self.step items reader = some after) :
    after.readings reader.other = self.readings reader.other := by
  rcases step_cases moved with ⟨_, _, _, _, rfl⟩ | ⟨_, ⟨_, rfl⟩ | ⟨_, _, _, rfl⟩⟩ <;>
    exact put_other ..

/-- Who has begun stays in, and keeps what it has. -/
theorem begun_step (moved : self.step items reader = some after) {other : Reader}
    (begun : (self.readings other).place ≠ .outside) :
    (after.readings other).place ≠ .outside ∧
      (self.readings other).taken.length ≤ (after.readings other).taken.length := by
  by_cases same : other = reader
  · subst same
    rcases step_cases moved with ⟨outside, _⟩ | ⟨_, ⟨_, rfl⟩ | ⟨item, rest, _, rfl⟩⟩
    · exact absurd outside begun
    · rw [put_reading]
      exact ⟨Place.noConfusion, Nat.le_refl _⟩
    · rw [put_reading, List.length_append]
      exact ⟨Place.noConfusion, Nat.le_add_right ..⟩
  · rw [Reader.eq_other same] at begun ⊢
    rw [step_other moved]
    exact ⟨begun, Nat.le_refl _⟩

/-! ## What cannot end well -/

/-- Some reader has too many items, or both have begun and there are too few left. -/
def Doomed (items : Reader -> List Item) (self : Readers Item) : Prop :=
  (Exists fun reader => (self.readings reader).place ≠ .outside ∧
      (items reader).length < (self.readings reader).taken.length) ∨
    (forall reader, (self.readings reader).place ≠ .outside) ∧
      (self.readings .first).taken.length + (self.readings .second).taken.length +
        self.cursor.length < (items .first).length + (items .second).length

/-- Both have as many items as they are to get. -/
def Counted (items : Reader -> List Item) (self : Readers Item) : Prop :=
  forall reader, (self.readings reader).taken.length = (items reader).length

theorem not_counted_of_doomed (doomed : self.Doomed items) : ¬self.Counted items := by
  intro counted
  rcases doomed with ⟨reader, _, more⟩ | ⟨_, fewer⟩
  · exact Nat.lt_irrefl _ (counted reader ▸ more)
  · rw [counted .first, counted .second] at fewer
    omega

/-- Once both have begun, no item is added to what is taken and left. -/
theorem total_step (begun : (self.readings reader).place ≠ .outside)
    (moved : self.step items reader = some after) :
    (after.readings .first).taken.length + (after.readings .second).taken.length +
        after.cursor.length =
      (self.readings .first).taken.length + (self.readings .second).taken.length +
        self.cursor.length := by
  have both (readers : Readers Item) :=
    Reader.add_other (fun reader => (readers.readings reader).taken.length) reader
  rw [both after, both self, step_other moved]
  rcases step_cases moved with ⟨outside, _⟩ | ⟨_, ⟨empty, rfl⟩ | ⟨item, rest, left, rfl⟩⟩
  · exact absurd outside begun
  · rw [put_reading, put_cursor, empty]
  · rw [put_reading, put_cursor, left, List.length_append, List.length_singleton,
      List.length_cons]
    omega

theorem doomed_step (doomed : self.Doomed items) (moved : self.step items reader = some after) :
    after.Doomed items := by
  rcases doomed with ⟨other, begun, more⟩ | ⟨inside, fewer⟩
  · rcases begun_step moved begun with ⟨begun', kept⟩
    exact Or.inl ⟨other, begun', Nat.lt_of_lt_of_le more kept⟩
  · refine Or.inr ⟨fun other => (begun_step moved (inside other)).1, ?_⟩
    rw [total_step (inside reader) moved]
    exact fewer

theorem doomed_execute {schedule : List Reader} {final : Readers Item}
    (doomed : self.Doomed items) (executed : System.execute (step items) self schedule = some final) :
    final.Doomed items := by
  induction schedule generalizing self with
  | nil =>
      cases executed
      exact doomed
  | cons reader schedule inductionHypothesis =>
      rcases Option.bind_eq_some_iff.mp executed with ⟨after, moved, rest⟩
      exact inductionHypothesis (doomed_step doomed moved) rest

/-! ## What goes well -/

/-- The reader has not begun, or has its own items, all of them. -/
def Settled (items : List Item) (reading : Reading Item) : Prop :=
  reading.place = .outside ∧ reading.taken = [] ∨
    reading.place ≠ .outside ∧ reading.taken = items ∧ items ≠ []

/-- The reader that has begun last has the first of its own items, with the rest of them
behind the cursor. -/
structure Latest (items : Reader -> List Item) (readers : Readers Item) (reader : Reader)
    (count : Nat) : Prop where
  positive : 1 ≤ count
  most : count ≤ (items reader).length
  begun : (readers.readings reader).place ≠ .outside
  taken : (readers.readings reader).taken = (items reader).take count
  whole : (readers.readings reader).place = .done -> count = (items reader).length
  cursor : readers.cursor = (items reader).drop count
  other : Settled (items reader.other) (readers.readings reader.other)

def Good (items : Reader -> List Item) (self : Readers Item) : Prop :=
  (forall reader, (self.readings reader).place = .outside ∧ (self.readings reader).taken = []) ∨
    Exists fun reader => Exists fun count => self.Latest items reader count

theorem good_start (cursor : List Item) : (start cursor).Good items :=
  Or.inl fun _ => ⟨rfl, rfl⟩

theorem settled_count {own : List Item} {reading : Reading Item} (settled : Settled own reading) :
    reading.taken.length = 0 ∨ reading.taken.length = own.length := by
  rcases settled with ⟨_, none⟩ | ⟨_, all, _⟩
  · exact Or.inl (congrArg List.length none)
  · exact Or.inr (congrArg List.length all)

/-- A reader begins while the other is settled. -/
theorem latest_begun {item : Item} {rest : List Item} (own : items reader = item :: rest)
    (other : Settled (items reader.other) (self.readings reader.other)) :
    (self.put reader rest { place := .reading, taken := [item] }).Latest items reader 1 where
  positive := Nat.le_refl 1
  most := by
    rw [own, List.length_cons]
    exact Nat.succ_le_succ (Nat.zero_le _)
  begun := by
    rw [put_reading]
    exact Place.noConfusion
  taken := by
    rw [put_reading, own]
    rfl
  whole := by
    intro impossible
    rw [put_reading] at impossible
    cases impossible
  cursor := by
    rw [put_cursor, own]
    rfl
  other := by
    rw [put_other]
    exact other

/-- The reader that has begun last goes on. -/
theorem latest_next {count : Nat} (latest : self.Latest items reader count)
    (moved : self.step items reader = some after) :
    Exists fun more => after.Latest items reader more := by
  have other : Settled (items reader.other) (after.readings reader.other) :=
    (step_other moved).symm ▸ latest.other
  rcases step_cases moved with ⟨outside, _⟩ | ⟨_, ⟨empty, rfl⟩ | ⟨item, rest, left, rfl⟩⟩
  · exact absurd outside latest.begun
  · have all : (items reader).length ≤ count := List.drop_eq_nil_iff.mp (latest.cursor ▸ empty)
    refine ⟨count, latest.positive, latest.most, ?_, ?_, ?_, ?_, other⟩
    · rw [put_reading]
      exact Place.noConfusion
    · rw [put_reading]
      exact latest.taken
    · exact fun _ => Nat.le_antisymm latest.most all
    · rw [put_cursor, List.drop_eq_nil_iff.mpr all]
  · have behind : (items reader).drop count = item :: rest := latest.cursor ▸ left
    have inside : count < (items reader).length := by
      refine Nat.lt_of_not_le fun all => ?_
      rw [List.drop_eq_nil_iff.mpr all] at behind
      cases behind
    rw [List.drop_eq_getElem_cons inside] at behind
    rcases List.cons.inj behind with ⟨here, later⟩
    refine ⟨count + 1, Nat.le_add_left .., inside, ?_, ?_, ?_, ?_, other⟩
    · rw [put_reading]
      exact Place.noConfusion
    · rw [put_reading, latest.taken, List.take_succ_eq_append_getElem inside, here]
    · intro impossible
      rw [put_reading] at impossible
      cases impossible
    · rw [put_cursor, later]

/-- The other one takes a step when the latest has all its items. -/
theorem latest_apart (latest : self.Latest items reader (items reader).length)
    (moved : self.step items reader.other = some after) : after.Good items := by
  have own : (self.readings reader).taken = items reader := by
    rw [latest.taken, List.take_length]
  have empty : self.cursor = [] := by
    rw [latest.cursor, List.drop_length]
  have kept : after.readings reader = self.readings reader := by
    have same := step_other moved
    rwa [Reader.other_other] at same
  have whole : Settled (items reader) (self.readings reader) :=
    Or.inr ⟨latest.begun, own, List.ne_nil_of_length_pos latest.positive⟩
  rcases step_cases moved with ⟨_, item, rest, first, rfl⟩ | ⟨going, ⟨_, rfl⟩ | ⟨_, _, left, _⟩⟩
  · refine Or.inr ⟨reader.other, 1, latest_begun first ?_⟩
    rw [Reader.other_other]
    exact whole
  · have all : (self.readings reader.other).taken = items reader.other ∧
        items reader.other ≠ [] := by
      rcases latest.other with ⟨outside, _⟩ | ⟨_, all⟩
      · rw [going] at outside
        cases outside
      · exact all
    refine Or.inr ⟨reader, _, latest.positive, latest.most, ?_, ?_, fun _ => rfl, ?_, ?_⟩
    · rw [kept]
      exact latest.begun
    · rw [kept]
      exact latest.taken
    · rw [put_cursor, List.drop_length]
    · rw [put_reading]
      exact Or.inr ⟨Place.noConfusion, all⟩
  · rw [empty] at left
    cases left

/-- The other one takes a step too early. -/
theorem latest_disturbed {count : Nat} (latest : self.Latest items reader count)
    (fewer : count < (items reader).length) (moved : self.step items reader.other = some after) :
    after.Doomed items := by
  have kept : after.readings reader = self.readings reader := by
    have same := step_other moved
    rwa [Reader.other_other] at same
  have own : (self.readings reader).taken.length = count := by
    rw [latest.taken, List.length_take, Nat.min_eq_left latest.most]
  rcases step_cases moved with ⟨_, item, rest, first, rfl⟩ | ⟨going, ⟨empty, _⟩ | ⟨item, rest, _, rfl⟩⟩
  · refine Or.inr ⟨fun any => ?_, ?_⟩
    · by_cases same : any = reader
      · rw [same, kept]
        exact latest.begun
      · rw [Reader.eq_other same, put_reading]
        exact Place.noConfusion
    · rw [Reader.add_other (fun any => (items any).length) reader, Reader.add_other
        (fun any => ((self.put reader.other rest
          { place := .reading, taken := [item] }).readings any).taken.length) reader, kept,
        put_reading, put_cursor, own, first, List.length_singleton, List.length_cons]
      omega
  · rw [latest.cursor] at empty
    exact absurd (List.drop_eq_nil_iff.mp empty) (Nat.not_le.mpr fewer)
  · have all : (self.readings reader.other).taken = items reader.other ∧
        items reader.other ≠ [] := by
      rcases latest.other with ⟨outside, _⟩ | ⟨_, all⟩
      · rw [going] at outside
        cases outside
      · exact all
    refine Or.inl ⟨reader.other, ?_, ?_⟩
    · rw [put_reading]
      exact Place.noConfusion
    · rw [put_reading, List.length_append, all.1]
      exact Nat.lt_succ_self _

/-- A step goes well where the other reader is settled, and nowhere else. -/
theorem good_step (good : self.Good items) (moved : self.step items reader = some after) :
    (self.Apart items reader -> after.Good items) ∧
      (¬self.Apart items reader -> after.Doomed items) := by
  rcases good with untouched | ⟨latest, count, isLatest⟩
  · have none : Settled (items reader.other) (self.readings reader.other) :=
      Or.inl (untouched reader.other)
    refine ⟨fun _ => ?_, fun disturbed => absurd (settled_count none) disturbed⟩
    rcases step_cases moved with ⟨_, item, rest, own, rfl⟩ | ⟨going, _⟩
    · exact Or.inr ⟨reader, 1, latest_begun own none⟩
    · rw [(untouched reader).1] at going
      cases going
  by_cases same : reader = latest
  · subst same
    refine ⟨fun _ => ?_, fun disturbed => absurd (settled_count isLatest.other) disturbed⟩
    rcases latest_next isLatest moved with ⟨more, next⟩
    exact Or.inr ⟨reader, more, next⟩
  · rw [Reader.eq_other same] at moved ⊢
    have own : (self.readings latest).taken.length = count := by
      rw [isLatest.taken, List.length_take, Nat.min_eq_left isLatest.most]
    have apart : self.Apart items latest.other ↔ count = (items latest).length := by
      rw [Apart, Reader.other_other, own]
      exact or_iff_right (Nat.ne_of_gt isLatest.positive)
    rw [apart]
    refine ⟨?_, fun fewer => latest_disturbed isLatest (Nat.lt_of_le_of_ne isLatest.most fewer) moved⟩
    rintro rfl
    exact latest_apart isLatest moved

/-! ## Whole runs -/

/-- Where every step is one with the other reader settled, a run stays good. -/
theorem good_execute {schedule : List Reader} {final : Readers Item} (good : self.Good items)
    (executed : System.execute (step items) self schedule = some final)
    (within : System.Within (step items) (Apart items) self schedule) : final.Good items := by
  induction schedule generalizing self with
  | nil =>
      cases executed
      exact good
  | cons reader schedule inductionHypothesis =>
      rcases Option.bind_eq_some_iff.mp executed with ⟨after, moved, rest⟩
      rcases within after moved with ⟨apart, later⟩
      exact inductionHypothesis ((good_step good moved).1 apart) rest later

/-- A run that ends with the right numbers of items has no other step. -/
theorem within_of_counted {schedule : List Reader} {final : Readers Item} (good : self.Good items)
    (executed : System.execute (step items) self schedule = some final)
    (counted : final.Counted items) :
    System.Within (step items) (Apart items) self schedule := by
  induction schedule generalizing self with
  | nil => trivial
  | cons reader schedule inductionHypothesis =>
      rcases Option.bind_eq_some_iff.mp executed with ⟨after, moved, rest⟩
      intro other moved'
      rw [moved] at moved'
      cases moved'
      by_cases apart : self.Apart items reader
      · exact ⟨apart, inductionHypothesis ((good_step good moved).1 apart) rest⟩
      · have doomed := doomed_execute ((good_step good moved).2 apart) rest
        exact absurd counted (not_counted_of_doomed doomed)

/-- What a reader has taken in a good state is the first of its own. -/
theorem good_prefix (good : self.Good items) (reader : Reader) :
    (self.readings reader).taken <+: items reader := by
  rcases good with untouched | ⟨latest, count, isLatest⟩
  · rw [(untouched reader).2]
    exact List.nil_prefix
  by_cases same : reader = latest
  · rw [same, isLatest.taken]
    exact List.take_prefix ..
  · rw [Reader.eq_other same]
    rcases isLatest.other with ⟨_, none⟩ | ⟨_, all, _⟩
    · rw [none]
      exact List.nil_prefix
    · exact ⟨[], by rw [List.append_nil, all]⟩

/-- A reader that is done in a good state has all its items. -/
theorem good_done (good : self.Good items) {reader : Reader}
    (done : (self.readings reader).place = .done) :
    (self.readings reader).taken = items reader ∧ items reader ≠ [] := by
  rcases good with untouched | ⟨latest, count, isLatest⟩
  · rw [(untouched reader).1] at done
    cases done
  by_cases same : reader = latest
  · subst same
    rw [isLatest.taken, isLatest.whole done, List.take_length]
    exact ⟨rfl, List.ne_nil_of_length_pos (Nat.le_trans isLatest.positive isLatest.most)⟩
  · rw [Reader.eq_other same] at done ⊢
    rcases isLatest.other with ⟨outside, _⟩ | ⟨_, all⟩
    · rw [outside] at done
      cases done
    · exact all

/-- Where both readers are done, each has as many items as it is to get exactly if every
step was one with the other reader settled, and then it has its own. -/
theorem counted_iff {schedule : List Reader} {cursor : List Item} {final : Readers Item}
    (executed : System.execute (step items) (start cursor) schedule = some final) :
    (final.Counted items -> System.Within (step items) (Apart items) (start cursor) schedule) ∧
      (System.Within (step items) (Apart items) (start cursor) schedule ->
        forall reader, (final.readings reader).place = .done ->
          (final.readings reader).taken = items reader ∧ items reader ≠ []) :=
  ⟨within_of_counted (good_start cursor) executed, fun within _ done =>
    good_done (good_execute (good_start cursor) executed within) done⟩

/-- A reader that goes on alone gets the rest of its items. -/
theorem execute_rest (left : List Item) {taken : List Item}
    (going : self.readings reader = { place := .reading, taken }) (cursor : self.cursor = left) :
    Exists fun final =>
      System.execute (step items) self (List.replicate (left.length + 1) reader) = some final ∧
        final.readings reader = { place := .done, taken := taken ++ left } := by
  induction left generalizing self taken with
  | nil =>
      have moved : self.step items reader =
          some (self.put reader [] { place := .done, taken }) := by
        rw [step, going]
        dsimp only
        rw [cursor]
      refine ⟨self.put reader [] { place := .done, taken }, ?_, ?_⟩
      · exact Option.bind_eq_some_iff.mpr ⟨_, moved, rfl⟩
      · rw [put_reading, List.append_nil]
  | cons item left inductionHypothesis =>
      have moved : self.step items reader =
          some (self.put reader left { place := .reading, taken := taken ++ [item] }) := by
        rw [step, going]
        dsimp only
        rw [cursor]
      rcases inductionHypothesis (put_reading ..) (put_cursor ..) with ⟨final, executed, ended⟩
      refine ⟨final, ?_, ?_⟩
      · rw [List.length_cons, List.replicate_succ, System.execute, moved]
        exact executed
      · rw [ended, List.append_assoc, List.singleton_append]

/-- A reader alone gets its items. -/
theorem execute_alone {item : Item} {rest : List Item} (own : items reader = item :: rest)
    (cursor : List Item) :
    Exists fun final =>
      System.execute (step items) (start cursor)
          (List.replicate ((items reader).length + 1) reader) = some final ∧
        final.readings reader = { place := .done, taken := items reader } := by
  have moved : (start cursor).step items reader =
      some ((start cursor).put reader rest { place := .reading, taken := [item] }) := by
    rw [step]
    dsimp only [start]
    rw [own]
  rcases @execute_rest _ items _ _ rest _ (put_reading (start cursor) reader rest _)
    (put_cursor ..) with ⟨final, executed, ended⟩
  refine ⟨final, ?_, ?_⟩
  · rw [own, List.length_cons, List.replicate_succ, System.execute, moved]
    exact executed
  · rw [ended, own, List.singleton_append]

end Readers

end SharedCursor
end Lib
