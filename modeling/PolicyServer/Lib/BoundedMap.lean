import Mathlib.Data.Finmap

namespace Lib

/-!
# Bounded maps, and the slots that hold them

A bounded map is a finite map with at most `capacity` keys.  `Slots.Hold` says
that the slots below a counter are the entries of such a map, each key in one slot,
so that a scan of the slots is a lookup and the next free slot takes an insertion.
What stands in the slots from the counter on does not matter.
-/

universe u v

/-- A finite map with at most `capacity` keys. -/
structure BoundedMap (Key : Type u) (Value : Type v) (capacity : Nat) where
  entries : Finmap fun _ : Key => Value
  bounded : entries.keys.card ≤ capacity

variable {Key : Type u} {Value : Type v} {capacity : Nat}

namespace BoundedMap

def empty : BoundedMap Key Value capacity where
  entries := ∅
  bounded := Nat.zero_le capacity

def size (self : BoundedMap Key Value capacity) : Nat := self.entries.keys.card

variable [DecidableEq Key]

def lookup (self : BoundedMap Key Value capacity) (key : Key) : Option Value :=
  self.entries.lookup key

theorem keys_insert (entries : Finmap fun _ : Key => Value) (key : Key) (value : Value) :
    (entries.insert key value).keys = insert key entries.keys := by
  ext other
  rw [Finmap.mem_keys, Finmap.mem_insert, Finset.mem_insert, Finmap.mem_keys]

/-- A further entry, where there is room for it. -/
def insert (self : BoundedMap Key Value capacity) (key : Key) (value : Value)
    (room : self.size < capacity) : BoundedMap Key Value capacity where
  entries := self.entries.insert key value
  bounded := by
    rw [keys_insert]
    exact Nat.le_trans (Finset.card_insert_le _ _) room

@[simp] theorem lookup_empty (key : Key) :
    (empty : BoundedMap Key Value capacity).lookup key = none :=
  Finmap.lookup_empty key

section Insert

variable {self : BoundedMap Key Value capacity} {key : Key} {value : Value}
variable {room : self.size < capacity}

theorem size_insert (absent : self.lookup key = none) :
    (self.insert key value room).size = self.size + 1 := by
  have outside : key ∉ self.entries.keys :=
    fun member => Finmap.lookup_eq_none.mp absent (Finmap.mem_keys.mp member)
  rw [size, insert, keys_insert, Finset.card_insert_of_notMem outside, size]

@[simp] theorem lookup_insert_self : (self.insert key value room).lookup key = some value :=
  Finmap.lookup_insert self.entries

theorem lookup_insert_of_ne {other : Key} (different : other ≠ key) :
    (self.insert key value room).lookup other = self.lookup other :=
  Finmap.lookup_insert_of_ne self.entries different

end Insert

end BoundedMap

/-! ## Slots -/

namespace Slots

/-- The slots below `count` hold the entries of a map, and each key once. -/
structure Hold [DecidableEq Key] (slot : Nat -> Option (Key × Value)) (count : Nat)
    (map : BoundedMap Key Value capacity) : Prop where
  size : map.size = count
  filled : forall i, i < count -> Exists fun entry => slot i = some entry
  lookup : forall key value, map.lookup key = some value ↔
    Exists fun i => i < count ∧ slot i = some (key, value)
  once : forall i j key value other, i < count -> j < count -> slot i = some (key, value) ->
    slot j = some (key, other) -> i = j

variable [DecidableEq Key] {slot after : Nat -> Option (Key × Value)} {count : Nat}
  {map : BoundedMap Key Value capacity} {key : Key} {value : Value}

theorem hold_empty (slot : Nat -> Option (Key × Value)) :
    Hold slot 0 (BoundedMap.empty : BoundedMap Key Value capacity) where
  size := rfl
  filled := fun i below => absurd below (Nat.not_lt_zero i)
  lookup := by
    intro key value
    rw [BoundedMap.lookup_empty]
    constructor
    · intro impossible
      cases impossible
    · rintro ⟨i, below, _⟩
      exact absurd below (Nat.not_lt_zero i)
  once := fun i _ _ _ _ below => absurd below (Nat.not_lt_zero i)

namespace Hold

/-- A key is in the map exactly if it is in a slot. -/
theorem absent_iff (holds : Hold slot count map) :
    map.lookup key = none ↔ forall i value, i < count -> slot i ≠ some (key, value) := by
  rw [Option.eq_none_iff_forall_ne_some]
  constructor
  · intro absent i value below same
    exact absent value ((holds.lookup key value).mpr ⟨i, below, same⟩)
  · intro absent value same
    rcases (holds.lookup key value).mp same with ⟨i, below, there⟩
    exact absent i value below there

/-- The slots are only read below the counter. -/
theorem congr (holds : Hold slot count map) (same : forall i, i < count -> after i = slot i) :
    Hold after count map where
  size := holds.size
  filled := by
    intro i below
    rw [same i below]
    exact holds.filled i below
  lookup := by
    intro key value
    rw [holds.lookup]
    constructor
    · rintro ⟨i, below, there⟩
      exact ⟨i, below, (same i below).trans there⟩
    · rintro ⟨i, below, there⟩
      exact ⟨i, below, (same i below).symm.trans there⟩
  once := by
    intro i j key value other first second here there
    rw [same i first] at here
    rw [same j second] at there
    exact holds.once i j key value other first second here there

/-- A new key goes into the next slot. -/
theorem insert (holds : Hold slot count map) (absent : map.lookup key = none)
    (room : map.size < capacity) (same : forall i, i < count -> after i = slot i)
    (new : after count = some (key, value)) :
    Hold after (count + 1) (map.insert key value room) := by
  have kept := holds.congr same
  have outside := kept.absent_iff.mp absent
  refine ⟨?_, ?_, ?_, ?_⟩
  · rw [BoundedMap.size_insert absent, holds.size]
  · intro i below
    rcases Nat.lt_succ_iff_lt_or_eq.mp below with earlier | rfl
    · exact kept.filled i earlier
    · exact ⟨_, new⟩
  · intro other stored
    by_cases here : other = key
    · subst here
      rw [BoundedMap.lookup_insert_self]
      constructor
      · intro given
        cases given
        exact ⟨count, Nat.lt_succ_self count, new⟩
      · rintro ⟨i, below, there⟩
        rcases Nat.lt_succ_iff_lt_or_eq.mp below with earlier | rfl
        · exact absurd there (outside i stored earlier)
        · rw [new] at there
          cases there
          rfl
    · rw [BoundedMap.lookup_insert_of_ne here, kept.lookup]
      constructor
      · rintro ⟨i, earlier, there⟩
        exact ⟨i, Nat.lt_succ_of_lt earlier, there⟩
      · rintro ⟨i, below, there⟩
        rcases Nat.lt_succ_iff_lt_or_eq.mp below with earlier | rfl
        · exact ⟨i, earlier, there⟩
        · rw [new] at there
          cases there
          exact absurd rfl here
  · intro i j name first second belowFirst belowSecond here there
    rcases Nat.lt_succ_iff_lt_or_eq.mp belowFirst with earlier | rfl
    · rcases Nat.lt_succ_iff_lt_or_eq.mp belowSecond with alsoEarlier | rfl
      · exact kept.once i j name first second earlier alsoEarlier here there
      · rw [new] at there
        cases there
        exact absurd here (outside i first earlier)
    · rcases Nat.lt_succ_iff_lt_or_eq.mp belowSecond with earlier | rfl
      · rw [new] at here
        cases here
        exact absurd there (outside j second earlier)
      · rfl

/-- A scan of the slots for a key is a lookup. -/
theorem findSome (holds : Hold slot count map) (key : Key) :
    ((List.range count).findSome? fun i =>
      (slot i).bind fun entry => if entry.1 = key then some entry.2 else none) =
        map.lookup key := by
  -- a place gives a value exactly if its entry has the key
  have gives (i : Nat) (value : Value) :
      ((slot i).bind fun entry => if entry.1 = key then some entry.2 else none) = some value ↔
        slot i = some (key, value) := by
    rw [Option.bind_eq_some_iff]
    constructor
    · rintro ⟨⟨name, stored⟩, here, matches'⟩
      dsimp only at matches'
      split at matches'
      · rename_i same
        cases matches'
        rw [here, same]
      · cases matches'
    · intro here
      exact ⟨(key, value), here, if_pos rfl⟩
  cases looked : map.lookup key with
  | none =>
      refine List.findSome?_eq_none_iff.mpr fun i member => ?_
      refine Option.eq_none_iff_forall_ne_some.mpr fun value given => ?_
      exact holds.absent_iff.mp looked i value (List.mem_range.mp member) ((gives i value).mp given)
  | some value =>
      rcases (holds.lookup key value).mp looked with ⟨i, below, here⟩
      cases scanned : (List.range count).findSome? fun i =>
          (slot i).bind fun entry => if entry.1 = key then some entry.2 else none with
      | none =>
          have nothing := List.findSome?_eq_none_iff.mp scanned i (List.mem_range.mpr below)
          rw [(gives i value).mpr here] at nothing
          cases nothing
      | some other =>
          rcases List.exists_of_findSome?_eq_some scanned with ⟨j, member, given⟩
          have there := (gives j other).mp given
          have same := holds.once i j key value other below (List.mem_range.mp member) here there
          rw [← same, here] at there
          cases there
          rfl

end Hold

end Slots

end Lib
