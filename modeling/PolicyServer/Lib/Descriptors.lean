namespace Lib

universe u

/-!
# Tables of descriptors

A process has numbered descriptors, each of them free or held by somebody.  A
new one takes the lowest number that is free, and releasing a number frees it
whoever holds it.
-/

structure Descriptors (Holder : Type u) where
  slots : List (Option Holder)

namespace Descriptors

variable {Holder : Type u}

/-- Who holds a number. -/
def holder (self : Descriptors Holder) (fd : Nat) : Option Holder :=
  self.slots[fd]?.join

/-- The lowest number that is free. -/
def lowest (self : Descriptors Holder) : Nat :=
  self.slots.findIdx Option.isNone

/-- Give the lowest free number to a holder. -/
def taken (self : Descriptors Holder) (new : Holder) : Descriptors Holder where
  slots :=
    if self.lowest < self.slots.length then self.slots.set self.lowest (some new)
    else self.slots ++ [some new]

/-- Free a number. -/
def released (self : Descriptors Holder) (fd : Nat) : Descriptors Holder where
  slots := self.slots.set fd none

theorem lowest_le (self : Descriptors Holder) : self.lowest ≤ self.slots.length :=
  List.findIdx_le_length

/-- The lowest free number is free. -/
theorem holder_lowest (self : Descriptors Holder) : self.holder self.lowest = none := by
  by_cases inside : self.lowest < self.slots.length
  · have free : (self.slots[self.lowest]).isNone = true := List.findIdx_getElem
    rw [holder, List.getElem?_eq_getElem inside, Option.isNone_iff_eq_none.mp free]
    rfl
  · rw [holder, List.getElem?_eq_none (Nat.le_of_not_lt inside)]
    rfl

/-- Every lower number is held. -/
theorem holder_of_lt_lowest (self : Descriptors Holder) {fd : Nat} (below : fd < self.lowest) :
    (self.holder fd).isSome = true := by
  have inside : fd < self.slots.length := Nat.lt_of_lt_of_le below self.lowest_le
  have held : (self.slots[fd]).isNone = false := by
    simpa using List.not_of_lt_findIdx below
  rw [holder, List.getElem?_eq_getElem inside]
  cases slot : self.slots[fd] with
  | none =>
      rw [slot] at held
      cases held
  | some current => rfl

theorem holder_taken (self : Descriptors Holder) (new : Holder) (fd : Nat) :
    (self.taken new).holder fd = if fd = self.lowest then some new else self.holder fd := by
  have bound := self.lowest_le
  by_cases inside : self.lowest < self.slots.length
  · rw [taken, if_pos inside, holder, List.getElem?_set]
    by_cases same : self.lowest = fd
    · rw [if_pos same, if_pos inside, if_pos same.symm]
      rfl
    · rw [if_neg same, if_neg (Ne.symm same)]
      rfl
  · have atEnd : self.lowest = self.slots.length := by omega
    rw [taken, if_neg inside, holder, List.getElem?_append, atEnd]
    by_cases earlier : fd < self.slots.length
    · rw [if_pos earlier, if_neg (by omega)]
      rfl
    · rw [if_neg earlier]
      by_cases same : fd = self.slots.length
      · rw [if_pos same, same, Nat.sub_self]
        rfl
      · rw [if_neg same, holder, List.getElem?_eq_none (by rw [List.length_singleton]; omega),
          List.getElem?_eq_none (by omega)]

theorem holder_released (self : Descriptors Holder) (fd other : Nat) :
    (self.released fd).holder other = if other = fd then none else self.holder other := by
  rw [released, holder, List.getElem?_set]
  by_cases same : fd = other
  · rw [if_pos same, if_pos same.symm]
    by_cases inside : fd < self.slots.length
    · rw [if_pos inside]
      rfl
    · rw [if_neg inside]
      rfl
  · rw [if_neg same, if_neg (Ne.symm same)]
    rfl

/-- A number that has just been released is the next to be given out, if every
lower one is held. -/
theorem lowest_released (self : Descriptors Holder) {fd : Nat}
    (below : forall lower, lower < fd -> (self.holder lower).isSome = true) :
    (self.released fd).lowest = fd := by
  have free : (self.released fd).holder fd = none := by
    rw [holder_released, if_pos rfl]
  rcases Nat.lt_trichotomy (self.released fd).lowest fd with earlier | same | later
  · have taken := below _ earlier
    have lowestFree := (self.released fd).holder_lowest
    rw [holder_released, if_neg (Nat.ne_of_lt earlier)] at lowestFree
    rw [lowestFree] at taken
    cases taken
  · exact same
  · have taken := (self.released fd).holder_of_lt_lowest later
    rw [free] at taken
    cases taken

end Descriptors
end Lib
