import Mathlib.Algebra.BigOperators.Group.Finset.Piecewise
import Mathlib.Algebra.Order.BigOperators.Group.Finset

namespace Lib

/-!
# Allowances

Several writers share a store.  Each looks whether the store has room before it writes, and
writes no more than an allowance until it looks again.  The others may write between the
look and the writing, so the limit is passed, but by no more than one allowance for each
writer.  `Lent` is the invariant behind this: what is there and what the writers may still
write is bounded together.  `Lent.moved` are the ways in which a writer keeps it.
-/

/-- What is in the store and what each of the writers may still put there. -/
structure Lent (writers limit allowance size : Nat) (owed : Nat -> Nat) : Prop where
  each : forall writer, owed writer ≤ allowance
  total : size + (Finset.range writers).sum owed ≤ limit + writers * allowance

section Lent

variable {writers limit allowance size : Nat} {owed : Nat -> Nat}

theorem sum_le_allowances (each : forall writer, owed writer ≤ allowance) :
    (Finset.range writers).sum owed ≤ writers * allowance := by
  calc (Finset.range writers).sum owed
      ≤ (Finset.range writers).sum fun _ => allowance :=
        Finset.sum_le_sum fun writer _ => each writer
    _ = writers * allowance := by
        rw [Finset.sum_const_nat fun _ _ => rfl, Finset.card_range]

/-- A store with room may owe every writer its allowance. -/
theorem lent_of_room (room : size ≤ limit) (each : forall writer, owed writer ≤ allowance) :
    Lent writers limit allowance size owed :=
  ⟨each, Nat.add_le_add room (sum_le_allowances each)⟩

theorem Lent.size_le (lent : Lent writers limit allowance size owed) :
    size ≤ limit + writers * allowance :=
  Nat.le_trans (Nat.le_add_right _ _) lent.total

/-- One writer takes from what it may write, or finds room and may write anew, or leaves
the store within its own allowance. -/
theorem Lent.moved (lent : Lent writers limit allowance size owed) {writer after rest : Nat}
    (inside : writer < writers) (small : rest ≤ allowance)
    (moves : after + rest ≤ size + owed writer ∨ after ≤ limit ∨ after + rest ≤ allowance) :
    Lent writers limit allowance after (Function.update owed writer rest) := by
  have each : forall other, Function.update owed writer rest other ≤ allowance := by
    intro other
    by_cases same : other = writer
    · rw [same, Function.update_self]
      exact small
    · rw [Function.update_of_ne same]
      exact lent.each other
  have member : writer ∈ Finset.range writers := Finset.mem_range.mpr inside
  have split (value : Nat) := Finset.sum_update_of_mem member owed value
  rcases moves with paid | room | covered
  · refine ⟨each, ?_⟩
    have before := split (owed writer)
    rw [Function.update_eq_self] at before
    have total := lent.total
    rw [before] at total
    rw [split rest]
    omega
  · exact lent_of_room room each
  · refine ⟨each, ?_⟩
    have most : forall other, Function.update owed writer allowance other ≤ allowance := by
      intro other
      by_cases same : other = writer
      · rw [same, Function.update_self]
      · rw [Function.update_of_ne same]
        exact lent.each other
    have others : (Finset.range writers).sum (Function.update owed writer allowance) ≤
        writers * allowance := sum_le_allowances most
    rw [split allowance] at others
    rw [split rest]
    omega

end Lent

end Lib
