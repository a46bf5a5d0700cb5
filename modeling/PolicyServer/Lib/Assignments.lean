import Mathlib.Data.List.Basic

namespace Lib

/-!
# Assignments one after the other

Items are read in order: an item is refused, whatever was read before it, or it assigns
values to parts of a state.  A list of items is read exactly if none of them is refused,
and then a part of the state is the last value that it was assigned.
-/

namespace Assignments

universe u v w x

variable {State : Type u} {Item : Type v} {Value : Type w} {Refusal : Type x}

/-- The last value that an item of the list gives. -/
def latest (gives : Item -> Option Value) : List Item -> Option Value
  | [] => none
  | item :: items => (latest gives items).or (gives item)

theorem latest_append (gives : Item -> Option Value) (before after : List Item) :
    latest gives (before ++ after) = (latest gives after).or (latest gives before) := by
  induction before with
  | nil => exact (Option.or_none).symm
  | cons item items inductionHypothesis =>
      rw [List.cons_append, latest, latest, inductionHypothesis, Option.or_assoc]

section Reading

variable {read : State -> Item -> Except Refusal State} {refuses : Item -> Option Refusal}
variable {next : State -> Item -> State}

/-- Reading does what the items say, and whether one is refused is up to the item. -/
def Reads (read : State -> Item -> Except Refusal State) (refuses : Item -> Option Refusal)
    (next : State -> Item -> State) : Prop :=
  forall state item,
    read state item = (refuses item).elim (.ok (next state item)) Except.error

end Reading

end Assignments
end Lib
