import Mathlib.Data.Fintype.Card

namespace Lib
namespace Loop

universe u

/-!
# Loops that need not end

A `while` loop is a guard and a body on one state type.  The body is partial:
a call inside it may itself never return, and then neither does the loop.
`run` spends at most the given number of iterations and answers `none` when
they do not suffice, so `Exits` says that the loop returns and `run` alone
does not.

The rules below are the ones a proof about a concrete loop uses: unfold one
iteration, follow a visited path, carry an invariant along it, or show that no
number of iterations suffices.  The last section bounds the iterations of a
loop whose control depends on finitely many keys: such a loop ends within that
many iterations or not at all.
-/

variable {State : Type u}

/-- `while (guard state) state := body state`, for at most `fuel` iterations. -/
def run (guard : State -> Bool) (body : State -> Option State) :
    Nat -> State -> Option State
  | 0, state => if guard state then none else some state
  | fuel + 1, state =>
      if guard state then (body state).bind (run guard body fuel) else some state

/-- The loop returns, in the given final state. -/
def Exits (guard : State -> Bool) (body : State -> Option State)
    (start final : State) : Prop :=
  Exists fun fuel => run guard body fuel start = some final

/-- The loop, entered at `start`, evaluates its guard in this state. -/
inductive Visits (guard : State -> Bool) (body : State -> Option State)
    (start : State) : State -> Prop
  | here : Visits guard body start start
  | next {state after : State} (before : Visits guard body start state)
      (entered : guard state = true) (moved : body state = some after) :
      Visits guard body start after

variable {guard : State -> Bool} {body : State -> Option State}

/-! ## One iteration -/

theorem run_of_done (fuel : Nat) {state : State} (done : guard state = false) :
    run guard body fuel state = some state := by
  cases fuel <;> simp only [run, done, Bool.false_eq_true, if_false]

theorem run_succ (fuel : Nat) {state after : State} (entered : guard state = true)
    (moved : body state = some after) :
    run guard body (fuel + 1) state = run guard body fuel after := by
  simp only [run, entered, if_true, moved, Option.bind_some]

/-- What a run that finishes did first. -/
theorem run_cases {fuel : Nat} {start final : State}
    (finished : run guard body fuel start = some final) :
    (guard start = false ∧ start = final) ∨
      Exists fun rest => Exists fun after => fuel = rest + 1 ∧ guard start = true ∧
        body start = some after ∧ run guard body rest after = some final := by
  cases entered : guard start with
  | false =>
      rw [run_of_done fuel entered] at finished
      exact Or.inl ⟨rfl, Option.some.inj finished⟩
  | true =>
      cases fuel with
      | zero => simp only [run, entered, if_true, reduceCtorEq] at finished
      | succ rest =>
          cases moved : body start with
          | none =>
              simp only [run, entered, if_true, moved, Option.bind_none, reduceCtorEq] at finished
          | some after =>
              rw [run_succ rest entered moved] at finished
              exact Or.inr ⟨rest, after, rfl, rfl, rfl, finished⟩

/-- Induction along a run that finishes, from its last state back to its first. -/
theorem run_induction {final : State} (property : Nat -> State -> Prop)
    (done : forall fuel, guard final = false -> property fuel final)
    (step : forall fuel start after, guard start = true -> body start = some after ->
      property fuel after -> property (fuel + 1) start)
    {fuel : Nat} {start : State} (finished : run guard body fuel start = some final) :
    property fuel start := by
  induction fuel generalizing start with
  | zero =>
      rcases run_cases finished with ⟨ended, rfl⟩ | ⟨rest, after, impossible, _⟩
      · exact done 0 ended
      · cases impossible
  | succ fuel inductionHypothesis =>
      rcases run_cases finished with ⟨ended, rfl⟩ | ⟨rest, after, same, entered, moved, later⟩
      · exact done (fuel + 1) ended
      · cases same
        exact step fuel start after entered moved (inductionHypothesis later)

/-- One more unit of fuel never loses a result. -/
theorem run_more {fuel : Nat} {start final : State}
    (finished : run guard body fuel start = some final) :
    run guard body (fuel + 1) start = some final := by
  refine run_induction (fun fuel start => run guard body (fuel + 1) start = some final) ?_ ?_
    finished
  · intro fuel done
    exact run_of_done (fuel + 1) done
  · intro fuel start after entered moved later
    exact (run_succ (fuel + 1) entered moved).trans later

theorem run_mono {fuel larger : Nat} {start final : State} (enough : fuel ≤ larger)
    (finished : run guard body fuel start = some final) :
    run guard body larger start = some final := by
  induction enough with
  | refl => exact finished
  | step _ inductionHypothesis => exact run_more inductionHypothesis

theorem exits_of_done {state : State} (done : guard state = false) :
    Exits guard body state state :=
  ⟨0, run_of_done 0 done⟩

theorem exits_of_done_iff {state final : State} (done : guard state = false) :
    Exits guard body state final ↔ state = final := by
  constructor
  · rintro ⟨fuel, finished⟩
    rw [run_of_done fuel done] at finished
    exact Option.some.inj finished
  · intro same
    exact same ▸ exits_of_done done

/-- Peel one iteration off a loop. -/
theorem exits_step_iff {state after final : State} (entered : guard state = true)
    (moved : body state = some after) :
    Exits guard body state final ↔ Exits guard body after final := by
  constructor
  · rintro ⟨fuel, finished⟩
    cases fuel with
    | zero => simp only [run, entered, if_true, reduceCtorEq] at finished
    | succ fuel => exact ⟨fuel, (run_succ fuel entered moved) ▸ finished⟩
  · rintro ⟨fuel, finished⟩
    exact ⟨fuel + 1, (run_succ fuel entered moved).trans finished⟩

/-- A call inside the body that does not return keeps the loop from returning. -/
theorem not_exits_of_stuck {state final : State} (entered : guard state = true)
    (stuck : body state = none) : ¬ Exits guard body state final := by
  rintro ⟨fuel, finished⟩
  cases fuel with
  | zero => simp only [run, entered, if_true, reduceCtorEq] at finished
  | succ fuel =>
      simp only [run, entered, if_true, stuck, Option.bind_none, reduceCtorEq] at finished

/-- A loop that returns has either met a failing guard or made an iteration. -/
theorem Exits.cases {start final : State} (exits : Exits guard body start final) :
    (guard start = false ∧ start = final) ∨
      Exists fun after => guard start = true ∧ body start = some after ∧
        Exits guard body after final := by
  rcases exits with ⟨fuel, finished⟩
  rcases run_cases finished with ended | ⟨rest, after, _, entered, moved, later⟩
  · exact Or.inl ended
  · exact Or.inr ⟨after, entered, moved, rest, later⟩

theorem Exits.unique {start first second : State} (left : Exits guard body start first)
    (right : Exits guard body start second) : first = second := by
  rcases left with ⟨fuel, finished⟩
  rcases right with ⟨other, finished'⟩
  have left := run_mono (Nat.le_max_left fuel other) finished
  have right := run_mono (Nat.le_max_right fuel other) finished'
  exact Option.some.inj (left.symm.trans right)

/-! ## Visited states -/

/-- Entering the loop one iteration later visits nothing new. -/
theorem Visits.after_step {state after last : State} (entered : guard state = true)
    (moved : body state = some after) (visits : Visits guard body after last) :
    Visits guard body state last := by
  induction visits with
  | here => exact .next .here entered moved
  | next _ entered moved inductionHypothesis => exact .next inductionHypothesis entered moved

theorem Visits.trans {start middle last : State} (first : Visits guard body start middle)
    (second : Visits guard body middle last) : Visits guard body start last := by
  induction second with
  | here => exact first
  | next _ entered moved inductionHypothesis => exact .next inductionHypothesis entered moved

/-- The loop has the same result from every state it visits. -/
theorem Visits.exits_iff {start state final : State} (visits : Visits guard body start state) :
    Exits guard body start final ↔ Exits guard body state final := by
  induction visits with
  | here => rfl
  | next _ entered moved inductionHypothesis =>
      exact inductionHypothesis.trans (exits_step_iff entered moved)

theorem Exits.visits {start final : State} (exits : Exits guard body start final) :
    Visits guard body start final := by
  rcases exits with ⟨fuel, finished⟩
  refine run_induction (fun _ start => Visits guard body start final) ?_ ?_ finished
  · intro _ _
    exact .here
  · intro _ start after entered moved later
    exact later.after_step entered moved

/-- The guard fails in the state a loop returns in. -/
theorem Exits.done {start final : State} (exits : Exits guard body start final) :
    guard final = false := by
  rcases exits with ⟨fuel, finished⟩
  exact run_induction (fun _ _ => guard final = false)
    (fun _ done => done) (fun _ _ _ _ _ later => later) finished

/-- A visited state in which the guard fails is where the loop returns. -/
theorem Visits.exits {start final : State} (visits : Visits guard body start final)
    (done : guard final = false) : Exits guard body start final :=
  visits.exits_iff.mpr (exits_of_done done)

/-- Two bodies that agree on the states visited make the same loop. -/
theorem run_congr {other : State -> Option State} {start : State}
    (same : forall state, Visits guard body start state -> guard state = true ->
      body state = other state) (fuel : Nat) :
    run guard body fuel start = run guard other fuel start := by
  induction fuel generalizing start with
  | zero => rfl
  | succ fuel inductionHypothesis =>
      cases entered : guard start with
      | false => rw [run_of_done (fuel + 1) entered, run_of_done (fuel + 1) entered]
      | true =>
          have first := same start .here entered
          simp only [run, entered, if_true, ← first]
          cases moved : body start with
          | none => rfl
          | some after =>
              exact inductionHypothesis fun state visits =>
                same state (visits.after_step entered moved)

/-! ## Invariants and traps -/

/-- What the start satisfies and an iteration keeps holds in every visited state. -/
theorem Visits.invariant (property : State -> Prop)
    (kept : forall state after, property state -> guard state = true ->
      body state = some after -> property after)
    {start state : State} (initial : property start) (visits : Visits guard body start state) :
    property state := by
  induction visits with
  | here => exact initial
  | next _ entered moved inductionHypothesis => exact kept _ _ inductionHypothesis entered moved

/-- A set of states that the loop cannot leave, and in which its guard holds. -/
theorem not_exits_of_trap (trapped : State -> Prop)
    (entered : forall state, trapped state -> guard state = true)
    (kept : forall state after, trapped state -> body state = some after -> trapped after)
    {start final : State} (caught : trapped start) : ¬ Exits guard body start final := by
  intro exits
  have inside : trapped final := exits.visits.invariant trapped
    (fun state after holds _ moved => kept state after holds moved) caught
  have done := exits.done
  rw [entered final inside] at done
  cases done

/-! ## Loops that advance -/

/-- Every iteration that is entered is finished, with a larger index. -/
def Advances (guard : State -> Bool) (body : State -> Option State) (index : State -> Nat)
    (start : State) : Prop :=
  forall state, Visits guard body start state -> guard state = true ->
    Exists fun after => body state = some after ∧ index state < index after

/-- A loop that advances and is not entered from `bound` on returns. -/
theorem Advances.exits {index : State -> Nat} {bound : Nat} {start : State}
    (advances : Advances guard body index start)
    (bounded : forall state, guard state = true -> index state < bound) :
    Exists fun final => Exits guard body start final := by
  have ends : forall left state, bound ≤ index state + left -> Visits guard body start state ->
      Exists fun final => Exits guard body state final := by
    intro left
    induction left with
    | zero =>
        intro state far visits
        cases entered : guard state with
        | false => exact ⟨state, exits_of_done entered⟩
        | true =>
            have small := bounded state entered
            omega
    | succ left inductionHypothesis =>
        intro state far visits
        cases entered : guard state with
        | false => exact ⟨state, exits_of_done entered⟩
        | true =>
            rcases advances state visits entered with ⟨after, moved, further⟩
            rcases inductionHypothesis after (by omega) (.next visits entered moved) with
              ⟨final, exits⟩
            exact ⟨final, (exits_step_iff entered moved).mpr exits⟩
  exact ends bound start (Nat.le_add_left bound _) .here

/-! ## Loops controlled by finitely many keys -/

/-- The state after exactly `count` iterations. -/
def after (guard : State -> Bool) (body : State -> Option State) : Nat -> State -> Option State
  | 0, state => some state
  | count + 1, state =>
      if guard state then (body state).bind (after guard body count) else none

theorem after_succ (count : Nat) {state next : State} (entered : guard state = true)
    (moved : body state = some next) :
    after guard body (count + 1) state = after guard body count next := by
  simp only [after, entered, if_true, moved, Option.bind_some]

/-- What some number of iterations did first. -/
theorem after_cases {count : Nat} {start final : State}
    (reached : after guard body (count + 1) start = some final) :
    Exists fun next => guard start = true ∧ body start = some next ∧
      after guard body count next = some final := by
  cases entered : guard start with
  | false => simp only [after, entered, Bool.false_eq_true, if_false, reduceCtorEq] at reached
  | true =>
      cases moved : body start with
      | none =>
          simp only [after, entered, if_true, moved, Option.bind_none, reduceCtorEq] at reached
      | some next =>
          rw [after_succ count entered moved] at reached
          exact ⟨next, rfl, rfl, reached⟩

theorem run_of_after {count : Nat} {start final : State}
    (reached : after guard body count start = some final) (done : guard final = false) :
    run guard body count start = some final := by
  induction count generalizing start with
  | zero => exact (run_of_done 0 (Option.some.inj reached ▸ done)).trans reached
  | succ count inductionHypothesis =>
      rcases after_cases reached with ⟨next, entered, moved, later⟩
      exact (run_succ count entered moved).trans (inductionHypothesis later)

/-- A returning loop makes some exact number of iterations, through states in
which the guard holds. -/
theorem Exits.count {start final : State} (exits : Exits guard body start final) :
    Exists fun count => after guard body count start = some final ∧
      forall i, i < count -> Exists fun state =>
        after guard body i start = some state ∧ guard state = true := by
  rcases exits with ⟨fuel, finished⟩
  refine run_induction (fun _ start => Exists fun count =>
    after guard body count start = some final ∧ forall i, i < count -> Exists fun state =>
      after guard body i start = some state ∧ guard state = true) ?_ ?_ finished
  · intro _ _
    exact ⟨0, rfl, fun i small => absurd small (Nat.not_lt_zero i)⟩
  · rintro _ start next entered moved ⟨count, reached, path⟩
    refine ⟨count + 1, (after_succ count entered moved).trans reached, ?_⟩
    intro i small
    cases i with
    | zero => exact ⟨start, rfl, entered⟩
    | succ i =>
        rcases path i (Nat.lt_of_succ_lt_succ small) with ⟨state, there, holds⟩
        exact ⟨state, (after_succ i entered moved).trans there, holds⟩

/-- Two states with one key run in step: `key` decides the guard, and the
body keeps equal keys equal. -/
structure ControlledBy (guard : State -> Bool) (body : State -> Option State)
    (key : State -> Nat) : Prop where
  guards : forall left right, key left = key right -> guard left = guard right
  bodies : forall left right left' right', key left = key right -> guard left = true ->
    body left = some left' -> body right = some right' -> key left' = key right'

theorem ControlledBy.after {key : State -> Nat} (controlled : ControlledBy guard body key)
    {count : Nat} {left right left' right' : State} (same : key left = key right)
    (leftRun : Loop.after guard body count left = some left')
    (rightRun : Loop.after guard body count right = some right') : key left' = key right' := by
  induction count generalizing left right with
  | zero =>
      cases leftRun
      cases rightRun
      exact same
  | succ count inductionHypothesis =>
      rcases after_cases leftRun with ⟨leftNext, entered, moved, leftLater⟩
      rcases after_cases rightRun with ⟨rightNext, _, moved', rightLater⟩
      exact inductionHypothesis (controlled.bodies left right _ _ same entered moved moved')
        leftLater rightLater

theorem after_add (first second : Nat) {start middle : State}
    (reached : Loop.after guard body first start = some middle) :
    Loop.after guard body (first + second) start = Loop.after guard body second middle := by
  induction first generalizing start with
  | zero =>
      cases reached
      rw [Nat.zero_add]
  | succ first inductionHypothesis =>
      rcases after_cases reached with ⟨next, entered, moved, later⟩
      rw [Nat.add_right_comm, after_succ (first + second) entered moved]
      exact inductionHypothesis later

/-- A loop controlled by the keys below `bound` returns within `bound`
iterations or never: a key met twice would be met for ever. -/
theorem ControlledBy.run_of_exits {key : State -> Nat} {bound : Nat}
    (controlled : ControlledBy guard body key)
    (bounded : forall state, guard state = true -> key state < bound)
    {start final : State} (exits : Exits guard body start final) :
    run guard body bound start = some final := by
  rcases exits.count with ⟨count, reached, path⟩
  have states : forall i : Fin count, Exists fun state =>
      Loop.after guard body i.val start = some state ∧ guard state = true :=
    fun i => path i.val i.isLt
  rcases Classical.axiomOfChoice states with ⟨visited, there⟩
  have injective : Function.Injective
      (fun i : Fin count => (⟨key (visited i), bounded _ (there i).2⟩ : Fin bound)) := by
    intro i j same
    have sameKey : key (visited i) = key (visited j) := congrArg Fin.val same
    -- The earlier of two visits with one key would already be as close to the end.
    have never : forall i j : Fin count, key (visited i) = key (visited j) ->
        ¬ i.val < j.val := by
      intro i j sameKey earlier
      have steps : Loop.after guard body (count - j.val) (visited j) = some final := by
        rw [← after_add j.val (count - j.val) (there j).1, Nat.add_sub_cancel' (Nat.le_of_lt j.isLt)]
        exact reached
      rcases path (i.val + (count - j.val)) (by omega) with ⟨state, met, holds⟩
      rw [after_add i.val (count - j.val) (there i).1] at met
      have equal := controlled.guards _ _ (controlled.after sameKey met steps)
      rw [holds, exits.done] at equal
      cases equal
    have first := never i j sameKey
    have second := never j i sameKey.symm
    exact Fin.ext (Nat.le_antisymm (Nat.le_of_not_lt second) (Nat.le_of_not_lt first))
  have few : count ≤ bound := by
    simpa only [Fintype.card_fin] using Fintype.card_le_of_injective _ injective
  exact run_mono few (run_of_after reached exits.done)

end Loop
end Lib
