namespace Lib
namespace System

universe u v

/-!
# Systems that take steps

A system is a partial step function on states, driven by labels: a label that
cannot happen in a state answers `none`.  `Run` are the states reached by steps
that are allowed where they are taken; with every step allowed these are the
reachable states.  `Run.invariant` is the induction over a run.  `execute`
follows a list of labels, and `executeWithin` those that are allowed, so that a
single run can be computed.  Where each step has an answer, `serveAll_refines` is
the forward simulation by a model that always answers.
-/

variable {State : Type u} {Label : Type v}

/-- Take the steps of a list of labels, one after the other. -/
def execute (step : State -> Label -> Option State) : State -> List Label -> Option State
  | state, [] => some state
  | state, label :: labels => (step state label).bind fun after => execute step after labels

/-- The states reached by steps that were allowed. -/
inductive Run (step : State -> Label -> Option State) (allowed : State -> Label -> Prop)
    (start : State) : State -> Prop
  | start : Run step allowed start start
  | next {state after : State} (before : Run step allowed start state) (label : Label)
      (permitted : allowed state label) (moved : step state label = some after) :
      Run step allowed start after

variable {step : State -> Label -> Option State} {allowed : State -> Label -> Prop}

/-- What holds at the start and is kept by every allowed step holds in every
state reached. -/
theorem Run.invariant (property : State -> Prop)
    (kept : forall state label after, property state -> allowed state label ->
      step state label = some after -> property after)
    {start state : State} (initial : property start) (run : Run step allowed start state) :
    property state := by
  induction run with
  | start => exact initial
  | next _ label permitted moved inductionHypothesis =>
      exact kept _ label _ inductionHypothesis permitted moved

/-- A run in front of a run. -/
theorem Run.append {start middle final : State} (first : Run step allowed start middle)
    (second : Run step allowed middle final) : Run step allowed start final := by
  induction second with
  | start => exact first
  | next _ label permitted moved inductionHypothesis =>
      exact .next inductionHypothesis label permitted moved

/-- Labels that are allowed everywhere and can be followed make a run. -/
theorem run_of_execute {start final : State} {labels : List Label}
    (everywhere : forall label, label ∈ labels -> forall state, allowed state label)
    (executed : execute step start labels = some final) : Run step allowed start final := by
  induction labels generalizing start with
  | nil =>
      cases executed
      exact .start
  | cons label labels inductionHypothesis =>
      rcases Option.bind_eq_some_iff.mp executed with ⟨after, moved, rest⟩
      have first := Run.next .start label (everywhere label List.mem_cons_self start) moved
      exact Run.append first (inductionHypothesis
        (fun later member => everywhere later (List.mem_cons_of_mem _ member)) rest)

/-- Take the steps of a list of labels as long as they are allowed. -/
def executeWithin (step : State -> Label -> Option State) (allowed : State -> Label -> Prop)
    [forall state label, Decidable (allowed state label)] : State -> List Label -> Option State
  | state, [] => some state
  | state, label :: labels =>
      if allowed state label then
        (step state label).bind fun after => executeWithin step allowed after labels
      else none

theorem run_of_executeWithin [forall state label, Decidable (allowed state label)]
    {start final : State} {labels : List Label}
    (executed : executeWithin step allowed start labels = some final) :
    Run step allowed start final := by
  induction labels generalizing start with
  | nil =>
      cases executed
      exact .start
  | cons label labels inductionHypothesis =>
      rw [executeWithin] at executed
      by_cases permitted : allowed start label
      · rw [if_pos permitted] at executed
        rcases Option.bind_eq_some_iff.mp executed with ⟨after, moved, rest⟩
        exact Run.append (.next .start label permitted moved) (inductionHypothesis rest)
      · rw [if_neg permitted] at executed
        cases executed

/-- Every state on the way has the property, the first and the last included. -/
def Along (step : State -> Label -> Option State) (property : State -> Prop) :
    State -> List Label -> Prop
  | state, [] => property state
  | state, label :: labels =>
      property state ∧ forall after, step state label = some after ->
        Along step property after labels

/-- Every step on the way is allowed where it is taken. -/
def Within (step : State -> Label -> Option State) (allowed : State -> Label -> Prop) :
    State -> List Label -> Prop
  | _, [] => True
  | state, label :: labels =>
      forall after, step state label = some after ->
        allowed state label ∧ Within step allowed after labels

/-- Where a step from a good state keeps the property exactly if it is allowed, and then
leads to a good state, the property holds on the way exactly if every step is allowed. -/
theorem along_iff_within {property good : State -> Prop}
    (holds : forall state, good state -> property state)
    (exact' : forall state label after, good state -> step state label = some after ->
      (property after ↔ allowed state label))
    (kept : forall state label after, good state -> allowed state label ->
      step state label = some after -> good after)
    (labels : List Label) {start : State} (initial : good start) :
    Along step property start labels ↔ Within step allowed start labels := by
  induction labels generalizing start with
  | nil => exact ⟨fun _ => trivial, fun _ => holds start initial⟩
  | cons label labels inductionHypothesis =>
      constructor
      · rintro ⟨_, later⟩ after moved
        have here : property after := by
          cases labels with
          | nil => exact later after moved
          | cons next labels => exact (later after moved).1
        have permitted := (exact' start label after initial moved).mp here
        have good' := kept start label after initial permitted moved
        exact ⟨permitted, (inductionHypothesis good').mp (later after moved)⟩
      · intro within
        refine ⟨holds start initial, fun after moved => ?_⟩
        rcases within after moved with ⟨permitted, later⟩
        exact (inductionHypothesis (kept start label after initial permitted moved)).mpr later

/-! ## Step by step alike -/

section Alike

universe y

variable {Other : Type y} {step' : Other -> Label -> Option Other}
  {allowed' : Other -> Label -> Prop} {relates : State -> Other -> Prop}

/-- Systems whose steps are alike in related states have the same runs. -/
theorem execute_rel
    (alike : forall state other label, relates state other ->
      Option.Rel relates (step state label) (step' other label))
    (labels : List Label) {state : State} {other : Other} (related : relates state other) :
    Option.Rel relates (execute step state labels) (execute step' other labels) := by
  induction labels generalizing state other with
  | nil => exact .some related
  | cons label labels inductionHypothesis =>
      have next := alike state other label related
      rw [execute, execute]
      generalize step state label = one, step' other label = two at next ⊢
      cases next with
      | none => exact .none
      | some related => exact inductionHypothesis related

/-- What one of them allows on the way is what the other allows. -/
theorem within_iff_of_rel
    (alike : forall state other label, relates state other ->
      Option.Rel relates (step state label) (step' other label))
    (allows : forall state other label, relates state other ->
      (allowed state label ↔ allowed' other label))
    (labels : List Label) {state : State} {other : Other} (related : relates state other) :
    Within step allowed state labels ↔ Within step' allowed' other labels := by
  induction labels generalizing state other with
  | nil => exact Iff.rfl
  | cons label labels inductionHypothesis =>
      have next := alike state other label related
      rw [Within, Within]
      generalize step state label = one, step' other label = two at next ⊢
      cases next with
      | none =>
          refine iff_of_true ?_ ?_
          · exact fun _ impossible => nomatch impossible
          · exact fun _ impossible => nomatch impossible
      | some related' =>
          rename_i after after'
          have rest := inductionHypothesis related'
          constructor
          · intro within _ same
            cases same
            rcases within after rfl with ⟨permitted, later⟩
            exact ⟨(allows state other label related).mp permitted, rest.mp later⟩
          · intro within _ same
            cases same
            rcases within after' rfl with ⟨permitted, later⟩
            exact ⟨(allows state other label related).mpr permitted, rest.mpr later⟩

end Alike

/-! ## Systems that answer -/

section Service

universe w x

variable {Answer : Type w} {Model : Type x}

/-- Take requests one after the other, each to its end, and keep the answers. -/
def serveAll (serve : State -> Label -> Option (Answer × State)) :
    State -> List Label -> Option (List Answer × State)
  | state, [] => some ([], state)
  | state, request :: requests =>
      (serve state request).bind fun served =>
        (serveAll serve served.2 requests).map fun rest => (served.1 :: rest.1, rest.2)

/-- The same for a system that always answers. -/
def answerAll (respond : Model -> Label -> Answer × Model) :
    Model -> List Label -> List Answer × Model
  | model, [] => ([], model)
  | model, request :: requests =>
      let rest := answerAll respond (respond model request).2 requests
      ((respond model request).1 :: rest.1, rest.2)

/-- Every request is allowed in the state in which it is taken. -/
def Admitted (serve : State -> Label -> Option (Answer × State))
    (allowed : State -> Label -> Prop) : State -> List Label -> Prop
  | _, [] => True
  | state, request :: requests =>
      allowed state request ∧ forall served, serve state request = some served ->
        Admitted serve allowed served.2 requests

/-- The requests of a list can be checked one after the other. -/
def decideAdmitted (serve : State -> Label -> Option (Answer × State))
    (allowed : State -> Label -> Prop) [forall state label, Decidable (allowed state label)] :
    (state : State) -> (requests : List Label) -> Decidable (Admitted serve allowed state requests)
  | _, [] => inferInstanceAs (Decidable True)
  | state, request :: requests =>
      match served : serve state request with
      | none =>
          decidable_of_iff (allowed state request)
            ⟨fun permitted => ⟨permitted, fun _ impossible => by
                rw [served] at impossible
                cases impossible⟩,
              fun admitted => admitted.1⟩
      | some answered =>
          have : Decidable (Admitted serve allowed answered.2 requests) :=
            decideAdmitted serve allowed answered.2 requests
          decidable_of_iff (allowed state request ∧ Admitted serve allowed answered.2 requests)
            ⟨fun admitted => ⟨admitted.1, fun _ same => by
                rw [served] at same
                cases same
                exact admitted.2⟩,
              fun admitted => ⟨admitted.1, admitted.2 answered served⟩⟩

instance (serve : State -> Label -> Option (Answer × State)) (allowed : State -> Label -> Prop)
    [forall state label, Decidable (allowed state label)] (state : State) (requests : List Label) :
    Decidable (Admitted serve allowed state requests) :=
  decideAdmitted serve allowed state requests

/-- A system that answers each allowed request as a model does, and stays in a relation to
it, answers every sequence of them as the model does. -/
theorem serveAll_refines {serve : State -> Label -> Option (Answer × State)}
    {allowed : State -> Label -> Prop} {respond : Model -> Label -> Answer × Model}
    {refines : State -> Model -> Prop}
    (simulates : forall state model request, refines state model -> allowed state request ->
      Exists fun after => serve state request = some ((respond model request).1, after) ∧
        refines after (respond model request).2)
    (requests : List Label) {state : State} {model : Model} (related : refines state model)
    (admitted : Admitted serve allowed state requests) :
    Exists fun final =>
      serveAll serve state requests = some ((answerAll respond model requests).1, final) ∧
        refines final (answerAll respond model requests).2 := by
  induction requests generalizing state model with
  | nil => exact ⟨state, rfl, related⟩
  | cons request requests inductionHypothesis =>
      rcases admitted with ⟨permitted, later⟩
      rcases simulates state model request related permitted with ⟨after, served, kept⟩
      rcases inductionHypothesis kept (later _ served) with ⟨final, answers, ended⟩
      refine ⟨final, ?_, ended⟩
      rw [serveAll, served, Option.bind_some, answers]
      rfl

end Service

end System
end Lib
