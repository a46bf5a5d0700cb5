namespace PolicyServer

/-!
# Opening a connection

`sock_connect` against what the system calls answer.  A connection that cannot
be completed at once is waited for with `select`, which may be interrupted ten
times; whatever makes the socket writable then counts as a connection.
-/

def solSelectRetries : Nat := 10

/-- An answer of `select`, or of `errno` where it is negative. -/
inductive SelectResult where
  | ready
  | timeout
  | interrupted
  | failed
  deriving DecidableEq, Repr

/-- What the calls of one `sock_connect` answer. -/
structure ConnectEnv where
  addressOk : Bool
  sockoptsOk : Bool
  connected : Bool
  selects : List SelectResult
  deriving DecidableEq, Repr

/-- The `select` loop.  `none`: it is still waiting. -/
def selectLoop : (retry : Nat) -> List SelectResult -> Option Bool
  | _, [] => none
  | _, .ready :: _ => some true
  | _, .timeout :: _ => some false
  | _, .failed :: _ => some false
  | retry, .interrupted :: selects =>
      if solSelectRetries < retry + 1 then some false else selectLoop (retry + 1) selects

/-- `sock_connect`: whether the session counts as connected. -/
def sockConnect (env : ConnectEnv) : Option Bool :=
  if !env.addressOk then some false
  else if !env.sockoptsOk then some false
  else if env.connected then some true
  else selectLoop 0 env.selects

/-- The loop ends in a connection exactly if a ready socket comes after at most
as many interruptions as are left. -/
theorem selectLoop_connects_iff (retry : Nat) (selects : List SelectResult) :
    selectLoop retry selects = some true ↔
      Exists fun count => Exists fun rest =>
        selects = List.replicate count .interrupted ++ .ready :: rest ∧
          (count = 0 ∨ retry + count ≤ solSelectRetries) := by
  induction selects generalizing retry with
  | nil =>
      constructor
      · intro impossible
        cases impossible
      · rintro ⟨count, rest, impossible, _⟩
        exact absurd impossible.symm (List.append_ne_nil_of_right_ne_nil _ (List.cons_ne_nil _ _))
  | cons result selects inductionHypothesis =>
      cases result with
      | ready =>
          constructor
          · intro _
            exact ⟨0, selects, rfl, Or.inl rfl⟩
          · intro _
            rfl
      | timeout | failed =>
          constructor
          · intro impossible
            cases impossible
          · rintro ⟨count, rest, same, _⟩
            cases count <;> cases same
      | interrupted =>
          rw [selectLoop]
          constructor
          · intro connects
            by_cases spent : solSelectRetries < retry + 1
            · rw [if_pos spent] at connects
              cases connects
            · rw [if_neg spent] at connects
              rcases (inductionHypothesis (retry + 1)).mp connects with ⟨count, rest, same, few⟩
              refine ⟨count + 1, rest, ?_, Or.inr (by omega)⟩
              rw [same, List.replicate_succ, List.cons_append]
          · rintro ⟨count, rest, same, few⟩
            cases count with
            | zero => cases same
            | succ count =>
                rw [List.replicate_succ, List.cons_append] at same
                rw [if_neg (by omega)]
                exact (inductionHypothesis (retry + 1)).mpr
                  ⟨count, rest, (List.cons.inj same).2, by omega⟩

end PolicyServer
