import PolicyServer.Conf
import PolicyServer.Pack

namespace PolicyServer

/-!
# The connection manager

`lcm.c`.  A manager keeps at most `maxpep` clients, where `maxpep` is the option
`max_pep` stored in a `size_t`.  The clients stand at the indices below `count`
of an array of `MAXROOM` entries; here they are the list of these, and an index
past the array is written down like any other.
-/

/-- `MAXROOM`. -/
def maxroom : Nat := 20

/-- A session as its manager sees it. -/
structure Client where
  cmtsAddr : String
  deriving DecidableEq, Repr

structure Lcm where
  maxpep : Nat
  clients : List Client
  deriving DecidableEq, Repr

def Lcm.count (self : Lcm) : Nat := self.clients.length

/-- `lcm_init`, where `initialized` is whether the lock is. -/
def lcmInit (maxpep : Int32) (initialized : Bool) : Option Lcm :=
  let self : Lcm := { maxpep := sizeT maxpep.toInt, clients := [] }
  if 20 < maxpep then none
  else if !initialized then none
  else some self

/-- What a lookup answers, and whether it returned with the manager's lock
held. -/
structure Lookup where
  found : Option Client
  held : Bool
  deriving DecidableEq, Repr

/-- The loop of `lcm_getps` over the clients from position `i` on.  It returns in
its middle when a client's lock cannot be taken, and does not unlock. -/
def lcmGetpsLoop (ip : String) (eventLocked : Nat -> Bool) : (i : Nat) -> List Client -> Lookup
  | _, [] => { found := none, held := false }
  | i, temp :: clients =>
      if !eventLocked i then { found := none, held := true }
      else if temp.cmtsAddr = ip then { found := some temp, held := false }
      else lcmGetpsLoop ip eventLocked (i + 1) clients

/-- `lcm_getps`. -/
def lcmGetps (self : Lcm) (ip : String) (locked : Bool) (eventLocked : Nat -> Bool) : Lookup :=
  if !locked then { found := none, held := false }
  else lcmGetpsLoop ip eventLocked 0 self.clients

/-- `lcm_alloc_ok`: `LCM_OK` is `true` and `LCM_ERR` is `false`. -/
def lcmAllocOk (self : Lcm) (locked : Bool) : Bool :=
  if !locked then false
  else if self.maxpep ≤ self.count then false
  else true

/-- What `lcm_set` does: the manager, the position it returns as an `int` and the
index it wrote. -/
structure Stored where
  lcm : Lcm
  pos : Int32
  written : Option Nat
  deriving DecidableEq, Repr

/-- `lcm_set`. -/
def lcmSet (self : Lcm) (conn : Client) (locked : Bool) : Stored :=
  if !locked then { lcm := self, pos := -1, written := none }
  else
    { lcm := { self with clients := self.clients ++ [conn] }
      pos := Int32.ofNat self.count
      written := some self.count }

/-! ## The limit -/

/-- A manager that a value of `max_pep` gives: some setting with that value is
accepted, and `lcm_init` answers the manager. -/
structure Configured (maxPep : Int32) (lcm : Lcm) : Prop where
  accepted : Exists fun setting => AcceptsMaxPep setting maxPep
  made : Exists fun initialized => lcmInit maxPep initialized = some lcm

theorem lcmInit_eq_some {maxPep : Int32} {initialized : Bool} {lcm : Lcm}
    (made : lcmInit maxPep initialized = some lcm) :
    maxPep.toInt ≤ maxroom ∧ lcm = { maxpep := sizeT maxPep.toInt, clients := [] } := by
  unfold lcmInit at made
  by_cases large : 20 < maxPep
  · rw [if_pos large] at made
    cases made
  · rw [if_neg large] at made
    cases initialized with
    | false => cases made
    | true =>
        cases made
        refine ⟨?_, rfl⟩
        exact Int.not_lt.mp fun more => large (Int32.lt_iff_toInt_lt.mpr more)

/-- A limit that is not negative is kept as it is. -/
theorem sizeT_of_nonneg {value : Int32} (nonneg : 0 ≤ value.toInt) :
    (sizeT value.toInt : Int) = value.toInt := by
  have small := value.toInt_lt
  unfold sizeT
  omega

/-- A negative one becomes a limit that no table reaches. -/
theorem sizeT_of_neg {value : Int32} (negative : value.toInt < 0) :
    9223372036854775808 ≤ sizeT value.toInt := by
  have small := value.le_toInt
  unfold sizeT
  omega

/-- A lookup finds no address that is not there. -/
theorem lcmGetpsLoop_absent {ip : String} {clients : List Client}
    (absent : forall client, client ∈ clients -> client.cmtsAddr ≠ ip) (i : Nat) :
    lcmGetpsLoop ip (fun _ => true) i clients = { found := none, held := false } := by
  induction clients generalizing i with
  | nil => rfl
  | cons temp clients inductionHypothesis =>
      rw [lcmGetpsLoop, if_neg (by decide), if_neg (absent temp List.mem_cons_self)]
      exact inductionHypothesis (fun client member => absent client (List.mem_cons_of_mem _ member))
        (i + 1)

theorem lcmAllocOk_iff (self : Lcm) (locked : Bool) :
    lcmAllocOk self locked = true ↔ locked = true ∧ self.count < self.maxpep := by
  unfold lcmAllocOk
  cases locked with
  | false => simp only [Bool.not_false, if_true, Bool.false_eq_true, false_and]
  | true =>
      by_cases full : self.maxpep ≤ self.count
      · simp only [Bool.not_true, Bool.false_eq_true, if_false, if_pos full, true_and,
          Nat.not_lt.mpr full]
      · simp only [Bool.not_true, Bool.false_eq_true, if_false, if_neg full, true_and,
          Nat.lt_of_not_le full]

end PolicyServer
