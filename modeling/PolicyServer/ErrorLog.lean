import PolicyServer.Pack
import PolicyServer.Lib.Allowances
import PolicyServer.Lib.System

namespace PolicyServer

open Lib

/-!
# The error log

Every thread writes its warnings and errors to one file, without a lock.  `_log` opens the
file, asks for its size, and either writes behind what is there or empties the file first;
`debug_raw` writes without asking.  Each system call is a step, so that the threads may
come in between: a stream that was opened for writing has its own place in the file, one
that was opened for appending has none.

The file gets bigger than the configured size, but by no more than what each thread writes
between two of its own questions (`errorLog_bounded`).
-/

/-! ## Levels -/

inductive LogLevel where
  | info
  | debug
  | dev
  | warn
  | error
  | fatal
  deriving DecidableEq, Repr

def LogLevel.code : LogLevel -> Int
  | .info => 0
  | .debug => 1
  | .dev => 2
  | .warn => 3
  | .error => 4
  | .fatal => 5

/-- `GLOBAL_LOGGER`, but for what concerns the console and the logs of single threads. -/
structure Logger where
  level : Int
  maxFileSize : Nat
  stdoutWrite : Bool
  deriving Repr

def globalLogconf (level maxFsize : Int32) (stdoutW : Bool) : Logger where
  level := level.toInt
  maxFileSize := sizeT maxFsize.toInt
  stdoutWrite := stdoutW

/-- `log_wrap` goes on to `_log`. -/
def Logger.wraps (logger : Logger) (level : LogLevel) : Bool :=
  ¬ (level.code < LogLevel.warn.code ∧ logger.level < level.code)

/-- `_log` writes to the error log. -/
def LogLevel.isError (level : LogLevel) : Bool :=
  level = .error ∨ level = .fatal ∨ level = .warn

/-! ## The file and the threads -/

/-- A stream of the C library with nothing buffered. -/
structure Stream where
  appends : Bool
  pos : Nat
  deriving DecidableEq, Repr

/-- What a write leaves of a file.  Behind the end of a file that was emptied meanwhile the
gap is filled with zeros. -/
def Stream.put (stream : Stream) (content bytes : List UInt8) : List UInt8 :=
  if stream.appends then content ++ bytes
  else
    (content ++ List.replicate (stream.pos - content.length) 0).take stream.pos ++ bytes ++
      content.drop (stream.pos + bytes.length)

/-- The stream behind so many bytes. -/
def Stream.advance (stream : Stream) (count : Nat) : Stream :=
  if stream.appends then stream else { stream with pos := stream.pos + count }

/-- A line of `_log`, and what `debug_raw` prints. -/
inductive Entry where
  | line (text : List UInt8)
  | dump (text : List UInt8)
  deriving DecidableEq, Repr

/-- Where a thread is. -/
inductive LogPlace where
  | idle
  /-- behind `access`, which has found the file or not -/
  | looked (there : Bool) (entry : Entry)
  /-- behind `fopen` -/
  | opened (stream : Stream) (entry : Entry)
  /-- in `log_getfsize`, behind the first `fclose` -/
  | full (text : List UInt8)
  /-- behind `fclose(fopen(path, "w"))` -/
  | emptied (text : List UInt8)
  /-- between the writes of `fprintf` and `fflush` -/
  | writing (stream : Stream) (rest : List UInt8)
  deriving DecidableEq, Repr

structure ErrorLog where
  /-- `none` where there is no file -/
  content : Option (List UInt8)
  threads : Nat -> LogPlace
  /-- what a thread has dumped since it asked for the size -/
  spent : Nat -> Nat

inductive LogLabel where
  | log (thread : Nat) (level : LogLevel) (text : List UInt8)
  | dump (thread : Nat) (text : List UInt8)
  /-- `fopen` -/
  | open (thread : Nat)
  /-- `pthread_specific_fsize` -/
  | check (thread : Nat)
  /-- the first `fopen(path, "w")` of `log_getfsize` -/
  | purge (thread : Nat)
  /-- the second -/
  | reopen (thread : Nat)
  | write (thread : Nat) (count : Nat)
  /-- `fclose` -/
  | close (thread : Nat)
  deriving DecidableEq, Repr

namespace ErrorLog

def start (content : Option (List UInt8)) : ErrorLog where
  content := content
  threads := fun _ => .idle
  spent := fun _ => 0

def move (self : ErrorLog) (thread : Nat) (place : LogPlace) : ErrorLog :=
  { self with threads := Function.update self.threads thread place }

def size (self : ErrorLog) : Nat := (self.content.getD []).length

/-- `fopen`, to append where `access` has found the file. -/
def openStep (self : ErrorLog) (thread : Nat) (there : Bool) (entry : Entry) : ErrorLog :=
  if there then
    { self.move thread (.opened { appends := true, pos := 0 } entry) with
      content := some (self.content.getD []) }
  else
    { self.move thread (.opened { appends := false, pos := 0 } entry) with content := some [] }

def step (logger : Logger) (self : ErrorLog) : LogLabel -> Option ErrorLog
  | .log thread level text =>
      match self.threads thread with
      | .idle =>
          if logger.wraps level ∧ level.isError then
            some (self.move thread (.looked self.content.isSome (.line text)))
          else some self
      | _ => none
  | .dump thread text =>
      match self.threads thread with
      | .idle =>
          some { self.move thread (.looked self.content.isSome (.dump text)) with
            spent := Function.update self.spent thread (self.spent thread + text.length) }
      | _ => none
  | .open thread =>
      match self.threads thread with
      | .looked there entry => some (self.openStep thread there entry)
      | _ => none
  | .check thread =>
      match self.threads thread with
      | .opened stream (.line text) =>
          if self.size < logger.maxFileSize then
            some { self.move thread (.writing stream text) with
              spent := Function.update self.spent thread 0 }
          else some (self.move thread (.full text))
      | .opened stream (.dump text) =>
          -- where nothing is printed, the stream stays open and is never used
          if logger.stdoutWrite then some (self.move thread (.writing stream text))
          else some (self.move thread .idle)
      | _ => none
  | .purge thread =>
      match self.threads thread with
      | .full text => some { self.move thread (.emptied text) with content := some [] }
      | _ => none
  | .reopen thread =>
      match self.threads thread with
      | .emptied text =>
          some { self.move thread (.writing { appends := false, pos := 0 } text) with
            content := some []
            spent := Function.update self.spent thread 0 }
      | _ => none
  | .write thread count =>
      match self.threads thread with
      | .writing stream rest =>
          if 0 < count ∧ count ≤ rest.length then
            some { self.move thread (.writing (stream.advance count) (rest.drop count)) with
              content := some (stream.put (self.content.getD []) (rest.take count)) }
          else none
      | _ => none
  | .close thread =>
      match self.threads thread with
      | .writing _ [] => some (self.move thread .idle)
      | _ => none

/-- No line is longer than this, and no thread dumps more than that before it asks for the
size. -/
def Allowed (longest dumps threads : Nat) (self : ErrorLog) : LogLabel -> Prop
  | .log thread _ text => thread < threads ∧ text.length ≤ longest
  | .dump thread text => thread < threads ∧ self.spent thread + text.length ≤ dumps
  | .open thread | .check thread | .purge thread | .reopen thread | .write thread _
  | .close thread => thread < threads

instance (longest dumps threads : Nat) (self : ErrorLog) (label : LogLabel) :
    Decidable (Allowed longest dumps threads self label) :=
  match label with
  | .log _ _ _ | .dump _ _ => inferInstanceAs (Decidable (_ ∧ _))
  | .open _ | .check _ | .purge _ | .reopen _ | .write _ _ | .close _ =>
      inferInstanceAs (Decidable (_ < _))

/-! ## What the file may get to -/

end ErrorLog

theorem Stream.put_length (stream : Stream) (content bytes : List UInt8) :
    (stream.put content bytes).length =
      if stream.appends then content.length + bytes.length
      else max content.length (stream.pos + bytes.length) := by
  unfold put
  split
  · rw [List.length_append]
  · rw [List.length_append, List.length_append, List.length_take, List.length_append,
      List.length_replicate, List.length_drop]
    omega

/-- What a thread may still write before it asks for the size, where it may dump so many
bytes more. -/
def LogPlace.owed (spare : Nat) : LogPlace -> Nat
  | .idle | .looked _ (.line _) | .opened _ (.line _) | .full _ | .emptied _ => spare
  | .looked _ (.dump text) | .opened _ (.dump text) => text.length + spare
  | .writing stream rest => (if stream.appends then rest.length else 0) + spare

/-- What a thread holds is within its bounds, and so is the place it has in the file. -/
def LogPlace.Fits (longest dumps spare : Nat) : LogPlace -> Prop
  | .idle => True
  | .looked _ (.line text) | .full text | .emptied text => text.length ≤ longest
  | .looked _ (.dump text) => text.length + spare ≤ dumps
  | .opened stream (.line text) => stream.pos = 0 ∧ text.length ≤ longest
  | .opened stream (.dump text) => stream.pos = 0 ∧ text.length + spare ≤ dumps
  | .writing stream rest => stream.pos + rest.length + spare ≤ longest + dumps

theorem LogPlace.owed_le {longest dumps spare : Nat} {place : LogPlace}
    (fits : place.Fits longest dumps spare) (few : spare ≤ dumps) :
    place.owed spare ≤ longest + dumps := by
  cases place with
  | idle | full text | emptied text => exact Nat.le_trans few (Nat.le_add_left _ _)
  | looked there entry =>
      cases entry with
      | line text => exact Nat.le_trans few (Nat.le_add_left _ _)
      | dump text => exact Nat.le_trans fits (Nat.le_add_left _ _)
  | opened stream entry =>
      cases entry with
      | line text => exact Nat.le_trans few (Nat.le_add_left _ _)
      | dump text => exact Nat.le_trans fits.2 (Nat.le_add_left _ _)
  | writing stream rest =>
      have within : stream.pos + rest.length + spare ≤ longest + dumps := fits
      rw [owed]
      split <;> omega

namespace ErrorLog

/-- The bytes a thread may still dump. -/
def spare (dumps : Nat) (self : ErrorLog) (thread : Nat) : Nat :=
  dumps - self.spent thread

structure Bounded (longest dumps threads limit : Nat) (log : ErrorLog) : Prop where
  fits : forall thread, (log.threads thread).Fits longest dumps (log.spare dumps thread)
  lent : Lent threads limit (longest + dumps) log.size
    fun thread => (log.threads thread).owed (log.spare dumps thread)

section Bounded

variable {longest dumps threads limit : Nat} {self after : ErrorLog}

/-- A thread moves on, and keeps what it may still write. -/
theorem Bounded.moved (bounded : self.Bounded longest dumps threads limit) {thread spent : Nat}
    {place : LogPlace} (inside : thread < threads)
    (moves : after.threads = Function.update self.threads thread place)
    (spends : after.spent = Function.update self.spent thread spent)
    (fits : place.Fits longest dumps (dumps - spent))
    (writes : after.size + place.owed (dumps - spent) ≤
        self.size + (self.threads thread).owed (self.spare dumps thread) ∨
      after.size ≤ limit ∨ after.size + place.owed (dumps - spent) ≤ longest + dumps) :
    after.Bounded longest dumps threads limit := by
  have here : after.threads thread = place ∧ after.spare dumps thread = dumps - spent := by
    rw [spare, moves, spends, Function.update_self, Function.update_self]
    exact ⟨rfl, rfl⟩
  have there {other : Nat} (apart : other ≠ thread) : after.threads other = self.threads other ∧
      after.spare dumps other = self.spare dumps other := by
    rw [spare, spare, moves, spends, Function.update_of_ne apart, Function.update_of_ne apart]
    exact ⟨rfl, rfl⟩
  have owes : (fun other => (after.threads other).owed (after.spare dumps other)) =
      Function.update (fun other => (self.threads other).owed (self.spare dumps other)) thread
        (place.owed (dumps - spent)) := by
    funext other
    by_cases same : other = thread
    · rw [same, here.1, here.2, Function.update_self]
    · rw [(there same).1, (there same).2, Function.update_of_ne same]
  refine ⟨?_, ?_⟩
  · intro other
    by_cases same : other = thread
    · rw [same, here.1, here.2]
      exact fits
    · rw [(there same).1, (there same).2]
      exact bounded.fits other
  · rw [owes]
    exact bounded.lent.moved inside (LogPlace.owed_le fits (Nat.sub_le _ _)) writes

theorem bounded_start (content : Option (List UInt8)) (enough : (start content).size ≤ limit) :
    (start content).Bounded longest dumps threads limit where
  fits := fun _ => trivial
  lent := lent_of_room enough fun _ => Nat.le_trans (Nat.sub_le _ _) (Nat.le_add_left _ _)

theorem Bounded.fits_of (bounded : self.Bounded longest dumps threads limit) {thread : Nat}
    {place : LogPlace} (there : self.threads thread = place) :
    place.Fits longest dumps (self.spare dumps thread) :=
  there ▸ bounded.fits thread

/-- A thread goes on that dumps nothing new, and the file is no longer than it was. -/
theorem Bounded.goes_on (bounded : self.Bounded longest dumps threads limit) {thread : Nat}
    {before place : LogPlace} {content : Option (List UInt8)} (inside : thread < threads)
    (was : self.threads thread = before)
    (fits : place.Fits longest dumps (self.spare dumps thread))
    (owes : place.owed (self.spare dumps thread) ≤ before.owed (self.spare dumps thread))
    (short : (content.getD []).length ≤ self.size) :
    ({ self.move thread place with content } : ErrorLog).Bounded longest dumps threads limit := by
  refine bounded.moved inside rfl (Function.update_eq_self thread self.spent).symm fits
    (Or.inl ?_)
  rw [was]
  exact Nat.add_le_add short owes

/-- A thread goes on that has emptied the file. -/
theorem Bounded.empties (bounded : self.Bounded longest dumps threads limit) {thread : Nat}
    {place : LogPlace} (inside : thread < threads)
    (fits : place.Fits longest dumps (self.spare dumps thread)) :
    ({ self.move thread place with content := some [] } : ErrorLog).Bounded
      longest dumps threads limit :=
  bounded.moved inside rfl (Function.update_eq_self thread self.spent).symm fits
    (Or.inr (Or.inl (Nat.zero_le _)))

/-- A write behind the end takes from what the thread may write; one into the file stays
within the place of the stream, or within the file. -/
theorem bounded_write (bounded : self.Bounded longest dumps threads limit) {thread count : Nat}
    {stream : Stream} {rest : List UInt8} (inside : thread < threads)
    (isWriting : self.threads thread = .writing stream rest) (short : count ≤ rest.length) :
    ({ self.move thread (.writing (stream.advance count) (rest.drop count)) with
      content := some (stream.put (self.content.getD []) (rest.take count)) } : ErrorLog).Bounded
        longest dumps threads limit := by
  have fits : stream.pos + rest.length + (dumps - self.spent thread) ≤ longest + dumps :=
    bounded.fits_of isWriting
  have left : (rest.drop count).length = rest.length - count := List.length_drop
  have same : self.spent = Function.update self.spent thread (self.spent thread) :=
    (Function.update_eq_self thread self.spent).symm
  generalize written : stream.put (self.content.getD []) (rest.take count) = content
  have long := stream.put_length (self.content.getD []) (rest.take count)
  rw [written, List.length_take, Nat.min_eq_left short] at long
  cases appends : stream.appends with
  | true =>
      rw [appends, if_pos rfl] at long
      have advanced : stream.advance count = stream := if_pos appends
      refine bounded.moved inside rfl same ?_ (Or.inl ?_)
      · change (stream.advance count).pos + (rest.drop count).length + _ ≤ _
        rw [advanced]
        omega
      · rw [advanced, isWriting, LogPlace.owed, LogPlace.owed, if_pos appends, if_pos appends, left,
          spare, size, size]
        change content.length + _ ≤ _
        omega
  | false =>
      have behind : stream.appends ≠ true := by
        rw [appends]
        exact Bool.false_ne_true
      rw [if_neg behind] at long
      have advanced : stream.advance count = { stream with pos := stream.pos + count } :=
        if_neg behind
      refine bounded.moved inside rfl same ?_ ?_
      · change (stream.advance count).pos + (rest.drop count).length + _ ≤ _
        rw [advanced]
        dsimp only
        omega
      · rw [advanced, isWriting, LogPlace.owed, LogPlace.owed, if_neg behind, if_neg behind, spare,
          size, size]
        change content.length + _ ≤ _ ∨ content.length ≤ _ ∨ content.length + _ ≤ _
        omega

theorem bounded_step {logger : Logger} {label : LogLabel}
    (enough : logger.maxFileSize - 1 ≤ limit) (bounded : self.Bounded longest dumps threads limit)
    (allowed : Allowed longest dumps threads self label)
    (moved : self.step logger label = some after) : after.Bounded longest dumps threads limit := by
  cases label with
  | log thread level text =>
      simp only [step] at moved
      split at moved
      · rename_i isIdle
        split at moved
        · cases moved
          exact bounded.goes_on allowed.1 isIdle allowed.2 (Nat.le_refl _) (Nat.le_refl _)
        · cases moved
          exact bounded
      · cases moved
  | dump thread text =>
      simp only [step] at moved
      split at moved
      · rename_i isIdle
        cases moved
        rcases allowed with ⟨inside, few⟩
        have left : text.length + (dumps - (self.spent thread + text.length)) =
            dumps - self.spent thread := by omega
        refine bounded.moved inside rfl rfl ?_ (Or.inl ?_)
        · change text.length + (dumps - (self.spent thread + text.length)) ≤ dumps
          rw [left]
          exact Nat.sub_le _ _
        · rw [isIdle]
          exact Nat.add_le_add_left (Nat.le_of_eq left) _
      · cases moved
  | «open» thread =>
      simp only [step] at moved
      split at moved
      · rename_i there entry isLooked
        have fits := bounded.fits_of isLooked
        cases moved
        unfold openStep
        split
        · cases entry with
          | line text =>
              exact bounded.goes_on allowed isLooked ⟨rfl, fits⟩ (Nat.le_refl _) (Nat.le_refl _)
          | dump text =>
              exact bounded.goes_on allowed isLooked ⟨rfl, fits⟩ (Nat.le_refl _) (Nat.le_refl _)
        · cases entry with
          | line text => exact bounded.empties allowed ⟨rfl, fits⟩
          | dump text => exact bounded.empties allowed ⟨rfl, fits⟩
      · cases moved
  | check thread =>
      simp only [step] at moved
      split at moved
      · rename_i stream text isOpened
        rcases bounded.fits_of isOpened with ⟨first, short⟩
        split at moved
        · rename_i room
          cases moved
          refine bounded.moved allowed rfl rfl ?_ (Or.inr (Or.inl ?_))
          · change stream.pos + text.length + (dumps - 0) ≤ longest + dumps
            omega
          · exact Nat.le_trans (Nat.le_pred_of_lt room) enough
        · cases moved
          exact bounded.goes_on allowed isOpened short (Nat.le_refl _) (Nat.le_refl _)
      · rename_i stream text isOpened
        rcases bounded.fits_of isOpened with ⟨first, few⟩
        have few : text.length + (dumps - self.spent thread) ≤ dumps := few
        split at moved
        · cases moved
          refine bounded.goes_on allowed isOpened ?_ ?_ (Nat.le_refl _)
          · change stream.pos + text.length + (dumps - self.spent thread) ≤ longest + dumps
            omega
          · refine Nat.add_le_add_right ?_ _
            split
            · exact Nat.le_refl _
            · exact Nat.zero_le _
        · cases moved
          exact bounded.goes_on allowed isOpened trivial (Nat.le_add_left _ _) (Nat.le_refl _)
      · cases moved
  | purge thread =>
      simp only [step] at moved
      split at moved
      · rename_i text isFull
        have short : text.length ≤ longest := bounded.fits_of isFull
        cases moved
        exact bounded.empties allowed short
      · cases moved
  | reopen thread =>
      simp only [step] at moved
      split at moved
      · rename_i text isEmptied
        have short : text.length ≤ longest := bounded.fits_of isEmptied
        cases moved
        refine bounded.moved allowed rfl rfl ?_ (Or.inr (Or.inl (Nat.zero_le _)))
        change 0 + text.length + (dumps - 0) ≤ longest + dumps
        omega
      · cases moved
  | write thread count =>
      simp only [step] at moved
      split at moved
      · rename_i stream rest isWriting
        split at moved
        · rename_i inside
          cases moved
          exact bounded_write bounded allowed isWriting inside.2
        · cases moved
      · cases moved
  | close thread =>
      simp only [step] at moved
      split at moved
      · rename_i stream isWriting
        cases moved
        exact bounded.goes_on allowed isWriting trivial (Nat.le_add_left _ _) (Nat.le_refl _)
      · cases moved

end Bounded

/-- Whatever the threads do in between each other, the file passes its limit, or what it was
at the start, by no more than a line and the dumps of each thread. -/
theorem errorLog_bounded (logger : Logger) (content : Option (List UInt8))
    (longest dumps threads : Nat) (log : ErrorLog)
    (reached : System.Run (step logger) (Allowed longest dumps threads) (start content) log) :
    log.size ≤ max (start content).size (logger.maxFileSize - 1) + threads * (longest + dumps) := by
  have bounded := reached.invariant
    (Bounded longest dumps threads (max (start content).size (logger.maxFileSize - 1)))
    (fun _ _ _ bounded allowed moved => bounded_step (Nat.le_max_right _ _) bounded allowed moved)
    (bounded_start content (Nat.le_max_left _ _))
  exact bounded.lent.size_le

/-- Both threads find room for their lines, and the first dumps a message behind its own. -/
def twoFindRoom : List LogLabel :=
  [.log 0 .error [1, 1, 1], .log 1 .warn [2, 2], .open 0, .open 1, .check 0, .check 1, .write 0 2,
    .write 1 2, .write 0 1, .close 0, .dump 0 [3, 3], .open 0, .check 0, .write 0 2]

theorem errorLog_bounded_two :
    Exists fun log : ErrorLog =>
      log.content = some [0, 0, 0, 1, 1, 2, 2, 1, 3, 3] ∧ log.size ≤ max 3 (4 - 1) + 2 * (3 + 2) := by
  have executed : (System.executeWithin (step (globalLogconf 0 4 true)) (Allowed 3 2 2)
      (start (some [0, 0, 0])) twoFindRoom).map ErrorLog.content =
        some (some [0, 0, 0, 1, 1, 2, 2, 1, 3, 3]) := by decide +kernel
  rcases Option.map_eq_some_iff.mp executed with ⟨log, moved, content⟩
  exact ⟨log, content, errorLog_bounded (globalLogconf 0 4 true) (some [0, 0, 0]) 3 2 2 log
    (System.run_of_executeWithin moved)⟩

/-! ## The bound is met -/

section Met

variable {logger : Logger} {longest threads : Nat} {content text : List UInt8}

/-- The stream of a file that was there. -/
def behind : Stream := { appends := true, pos := 0 }

/-- A thread that finds room, up to its first write. -/
theorem run_line {log : ErrorLog} {thread : Nat}
    (reached : System.Run (step logger) (Allowed longest 0 threads) (start (some content)) log)
    (inside : thread < threads) (short : text.length ≤ longest)
    (room : content.length < logger.maxFileSize) (there : log.content = some content)
    (isIdle : log.threads thread = .idle) :
    Exists fun after =>
      System.Run (step logger) (Allowed longest 0 threads) (start (some content)) after ∧
        after.content = some content ∧
          after.threads = Function.update log.threads thread (.writing behind text) := by
  have looks : log.step logger (.log thread .error text) =
      some (log.move thread (.looked true (.line text))) := by
    simp only [step, isIdle, there, Option.isSome_some]
    exact if_pos ⟨by cases logger; rfl, rfl⟩
  have opens : (log.move thread (.looked true (.line text))).step logger (.open thread) =
      some ((log.move thread (.looked true (.line text))).openStep thread true (.line text)) := by
    simp only [step, move, Function.update_self]
  have checks : ((log.move thread (.looked true (.line text))).openStep thread true
      (.line text)).step logger (.check thread) =
        some { ((log.move thread (.looked true (.line text))).openStep thread true
            (.line text)).move thread (.writing behind text) with
          spent := Function.update log.spent thread 0 } := by
    simp only [step, openStep, move, if_true, Function.update_self, size, there, Option.getD_some]
    exact if_pos room
  refine ⟨_, .next (.next (.next reached (.log thread .error text) ⟨inside, short⟩ looks)
    (.open thread) inside opens) (.check thread) inside checks, ?_, ?_⟩
  · change some (log.content.getD []) = _
    rw [there]
    rfl
  · change Function.update (Function.update (Function.update log.threads _ _) _ _) _ _ = _
    rw [Function.update_idem, Function.update_idem]

/-- Each of the first threads has found room, and nobody has written. -/
theorem run_lines (short : text.length ≤ longest) (room : content.length < logger.maxFileSize)
    (count : Nat) (few : count ≤ threads) :
    Exists fun log =>
      System.Run (step logger) (Allowed longest 0 threads) (start (some content)) log ∧
        log.content = some content ∧ (forall thread, thread < count ->
          log.threads thread = .writing behind text) ∧
            forall thread, count ≤ thread -> log.threads thread = .idle := by
  induction count with
  | zero => exact ⟨_, .start, rfl, fun _ impossible => absurd impossible (Nat.not_lt_zero _),
      fun _ _ => rfl⟩
  | succ count inductionHypothesis =>
      rcases inductionHypothesis (Nat.le_of_succ_le few) with ⟨log, reached, there, ahead, idle⟩
      rcases run_line reached few short room there (idle count (Nat.le_refl _)) with
        ⟨after, reached', there', threads'⟩
      refine ⟨after, reached', there', ?_, ?_⟩
      · intro thread before
        rw [threads']
        by_cases same : thread = count
        · rw [same, Function.update_self]
        · rw [Function.update_of_ne same]
          exact ahead thread (by omega)
      · intro thread later
        rw [threads', Function.update_of_ne (by omega)]
        exact idle thread (by omega)

/-- Then they write, one behind the other. -/
theorem run_writes (filled : 0 < text.length) (short : text.length ≤ longest)
    (room : content.length < logger.maxFileSize) (count : Nat) (few : count ≤ threads) :
    Exists fun log =>
      System.Run (step logger) (Allowed longest 0 threads) (start (some content)) log ∧
        log.size = content.length + count * text.length ∧
          forall thread, count ≤ thread -> thread < threads ->
            log.threads thread = .writing behind text := by
  induction count with
  | zero =>
      rcases run_lines short room threads (Nat.le_refl threads) with
        ⟨log, reached, there, ahead, _⟩
      refine ⟨log, reached, ?_, fun thread _ inside => ahead thread inside⟩
      rw [size, there, Nat.zero_mul]
      rfl
  | succ count inductionHypothesis =>
      rcases inductionHypothesis (Nat.le_of_succ_le few) with ⟨log, reached, long, ahead⟩
      have isWriting := ahead count (Nat.le_refl _) few
      have writes : log.step logger (.write count text.length) =
          some { log.move count (.writing (behind.advance text.length) (text.drop text.length)) with
            content := some (behind.put (log.content.getD []) (text.take text.length)) } := by
        simp only [step, isWriting]
        exact if_pos ⟨filled, Nat.le_refl _⟩
      refine ⟨_, .next reached (.write count text.length) few writes, ?_, ?_⟩
      · change (log.content.getD [] ++ text.take text.length).length = _
        rw [List.length_append, List.take_length, Nat.succ_mul, ← Nat.add_assoc, ← long, size]
      · intro thread later inside
        exact (Function.update_of_ne (by omega) ..).trans (ahead thread (by omega) inside)

/-- All threads may find room in front of the first write: no smaller bound holds. -/
theorem errorLog_met (logger : Logger) (room : 0 < logger.maxFileSize) (longest threads : Nat)
    (some' : 0 < longest) :
    Exists fun content => Exists fun log =>
      System.Run (step logger) (Allowed longest 0 threads) (start (some content)) log ∧
        log.size = logger.maxFileSize - 1 + threads * longest := by
  have text : (List.replicate longest (0 : UInt8)).length = longest := List.length_replicate
  have old : (List.replicate (logger.maxFileSize - 1) (0 : UInt8)).length =
      logger.maxFileSize - 1 := List.length_replicate
  have short : (List.replicate (logger.maxFileSize - 1) (0 : UInt8)).length <
      logger.maxFileSize := by omega
  rcases run_writes (by omega) (Nat.le_of_eq text) short threads (Nat.le_refl threads) with
    ⟨log, reached, long, _⟩
  exact ⟨_, log, reached, by rw [long, text, old]⟩

end Met

end ErrorLog

end PolicyServer
