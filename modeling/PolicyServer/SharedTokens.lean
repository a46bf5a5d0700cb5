import PolicyServer.Address
import PolicyServer.Lib.SharedCursor

namespace PolicyServer

open Lib SharedCursor

/-!
# IPv6 addresses packed side by side

`pack_ip6` takes its groups from `strtok`, which remembers where it is in one place for
the whole process.  Handlers run concurrently, and the first call of one of them moves
this cursor into its own text; the other one goes on from there.  A step is one call of
`strtok`, with the group that it gives stored in `dst`.

The groups are the items of readers that share a cursor, and `unmixed_iff` is what
`SharedCursor` knows of these.
-/

/-- What `strtok` finds between the colons of a text. -/
def tokensOf (text : List Char) : List (List Char) :=
  (text.splitOn ':').filter (· ≠ [])

/-- `strtok` with `":"`, on the text at its cursor: the token, and the text at the new
one.  The colon behind the token is overwritten, and nobody reads it again. -/
def strtok (text : List Char) : Option (List Char) × List Char :=
  match text.dropWhile (· = ':') with
  | [] => (none, [])
  | char :: rest =>
      (some ((char :: rest).takeWhile (· ≠ ':')), ((char :: rest).dropWhile (· ≠ ':')).tail)

/-- The two bytes of a group. -/
def tokenPair (token : List Char) : List UInt8 :=
  [(strtoul16 token >>> 8).toUInt8, (strtoul16 token).toUInt8]

/-- Where a handler is in `pack_ip6`, and what it has stored in `dst`. -/
structure Ip6Packing where
  place : Place
  dst : List UInt8
  deriving DecidableEq, Repr

/-- The text at the cursor of `strtok`, and two handlers. -/
structure Strtok where
  cursor : List Char
  packings : Reader -> Ip6Packing

namespace Strtok

/-- Both handlers are in front of `pack_ip6`; the cursor is wherever it was left. -/
def start (cursor : List Char) : Strtok where
  cursor := cursor
  packings := fun _ => { place := .outside, dst := [] }

def put (self : Strtok) (handler : Reader) (cursor : List Char) (packing : Ip6Packing) :
    Strtok where
  cursor := cursor
  packings := Function.update self.packings handler packing

/-- The next call of `strtok` in a handler that packs the address `texts handler`. -/
def step (texts : Reader -> String) (self : Strtok) (handler : Reader) : Option Strtok :=
  let packing := self.packings handler
  match packing.place with
  | .outside =>
      match strtok (texts handler).toList with
      -- `strtoul` reads from a null pointer
      | (none, _) => none
      | (some token, behind) =>
          some (self.put handler behind { place := .reading, dst := tokenPair token })
  | .reading =>
      match strtok self.cursor with
      | (none, behind) => some (self.put handler behind { packing with place := .done })
      | (some token, behind) =>
          some (self.put handler behind { packing with dst := packing.dst ++ tokenPair token })
  | .done => none

/-- What a handler stores when it runs alone. -/
def alone (texts : Reader -> String) (handler : Reader) : Option (List UInt8) :=
  (System.execute (step texts) (start [])
    (List.replicate ((tokens (texts handler)).length + 1) handler)).map fun final =>
      (final.packings handler).dst

/-- The other handler has stored no group, or as many as its address has. -/
def Apart (texts : Reader -> String) (self : Strtok) (handler : Reader) : Prop :=
  (self.packings handler.other).dst.length = 0 ∨
    (self.packings handler.other).dst.length = 2 * (tokens (texts handler.other)).length

end Strtok

/-! ## One call of `strtok` -/

theorem tokensOf_colon (text : List Char) : tokensOf (':' :: text) = tokensOf text := by
  rw [tokensOf, List.splitOn_cons_eq_if_modifyHead, if_pos (BEq.refl _)]
  exact List.filter_cons_of_neg (by decide)

theorem tokensOf_dropWhile (text : List Char) :
    tokensOf (text.dropWhile (· = ':')) = tokensOf text := by
  induction text with
  | nil => rfl
  | cons char text inductionHypothesis =>
      by_cases colon : char = ':'
      · rw [List.dropWhile_cons, if_pos (decide_eq_true colon), inductionHypothesis, colon,
          tokensOf_colon]
      · rw [List.dropWhile_cons, if_neg fun same => colon (of_decide_eq_true same)]

/-- A text that starts with a token. -/
theorem tokensOf_token {text : List Char} (some' : text.takeWhile (· ≠ ':') ≠ []) :
    tokensOf text =
      text.takeWhile (· ≠ ':') :: tokensOf (text.dropWhile (· ≠ ':')).tail := by
  have apart : ':' ∉ text.takeWhile (· ≠ ':') := by
    intro member
    have plain := List.mem_takeWhile_imp member
    exact of_decide_eq_true plain rfl
  have parts : text = text.takeWhile (· ≠ ':') ++ text.dropWhile (· ≠ ':') :=
    List.takeWhile_append_dropWhile.symm
  generalize text.takeWhile (· ≠ ':') = token at some' apart parts ⊢
  cases behind : text.dropWhile (· ≠ ':') with
  | nil =>
      rw [behind, List.append_nil] at parts
      rw [tokensOf, parts, List.splitOn_eq_singleton apart]
      exact List.filter_cons_of_pos (decide_eq_true some')
  | cons colon rest =>
      have isColon : colon = ':' := by
        have stops := List.head?_dropWhile_not (· ≠ ':') text
        rw [behind, List.head?_cons] at stops
        simpa using stops
      rw [behind, isColon] at parts
      rw [tokensOf, parts, List.splitOn_append_cons_self_of_not_mem apart]
      exact List.filter_cons_of_pos (decide_eq_true some')

/-- `strtok` answers the first token, and leaves the others. -/
theorem strtok_tokens (text : List Char) :
    (strtok text).1 = (tokensOf text).head? ∧
      tokensOf (strtok text).2 = (tokensOf text).tail := by
  rw [← tokensOf_dropWhile text, strtok]
  cases start : text.dropWhile (· = ':') with
  | nil => exact ⟨rfl, rfl⟩
  | cons char rest =>
      have plain : char ≠ ':' := by
        have stops := List.head?_dropWhile_not (· = ':') text
        rw [start, List.head?_cons] at stops
        simpa using stops
      have some' : (char :: rest).takeWhile (· ≠ ':') ≠ [] := by
        rw [List.takeWhile_cons, decide_eq_true plain]
        exact List.cons_ne_nil _ _
      rw [tokensOf_token some']
      exact ⟨rfl, rfl⟩

theorem strtok_none {text : List Char} (none' : tokensOf text = []) :
    Exists fun behind => strtok text = (none, behind) ∧ tokensOf behind = [] := by
  rcases strtok_tokens text with ⟨token, behind⟩
  rw [none'] at token behind
  exact ⟨(strtok text).2, Prod.ext token rfl, behind⟩

theorem strtok_some {text token : List Char} {rest : List (List Char)}
    (some' : tokensOf text = token :: rest) :
    Exists fun behind => strtok text = (some token, behind) ∧ tokensOf behind = rest := by
  rcases strtok_tokens text with ⟨first, behind⟩
  rw [some'] at first behind
  exact ⟨(strtok text).2, Prod.ext first rfl, behind⟩

/-! ## Readers of groups -/

namespace Strtok

/-- The handlers are readers of the tokens of their addresses. -/
structure Reads (state : Strtok) (readers : Readers (List Char)) : Prop where
  cursor : tokensOf state.cursor = readers.cursor
  place : forall handler, (state.packings handler).place = (readers.readings handler).place
  dst : forall handler,
    (state.packings handler).dst = (readers.readings handler).taken.flatMap tokenPair

/-- The items of a reader. -/
def groups (texts : Reader -> String) (handler : Reader) : List (List Char) :=
  tokens (texts handler)

variable {texts : Reader -> String} {self : Strtok} {readers : Readers (List Char)}
  {handler : Reader}

theorem reads_start (cursor : List Char) : (start cursor).Reads (.start (tokensOf cursor)) :=
  ⟨rfl, fun _ => rfl, fun _ => rfl⟩

@[simp] theorem put_packing (self : Strtok) (handler : Reader) (cursor : List Char)
    (packing : Ip6Packing) : (self.put handler cursor packing).packings handler = packing :=
  Function.update_self ..

@[simp] theorem put_other (self : Strtok) (handler : Reader) (cursor : List Char)
    (packing : Ip6Packing) :
    (self.put handler cursor packing).packings handler.other = self.packings handler.other :=
  Function.update_of_ne handler.other_ne ..

theorem Reads.put (reads : self.Reads readers) {cursor : List Char} {rest : List (List Char)}
    (behind : tokensOf cursor = rest) (place : Place) (taken : List (List Char)) :
    (self.put handler cursor { place, dst := taken.flatMap tokenPair }).Reads
      (readers.put handler rest { place, taken }) where
  cursor := behind
  place := by
    intro other
    by_cases same : other = handler
    · rw [same, Readers.put_reading, put_packing]
    · rw [Reader.eq_other same, Readers.put_other, put_other, reads.place]
  dst := by
    intro other
    by_cases same : other = handler
    · rw [same, Readers.put_reading, put_packing]
    · rw [Reader.eq_other same, Readers.put_other, put_other, reads.dst]

/-- A call of `strtok` is a step of a reader. -/
theorem step_alike (reads : self.Reads readers) (handler : Reader) :
    Option.Rel Reads (self.step texts handler)
      (readers.step (groups texts) handler) := by
  rw [step, Readers.step]
  rw [reads.place handler, reads.dst handler]
  cases (readers.readings handler).place with
  | outside =>
      dsimp only
      cases own : groups texts handler with
      | nil =>
          rcases strtok_none own with ⟨behind, answer, _⟩
          rw [answer]
          exact .none
      | cons token rest =>
          rcases strtok_some own with ⟨behind, answer, later⟩
          rw [answer]
          dsimp only
          have one : tokenPair token = [token].flatMap tokenPair := (List.append_nil _).symm
          rw [one]
          exact .some (reads.put later .reading [token])
  | reading =>
      dsimp only
      cases left : readers.cursor with
      | nil =>
          rcases strtok_none (reads.cursor.trans left) with ⟨behind, answer, later⟩
          rw [answer]
          exact .some (reads.put later .done _)
      | cons token rest =>
          rcases strtok_some (reads.cursor.trans left) with ⟨behind, answer, later⟩
          rw [answer]
          dsimp only
          have more : (readers.readings handler).taken.flatMap tokenPair ++ tokenPair token =
              ((readers.readings handler).taken ++ [token]).flatMap tokenPair := by
            rw [List.flatMap_append, List.flatMap_singleton]
          rw [more]
          exact .some (reads.put later .reading _)
  | done => exact .none

theorem dst_length (reads : self.Reads readers) (handler : Reader) :
    (self.packings handler).dst.length = 2 * (readers.readings handler).taken.length := by
  rw [reads.dst]
  exact pairs_length _ _ _

theorem apart_iff (reads : self.Reads readers) (handler : Reader) :
    self.Apart texts handler ↔
      readers.Apart (groups texts) handler := by
  rw [Apart, Readers.Apart, dst_length reads, groups]
  omega

theorem packIp6_groups (texts : Reader -> String) (handler : Reader) :
    packIp6 (texts handler) =
      if groups texts handler = [] then none
      else some ((groups texts handler).flatMap tokenPair) := rfl

/-- The handlers run as the readers do. -/
theorem execute_reads (texts : Reader -> String) (cursor : List Char) (schedule : List Reader) :
    Option.Rel Reads (System.execute (step texts) (start cursor) schedule)
      (System.execute (Readers.step (groups texts)) (.start (tokensOf cursor)) schedule) :=
  System.execute_rel (fun _ _ handler reads => step_alike reads handler) schedule
    (reads_start cursor)

theorem within_reads (texts : Reader -> String) (cursor : List Char) (schedule : List Reader) :
    System.Within (step texts) (Apart texts) (start cursor) schedule ↔
      System.Within (Readers.step (groups texts)) (Readers.Apart (groups texts))
        (.start (tokensOf cursor)) schedule :=
  System.within_iff_of_rel (fun _ _ handler reads => step_alike reads handler)
    (fun _ _ handler reads => apart_iff reads handler) schedule (reads_start cursor)

/-- Alone, a handler stores what `pack_ip6` stores. -/
theorem alone_eq (texts : Reader -> String) (handler : Reader) :
    alone texts handler = packIp6 (texts handler) := by
  have runs := execute_reads texts []
    (List.replicate ((groups texts handler).length + 1) handler)
  rw [alone, packIp6_groups]
  change Option.map _ (System.execute (step texts) (start [])
    (List.replicate ((groups texts handler).length + 1) handler)) = _
  generalize System.execute (step texts) (start []) _ = ended at runs ⊢
  cases own : groups texts handler with
  | nil =>
      have stuck : (Readers.start (tokensOf [])).step (groups texts) handler = none := by
        rw [Readers.step]
        dsimp only [Readers.start]
        rw [own]
      rw [own, List.length_nil, List.replicate_one, System.execute, stuck] at runs
      cases runs
      rfl
  | cons token rest =>
      rcases Readers.execute_alone own (tokensOf []) with ⟨final, executed, whole⟩
      rw [executed] at runs
      cases runs with
      | some reads =>
          rw [Option.map_some, reads.dst, whole, if_neg (List.cons_ne_nil _ _), own]

/-! ## Both side by side -/

/-- Where no call of `strtok` in one handler comes while the other has some of its groups
and not all, each has stored the first of its own bytes, in every state on the way. -/
theorem dst_prefix (texts : Reader -> String) (cursor : List Char) {schedule : List Reader}
    {after : Strtok} (executed : System.execute (step texts) (start cursor) schedule = some after)
    (within : System.Within (step texts) (Apart texts) (start cursor) schedule)
    (handler : Reader) :
    (after.packings handler).dst <+: (groups texts handler).flatMap tokenPair := by
  have runs := execute_reads texts cursor schedule
  rw [executed] at runs
  generalize reading : System.execute (Readers.step (groups texts)) _ schedule = ended at runs
  cases runs with
  | some reads =>
  rename_i readers
  have good := Readers.good_execute (Readers.good_start _) reading
    ((within_reads texts cursor schedule).mp within)
  rcases Readers.good_prefix good handler with ⟨rest, whole⟩
  rw [reads.dst, ← whole, List.flatMap_append]
  exact List.prefix_append ..

/-- Where both handlers have returned, each has stored what it stores alone if and only if
every call of `strtok` was of this kind. -/
theorem unmixed_iff (texts : Reader -> String) (cursor : List Char) {schedule : List Reader}
    {final : Strtok} (executed : System.execute (step texts) (start cursor) schedule = some final)
    (returned : forall handler, (final.packings handler).place = .done) :
    (forall handler, alone texts handler = some (final.packings handler).dst) ↔
      System.Within (step texts) (Apart texts) (start cursor) schedule := by
  have runs := execute_reads texts cursor schedule
  rw [executed] at runs
  generalize reading : System.execute (Readers.step (groups texts)) _ schedule = ended at runs
  cases runs with
  | some reads =>
  rename_i readers
  rcases Readers.counted_iff reading with ⟨onlyWithin, whole⟩
  rw [within_reads]
  constructor
  · intro right
    refine onlyWithin fun handler => ?_
    have bytes := right handler
    rw [alone_eq, packIp6_groups] at bytes
    split at bytes
    · cases bytes
    have length := congrArg List.length (Option.some.inj bytes)
    have pairs : ((groups texts handler).flatMap tokenPair).length =
        2 * (groups texts handler).length := pairs_length _ _ _
    rw [pairs, dst_length reads] at length
    exact (Nat.eq_of_mul_eq_mul_left (by decide) length).symm
  · intro apart handler
    rcases whole apart handler (reads.place handler ▸ returned handler) with ⟨taken, some'⟩
    rw [alone_eq, packIp6_groups, if_neg some', reads.dst, taken]

/-- Two addresses of one network. -/
def neighbours : Reader -> String
  | .first => "2001:db8:0:1:2:3:4:5"
  | .second => "2001:db8:a:b:c:d:e:f"

/-- The second handler comes and goes between the last group of the first and the call
that finds no more. -/
def visited : List Reader :=
  List.replicate 8 .first ++ List.replicate 9 .second ++ [.first]

theorem unmixed_iff_neighbours :
    Exists fun final =>
      System.execute (step neighbours) (start []) visited = some final ∧
        ((forall handler, alone neighbours handler = some (final.packings handler).dst) ↔
          System.Within (step neighbours) (Apart neighbours) (start []) visited) := by
  have places : (System.execute (step neighbours) (start []) visited).map
      (fun final => ((final.packings .first).place, (final.packings .second).place)) =
      some (.done, .done) := by decide +kernel
  rcases Option.map_eq_some_iff.mp places with ⟨final, executed, ended⟩
  rcases Prod.mk.inj ended with ⟨first, second⟩
  refine ⟨final, executed, unmixed_iff neighbours [] executed fun handler => ?_⟩
  cases handler with
  | first => exact first
  | second => exact second

/-- The second handler begins when the first has one group, and is overtaken. -/
def overtaken : List Reader :=
  [.first, .second] ++ List.replicate 8 .first ++ [.second]

/-- What the two handlers have stored in the end. -/
theorem execute_overtaken :
    (System.execute (step neighbours) (start []) overtaken).map
        (fun final => (final.packings .first, final.packings .second)) =
      some
        ({ place := .done, dst := [32, 1, 13, 184, 0, 10, 0, 11, 0, 12, 0, 13, 0, 14, 0, 15] },
          { place := .done, dst := [32, 1] }) := by
  decide +kernel

/-- The first handler returns with the address of the other, whose own has one group. -/
theorem neighbours_mixed :
    (forall handler, isIp6 (neighbours handler) = true ∧
        (tokens (neighbours handler)).length = 8) ∧
      Exists fun final =>
        System.execute (step neighbours) (start []) overtaken = some final ∧
          (forall handler, (final.packings handler).place = .done) ∧
            packIp6 (neighbours .second) = some (final.packings .first).dst ∧
              alone neighbours .first ≠ some (final.packings .first).dst ∧
                (final.packings .second).dst = [32, 1] := by
  refine ⟨fun handler => by cases handler <;> decide +kernel, ?_⟩
  rcases Option.map_eq_some_iff.mp execute_overtaken with ⟨final, executed, ended⟩
  rcases Prod.mk.inj ended with ⟨first, second⟩
  refine ⟨final, executed, ?_, ?_, ?_, ?_⟩
  · intro handler
    cases handler with
    | first => rw [first]
    | second => rw [second]
  · rw [first]
    decide +kernel
  · rw [first, alone_eq]
    decide +kernel
  · rw [second]

end Strtok

end PolicyServer
