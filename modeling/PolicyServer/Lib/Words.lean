import Mathlib.Data.List.Infix

namespace Lib

/-!
# Words one behind the other

A reader finds the words of a stream again if no word begins with another one.  A
writer that puts a part of a word on such a stream has then broken it: whatever was
there before, no reader takes it for a sequence of words, unless nothing follows and
the reader waits for the rest.  `unbroken_iff` is that for a run of writers, and
`read_of_spared` what is read back then.
-/

variable {α β : Type}

/-- No word begins with another one, and none is empty. -/
structure Delimited (Word : List α -> Prop) : Prop where
  filled : forall word, Word word -> word ≠ []
  apart : forall left right, Word left -> Word right -> left <+: right -> left = right

/-- Words one behind the other. -/
def Words (Word : List α -> Prop) (stream : List α) : Prop :=
  Exists fun words : List (List α) =>
    (forall word, word ∈ words -> Word word) ∧ stream = words.flatten

section Words

variable {Word : List α -> Prop} {left right word : List α}

theorem Words.empty : Words Word [] :=
  ⟨[], fun _ member => absurd member List.not_mem_nil, rfl⟩

theorem Words.append (first : Words Word left) (second : Words Word right) :
    Words Word (left ++ right) := by
  rcases first with ⟨words, each, rfl⟩
  rcases second with ⟨others, each', rfl⟩
  refine ⟨words ++ others, ?_, List.flatten_append.symm⟩
  intro word member
  rcases List.mem_append.mp member with member | member
  · exact each word member
  · exact each' word member

theorem Words.single (isWord : Word word) : Words Word word := by
  refine ⟨[word], ?_, (List.append_nil word).symm⟩
  intro other member
  exact List.mem_singleton.mp member ▸ isWord

/-- The first words of two streams that begin alike are the same. -/
theorem Delimited.first (delimited : Delimited Word) {other : List α} (isWord : Word word)
    (isOther : Word other) (same : word ++ left = other ++ right) : word = other := by
  rcases List.prefix_or_prefix_of_prefix (List.prefix_append word left)
    (same ▸ List.prefix_append other right) with shorter | longer
  · exact delimited.apart word other isWord isOther shorter
  · exact (delimited.apart other word isOther isWord longer).symm

/-- Words in front may be taken away. -/
theorem Delimited.cancel (delimited : Delimited Word) (first : Words Word left)
    (both : Words Word (left ++ right)) : Words Word right := by
  rcases first with ⟨words, each, rfl⟩
  induction words with
  | nil => exact both
  | cons word words inductionHypothesis =>
      have isWord := each word List.mem_cons_self
      rcases both with ⟨others, each', same⟩
      rw [List.flatten_cons, List.append_assoc] at same
      cases others with
      | nil =>
          have none := (List.append_eq_nil_iff.mp same).1
          exact absurd none (delimited.filled word isWord)
      | cons other others =>
          rw [List.flatten_cons] at same
          have equal := delimited.first isWord (each' other List.mem_cons_self) same
          rw [equal] at same
          refine inductionHypothesis (fun word member => each word (List.mem_cons_of_mem _ member)) ?_
          exact ⟨others, fun word member => each' word (List.mem_cons_of_mem _ member),
            List.append_cancel_left same⟩

/-- A part of a word is no sequence of words. -/
theorem Delimited.not_words_of_part (delimited : Delimited Word) {part : List α}
    (isWord : Word word) (front : part <+: word) (some' : part ≠ []) (rest : part ≠ word) :
    ¬ Words Word part := by
  rintro ⟨words, each, rfl⟩
  cases words with
  | nil => exact some' rfl
  | cons other words =>
      have isOther := each other List.mem_cons_self
      have shorter : other <+: (other :: words).flatten := List.prefix_append other words.flatten
      have equal := delimited.apart other word isOther isWord (shorter.trans front)
      have long : word.length ≤ (other :: words).flatten.length := equal ▸ shorter.length_le
      exact rest (front.eq_of_length (Nat.le_antisymm front.length_le long))

end Words

/-! ## Writers -/

/-- Writers, each with the word it has and what it puts on the stream of it. -/
structure Writers (Word : List α -> Prop) (β : Type) where
  word : β -> List α
  put : β -> List α
  isWord : forall call, Word (word call)
  front : forall call, put call <+: word call

namespace Writers

variable {Word : List α -> Prop} (writers : Writers Word β)

/-- What a run puts on the stream. -/
def stream (calls : List β) : List α :=
  calls.flatMap writers.put

/-- Some of the word, and not all of it. -/
def Cut (call : β) : Prop :=
  writers.put call ≠ [] ∧ writers.put call ≠ writers.word call

/-- In every state of a run there are words on the stream, or nothing follows. -/
def Unbroken (calls : List β) : Prop :=
  forall before after, calls = before ++ after ->
    Words Word (writers.stream before) ∨ writers.stream after = []

variable {writers}

theorem stream_append (before after : List β) :
    writers.stream (before ++ after) = writers.stream before ++ writers.stream after :=
  List.flatMap_append

theorem stream_cons (call : β) (calls : List β) :
    writers.stream (call :: calls) = writers.put call ++ writers.stream calls :=
  List.flatMap_cons

/-- Without a cut there are words on the stream. -/
theorem words_of_uncut {calls : List β} (uncut : forall call, call ∈ calls -> ¬ writers.Cut call) :
    Words Word (writers.stream calls) := by
  induction calls with
  | nil => exact Words.empty
  | cons call calls inductionHypothesis =>
      have others := inductionHypothesis fun other member =>
        uncut other (List.mem_cons_of_mem _ member)
      rw [stream_cons]
      by_cases none : writers.put call = []
      · rw [none]
        exact others
      · have whole : writers.put call = writers.word call := by
          by_contra part
          exact uncut call List.mem_cons_self ⟨none, part⟩
        rw [whole]
        exact (Words.single (writers.isWord call)).append others

/-- A run up to its first cut. -/
theorem first_cut {calls : List β} (cut : Exists fun call => call ∈ calls ∧ writers.Cut call) :
    Exists fun before => Exists fun call => Exists fun after => calls = before ++ call :: after ∧
      writers.Cut call ∧ forall other, other ∈ before -> ¬ writers.Cut other := by
  induction calls with
  | nil =>
      rcases cut with ⟨_, member, _⟩
      exact absurd member List.not_mem_nil
  | cons call calls inductionHypothesis =>
      by_cases here : writers.Cut call
      · exact ⟨[], call, calls, rfl, here, fun _ member => absurd member List.not_mem_nil⟩
      · have later : Exists fun call => call ∈ calls ∧ writers.Cut call := by
          rcases cut with ⟨other, member, isCut⟩
          rcases List.mem_cons.mp member with rfl | member
          · exact absurd isCut here
          · exact ⟨other, member, isCut⟩
        rcases inductionHypothesis later with ⟨before, first, after, rfl, isCut, uncut⟩
        refine ⟨call :: before, first, after, rfl, isCut, ?_⟩
        intro other member
        rcases List.mem_cons.mp member with rfl | member
        · exact here
        · exact uncut other member

/-- Behind the first cut nothing may follow. -/
theorem silent_behind_first (delimited : Delimited Word) {before after : List β} {call : β}
    (unbroken : writers.Unbroken (before ++ call :: after)) (cut : writers.Cut call)
    (uncut : forall other, other ∈ before -> ¬ writers.Cut other) :
    writers.stream after = [] := by
  rcases unbroken (before ++ [call]) after (List.append_cons before call after) with words | none
  · rw [stream_append, stream_cons] at words
    have part := delimited.cancel (words_of_uncut uncut) words
    have alone : writers.put call ++ writers.stream [] = writers.put call := List.append_nil _
    rw [alone] at part
    exact absurd part (delimited.not_words_of_part (writers.isWord call) (writers.front call) cut.1
      cut.2)
  · exact none

/-- A run is unbroken exactly where nothing follows a cut. -/
theorem unbroken_iff (delimited : Delimited Word) (calls : List β) :
    writers.Unbroken calls ↔ forall before call after, calls = before ++ call :: after ->
      writers.Cut call -> writers.stream after = [] := by
  constructor
  · intro unbroken before call after same cut
    have somewhere : Exists fun call => call ∈ calls ∧ writers.Cut call :=
      ⟨call, same ▸ List.mem_append_right _ List.mem_cons_self, cut⟩
    rcases first_cut somewhere with ⟨front, first, rest, parts, isCut, uncut⟩
    rw [parts] at unbroken
    have silent := silent_behind_first delimited unbroken isCut uncut
    -- the cut is the first one, or behind it
    rcases List.append_eq_append_iff.mp (parts.symm.trans same) with
      ⟨between, _, behind⟩ | ⟨between, inFront, behind⟩
    · cases between with
      | nil =>
          rw [← (List.cons.inj behind).2]
          exact silent
      | cons other between =>
          have later : rest = between ++ call :: after := (List.cons.inj behind).2
          rw [later, stream_append, stream_cons] at silent
          exact (List.append_eq_nil_iff.mp (List.append_eq_nil_iff.mp silent).2).2
    · cases between with
      | nil =>
          rw [(List.cons.inj behind).2]
          exact silent
      | cons other between =>
          rw [(List.cons.inj behind).1] at cut
          have member : other ∈ front := inFront ▸ List.mem_append_right _ List.mem_cons_self
          exact absurd cut (uncut other member)
  · intro silent before after same
    by_cases somewhere : Exists fun call => call ∈ before ∧ writers.Cut call
    · rcases somewhere with ⟨call, member, cut⟩
      rcases List.append_of_mem member with ⟨front, rest, rfl⟩
      right
      have none := silent front call (rest ++ after)
        (by rw [same, List.append_assoc, List.cons_append]) cut
      rw [stream_append] at none
      exact (List.append_eq_nil_iff.mp none).2
    · exact Or.inl (words_of_uncut fun call member cut => somewhere ⟨call, member, cut⟩)

end Writers

/-! ## Readers -/

/-- A reader that takes the word in front of a stream off, and waits while only a part of
it is there. -/
structure WordReader (Word : List α -> Prop) where
  next : List α -> Option (List α × List α)
  finds : forall word rest, Word word -> next (word ++ rest) = some (word, rest)
  waits : forall word part, Word word -> part <+: word -> part ≠ word -> next part = none

namespace WordReader

variable {Word : List α -> Prop} (reader : WordReader Word)

/-- At most this many words. -/
def readAtMost : Nat -> List α -> List (List α)
  | 0, _ => []
  | count + 1, stream =>
      match reader.next stream with
      | none => []
      | some (word, rest) => word :: readAtMost count rest

/-- The words that a reader takes off a stream.  No word is empty, so there are no more
of them than the stream is long. -/
def read (stream : List α) : List (List α) :=
  reader.readAtMost stream.length stream

theorem readAtMost_words {words : List (List α)} (each : forall word, word ∈ words -> Word word)
    (rest : List α) {count : Nat} (enough : words.length ≤ count) :
    reader.readAtMost count (words.flatten ++ rest) =
      words ++ reader.readAtMost (count - words.length) rest := by
  induction words generalizing count with
  | nil => rfl
  | cons word words inductionHypothesis =>
      cases count with
      | zero => cases enough
      | succ count =>
          have later := inductionHypothesis
            (fun other member => each other (List.mem_cons_of_mem _ member))
            (Nat.le_of_succ_le_succ enough)
          have first := reader.finds word (words.flatten ++ rest) (each word List.mem_cons_self)
          rw [List.flatten_cons, List.append_assoc, readAtMost, first]
          dsimp only
          rw [later, List.length_cons, Nat.add_sub_add_right, List.cons_append]

variable {reader}

theorem readAtMost_of_waiting {stream : List α} (waits : reader.next stream = none)
    (count : Nat) : reader.readAtMost count stream = [] := by
  cases count with
  | zero => rfl
  | succ count => rw [readAtMost, waits]

theorem length_le_flatten (delimited : Delimited Word) {words : List (List α)}
    (each : forall word, word ∈ words -> Word word) : words.length ≤ words.flatten.length := by
  induction words with
  | nil => exact Nat.le_refl 0
  | cons word words inductionHypothesis =>
      have positive := List.length_pos_iff.mpr
        (delimited.filled word (each word List.mem_cons_self))
      have rest := inductionHypothesis fun other member =>
        each other (List.mem_cons_of_mem _ member)
      rw [List.flatten_cons, List.length_append, List.length_cons]
      omega

variable (reader)

/-- Words are read off in their order, and then what is behind them. -/
theorem read_words (delimited : Delimited Word) {words : List (List α)}
    (each : forall word, word ∈ words -> Word word) (rest : List α) :
    Exists fun count => reader.read (words.flatten ++ rest) =
      words ++ reader.readAtMost count rest := by
  have enough : words.length ≤ (words.flatten ++ rest).length := by
    have few := length_le_flatten delimited each
    rw [List.length_append]
    omega
  exact ⟨_, reader.readAtMost_words each rest enough⟩

/-- Words with nothing behind them are all that is read. -/
theorem read_flatten (delimited : Delimited Word) {words : List (List α)}
    (each : forall word, word ∈ words -> Word word) : reader.read words.flatten = words := by
  rcases reader.read_words delimited each [] with ⟨count, reads⟩
  rw [List.append_nil] at reads
  cases words with
  | nil => rfl
  | cons word words =>
      have isWord := each word List.mem_cons_self
      have waits := reader.waits word [] isWord List.nil_prefix
        (Ne.symm (delimited.filled word isWord))
      rw [reads, readAtMost_of_waiting waits, List.append_nil]

end WordReader

namespace Writers

variable {Word : List α -> Prop} (writers : Writers Word β)

/-- The word of a call is put on the stream whole. -/
def Whole (call : β) : Prop :=
  writers.put call = writers.word call

/-- The words that a run puts on the stream whole. -/
def whole [forall call, Decidable (writers.Whole call)] (calls : List β) : List (List α) :=
  (calls.filter fun call => writers.Whole call).map writers.word

variable [forall call, Decidable (writers.Whole call)]

theorem word_of_whole {calls : List β} {word : List α} (member : word ∈ writers.whole calls) :
    Word word := by
  rcases List.mem_map.mp member with ⟨call, _, rfl⟩
  exact writers.isWord call

theorem whole_append (before after : List β) :
    writers.whole (before ++ after) = writers.whole before ++ writers.whole after := by
  rw [whole, List.filter_append, List.map_append]
  rfl

variable {writers}

theorem whole_cons_of_whole {call : β} (isWhole : writers.Whole call) (calls : List β) :
    writers.whole (call :: calls) = writers.word call :: writers.whole calls := by
  simp only [whole, List.filter_cons, isWhole, decide_true, if_true, List.map_cons]

theorem whole_cons_of_part {call : β} (isPart : ¬ writers.Whole call) (calls : List β) :
    writers.whole (call :: calls) = writers.whole calls := by
  simp only [whole, List.filter_cons, isPart, decide_false, Bool.false_eq_true, if_false]

/-- Without a cut the stream is made of the whole words. -/
theorem stream_of_uncut {calls : List β} (uncut : forall call, call ∈ calls -> ¬ writers.Cut call) :
    writers.stream calls = (writers.whole calls).flatten := by
  induction calls with
  | nil => rfl
  | cons call calls inductionHypothesis =>
      have rest := inductionHypothesis fun other member =>
        uncut other (List.mem_cons_of_mem _ member)
      by_cases isWhole : writers.Whole call
      · have same : writers.put call = writers.word call := isWhole
        rw [stream_cons, rest, whole_cons_of_whole isWhole, List.flatten_cons, same]
      · have none : writers.put call = [] := by
          by_contra some'
          exact uncut call List.mem_cons_self ⟨some', isWhole⟩
        rw [stream_cons, rest, whole_cons_of_part isWhole, none, List.nil_append]

/-- Of calls that put nothing on the stream no word is whole. -/
theorem whole_of_silent (delimited : Delimited Word) {calls : List β}
    (silent : writers.stream calls = []) : writers.whole calls = [] := by
  rw [whole, List.map_eq_nil_iff, List.filter_eq_nil_iff]
  intro call member isWhole
  have none := List.flatMap_eq_nil_iff.mp silent call member
  rw [decide_eq_true_eq, Whole, none] at isWhole
  exact delimited.filled _ (writers.isWord call) isWhole.symm

variable (reader : WordReader Word)

/-- Up to the first cut, what is read are the words that were put there whole. -/
theorem whole_prefix_read (delimited : Delimited Word) {before : List β} (after : List β)
    (uncut : forall call, call ∈ before -> ¬ writers.Cut call) :
    writers.whole before <+: reader.read (writers.stream (before ++ after)) := by
  rw [stream_append, stream_of_uncut uncut]
  rcases reader.read_words delimited (fun _ member => writers.word_of_whole member)
    (writers.stream after) with ⟨_, reads⟩
  rw [reads]
  exact List.prefix_append _ _

/-- Where nothing follows a cut, the words that were put there whole are read, and no
others. -/
theorem read_of_spared (delimited : Delimited Word) {calls : List β}
    (spared : forall before call after, calls = before ++ call :: after ->
      writers.Cut call -> writers.stream after = []) :
    reader.read (writers.stream calls) = writers.whole calls := by
  by_cases somewhere : Exists fun call => call ∈ calls ∧ writers.Cut call
  · rcases first_cut somewhere with ⟨before, call, after, rfl, cut, uncut⟩
    have silent := spared before call after rfl cut
    have waits := reader.waits _ _ (writers.isWord call) (writers.front call) cut.2
    rw [stream_append, stream_cons, silent, List.append_nil, stream_of_uncut uncut, whole_append,
      whole_cons_of_part cut.2, whole_of_silent delimited silent, List.append_nil]
    rcases reader.read_words delimited (fun _ member => writers.word_of_whole member)
      (writers.put call) with ⟨_, reads⟩
    rw [reads, WordReader.readAtMost_of_waiting waits, List.append_nil]
  · have uncut : forall call, call ∈ calls -> ¬ writers.Cut call := fun call member cut =>
      somewhere ⟨call, member, cut⟩
    rw [stream_of_uncut uncut]
    exact reader.read_flatten delimited fun _ member => writers.word_of_whole member

end Writers
end Lib
