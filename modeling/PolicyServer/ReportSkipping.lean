import PolicyServer.ReportWalk

namespace PolicyServer

open Lib

/-!
# Skipping undecoded objects

`ps_pcmm_report` is meant to step over the objects it does not decode, as it
steps over the ones it does.  It steps over their header only and goes on in
their body, which is harmless as long as no word there passes the header test.
`skipsUnknown_iff` is the exact extent of that: every unknown object of a body
is skipped if and only if all of them are inert and no decoder reads past its
own object into one of them.
-/

/-- The walk finds a known header at this index, and decodes there. -/
def DecodesAt (report : Memory) (endIdx idx : Nat) : Prop :=
  Exists fun decoded =>
    Loop.Visits (reportGuard endIdx) (reportBody report) .initial ⟨idx, decoded⟩ ∧
      idx < endIdx ∧ pcmmKnown (report (idx + 2)) (report (idx + 3)) = true

/-- The bytes of a report body, with whatever the buffer has behind it. -/
def reportBytes (objects : List PcmmObject) (rest : Memory) : Memory :=
  Memory.behind (encode objects) rest

/-- The walk skips one object of a body: its presence changes nothing that is
collected, and nothing is decoded from its bytes, neither an object found
inside it nor the fields of an object in front of it. -/
structure Skipped (before : List PcmmObject) (skipped : PcmmObject) (behind : List PcmmObject)
    (rest : Memory) : Prop where
  unchanged : Exists fun decoded =>
    Decodes (reportBytes (before ++ behind) rest) (totalSize (before ++ behind)) decoded ∧
      Decodes (reportBytes (before ++ skipped :: behind) rest)
        (totalSize (before ++ skipped :: behind)) decoded
  steppedOver : forall idx,
    DecodesAt (reportBytes (before ++ skipped :: behind) rest)
      (totalSize (before ++ skipped :: behind)) idx ->
    idx + 4 + fieldLength (reportBytes (before ++ skipped :: behind) rest (idx + 2))
        (reportBytes (before ++ skipped :: behind) rest (idx + 3)) ≤ totalSize before ∨
      totalSize before + skipped.size ≤ idx

/-- No known object's fields reach into an unknown object behind it. -/
def NoOverrun (objects : List PcmmObject) : Prop :=
  forall before decoding between unknown behind,
    objects = before ++ decoding :: (between ++ unknown :: behind) ->
    decoding.Known -> ¬ unknown.Known ->
    4 + fieldLength decoding.major decoding.minor ≤ decoding.size + totalSize between

/-! ## Where the walk stands -/

/-- The indices the walk over clean objects passes: the starts of objects, the
words in the bodies of unknown ones, and the end. -/
def Passes (objects : List PcmmObject) (idx : Nat) : Prop :=
  idx = totalSize objects ∨
    Exists fun before => Exists fun object => Exists fun behind =>
      objects = before ++ object :: behind ∧
        (idx = totalSize before ∨
          ¬ object.Known ∧ Exists fun left => Exists fun right =>
            object.body = left ++ right ∧ right ≠ [] ∧ 4 ∣ left.length ∧
              idx = totalSize before + 4 + left.length)

/-- The end of an object is the start of the next, or the end. -/
theorem passes_end {objects before behind : List PcmmObject} {object : PcmmObject}
    (split : objects = before ++ object :: behind) :
    Passes objects (totalSize before + object.size) := by
  cases behind with
  | nil =>
      left
      rw [split, totalSize_append, totalSize_cons, totalSize_nil, Nat.add_zero]
  | cons next behind =>
      right
      refine ⟨before ++ [object], next, behind, ?_, Or.inl ?_⟩
      · rw [split, List.append_assoc]
        rfl
      · rw [totalSize_append, totalSize_cons, totalSize_nil, Nat.add_zero]

section Walk

variable {objects : List PcmmObject} {rest : Memory}

theorem reportBytes_holds (objects : List PcmmObject) (rest : Memory) :
    (reportBytes objects rest).Holds 0 (encode objects) :=
  Memory.behind_holds _ rest

theorem reportBytes_storedAt (rest : Memory) {before behind : List PcmmObject} {object : PcmmObject}
    (split : objects = before ++ object :: behind) :
    object.StoredAt (reportBytes objects rest) (totalSize before) := by
  subst split
  have holds := reportBytes_holds (before ++ object :: behind) rest
  have stored := storedAt_of_holds before holds
  rwa [Nat.zero_add] at stored

/-- Inside an unknown clean object the walk passes from word to word. -/
theorem word_of_passes {object : PcmmObject} {memory : Memory} {start : Nat}
    (stored : object.StoredAt memory start) (inert : object.Inert) {left right : List UInt8}
    (body : object.body = left ++ right) (nonempty : right ≠ []) (aligned : 4 ∣ left.length) :
    pcmmKnown (memory (start + 4 + left.length + 2)) (memory (start + 4 + left.length + 3)) = false ∧
      Exists fun word => Exists fun later =>
        right = word ++ later ∧ word.length = 4 := by
  have whole := object.aligned
  have holds := stored.body
  unfold Object.Inert at inert
  rw [body] at whole holds inert
  rw [List.length_append] at whole
  have alignedRight : 4 ∣ right.length := by omega
  rw [wordTags_append right aligned] at inert
  have there := (Memory.holds_append.mp holds).2
  match right, nonempty, alignedRight with
  | [_], _, impossible => simp only [List.length_cons, List.length_nil] at impossible; omega
  | [_, _], _, impossible => simp only [List.length_cons, List.length_nil] at impossible; omega
  | [_, _, _], _, impossible => simp only [List.length_cons, List.length_nil] at impossible; omega
  | first :: second :: major :: minor :: later, _, _ =>
      rcases Memory.holds_word.mp there with ⟨_, _, atMajor, atMinor, _⟩
      refine ⟨?_, [first, second, major, minor], later, rfl, rfl⟩
      rw [atMajor, atMinor]
      exact inert (major, minor) (List.mem_append_right _ List.mem_cons_self)

/-- The walk over clean objects only passes such indices, and what it decodes
are the known objects. -/
theorem passes_of_visits (clean : forall object, object ∈ objects -> object.Clean)
    (small : totalSize objects < 65536) {state : ReportState}
    (visits : Loop.Visits (reportGuard (totalSize objects)) (reportBody (reportBytes objects rest))
      .initial state) : Passes objects state.rptIdx := by
  refine visits.invariant (fun state => Passes objects state.rptIdx) ?_ ?_
  · intro state next passes entered moved
    have inside : state.rptIdx < totalSize objects := reportGuard_iff.mp entered
    have bounded : state.rptIdx < 65536 := Nat.lt_trans inside small
    rw [reportBody_eq bounded] at moved
    rcases passes with ended | ⟨before, object, behind, split, place⟩
    · exact absurd ended (Nat.ne_of_lt inside)
    have stored := reportBytes_storedAt rest split
    have ended := passes_end split
    rcases place with start | ⟨unknown, left, right, body, nonempty, aligned, place⟩
    · rw [start, stored.major, stored.minor, stored.length, object.length_toNat] at moved
      by_cases known : pcmmKnown object.major object.minor = true
      · rw [if_pos known] at moved
        cases moved
        exact ended
      · rw [if_neg known] at moved
        cases moved
        refine Or.inr ⟨before, object, behind, split, Or.inr ⟨known, [], object.body, rfl, ?_,
          Nat.dvd_zero 4, ?_⟩⟩
        · intro empty
          have enough := object.enough
          rw [empty] at enough
          exact absurd enough (by decide)
        · rfl
    · have member : object ∈ objects := by
        rw [split]
        exact List.mem_append_right _ List.mem_cons_self
      have inert := (clean object member).resolve_left unknown
      rcases word_of_passes stored inert body nonempty aligned with ⟨header, word, later, same, four⟩
      rw [place, header, if_neg Bool.false_ne_true] at moved
      cases moved
      cases later with
      | nil =>
          have size : object.size = 4 + left.length + 4 := by
            rw [Object.size, body, same, List.append_nil, List.length_append, four]
            omega
          rw [size] at ended
          have place : totalSize before + 4 + left.length + 4 =
              totalSize before + (4 + left.length + 4) := by omega
          exact place ▸ ended
      | cons byte later =>
          refine Or.inr ⟨before, object, behind, split, Or.inr ⟨unknown, left ++ word, byte :: later,
            ?_, List.cons_ne_nil _ _, ?_, ?_⟩⟩
          · rw [body, same, List.append_assoc]
          · rw [List.length_append]
            omega
          · rw [List.length_append, four, ← Nat.add_assoc]
  · cases objects with
    | nil => exact Or.inl rfl
    | cons object behind => exact Or.inr ⟨[], object, behind, rfl, Or.inl rfl⟩

theorem known_of_decodesAt (clean : forall object, object ∈ objects -> object.Clean)
    (small : totalSize objects < 65536) {idx : Nat}
    (decodesAt : DecodesAt (reportBytes objects rest) (totalSize objects) idx) :
    Exists fun before => Exists fun object => Exists fun behind =>
      objects = before ++ object :: behind ∧ object.Known ∧ idx = totalSize before := by
  rcases decodesAt with ⟨decoded, visits, inside, accepted⟩
  rcases passes_of_visits clean small visits with ended | ⟨before, object, behind, split, place⟩
  · exact absurd ended (Nat.ne_of_lt inside)
  have stored := reportBytes_storedAt rest split
  rcases place with start | ⟨unknown, left, right, body, nonempty, aligned, place⟩
  · refine ⟨before, object, behind, split, ?_, start⟩
    rw [Object.Known, ← stored.major, ← stored.minor, ← start]
    exact accepted
  · have member : object ∈ objects := by
      rw [split]
      exact List.mem_append_right _ List.mem_cons_self
    have inert := (clean object member).resolve_left unknown
    have header := (word_of_passes stored inert body nonempty aligned).1
    have place : idx = totalSize before + 4 + left.length := place
    rw [place, header] at accepted
    cases accepted

end Walk

/-! ## From the condition to skipping -/

/-- Two walks whose decoders read the same bytes collect the same. -/
theorem decodeAll_congr {objects : List PcmmObject} {left right : Memory} {start start' : Nat}
    (decoded : Decoded)
    (same : forall before object behind, objects = before ++ object :: behind -> object.Known ->
      forall i, i < fieldLength object.major object.minor ->
        left (start + totalSize before + 4 + i) = right (start' + totalSize before + 4 + i)) :
    decodeAll left start decoded objects = decodeAll right start' decoded objects := by
  induction objects generalizing start start' decoded with
  | nil => rfl
  | cons object objects inductionHypothesis =>
      have first : decodeObject left start decoded object =
          decodeObject right start' decoded object := by
        by_cases known : object.Known
        · rw [decodeObject, decodeObject, if_pos known, if_pos known]
          exact psPcmmDecode_congr decoded _ _ (same [] object objects rfl known)
        · rw [decodeObject, decodeObject, if_neg known, if_neg known]
      rw [decodeAll, decodeAll, first]
      refine inductionHypothesis _ ?_
      intro before other behind split known i small
      have there := same (object :: before) other behind (by rw [split]; rfl) known i small
      simp only [totalSize_cons] at there
      simpa only [Nat.add_assoc] using there

section Remove

variable {before behind : List PcmmObject} {skipped : PcmmObject} {rest : Memory}

theorem reportBytes_before {idx : Nat} (inside : idx < totalSize before) :
    reportBytes (before ++ skipped :: behind) rest idx =
      reportBytes (before ++ behind) rest idx := by
  simp only [reportBytes, encode_append]
  rw [Memory.behind_append, Memory.behind_append]
  have length : idx < (encode before).length := by rwa [encode_length]
  simp only [Memory.behind, List.getElem?_eq_getElem length, Option.getD_some]

theorem reportBytes_behind (before behind : List PcmmObject) (skipped : PcmmObject) (rest : Memory)
    (i : Nat) :
    reportBytes (before ++ skipped :: behind) rest (totalSize before + skipped.size + i) =
      reportBytes (before ++ behind) rest (totalSize before + i) := by
  simp only [reportBytes, encode_append, encode_cons]
  rw [Memory.behind_append, Memory.behind_append, Memory.behind_append]
  have first := Memory.behind_add (encode before)
  have second := Memory.behind_add skipped.bytes
  rw [encode_length] at first
  rw [Object.bytes_length] at second
  rw [Nat.add_assoc, first, second, first]

/-- Without the skipped object the walk collects the same. -/
theorem decodeAll_remove (unknown : ¬ skipped.Known)
    (noOverrun : NoOverrun (before ++ skipped :: behind)) :
    decodeAll (reportBytes (before ++ skipped :: behind) rest) 0 .initial
        (before ++ skipped :: behind) =
      decodeAll (reportBytes (before ++ behind) rest) 0 .initial (before ++ behind) := by
  rw [decodeAll_append, decodeAll_append, decodeAll, decodeObject, if_neg unknown, Nat.zero_add]
  have front : decodeAll (reportBytes (before ++ skipped :: behind) rest) 0 .initial before =
      decodeAll (reportBytes (before ++ behind) rest) 0 .initial before := by
    refine decodeAll_congr _ ?_
    intro earlier object between split known i small
    refine reportBytes_before ?_
    have room := noOverrun earlier object between skipped behind
      (by rw [split, List.append_assoc]; rfl) known unknown
    rw [split, totalSize_append, totalSize_cons]
    omega
  rw [front]
  refine decodeAll_congr _ ?_
  intro earlier object later _ _ i _
  have there := reportBytes_behind before behind skipped rest (totalSize earlier + 4 + i)
  simpa only [Nat.add_assoc] using there

end Remove

/-- A decoder in front of an unknown object stays in front of it. -/
theorem steppedOver_of_noOverrun {before behind : List PcmmObject} {skipped : PcmmObject}
    {earlier later : List PcmmObject} {decoding : PcmmObject}
    (noOverrun : NoOverrun (before ++ skipped :: behind)) (unknown : ¬ skipped.Known)
    (known : decoding.Known)
    (split : before ++ skipped :: behind = earlier ++ decoding :: later) :
    totalSize earlier + 4 + fieldLength decoding.major decoding.minor ≤ totalSize before ∨
      totalSize before + skipped.size ≤ totalSize earlier := by
  rcases List.append_eq_append_iff.mp split with ⟨middle, same, rest⟩ | ⟨middle, same, rest⟩
  · -- The decoded object stands behind the skipped one.
    cases middle with
    | nil =>
        cases rest
        exact absurd known unknown
    | cons first middle =>
        cases rest
        right
        rw [same, totalSize_append, totalSize_cons]
        omega
  · cases middle with
    | nil =>
        cases rest
        exact absurd known unknown
    | cons first middle =>
        cases rest
        left
        have room := noOverrun earlier decoding middle skipped behind
          (by rw [same, List.append_assoc]; rfl) known unknown
        rw [same, totalSize_append, totalSize_cons]
        omega

theorem skipped_of_noOverrun {before behind : List PcmmObject} {skipped : PcmmObject}
    (rest : Memory)
    (clean : forall object, object ∈ before ++ skipped :: behind -> object.Clean)
    (noOverrun : NoOverrun (before ++ skipped :: behind)) (unknown : ¬ skipped.Known)
    (small : totalSize (before ++ skipped :: behind) < 65536) :
    Skipped before skipped behind rest := by
  have fewer : totalSize (before ++ behind) < 65536 := by
    simp only [totalSize_append, totalSize_cons] at small ⊢
    omega
  have others : forall object, object ∈ before ++ behind -> object.Clean := by
    intro object member
    refine clean object ?_
    rcases List.mem_append.mp member with first | second
    · exact List.mem_append_left _ first
    · exact List.mem_append_right _ (List.mem_cons_of_mem _ second)
  constructor
  · refine ⟨_, decodes_of_clean others (reportBytes_holds _ rest) fewer, ?_⟩
    rw [← decodeAll_remove unknown noOverrun]
    exact decodes_of_clean clean (reportBytes_holds _ rest) small
  · intro idx decodesAt
    rcases known_of_decodesAt clean small decodesAt with
      ⟨earlier, decoding, later, split, known, place⟩
    have stored := reportBytes_storedAt rest split
    rw [place, stored.major, stored.minor]
    exact steppedOver_of_noOverrun noOverrun unknown known split

/-! ## From skipping to the condition -/

/-- The first word of a body that passes for a known header. -/
theorem exists_first_known {body : List UInt8} (aligned : 4 ∣ body.length)
    (found : Exists fun tags => tags ∈ wordTags body ∧ pcmmKnown tags.1 tags.2 = true) :
    Exists fun left => Exists fun first => Exists fun second => Exists fun major =>
      Exists fun minor => Exists fun right =>
        body = left ++ first :: second :: major :: minor :: right ∧ 4 ∣ left.length ∧
          pcmmKnown major minor = true ∧
            forall tags, tags ∈ wordTags left -> pcmmKnown tags.1 tags.2 = false := by
  induction body, aligned using wordInduction with
  | nil =>
      rcases found with ⟨tags, member, _⟩
      cases member
  | word first second major minor rest _ _ inductionHypothesis =>
      cases accepted : pcmmKnown major minor with
      | true =>
          exact ⟨[], first, second, major, minor, rest, rfl, Nat.dvd_zero 4, accepted,
            fun tags member => absurd member List.not_mem_nil⟩
      | false =>
          have later : Exists fun tags =>
              tags ∈ wordTags rest ∧ pcmmKnown tags.1 tags.2 = true := by
            rcases found with ⟨tags, member, known⟩
            rcases List.mem_cons.mp member with same | later
            · rw [same, accepted] at known
              cases known
            · exact ⟨tags, later, known⟩
          rcases inductionHypothesis later with
            ⟨left, first', second', major', minor', right, same, aligned, known, unknown⟩
          refine ⟨first :: second :: major :: minor :: left, first', second', major', minor', right,
            ?_, ?_, known, ?_⟩
          · rw [same]
            rfl
          · simp only [List.length_cons]
            omega
          · intro tags member
            rcases List.mem_cons.mp member with same | later
            · rw [same]
              exact accepted
            · exact unknown tags later

section Necessary

variable {objects before behind : List PcmmObject} {object : PcmmObject} {rest : Memory}

/-- The walk arrives at every object behind clean ones. -/
theorem visits_start (rest : Memory) (clean : forall object, object ∈ before -> object.Clean)
    (split : objects = before ++ object :: behind) (small : totalSize objects < 65536) :
    Exists fun decoded => Loop.Visits (reportGuard (totalSize objects))
      (reportBody (reportBytes objects rest)) .initial ⟨totalSize before, decoded⟩ := by
  have holds := reportBytes_holds objects rest
  have size : totalSize objects = totalSize before + totalSize (object :: behind) := by
    rw [split, totalSize_append]
  nth_rewrite 2 [split] at holds
  rw [encode_append] at holds
  have fits : 0 + totalSize before ≤ totalSize objects := by omega
  have visits := visits_objects .initial clean (Memory.holds_append.mp holds).1 fits small
  rw [Nat.zero_add] at visits
  exact ⟨_, visits⟩

/-- An unknown object that is skipped has no word that passes for a known header. -/
theorem inert_of_skipped (clean : forall object, object ∈ before -> object.Clean)
    (small : totalSize (before ++ object :: behind) < 65536) (unknown : ¬ object.Known)
    (skipped : Skipped before object behind rest) : object.Inert := by
  intro tags member
  apply Bool.eq_false_iff.mpr
  intro accepted
  rcases exists_first_known object.aligned ⟨tags, member, accepted⟩ with
    ⟨left, first, second, major, minor, right, body, aligned, known, passed⟩
  rcases visits_start rest clean rfl small with ⟨decoded, arrives⟩
  have stored := reportBytes_storedAt rest (rfl : before ++ object :: behind = _)
  have holds := stored.body
  rw [body] at holds
  rcases Memory.holds_append.mp holds with ⟨passedHolds, there⟩
  rcases Memory.holds_word.mp there with ⟨_, _, atMajor, atMinor, _⟩
  have size : object.size = left.length + 4 + right.length + 4 := by
    rw [Object.size, body]
    simp only [List.length_append, List.length_cons]
    omega
  have total : totalSize (before ++ object :: behind) =
      totalSize before + (object.size + totalSize behind) := by
    rw [totalSize_append, totalSize_cons]
  have header : pcmmKnown (reportBytes (before ++ object :: behind) rest (totalSize before + 2))
      (reportBytes (before ++ object :: behind) rest (totalSize before + 3)) = false := by
    rw [stored.major, stored.minor]
    exact Bool.eq_false_iff.mpr unknown
  have enters := visits_word decoded (by omega) small header
  have walks := visits_words decoded aligned passedHolds (by omega) small passed
  have finds : DecodesAt (reportBytes (before ++ object :: behind) rest)
      (totalSize (before ++ object :: behind)) (totalSize before + 4 + left.length) := by
    refine ⟨decoded, arrives.trans (enters.trans walks), by omega, ?_⟩
    rw [atMajor, atMinor]
    exact known
  rcases skipped.steppedOver _ finds with early | late
  · omega
  · omega

/-- Where every unknown object is skipped, all objects are clean: each one lets
the walk arrive at the next. -/
theorem clean_of_skipped (small : totalSize objects < 65536)
    (skips : forall before skipped behind, objects = before ++ skipped :: behind ->
      ¬ skipped.Known -> Skipped before skipped behind rest)
    (split : objects = before ++ behind) (clean : forall object, object ∈ before -> object.Clean) :
    forall object, object ∈ behind -> object.Clean := by
  induction behind generalizing before with
  | nil =>
      intro object member
      cases member
  | cons next behind inductionHypothesis =>
      have nextClean : next.Clean := by
        by_cases known : next.Known
        · exact Or.inl known
        · exact Or.inr (inert_of_skipped clean (split ▸ small) known
            (skips before next behind split known))
      have reached : forall object, object ∈ before ++ [next] -> object.Clean := by
        intro other member
        rcases List.mem_append.mp member with first | last
        · exact clean other first
        · exact List.mem_singleton.mp last ▸ nextClean
      have split' : objects = (before ++ [next]) ++ behind := by
        rw [split, List.append_assoc]
        rfl
      intro object member
      rcases List.mem_cons.mp member with same | later
      · exact same ▸ nextClean
      · exact inductionHypothesis split' reached object later

/-- A decoder in front of a skipped object does not read into it. -/
theorem noOverrun_of_skipped (small : totalSize objects < 65536)
    (clean : forall object, object ∈ objects -> object.Clean)
    (skips : forall before skipped behind, objects = before ++ skipped :: behind ->
      ¬ skipped.Known -> Skipped before skipped behind rest) : NoOverrun objects := by
  intro before decoding between unknown behind split known isUnknown
  have split' : objects = (before ++ decoding :: between) ++ unknown :: behind := by
    rw [split, List.append_assoc]
    rfl
  have earlier : forall object, object ∈ before -> object.Clean :=
    fun object member => clean object (split ▸ List.mem_append_left _ member)
  rcases visits_start rest earlier split small with ⟨decoded, arrives⟩
  have stored := reportBytes_storedAt rest split
  have positive := decoding.size_pos
  have total : totalSize objects = totalSize before + (decoding.size +
      (totalSize between + (unknown.size + totalSize behind))) := by
    rw [split]
    simp only [totalSize_append, totalSize_cons]
  have finds : DecodesAt (reportBytes objects rest) (totalSize objects) (totalSize before) := by
    refine ⟨decoded, arrives, by omega, ?_⟩
    rw [stored.major, stored.minor]
    exact known
  have whole := (skips _ _ _ split' isUnknown).steppedOver (totalSize before)
  rw [← split', stored.major, stored.minor] at whole
  have apart := whole finds
  rw [totalSize_append, totalSize_cons] at apart
  omega

end Necessary

/-- Exactly when the walk skips what it does not decode: every unknown object
of a body is skipped if and only if no word of an unknown object's body passes
the header test and no decoder reads past its object into an unknown one. -/
theorem skipsUnknown_iff (objects : List PcmmObject) (rest : Memory)
    (fits : totalSize objects + 4 < 65536) :
    (forall before skipped behind, objects = before ++ skipped :: behind -> ¬ skipped.Known ->
        Skipped before skipped behind rest) ↔
      (forall object, object ∈ objects -> ¬ object.Known -> object.Inert) ∧ NoOverrun objects := by
  have small : totalSize objects < 65536 := by omega
  constructor
  · intro skips
    have clean : forall object, object ∈ objects -> object.Clean :=
      clean_of_skipped small skips (List.nil_append objects).symm
        (fun _ member => absurd member List.not_mem_nil)
    constructor
    · intro object member unknown
      exact (clean object member).resolve_left unknown
    · exact noOverrun_of_skipped small clean skips
  · rintro ⟨inert, noOverrun⟩ before skipped behind split unknown
    subst split
    refine skipped_of_noOverrun rest ?_ noOverrun unknown small
    intro object member
    by_cases known : object.Known
    · exact Or.inl known
    · exact Or.inr (inert object member known)

/-- A Transaction object: transaction 7, GATE-INFO-ACK. -/
def gateInfoAck : PcmmObject where
  major := 1
  minor := 1
  body := [0, 7, 0, 8]
  aligned := by decide
  enough := by decide
  fits := by decide

/-- The IPv6 classifier as `pcmm_ipv6_classifier` packs it: next header type
256, both prefixes 128 bits, source ports 8 to 1025, destination ports 0 to
65535, classifier 1.  The source ports read as the header of a Gate Id. -/
def sourcePortsClassifier : PcmmObject where
  major := 6
  minor := 3
  body :=
    [0, 0, 0, 0,  0, 0, 0, 0,  1, 0, 128, 128] ++
      [32, 1, 13, 184,  0, 0, 0, 0,  0, 0, 0, 0,  0, 0, 0, 1] ++
      [32, 1, 13, 184,  0, 0, 0, 0,  0, 0, 0, 0,  0, 0, 0, 2] ++
      [0, 8, 4, 1,  0, 0, 255, 255,  0, 1, 64, 1,  0, 0, 0, 0]
  aligned := by decide
  enough := by decide
  fits := by decide

theorem skipsUnknown_at_gateInfoAck :
    totalSize [gateInfoAck, sourcePortsClassifier] + 4 < 65536 ∧
      ((forall before skipped behind,
          [gateInfoAck, sourcePortsClassifier] = before ++ skipped :: behind ->
          ¬ skipped.Known -> Skipped before skipped behind (fun _ => 0)) ↔
        (forall object, object ∈ [gateInfoAck, sourcePortsClassifier] -> ¬ object.Known ->
          object.Inert) ∧ NoOverrun [gateInfoAck, sourcePortsClassifier]) :=
  ⟨by decide, skipsUnknown_iff [gateInfoAck, sourcePortsClassifier] (fun _ => 0) (by decide)⟩

private theorem run_decodes {report : Memory} {endIdx : Nat} {last : ReportState}
    (finished : Loop.run (reportGuard endIdx) (reportBody report) endIdx .initial = some last)
    {decoded : Decoded} (decodes : Decodes report endIdx decoded) : last.decoded = decoded :=
  Decodes.unique ⟨last, ⟨endIdx, finished⟩, rfl⟩ decodes

/-- The classifier behind the transaction changes the gate the report is for. -/
theorem sourcePortsClassifier_not_skipped :
    ¬ sourcePortsClassifier.Known ∧
      ¬ Exists fun decoded =>
        Decodes (reportBytes [gateInfoAck] (fun _ => 0)) (totalSize [gateInfoAck]) decoded ∧
          Decodes (reportBytes [gateInfoAck, sourcePortsClassifier] (fun _ => 0))
            (totalSize [gateInfoAck, sourcePortsClassifier]) decoded := by
  refine ⟨by decide, ?_⟩
  rintro ⟨decoded, without, within⟩
  have gateWithout : (Loop.run (reportGuard (totalSize [gateInfoAck]))
      (reportBody (reportBytes [gateInfoAck] (fun _ => 0))) (totalSize [gateInfoAck])
      .initial).map (fun last => last.decoded.rpt.gateId) = some 0 := by decide
  have gateWithin : (Loop.run (reportGuard (totalSize [gateInfoAck, sourcePortsClassifier]))
      (reportBody (reportBytes [gateInfoAck, sourcePortsClassifier] (fun _ => 0)))
      (totalSize [gateInfoAck, sourcePortsClassifier])
      .initial).map (fun last => last.decoded.rpt.gateId) = some 65535 := by decide
  rcases Option.map_eq_some_iff.mp gateWithout with ⟨first, firstRun, firstGate⟩
  rcases Option.map_eq_some_iff.mp gateWithin with ⟨second, secondRun, secondGate⟩
  rw [run_decodes firstRun without] at firstGate
  rw [run_decodes secondRun within, firstGate] at secondGate
  exact absurd secondGate (by decide)

end PolicyServer
