import PolicyServer.Ipv6Literals
import PolicyServer.PolicyPayload

namespace PolicyServer

open Lib

/-!
# The packing of IPv6 addresses

`pack_ip6` stores the groups that are written, one behind the other, and knows
neither `::` nor a dotted end.  Its sixteen bytes are those of `inet_pton` exactly
where this does not matter: behind `::` there are only zeros, and a dotted end is
`0.0.0.0` (`InPlace`).  `packIp6_agrees_iff` says so for the bytes themselves, for
the Subscriber object of a decision, and for the addresses of a classifier.
-/

/-! ## Rows of groups -/

/-- A group of zeros, or a dotted address of zeros. -/
def onlyZeros (field : List Char) : Bool :=
  field.all (· == '0') || field == dottedZero

/-- Only zeros are written behind `::`, and for a dotted address. -/
def InPlace (ip : String) : Prop :=
  (forall field, field ∈ (ip.toList.splitOn ':').dropWhile (· ≠ []) -> onlyZeros field = true) ∧
    forall field, field ∈ ip.toList.splitOn ':' -> '.' ∈ field -> onlyZeros field = true

theorem hexValue_eq_zero {field : List Char} (digits : forall char, char ∈ field ->
    (hexDigit char).isSome = true) : hexValue field = 0 ↔ forall char, char ∈ field -> char = '0' := by
  induction field using List.reverseRecOn with
  | nil => exact ⟨fun _ _ member => absurd member List.not_mem_nil, fun _ => rfl⟩
  | append_singleton field last inductionHypothesis =>
      have front := inductionHypothesis fun char member =>
        digits char (List.mem_append_left _ member)
      have digit := digits last (List.mem_append_right _ List.mem_cons_self)
      have value : (hexDigit last).getD 0 = 0 ↔ last = '0' := by
        constructor
        · intro zero
          rcases Option.isSome_iff_exists.mp digit with ⟨number, is⟩
          rw [is, Option.getD_some] at zero
          exact (hexDigit_bounds is).2.2 zero
        · rintro rfl
          decide
      have whole : hexValue (field ++ [last]) = hexValue field * 16 + (hexDigit last).getD 0 :=
        List.foldl_append
      rw [whole]
      constructor
      · intro zero char member
        rcases List.mem_append.mp member with earlier | here
        · exact front.mp (by omega) char earlier
        · exact List.mem_singleton.mp here ▸ value.mp (by omega)
      · intro zeros
        have none := front.mpr fun char member => zeros char (List.mem_append_left _ member)
        have last0 := value.mpr (zeros last (List.mem_append_right _ List.mem_cons_self))
        omega

/-- A group is 0 where it is written with zeros. -/
theorem tokenGroup_eq_zero {field : List Char} (valid : isHextet field = true) :
    tokenGroup field = 0 ↔ onlyZeros field = true := by
  rcases Bool.and_eq_true_iff.mp valid with ⟨length, digits⟩
  have length := of_decide_eq_true length
  have all := List.all_eq_true.mp digits
  have small := hexValue_lt length.2
  have plain : field ≠ dottedZero := by
    rintro rfl
    exact absurd length.2 (by decide)
  have zero : UInt16.ofNat (hexValue field) = 0 ↔ hexValue field = 0 := by
    constructor
    · intro same
      have same := congrArg UInt16.toNat same
      rwa [UInt16.toNat_ofNat_of_lt' small] at same
    · intro same
      rw [same]
      rfl
  rw [tokenGroup_hextet valid, zero, hexValue_eq_zero all, onlyZeros, Bool.or_eq_true,
    beq_iff_eq, or_iff_left plain, List.all_eq_true]
  exact forall₂_congr fun char _ => beq_iff_eq.symm

/-- A group has digits only. -/
theorem not_mem_hextet {char : Char} {field : List Char} (other : (hexDigit char).isSome = false)
    (valid : isHextet field = true) : char ∉ field := by
  intro member
  have digit := List.all_eq_true.mp (Bool.and_eq_true_iff.mp valid).2 char member
  rw [other] at digit
  exact Bool.false_ne_true digit

theorem isIp6_of_standard {ip : String} {address : List UInt8}
    (standard : inetPton6 ip = some address) : isIp6 ip = true := by
  rw [← inetPton6_isSome, standard]
  rfl

/-- The fields of a row: groups, and perhaps a dotted address at the end. -/
theorem groups6_cases {fields : List (List Char)} {groups : List UInt16}
    (counted : groups6 fields = some groups) :
    (forall field, field ∈ fields -> isHextet field = true) ∧ groups = fields.map tokenGroup ∨
      Exists fun init => Exists fun last => Exists fun value => fields = init ++ [last] ∧
        (forall field, field ∈ init -> isHextet field = true) ∧
          inetPton4 (String.ofList last) = some value ∧
            groups = init.map tokenGroup ++ dottedGroups value := by
  induction fields generalizing groups with
  | nil =>
      cases counted
      exact Or.inl ⟨fun _ member => absurd member List.not_mem_nil, rfl⟩
  | cons field fields inductionHypothesis =>
      cases fields with
      | nil =>
          rw [groups6] at counted
          split at counted
          · rename_i digits
            cases counted
            refine Or.inl ⟨fun other member => List.mem_singleton.mp member ▸ digits, ?_⟩
            rw [List.map_singleton, tokenGroup_hextet digits]
          · rcases Option.map_eq_some_iff.mp counted with ⟨value, dotted, rfl⟩
            exact Or.inr ⟨[], field, value, rfl, fun _ member => absurd member List.not_mem_nil,
              dotted, rfl⟩
      | cons second fields =>
          rw [groups6] at counted
          · split at counted
            · rename_i digits
              rcases Option.map_eq_some_iff.mp counted with ⟨others, rest, rfl⟩
              have group := tokenGroup_hextet digits
              rcases inductionHypothesis rest with ⟨all, same⟩ | ⟨init, last, value, same, all,
                dotted, groups⟩
              · refine Or.inl ⟨?_, ?_⟩
                · intro other member
                  rcases List.mem_cons.mp member with rfl | member
                  · exact digits
                  · exact all other member
                · rw [List.map_cons, ← same, group]
              · refine Or.inr ⟨field :: init, last, value, ?_, ?_, dotted, ?_⟩
                · rw [same, List.cons_append]
                · intro other member
                  rcases List.mem_cons.mp member with rfl | member
                  · exact digits
                  · exact all other member
                · rw [List.map_cons, List.cons_append, ← groups, group]
            · cases counted
          · exact fun impossible => List.cons_ne_nil _ _ impossible

/-- Where a row is the same behind zeros as in front of what follows it, it is
zeros itself. -/
theorem zeros_of_shifted {α : Type} {zero : α} {common behind behind' : List α} {gap : Nat}
    (positive : 0 < gap)
    (same : common ++ behind = List.replicate gap zero ++ (common ++ behind')) :
    (forall x, x ∈ common -> x = zero) ∧ behind = List.replicate gap zero ++ behind' := by
  induction common with
  | nil => exact ⟨fun _ member => absurd member List.not_mem_nil, same⟩
  | cons first common inductionHypothesis =>
      have moved : gap = gap - 1 + 1 := (Nat.sub_add_cancel positive).symm
      have heads := same
      rw [moved, List.replicate_succ] at heads
      rcases List.cons.inj heads with ⟨head, tail⟩
      have next : common ++ behind = List.replicate gap zero ++ (common ++ behind') := by
        have here : first :: common ++ behind' = [zero] ++ (common ++ behind') := by
          rw [head]
          rfl
        have join : List.replicate (gap - 1) zero ++ [zero] = List.replicate gap zero := by
          rw [moved, List.replicate_succ']
          rfl
        calc
          common ++ behind = List.replicate (gap - 1) zero ++ (first :: common ++ behind') := tail
          _ = List.replicate (gap - 1) zero ++ ([zero] ++ (common ++ behind')) := by rw [here]
          _ = List.replicate gap zero ++ (common ++ behind') := by
            rw [← List.append_assoc, join]
      rcases inductionHypothesis next with ⟨rest, after⟩
      refine ⟨fun x member => ?_, after⟩
      rcases List.mem_cons.mp member with rfl | member
      · exact head
      · exact rest x member

theorem eq_replicate_zeros {groups : List UInt16} (zeros : forall group, group ∈ groups -> group = 0) :
    groups = List.replicate groups.length 0 :=
  List.eq_replicate_iff.mpr ⟨rfl, zeros⟩

theorem dottedGroups_zero_iff (value : UInt32) : dottedGroups value = [0, 0] ↔ value = 0 := by
  constructor
  · intro zeros
    have none : (0 : UInt16).toNat = 0 := rfl
    have number := dottedGroups_toNat zeros
    rw [none, Nat.zero_mul, Nat.add_zero] at number
    exact UInt32.toNat_inj.mp number
  · rintro rfl
    rfl

section Rows

variable {fields init : List (List Char)} {groups : List UInt16}

theorem map_zeros_iff (valid : forall field, field ∈ fields -> isHextet field = true) :
    (forall group, group ∈ fields.map tokenGroup -> group = 0) ↔
      forall field, field ∈ fields -> onlyZeros field = true := by
  constructor
  · intro zeros field member
    exact (tokenGroup_eq_zero (valid field member)).mp (zeros _ (List.mem_map_of_mem member))
  · intro zeros group member
    rcases List.mem_map.mp member with ⟨field, there, rfl⟩
    exact (tokenGroup_eq_zero (valid field there)).mpr (zeros field there)

/-- A dotted address is one field and two groups. -/
theorem dotted_count (init : List (List Char)) (last : List Char) (value : UInt32) :
    (init.map tokenGroup ++ dottedGroups value).length - (init ++ [last]).length = 1 := by
  have two : (dottedGroups value).length = 2 := rfl
  rw [List.length_append, List.length_append, List.length_map, two, List.length_singleton]
  omega

theorem not_onlyZeros_of_dot {last : List Char} (dot : '.' ∈ last) (other : last ≠ dottedZero) :
    ¬ onlyZeros last = true := by
  intro zeros
  rcases Bool.or_eq_true_iff.mp zeros with digits | same
  · exact absurd (beq_iff_eq.mp (List.all_eq_true.mp digits '.' dot)) (by decide)
  · exact other (beq_iff_eq.mp same)

/-- A dotted address that is the same behind zeros is 0. -/
theorem dotted_zero_of_shifted {group : UInt16} {value : UInt32} {gap : Nat} (positive : 0 < gap)
    (same : groups ++ ([group] ++ List.replicate (gap + 1) 0) =
      List.replicate gap 0 ++ (groups ++ dottedGroups value)) : value = 0 := by
  have tail := (zeros_of_shifted positive same).2
  have moved : gap = gap - 1 + 1 := (Nat.sub_add_cancel positive).symm
  rw [moved, List.replicate_succ] at tail
  have rest : List.replicate (gap - 1 + 1 + 1) (0 : UInt16) =
      List.replicate (gap - 1) 0 ++ dottedGroups value := (List.cons.inj tail).2
  have zeros : forall group, group ∈ dottedGroups value -> group = 0 := by
    intro group member
    have there : group ∈ List.replicate (gap - 1 + 1 + 1) (0 : UInt16) :=
      rest ▸ List.mem_append_right _ member
    exact (List.mem_replicate.mp there).2
  exact (dottedGroups_zero_iff value).mp (eq_replicate_zeros zeros)

/-- Groups behind `::` that are stored without the zeros in front of them. -/
theorem rows_behind_iff (counted : groups6 fields = some groups) {gap : Nat} (positive : 0 < gap) :
    fields.map tokenGroup ++ List.replicate (gap + (groups.length - fields.length)) 0 =
        List.replicate gap 0 ++ groups ↔
      forall field, field ∈ fields -> onlyZeros field = true := by
  rcases groups6_cases counted with ⟨valid, rfl⟩ | ⟨init, last, value, rfl, valid, dotted, rfl⟩
  · rw [List.length_map, Nat.sub_self, Nat.add_zero, ← map_zeros_iff valid]
    constructor
    · intro same
      have shifted : fields.map tokenGroup ++ List.replicate gap 0 =
          List.replicate gap 0 ++ (fields.map tokenGroup ++ []) := by
        rw [same, List.append_nil]
      exact (zeros_of_shifted positive shifted).1
    · intro zeros
      rw [eq_replicate_zeros zeros, List.replicate_append_replicate,
        List.replicate_append_replicate, Nat.add_comm]
  · rw [dotted_count, List.map_append, List.map_singleton, List.append_assoc]
    rcases dotted_cases dotted with ⟨dot, ⟨zero, none, group⟩ | ⟨other, some', _⟩⟩
    · rw [none, group, zero]
      have pair : dottedGroups 0 = [0, 0] := rfl
      have lastZeros : onlyZeros dottedZero = true := by decide
      rw [pair]
      constructor
      · intro same
        have zeros := (map_zeros_iff valid).mp (zeros_of_shifted positive same).1
        intro field member
        rcases List.mem_append.mp member with earlier | here
        · exact zeros field earlier
        · exact List.mem_singleton.mp here ▸ lastZeros
      · intro zeros
        have front := (map_zeros_iff valid).mpr fun field member =>
          zeros field (List.mem_append_left _ member)
        have single : ([0] : List UInt16) = List.replicate 1 0 := rfl
        have double : ([0, 0] : List UInt16) = List.replicate 2 0 := rfl
        rw [eq_replicate_zeros front, double, single]
        simp only [List.replicate_append_replicate]
        exact congrArg (fun count => List.replicate count 0) (by omega)
    · constructor
      · intro same
        exact absurd (dotted_zero_of_shifted positive same) some'
      · intro zeros
        have last0 := zeros last (List.mem_append_right _ List.mem_cons_self)
        exact absurd last0 (not_onlyZeros_of_dot dot other)

/-- Groups without `::`. -/
theorem rows_full_iff (counted : groups6 fields = some groups) :
    fields.map tokenGroup ++ List.replicate (groups.length - fields.length) 0 = groups ↔
      forall field, field ∈ fields -> '.' ∈ field -> onlyZeros field = true := by
  rcases groups6_cases counted with ⟨valid, rfl⟩ | ⟨init, last, value, rfl, valid, dotted, rfl⟩
  · rw [List.length_map, Nat.sub_self, List.replicate_zero, List.append_nil]
    exact iff_of_true rfl fun field member dot => absurd dot (not_mem_hextet rfl (valid field member))
  · rw [dotted_count, List.map_append, List.map_singleton, List.append_assoc]
    rcases dotted_cases dotted with ⟨dot, ⟨zero, none, group⟩ | ⟨other, some', apart⟩⟩
    · have pair : dottedGroups 0 = [0, 0] := rfl
      rw [none, group, pair]
      refine iff_of_true rfl ?_
      intro field member inside
      rcases List.mem_append.mp member with earlier | here
      · exact absurd inside (not_mem_hextet rfl (valid field earlier))
      · rw [List.mem_singleton.mp here, zero]
        decide
    · constructor
      · intro same
        exact absurd (List.append_cancel_left same).symm apart
      · intro zeros
        have last0 := zeros last (List.mem_append_right _ List.mem_cons_self) dot
        exact absurd last0 (not_onlyZeros_of_dot dot other)

end Rows

/-! ## Literals -/

theorem ne_nil_of_isHextet {field : List Char} (valid : isHextet field = true) : field ≠ [] := by
  rintro rfl
  exact absurd valid (by decide)

/-- The fields of a row are not empty. -/
theorem groups6_ne_nil {fields : List (List Char)} {groups : List UInt16}
    (counted : groups6 fields = some groups) {field : List Char} (member : field ∈ fields) :
    field ≠ [] := by
  rcases groups6_cases counted with ⟨valid, _⟩ | ⟨init, last, value, rfl, valid, dotted, _⟩
  · exact ne_nil_of_isHextet (valid field member)
  · rcases List.mem_append.mp member with earlier | here
    · exact ne_nil_of_isHextet (valid field earlier)
    · rintro rfl
      have dot := (dotted_cases dotted).1
      rw [← List.mem_singleton.mp here] at dot
      cases dot

theorem groups6_length {fields : List (List Char)} {groups : List UInt16}
    (counted : groups6 fields = some groups) : fields.length ≤ groups.length := by
  apply hextets_length
  rw [← groups6_count, counted]
  rfl

theorem filter_filled {fields : List (List Char)}
    (filled : forall field, field ∈ fields -> field ≠ []) : fields.filter (· ≠ []) = fields :=
  List.filter_eq_self.mpr fun field member => decide_eq_true (filled field member)

/-- The rows around `::`. -/
theorem compressed6_cases {left right : List (List Char)} {groups : List UInt16}
    (compressed : compressed6 left right = some groups) :
    (forall field, field ∈ left -> isHextet field = true) ∧ Exists fun inner =>
      groups6 (right.filter (· ≠ [])) = some inner ∧ left.length + inner.length ≤ 7 ∧
        groups = left.map tokenGroup ++
          (List.replicate (8 - (left.length + inner.length)) 0 ++ inner) := by
  unfold compressed6 at compressed
  split at compressed
  · rename_i valid
    have valid := List.all_eq_true.mp valid
    have row : left.map (fun field => UInt16.ofNat (hexValue field)) = left.map tokenGroup :=
      List.map_congr_left fun field member => (tokenGroup_hextet (valid field member)).symm
    rcases Option.bind_eq_some_iff.mp compressed with ⟨inner, counted, rest⟩
    split at rest
    · rename_i few
      refine ⟨valid, inner, ?_, few, ?_⟩
      · by_cases last : right = [[]]
        · rw [if_pos last] at counted
          rw [last]
          exact counted
        · rw [if_neg last] at counted
          split at counted
          · cases counted
          · rw [filter_filled fun field member => groups6_ne_nil counted member]
            exact counted
      · rw [← row]
        exact (Option.some.inj rest).symm
    · cases rest
  · cases compressed

/-- A literal with `::`: where the two rows agree. -/
theorem padded_compressed_iff {left right : List (List Char)} {groups : List UInt16}
    (compressed : compressed6 left right = some groups) :
    groups.length = 8 ∧
      ((left ++ right.filter (· ≠ [])).map tokenGroup ++
          List.replicate (8 - (left ++ right.filter (· ≠ [])).length) 0 = groups ↔
        forall field, field ∈ right -> onlyZeros field = true) := by
  rcases compressed6_cases compressed with ⟨valid, inner, counted, few, rfl⟩
  have short := groups6_length counted
  have gap : 8 - (left ++ right.filter (· ≠ [])).length =
      8 - (left.length + inner.length) + (inner.length - (right.filter (· ≠ [])).length) := by
    rw [List.length_append]
    omega
  refine ⟨?_, ?_⟩
  · rw [List.length_append, List.length_append, List.length_map, List.length_replicate]
    omega
  · rw [gap, List.map_append, List.append_assoc, List.append_right_inj,
      rows_behind_iff counted (by omega)]
    constructor
    · intro zeros field member
      by_cases empty : field = []
      · rw [empty]
        decide
      · exact zeros field (List.mem_filter.mpr ⟨member, decide_eq_true empty⟩)
    · intro zeros field member
      exact zeros field (List.mem_filter.mp member).1

/-- A literal is one row, or two rows around `::`, which may have one more empty
field in front of it. -/
theorem literalGroups_cases {fields : List (List Char)} {groups : List UInt16}
    (literal : literalGroups fields = some groups) :
    fields.dropWhile (· ≠ []) = [] ∧ groups6 fields = some groups ∧ groups.length = 8 ∨
      Exists fun left => Exists fun right => compressed6 left right = some groups ∧
        fields.filter (· ≠ []) = left ++ right.filter (· ≠ []) ∧
          (forall field, field ∈ fields -> field ∈ left ∨ field ∈ fields.dropWhile (· ≠ [])) ∧
            forall field, field ≠ [] -> (field ∈ fields.dropWhile (· ≠ []) ↔ field ∈ right) := by
  unfold literalGroups at literal
  have parts := List.takeWhile_append_dropWhile (p := fun field => decide (field ≠ [])) (l := fields)
  cases behind : fields.dropWhile (· ≠ []) with
  | nil =>
      rw [behind] at literal
      rcases Option.filter_eq_some_iff.mp literal with ⟨counted, eight⟩
      exact Or.inl ⟨rfl, counted, beq_iff_eq.mp eight⟩
  | cons first right =>
      have blank : first = [] := by
        have stops := List.head?_dropWhile_not (fun field : List Char => decide (field ≠ [])) fields
        rw [behind, List.head?_cons] at stops
        simpa using stops
      rw [behind] at literal
      dsimp only at literal
      rw [behind, blank] at parts
      have rows : Exists fun rest => compressed6 (fields.takeWhile (· ≠ [])) rest = some groups ∧
          (right = rest ∨ right = [] :: rest) := by
        split at literal
        · exact ⟨right, literal, Or.inl rfl⟩
        · rename_i start
          have none : fields.takeWhile (· ≠ []) = [] := not_not.mp start
          split at literal
          · rename_i double
            rcases List.head?_eq_some_iff.mp double with ⟨rest, same⟩
            rw [same, List.tail_cons] at literal
            exact ⟨rest, none ▸ literal, Or.inr same⟩
          · cases literal
      rcases rows with ⟨rest, compressed, same⟩
      have valid := (compressed6_cases compressed).1
      have others : (fields.takeWhile (· ≠ [])).filter (· ≠ []) = fields.takeWhile (· ≠ []) :=
        filter_filled fun field member => ne_nil_of_isHextet (valid field member)
      have rest' : ([] :: right).filter (· ≠ []) = rest.filter (· ≠ []) := by
        rcases same with rfl | rfl <;> rfl
      refine Or.inr ⟨_, rest, compressed, ?_, ?_, ?_⟩
      · calc
          fields.filter (· ≠ []) = (fields.takeWhile (· ≠ []) ++ [] :: right).filter (· ≠ []) := by
            rw [parts]
          _ = fields.takeWhile (· ≠ []) ++ rest.filter (· ≠ []) := by
            rw [List.filter_append, others, rest']
      · intro field member
        rw [← parts] at member
        rw [blank]
        exact List.mem_append.mp member
      · intro field other
        constructor
        · intro member
          have kept : field ∈ ([] :: right).filter (· ≠ []) :=
            List.mem_filter.mpr ⟨blank ▸ member, decide_eq_true other⟩
          rw [rest'] at kept
          exact (List.mem_filter.mp kept).1
        · intro member
          have kept : field ∈ rest.filter (· ≠ []) :=
            List.mem_filter.mpr ⟨member, decide_eq_true other⟩
          rw [← rest'] at kept
          exact blank.symm ▸ (List.mem_filter.mp kept).1

/-- The groups that `strtok` finds, with zeros behind them, are those of the
literal exactly where they stand in place. -/
theorem padded_iff {ip : String} {groups : List UInt16}
    (literal : literalGroups (ip.toList.splitOn ':') = some groups) :
    groups.length = 8 ∧
      ((tokens ip).map tokenGroup ++ List.replicate (8 - (tokens ip).length) 0 = groups ↔
        InPlace ip) := by
  unfold tokens InPlace
  generalize ip.toList.splitOn ':' = fields at literal ⊢
  rcases literalGroups_cases literal with ⟨none, counted, eight⟩ |
    ⟨left, right, compressed, filled, parts, behind⟩
  · rw [filter_filled fun field member => groups6_ne_nil counted member, none]
    refine ⟨eight, ?_⟩
    have rows := rows_full_iff counted
    rw [eight] at rows
    rw [rows]
    exact (and_iff_right fun _ member => absurd member List.not_mem_nil).symm
  · rcases padded_compressed_iff compressed with ⟨eight, agrees⟩
    have blank : onlyZeros [] = true := rfl
    rw [filled]
    refine ⟨eight, agrees.trans ?_⟩
    constructor
    · intro only
      have zeros : forall field, field ∈ fields.dropWhile (· ≠ []) -> onlyZeros field = true := by
        intro field member
        by_cases empty : field = []
        · rw [empty, blank]
        · exact only field ((behind field empty).mp member)
      refine ⟨zeros, fun field member dot => ?_⟩
      rcases parts field member with front | back
      · exact absurd dot (not_mem_hextet rfl ((compressed6_cases compressed).1 field front))
      · exact zeros field back
    · intro place field member
      by_cases empty : field = []
      · rw [empty, blank]
      · exact place.1 field ((behind field empty).mpr member)

/-! ## Bytes -/

/-- The groups that `strtok` finds, in an address of zeros. -/
def paddedGroups (text : String) : List UInt16 :=
  (tokens text).map tokenGroup ++ List.replicate (8 - (tokens text).length) 0

theorem packU16Be_inj {left right : UInt16} (same : packU16Be left = packU16Be right) :
    left = right := by
  have holds := Memory.behind_holds (packU16Be left) fun _ => 0
  have other := holds
  rw [same] at other
  rw [← unpackU16_of_holds holds, ← unpackU16_of_holds other, same]

theorem groupBytes_inj {left right : List UInt16}
    (same : left.flatMap packU16Be = right.flatMap packU16Be) : left = right := by
  induction left generalizing right with
  | nil =>
      cases right with
      | nil => rfl
      | cons group right => cases same
  | cons group left inductionHypothesis =>
      cases right with
      | nil => cases same
      | cons other right =>
          rw [List.flatMap_cons, List.flatMap_cons] at same
          rcases List.append_inj same rfl with ⟨head, tail⟩
          rw [packU16Be_inj head, inductionHypothesis tail]

theorem groupBytes_length (groups : List UInt16) :
    (groups.flatMap packU16Be).length = 2 * groups.length := by
  induction groups with
  | nil => rfl
  | cons group groups inductionHypothesis =>
      rw [List.flatMap_cons, List.length_append, inductionHypothesis, packU16Be_length,
        List.length_cons]
      omega

theorem zeroGroups_bytes (count : Nat) :
    (List.replicate count (0 : UInt16)).flatMap packU16Be = List.replicate (2 * count) 0 := by
  induction count with
  | zero => rfl
  | succ count inductionHypothesis =>
      have two : packU16Be 0 = List.replicate 2 0 := rfl
      rw [List.replicate_succ, List.flatMap_cons, inductionHypothesis, two,
        List.replicate_append_replicate]
      exact congrArg (fun length => List.replicate length 0) (by omega)

theorem tokenBytes (token : List Char) :
    [(strtoul16 token >>> 8).toUInt8, (strtoul16 token).toUInt8] = packU16Be (tokenGroup token) := by
  unfold packU16Be tokenGroup
  generalize strtoul16 token = value
  have wide : (8 : UInt64).toNat % 64 = 8 := rfl
  have narrow : (8 : UInt16).toNat % 16 = 8 := rfl
  refine congrArg₂ (fun high low => [high, low]) ?_ ?_
  · apply UInt8.toNat_inj.mp
    rw [UInt64.toNat_toUInt8, UInt64.toNat_shiftRight, wide, UInt16.toNat_toUInt8,
      UInt16.toNat_shiftRight, narrow, UInt64.toNat_toUInt16, Nat.shiftRight_eq_div_pow,
      Nat.shiftRight_eq_div_pow]
    omega
  · apply UInt8.toNat_inj.mp
    rw [UInt64.toNat_toUInt8, UInt16.toNat_toUInt8, UInt64.toNat_toUInt16]
    omega

theorem paddedGroups_length {text : String} (few : (tokens text).length ≤ 8) :
    ((paddedGroups text).flatMap packU16Be).length = 16 := by
  rw [groupBytes_length, paddedGroups, List.length_append, List.length_map, List.length_replicate,
    Nat.add_sub_cancel' few]

/-- What `pack_ip6` stores, with the zeros of the address behind it. -/
theorem packIp6_padded {text : String} (some' : tokens text ≠ []) (few : (tokens text).length ≤ 8) :
    Exists fun bytes => packIp6 text = some bytes ∧ bytes.length ≤ 16 ∧
      bytes ++ List.replicate (16 - bytes.length) 0 = (paddedGroups text).flatMap packU16Be := by
  have packs : packIp6 text = some (((tokens text).map tokenGroup).flatMap packU16Be) := by
    rw [packIp6, if_neg some', List.flatMap_map]
    exact congrArg some (List.flatMap_congr fun token _ => tokenBytes token)
  have count : (((tokens text).map tokenGroup).flatMap packU16Be).length =
      2 * (tokens text).length := by
    rw [groupBytes_length, List.length_map]
  refine ⟨_, packs, by omega, ?_⟩
  rw [count, paddedGroups, List.flatMap_append, zeroGroups_bytes, Nat.mul_sub]

theorem tokens_empty_iff {ip : String} {address : List UInt8} (standard : inetPton6 ip = some address) :
    tokens ip = [] ↔ ip = "::" := by
  constructor
  · intro none
    rcases Option.map_eq_some_iff.mp standard with ⟨groups, literal, _⟩
    have joined : [':'].intercalate (ip.toList.splitOn ':') = ip.toList :=
      List.intercalate_splitOn ':'
    have filled := List.splitOn_ne_nil ':' ip.toList
    unfold tokens at none
    unfold literalGroups at literal
    generalize ip.toList.splitOn ':' = fields at none literal joined filled
    have empty : forall field, field ∈ fields -> field = [] := by
      intro field member
      by_contra other
      have there : field ∈ fields.filter (· ≠ []) :=
        List.mem_filter.mpr ⟨member, decide_eq_true other⟩
      rw [none] at there
      cases there
    rcases fields with _ | ⟨first, right⟩
    · exact absurd rfl filled
    · have blank := empty first List.mem_cons_self
      rw [blank] at literal joined
      have behind : ([] :: right : List (List Char)).dropWhile (· ≠ []) = [] :: right := rfl
      have front : ([] :: right : List (List Char)).takeWhile (· ≠ []) = [] := rfl
      rw [behind, front] at literal
      dsimp only at literal
      rw [if_neg (fun other => other rfl)] at literal
      split at literal
      · rename_i double
        rcases List.head?_eq_some_iff.mp double with ⟨rest, same⟩
        rw [same, List.tail_cons] at literal
        rcases Option.bind_eq_some_iff.mp literal with ⟨inner, counted, _⟩
        by_cases last : rest = [[]]
        · rw [same, last] at joined
          exact String.toList_inj.mp joined.symm
        · rw [if_neg last] at counted
          split at counted
          · cases counted
          · rename_i more
            rcases List.exists_cons_of_ne_nil more with ⟨field, others, parts⟩
            have member : field ∈ rest := parts ▸ List.mem_cons_self
            have there : field ∈ first :: right :=
              List.mem_cons_of_mem _ (same ▸ List.mem_cons_of_mem _ member)
            exact absurd (empty field there) (groups6_ne_nil counted member)
      · cases literal
  · rintro rfl
    decide

/-! ## Addresses with a prefix length -/

/-- An address with a prefix length behind it, as a request has it. -/
def Prefixed (text ip : String) (prefixLen : Nat) : Prop :=
  Exists fun digits => text.toList = ip.toList ++ '/' :: digits ∧
    (digits ≠ [] ∧ digits.all Char.isDigit = true) ∧ leadingNumber digits = prefixLen ∧
      prefixLen ≤ 128

section Prefixes

variable {text ip : String} {address : List UInt8} {prefixLen : Nat}

/-- No field of a row has a slash. -/
theorem slash_not_mem_row {fields : List (List Char)} {groups : List UInt16}
    (counted : groups6 fields = some groups) {field : List Char} (member : field ∈ fields) :
    '/' ∉ field := by
  rcases groups6_cases counted with ⟨valid, _⟩ | ⟨init, last, value, rfl, valid, dotted, _⟩
  · exact not_mem_hextet rfl (valid field member)
  · rcases List.mem_append.mp member with earlier | here
    · exact not_mem_hextet rfl (valid field earlier)
    · rw [List.mem_singleton.mp here]
      rcases inetPton4_parts dotted with ⟨a, b, c, d, rfl, ⟨octetA, octetB, octetC, octetD⟩, _⟩
      have octet : forall part, isOctet part = true -> '/' ∉ part := by
        intro part octet slash
        exact absurd (List.all_eq_true.mp (octet_cases octet).1 '/' slash) (by decide)
      have dot : '/' ≠ '.' := by decide
      simp only [List.mem_append, List.mem_cons, dot, octet a octetA, octet b octetB,
        octet c octetC, octet d octetD, or_self, not_false_eq_true]

theorem slash_not_mem (standard : inetPton6 ip = some address) : '/' ∉ ip.toList := by
  rcases Option.map_eq_some_iff.mp standard with ⟨groups, literal, _⟩
  intro slash
  have there : '/' = ':' ∨ Exists fun field => field ∈ ip.toList.splitOn ':' ∧ '/' ∈ field :=
    mem_splitOn slash
  rcases there with colon | ⟨field, member, inside⟩
  · exact absurd colon (by decide)
  · generalize ip.toList.splitOn ':' = fields at literal member
    have some' : field ≠ [] := List.ne_nil_of_mem inside
    rcases literalGroups_cases literal with ⟨_, counted, _⟩ |
      ⟨left, right, compressed, _, parts, behind⟩
    · exact slash_not_mem_row counted member inside
    · rcases compressed6_cases compressed with ⟨valid, inner, counted, _, _⟩
      rcases parts field member with front | back
      · exact not_mem_hextet rfl (valid field front) inside
      · have there : field ∈ right.filter (· ≠ []) :=
          List.mem_filter.mpr ⟨(behind field some').mp back, decide_eq_true some'⟩
        exact slash_not_mem_row counted there inside

/-- A prefix length adds no group but one of zeros, where there is room for it. -/
theorem paddedGroups_prefixed (standard : inetPton6 ip = some address)
    (prefixed : Prefixed text ip prefixLen) :
    tokens text ≠ [] ∧ (tokens text).length ≤ 8 ∧ paddedGroups text = paddedGroups ip := by
  rcases prefixed with ⟨digits, same, ⟨_, all⟩, _, _⟩
  have valid := isIp6_of_standard standard
  unfold paddedGroups
  rcases tokens_prefixed same all with ⟨empty, longer⟩ | ⟨init, last, shorter, longer⟩
  · have few := tokens_compressed valid empty
    have zero : tokenGroup ('/' :: digits) = 0 := tokenGroup_slash [] digits
    have room : 8 - (tokens ip).length = 8 - ((tokens ip).length + 1) + 1 := by omega
    rw [longer, List.length_append, List.length_singleton, List.map_append, List.map_singleton,
      zero, room, List.replicate_succ, List.append_assoc]
    exact ⟨List.append_ne_nil_of_right_ne_nil _ (List.cons_ne_nil _ _), Nat.succ_le_succ few, rfl⟩
  · have few := tokens_length valid
    rw [shorter, List.length_append, List.length_singleton] at few
    rw [longer, shorter, List.length_append, List.length_singleton, List.map_append,
      List.map_singleton, tokenGroup_slash, List.map_append, List.map_singleton, List.length_append,
      List.length_singleton]
    exact ⟨List.append_ne_nil_of_right_ne_nil _ (List.cons_ne_nil _ _), few, rfl⟩

/-- A number without a sign or white space. -/
theorem sscanfInt_digits {digits : List Char} (some' : digits ≠ [])
    (all : digits.all Char.isDigit = true) :
    sscanfInt digits = Int32.ofInt (min 9223372036854775807 (leadingNumber digits)) := by
  have all := List.all_eq_true.mp all
  rcases List.exists_cons_of_ne_nil some' with ⟨first, rest, rfl⟩
  have digit := all first List.mem_cons_self
  have hex : (hexDigit first).isSome = true := by
    rw [hexDigit_decimal digit]
    rfl
  have start : (first :: rest).dropWhile isspace = first :: rest := by
    rw [List.dropWhile_cons_of_neg (by rw [not_isspace_of_hexDigit hex]; exact Bool.false_ne_true)]
  unfold sscanfInt
  rw [start]
  split
  · rename_i sign
    rw [(List.cons.inj sign).1] at digit
    exact absurd digit (by decide)
  · rename_i sign
    rw [(List.cons.inj sign).1] at digit
    exact absurd digit (by decide)
  · rfl

theorem prefixLenOf_prefixed (standard : inetPton6 ip = some address)
    (prefixed : Prefixed text ip prefixLen) : prefixLenOf text = UInt8.ofNat prefixLen := by
  rcases prefixed with ⟨digits, same, ⟨some', all⟩, number, small⟩
  have noSlash := slash_not_mem standard
  have behind : (text.toList.dropWhile (· != '/')).tail = digits := by
    have front : forall char, char ∈ ip.toList -> (char != '/') = true := by
      intro char member
      exact bne_iff_ne.mpr fun slash => noSlash (slash ▸ member)
    rw [same, List.dropWhile_append_of_pos front]
    rfl
  have slash : strstr text "/" = true := by
    refine decide_eq_true ?_
    rw [same]
    exact ⟨ip.toList, digits, by simp⟩
  have read : prefixlen text = UInt8.ofNat prefixLen := by
    have least : min 9223372036854775807 (leadingNumber digits : Int) = prefixLen := by
      rw [number]
      exact Int.min_eq_right (by omega)
    have narrow : UInt8.ofInt prefixLen = UInt8.ofNat prefixLen := by
      apply UInt8.toNat_inj.mp
      rw [UInt8.ofInt, UInt8.toNat_ofNat', UInt8.toNat_ofNat']
      omega
    rw [prefixlen, slash, Bool.not_true, if_neg Bool.false_ne_true, behind,
      sscanfInt_digits some' all, least, ← narrow]
    exact toU8_ofInt prefixLen
  rw [prefixLenOf]
  split
  · exact read
  · rename_i left
    by_cases zero : text = "::/0"
    · rw [zero] at behind
      have none : digits = ['0'] := behind.symm
      rw [← number, none]
      rfl
    · have empty : text = "" := by
        by_contra other
        exact left ⟨zero, other⟩
      rw [empty] at same
      have length := congrArg List.length same
      rw [List.length_append, List.length_cons] at length
      exact absurd length (by simp)

end Prefixes

/-! ## The objects -/

/-- The bytes from a place in an array on. -/
def slice (buffer : Buffer) (start count : Nat) : List UInt8 :=
  (buffer.bytes.drop start).take count

theorem slice_middle {front before middle after : List UInt8} {room start count : Nat}
    (there : start = front.length + before.length) (whole : count = middle.length) :
    slice (Buffer.filled (front ++ (before ++ (middle ++ after))) room) start count = middle := by
  have length : front.length + before.length = (front ++ before).length := List.length_append.symm
  rw [slice, Buffer.filled, there, whole, length, ← List.append_assoc front, List.append_assoc _ _
    (List.replicate room 0), List.drop_left, List.append_assoc, List.take_left]

section Objects

variable {ip : String} {address : List UInt8}

/-- The bytes of a literal are those that are packed where the groups are in place. -/
theorem paddedBytes_iff (standard : inetPton6 ip = some address) :
    address.length = 16 ∧ ((paddedGroups ip).flatMap packU16Be = address ↔ InPlace ip) := by
  rcases Option.map_eq_some_iff.mp standard with ⟨groups, literal, rfl⟩
  rcases padded_iff literal with ⟨eight, agrees⟩
  refine ⟨?_, ?_⟩
  · rw [groupBytes_length, eight]
  · rw [← agrees]
    constructor
    · exact groupBytes_inj
    · intro same
      exact congrArg (fun groups => groups.flatMap packU16Be) same

/-- `pack_ip6` on a cleared field behind a header. -/
theorem packIp6_written_iff (standard : inetPton6 ip = some address) (header : List UInt8) :
    (packIp6 ip).map ((Buffer.filled header 16).write header.length) =
        some { bytes := header ++ address, outside := 0 } ↔ ip ≠ "::" ∧ InPlace ip := by
  by_cases empty : tokens ip = []
  · have none : packIp6 ip = none := if_pos empty
    rw [none]
    constructor
    · intro impossible
      cases impossible
    · intro other
      exact absurd ((tokens_empty_iff standard).mp empty) other.1
  · rcases packIp6_padded empty (tokens_length (isIp6_of_standard standard)) with ⟨bytes, packs, short, padded⟩
    have other : ip ≠ "::" := fun same => empty ((tokens_empty_iff standard).mpr same)
    rw [packs, Option.map_some, Buffer.filled_write rfl short, Buffer.filled, List.append_assoc,
      padded, and_iff_right other, ← (paddedBytes_iff standard).2]
    constructor
    · intro same
      exact List.append_cancel_left (congrArg Buffer.bytes (Option.some.inj same))
    · intro same
      rw [same]

/-- The Subscriber object that `ps_proxy` sends. -/
theorem subscriber_written_iff (standard : inetPton6 ip = some address) (addr : UInt32)
    (self : Session) (op : GateOp) {gc : Gctl} (request : List UInt8) (txnId : UInt16)
    (present : gc.subscriberId = some ip) :
    (psProxy addr self op gc request txnId).map Built.subscriber =
        some { bytes := packU16Be 20 ++ [3, 2] ++ address, outside := 0 } ↔
      ip ≠ "::" ∧ InPlace ip := by
  have valid := isIp6_of_standard standard
  have long : addrLen ip = 20 := by
    rw [addrLen, valid]
    rfl
  have width : (20 : UInt8).toUInt16 = 20 := rfl
  have start : 0 = ([] : List UInt8).length := rfl
  have kept : (psProxy addr self op gc request txnId).map Built.subscriber = ctlSub addr ip := by
    rw [psProxy, present, Option.bind_some, Option.map_map]
    exact Option.map_id'
  rw [← packIp6_written_iff standard, kept, ctlSub, if_pos valid, pcmmSubscriber6Identifier, long,
    width, Buffer.cleared, Buffer.filled_write start (by decide)]
  rfl

/-- What is in front of the prefix lengths of a classifier, and behind its addresses. -/
def classifierHeader (tcLow tcHigh tcMask flowLabel nhType : Int32) : List UInt8 :=
  packU16Be 64 ++ ([6, 3, 0, toU8 tcLow, toU8 tcHigh, toU8 tcMask] ++
    (packU32Be flowLabel.toUInt32 ++ packU16Be (toU16 nhType)))

def classifierRest (srcPortS srcPortE dstPortS dstPortE classId priority actstate action : Int32) :
    List UInt8 :=
  packU16Be (toU16 srcPortS) ++ (packU16Be (toU16 srcPortE) ++ (packU16Be (toU16 dstPortS) ++
    (packU16Be (toU16 dstPortE) ++ (packU16Be (toU16 classId) ++
      [toU8 priority, toU8 actstate, toU8 action, 0, 0, 0]))))

/-- The fields of a classifier that its addresses are in. -/
theorem slices_of_fields (front rest : List UInt8) (room : Nat)
    {header lengths source destination : List UInt8} (header14 : header.length = 14)
    (lengths2 : lengths.length = 2) (source16 : source.length = 16)
    (destination16 : destination.length = 16) :
    let stored := Buffer.filled
      (front ++ (header ++ (lengths ++ (source ++ (destination ++ rest))))) room
    slice stored (front.length + 14) 2 = lengths ∧ slice stored (front.length + 16) 16 = source ∧
      slice stored (front.length + 32) 16 = destination := by
  refine ⟨?_, ?_, ?_⟩
  · exact slice_middle (by rw [header14]) lengths2.symm
  · rw [← List.append_assoc header]
    exact slice_middle (by rw [List.length_append, header14, lengths2]) source16.symm
  · rw [← List.append_assoc header, ← List.append_assoc (header ++ lengths)]
    exact slice_middle (by rw [List.length_append, List.length_append, header14, lengths2, source16])
      destination16.symm

/-- Both addresses of a classifier, with their prefix lengths. -/
theorem classifier_written_iff {other text otherText : String} {otherAddress : List UInt8}
    {prefixLen otherLen : Nat} (standard : inetPton6 ip = some address)
    (standard' : inetPton6 other = some otherAddress) (prefixed : Prefixed text ip prefixLen)
    (prefixed' : Prefixed otherText other otherLen) (front : List UInt8) {room : Nat}
    (fits : 64 ≤ room) (tcLow tcHigh tcMask flowLabel nhType srcPortS srcPortE dstPortS dstPortE
      classId priority actstate action : Int32) :
    Exists fun stored =>
      pcmmIpv6Classifier (Buffer.filled front room) front.length tcLow tcHigh tcMask flowLabel nhType
          (some text) (some otherText) srcPortS srcPortE dstPortS dstPortE classId priority actstate
          action = some stored ∧
        slice stored (front.length + 14) 2 = [UInt8.ofNat prefixLen, UInt8.ofNat otherLen] ∧
          (slice stored (front.length + 16) 16 = address ∧
              slice stored (front.length + 32) 16 = otherAddress ↔
            InPlace ip ∧ InPlace other) := by
  rcases paddedGroups_prefixed standard prefixed with ⟨some', few, same⟩
  rcases paddedGroups_prefixed standard' prefixed' with ⟨some'', few', same'⟩
  rcases packIp6_padded some' few with ⟨source, packs, short, padded⟩
  rcases packIp6_padded some'' few' with ⟨destination, packs', short', padded'⟩
  rw [same] at padded
  rw [same'] at padded'
  have stored : pcmmIpv6Classifier (Buffer.filled front room) front.length tcLow tcHigh tcMask
      flowLabel nhType (some text) (some otherText) srcPortS srcPortE dstPortS dstPortE classId
      priority actstate action =
      some (Buffer.filled (front ++ (classifierHeader tcLow tcHigh tcMask flowLabel nhType ++
        ([UInt8.ofNat prefixLen, UInt8.ofNat otherLen] ++
          ((paddedGroups ip).flatMap packU16Be ++ ((paddedGroups other).flatMap packU16Be ++
            classifierRest srcPortS srcPortE dstPortS dstPortE classId priority actstate action)))))
        (room - 64)) := by
    rw [pcmmIpv6Classifier_filled rfl fits tcLow tcHigh tcMask flowLabel nhType packs packs' short
      short', prefixLenOf_prefixed standard prefixed, prefixLenOf_prefixed standard' prefixed',
      ← padded, ← padded', classifierHeader, classifierRest]
    simp only [List.append_assoc]
  have source16 := paddedGroups_length (tokens_length (isIp6_of_standard standard))
  have destination16 := paddedGroups_length (tokens_length (isIp6_of_standard standard'))
  rcases slices_of_fields front
    (classifierRest srcPortS srcPortE dstPortS dstPortE classId priority actstate action) (room - 64)
    (rfl : (classifierHeader tcLow tcHigh tcMask flowLabel nhType).length = 14)
    (rfl : [UInt8.ofNat prefixLen, UInt8.ofNat otherLen].length = 2) source16 destination16 with
    ⟨lengths, left, right⟩
  refine ⟨_, stored, lengths, ?_⟩
  rw [left, right, (paddedBytes_iff standard).2, (paddedBytes_iff standard').2]

end Objects

/-- For every text that `inet_pton` takes for an IPv6 address: `pack_ip6` stores
what `inet_pton` stores, and `ps_proxy` sends it, exactly where the text is not
`::` alone and its groups are in place; and with a prefix length behind it, as an
address of a classifier, exactly where its groups are in place, the prefix length
being right everywhere. -/
theorem packIp6_agrees_iff {ip : String} {address : List UInt8}
    (standard : inetPton6 ip = some address) :
    ((packIp6 ip).map ((Buffer.cleared 16).write 0) = some { bytes := address, outside := 0 } ↔
        ip ≠ "::" ∧ InPlace ip) ∧
      (forall (addr : UInt32) (self : Session) (op : GateOp) (gc : Gctl) (request : List UInt8)
        (txnId : UInt16), gc.subscriberId = some ip ->
          ((psProxy addr self op gc request txnId).map Built.subscriber =
              some { bytes := packU16Be 20 ++ [3, 2] ++ address, outside := 0 } ↔
            ip ≠ "::" ∧ InPlace ip)) ∧
        forall (other text otherText : String) (otherAddress : List UInt8) (prefixLen otherLen : Nat),
          inetPton6 other = some otherAddress -> Prefixed text ip prefixLen ->
            Prefixed otherText other otherLen -> forall (front : List UInt8) (room : Nat), 64 ≤ room ->
              forall tcLow tcHigh tcMask flowLabel nhType srcPortS srcPortE dstPortS dstPortE classId
                priority actstate action : Int32, Exists fun stored =>
                  pcmmIpv6Classifier (Buffer.filled front room) front.length tcLow tcHigh tcMask
                      flowLabel nhType (some text) (some otherText) srcPortS srcPortE dstPortS dstPortE
                      classId priority actstate action = some stored ∧
                    slice stored (front.length + 14) 2 =
                        [UInt8.ofNat prefixLen, UInt8.ofNat otherLen] ∧
                      (slice stored (front.length + 16) 16 = address ∧
                          slice stored (front.length + 32) 16 = otherAddress ↔
                        InPlace ip ∧ InPlace other) := by
  refine ⟨?_, ?_, ?_⟩
  · exact packIp6_written_iff standard []
  · intro addr self op gc request txnId present
    exact subscriber_written_iff standard addr self op request txnId present
  · intro other text otherText otherAddress prefixLen otherLen standard' prefixed prefixed' front room
      fits tcLow tcHigh tcMask flowLabel nhType srcPortS srcPortE dstPortS dstPortE classId priority
      actstate action
    exact classifier_written_iff standard standard' prefixed prefixed' front fits tcLow tcHigh tcMask
      flowLabel nhType srcPortS srcPortE dstPortS dstPortE classId priority actstate action

/-- A network written with `::` at its end, next to a host written in full. -/
theorem packIp6_agrees_network :
    ((packIp6 "2001:db8::").map ((Buffer.cleared 16).write 0) =
        some { bytes := [32, 1, 13, 184, 0, 0, 0, 0, 0, 0, 0, 0, 0, 0, 0, 0], outside := 0 } ↔
      "2001:db8::" ≠ "::" ∧ InPlace "2001:db8::") ∧
    ((psProxy 0 { handle := [1, 2, 3, 4], uuidReceived := true } .info (gctlFor "2001:db8::" 7) []
        21).map Built.subscriber =
        some { bytes := packU16Be 20 ++ [3, 2] ++
          [32, 1, 13, 184, 0, 0, 0, 0, 0, 0, 0, 0, 0, 0, 0, 0], outside := 0 } ↔
      "2001:db8::" ≠ "::" ∧ InPlace "2001:db8::") ∧
    Exists fun stored =>
      pcmmIpv6Classifier (Buffer.filled [] 64) 0 0 0 0 0 256 (some "2001:db8::/32")
          (some "1:2:3:4:5:6:7:8/128") 0 0 0 0 1 64 1 0 = some stored ∧
        slice stored 14 2 = [32, 128] ∧
          (slice stored 16 16 = [32, 1, 13, 184, 0, 0, 0, 0, 0, 0, 0, 0, 0, 0, 0, 0] ∧
              slice stored 32 16 = [0, 1, 0, 2, 0, 3, 0, 4, 0, 5, 0, 6, 0, 7, 0, 8] ↔
            InPlace "2001:db8::" ∧ InPlace "1:2:3:4:5:6:7:8") :=
  have standard : inetPton6 "2001:db8::" =
      some [32, 1, 13, 184, 0, 0, 0, 0, 0, 0, 0, 0, 0, 0, 0, 0] := by decide +kernel
  have agrees := packIp6_agrees_iff standard
  have network : Prefixed "2001:db8::/32" "2001:db8::" 32 :=
    ⟨['3', '2'], by decide, ⟨by decide, by decide⟩, by decide, by decide⟩
  have host : Prefixed "1:2:3:4:5:6:7:8/128" "1:2:3:4:5:6:7:8" 128 :=
    ⟨['1', '2', '8'], by decide, ⟨by decide, by decide⟩, by decide, by decide⟩
  ⟨agrees.1, agrees.2.1 0 { handle := [1, 2, 3, 4], uuidReceived := true } .info
      (gctlFor "2001:db8::" 7) [] 21 rfl,
    agrees.2.2 "1:2:3:4:5:6:7:8" "2001:db8::/32" "1:2:3:4:5:6:7:8/128"
      [0, 1, 0, 2, 0, 3, 0, 4, 0, 5, 0, 6, 0, 7, 0, 8] 32 128 (by decide +kernel) network host [] 64
      (Nat.le_refl 64) 0 0 0 0 256 0 0 0 0 1 64 1 0⟩

/-- The host of a network: its last group is packed as its third. -/
theorem compressed_not_packed :
    inetPton6 "2001:db8::1" = some [32, 1, 13, 184, 0, 0, 0, 0, 0, 0, 0, 0, 0, 0, 0, 1] ∧
      packIp6 "2001:db8::1" = some [32, 1, 13, 184, 0, 1] ∧
        (packIp6 "2001:db8::1").map ((Buffer.cleared 16).write 0) ≠
          some { bytes := [32, 1, 13, 184, 0, 0, 0, 0, 0, 0, 0, 0, 0, 0, 0, 1], outside := 0 } := by
  decide +kernel

end PolicyServer
