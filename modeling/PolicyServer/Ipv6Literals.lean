import PolicyServer.Address
import PolicyServer.Pack

namespace PolicyServer

/-!
# IPv6 literals

The sixteen bytes that `inet_pton` stores for `AF_INET6`, and what `strtoul` makes
of the same fields.  A literal is a row of groups, or two rows with zeros between
them, and a row may end with a dotted address (`literalGroups`).  `strtoul` reads a
group as `inet_pton` does, stops at the slash of a prefix length, and takes the
first number of a dotted address for a hexadecimal one.
-/

/-! ## What `inet_pton` stores -/

/-- The number that hexadecimal digits stand for. -/
def hexValue (digits : List Char) : Nat :=
  digits.foldl (fun value digit => value * 16 + (hexDigit digit).getD 0) 0

/-- The two groups of a dotted address. -/
def dottedGroups (value : UInt32) : List UInt16 :=
  [(value >>> 16).toUInt16, value.toUInt16]

/-- The groups that the fields between colons stand for. -/
def groups6 : List (List Char) -> Option (List UInt16)
  | [] => some []
  | [last] =>
      if isHextet last then some [UInt16.ofNat (hexValue last)]
      else (inetPton4 (String.ofList last)).map dottedGroups
  | field :: fields =>
      if isHextet field then (groups6 fields).map (UInt16.ofNat (hexValue field) :: ·) else none

/-- The groups around `::`, with at least one of zeros between them. -/
def compressed6 (left right : List (List Char)) : Option (List UInt16) :=
  if left.all isHextet then
    (if right = [[]] then some [] else if right = [] then none else groups6 right).bind fun groups =>
      if left.length + groups.length ≤ 7 then
        some (left.map (fun field => UInt16.ofNat (hexValue field)) ++
          (List.replicate (8 - (left.length + groups.length)) 0 ++ groups))
      else none
  else none

/-- The groups of a literal. -/
def literalGroups (fields : List (List Char)) : Option (List UInt16) :=
  match fields.dropWhile (· ≠ []) with
  | [] => (groups6 fields).filter fun groups => groups.length == 8
  | _ :: right =>
      let left := fields.takeWhile (· ≠ [])
      if left ≠ [] then compressed6 left right
      else if right.head? = some [] then compressed6 [] right.tail
      else none

/-- What `inet_pton` stores; `none` where it refuses the text. -/
def inetPton6 (ip : String) : Option (List UInt8) :=
  (literalGroups (ip.toList.splitOn ':')).map fun groups => groups.flatMap packU16Be

/-! ## It accepts what `is_ip6` accepts -/

theorem groups6_count (fields : List (List Char)) :
    (groups6 fields).map List.length = hextets fields := by
  induction fields with
  | nil => rfl
  | cons field fields inductionHypothesis =>
      cases fields with
      | nil =>
          rw [groups6, hextets]
          by_cases digits : isHextet field = true
          · rw [if_pos digits, if_pos digits]
            rfl
          · rw [if_neg digits, if_neg digits, inetPton4]
            split
            · rfl
            · rfl
      | cons second fields =>
          have more : second :: fields = [] -> False := fun impossible => List.cons_ne_nil _ _ impossible
          rw [groups6, hextets, ← inductionHypothesis]
          · split
            · rw [Option.map_map, Option.map_map]
              rfl
            · rfl
          · exact more
          · exact more

theorem compressed6_isSome (left right : List (List Char)) :
    (compressed6 left right).isSome = isCompressed left right := by
  unfold compressed6 isCompressed
  cases left.all isHextet with
  | false => rfl
  | true =>
      rw [if_pos rfl, Bool.true_and]
      by_cases last : right = [[]]
      · rw [if_pos last, if_pos last, Option.bind_some, List.length_nil, Nat.add_zero]
        split
        · rename_i few
          exact (decide_eq_true few).symm
        · rename_i many
          exact (decide_eq_false many).symm
      · rw [if_neg last, if_neg last, ← groups6_count]
        by_cases none : right = []
        · rw [if_pos none, none]
          rfl
        · have some' : (right != []) = true := bne_iff_ne.mpr none
          rw [if_neg none, some', Bool.true_and]
          cases groups6 right with
          | none => rfl
          | some groups =>
              rw [Option.bind_some, Option.map_some, Option.any_some]
              split
              · rename_i few
                exact (decide_eq_true few).symm
              · rename_i many
                exact (decide_eq_false many).symm

theorem inetPton6_isSome (ip : String) : (inetPton6 ip).isSome = isIp6 ip := by
  rw [inetPton6, Option.isSome_map, isIp6]
  dsimp only
  generalize ip.toList.splitOn ':' = fields
  unfold literalGroups
  cases fields.dropWhile (· ≠ []) with
  | nil =>
      dsimp only
      rw [← groups6_count]
      cases groups6 fields with
      | none => rfl
      | some groups =>
          rw [Option.map_some]
          by_cases eight : groups.length = 8
          · rw [Option.filter_some, if_pos (beq_iff_eq.mpr eight), eight]
            rfl
          · rw [Option.filter_some, if_neg (fun same => eight (beq_iff_eq.mp same))]
            exact (beq_eq_false_iff_ne.mpr (fun same => eight (Option.some.inj same))).symm
  | cons first right =>
      dsimp only
      split
      · exact compressed6_isSome _ _
      · by_cases double : right.head? = some []
        · rw [if_pos double, double]
          exact compressed6_isSome _ _
        · rw [if_neg double, beq_eq_false_iff_ne.mpr double]
          rfl

/-! ## What `strtoul` makes of a field -/

/-- The low sixteen bits of the number, which are the ones that are stored. -/
def tokenGroup (token : List Char) : UInt16 :=
  (strtoul16 token).toUInt16

theorem char_zero {char : Char} (code : char.toNat = 48) : char = '0' :=
  Char.ext (UInt32.toNat_inj.mp code)

theorem hexDigit_bounds {char : Char} {value : Nat} (digit : hexDigit char = some value) :
    value < 16 ∧ 48 ≤ char.toNat ∧ (value = 0 -> char = '0') := by
  unfold hexDigit at digit
  split at digit
  · rename_i decimal
    cases digit
    rcases Char.isDigit_iff_toNat.mp decimal with ⟨least, most⟩
    have nine : '9'.toNat = 57 := rfl
    have zero : '0'.toNat = 48 := rfl
    exact ⟨by omega, by omega, fun none => char_zero (by omega)⟩
  split at digit
  · rename_i lower
    cases digit
    have least : 97 ≤ char.toNat := Char.le_def.mp lower.1
    have most : char.toNat ≤ 102 := Char.le_def.mp lower.2
    exact ⟨by omega, by omega, fun none => by omega⟩
  split at digit
  · rename_i upper
    cases digit
    have least : 65 ≤ char.toNat := Char.le_def.mp upper.1
    have most : char.toNat ≤ 70 := Char.le_def.mp upper.2
    exact ⟨by omega, by omega, fun none => by omega⟩
  · cases digit

/-- A digit is no character that `strtoul` skips. -/
theorem not_isspace_of_hexDigit {char : Char} (digit : (hexDigit char).isSome = true) :
    isspace char = false := by
  rcases Option.isSome_iff_exists.mp digit with ⟨value, is⟩
  have least := (hexDigit_bounds is).2.1
  have blank : (' ' : Char).toNat = 32 := rfl
  have other : (char == ' ') = false := by
    apply beq_eq_false_iff_ne.mpr
    rintro rfl
    omega
  have above : decide (char.toNat ≤ 13) = false := decide_eq_false (by omega)
  rw [isspace, other, above, Bool.and_false, Bool.or_false]

theorem digit_lt (char : Char) : (hexDigit char).getD 0 < 16 := by
  cases digit : hexDigit char with
  | none => exact (by decide : 0 < 16)
  | some value => exact (hexDigit_bounds digit).1

/-- Four digits are a number of sixteen bits. -/
theorem hexValue_lt {digits : List Char} (short : digits.length ≤ 4) : hexValue digits < 65536 := by
  have four : digits = digits.take 4 := (List.take_of_length_le short).symm
  rw [four]
  rcases digits with _ | ⟨first, _ | ⟨second, _ | ⟨third, _ | ⟨fourth, rest⟩⟩⟩⟩
  · exact (by decide : 0 < 65536)
  · have a := digit_lt first
    simp only [List.take, hexValue, List.foldl_cons, List.foldl_nil]
    omega
  · have a := digit_lt first
    have b := digit_lt second
    simp only [List.take, hexValue, List.foldl_cons, List.foldl_nil]
    omega
  · have a := digit_lt first
    have b := digit_lt second
    have c := digit_lt third
    simp only [List.take, hexValue, List.foldl_cons, List.foldl_nil]
    omega
  · have a := digit_lt first
    have b := digit_lt second
    have c := digit_lt third
    have d := digit_lt fourth
    simp only [List.take, hexValue, List.foldl_cons, List.foldl_nil]
    omega

theorem leadingHex_eq (text : List Char) :
    leadingHex text = hexValue (text.takeWhile fun char => (hexDigit char).isSome) := by
  rw [leadingHex, List.takeWhile_map, List.foldl_map]
  rfl

theorem strtoul16_minus {text digits : List Char} (start : text.dropWhile isspace = '-' :: digits) :
    strtoul16 text = if leadingHex (skipHexPrefix digits) < 18446744073709551616 then
        -UInt64.ofNat (leadingHex (skipHexPrefix digits))
      else 18446744073709551615 := by
  unfold strtoul16
  rw [start]
  rfl

theorem strtoul16_plus {text digits : List Char} (start : text.dropWhile isspace = '+' :: digits) :
    strtoul16 text =
      UInt64.ofNat (min 18446744073709551615 (leadingHex (skipHexPrefix digits))) := by
  unfold strtoul16
  rw [start]
  rfl

/-- Without a sign. -/
theorem strtoul16_unsigned {text rest : List Char} (start : text.dropWhile isspace = rest)
    (unsigned : rest.head? ≠ some '-' ∧ rest.head? ≠ some '+') :
    strtoul16 text = UInt64.ofNat (min 18446744073709551615 (leadingHex (skipHexPrefix rest))) := by
  unfold strtoul16
  rw [start]
  split
  · exact absurd rfl unsigned.1
  · exact absurd rfl unsigned.2
  · rfl

/-- A text that starts with a digit, and not with `0x`, is the number of its
leading digits. -/
theorem tokenGroup_eq {first : Char} {rest : List Char} (digit : (hexDigit first).isSome = true)
    (plain : rest.head? ≠ some 'x' ∧ rest.head? ≠ some 'X')
    (small : leadingHex (first :: rest) < 65536) :
    tokenGroup (first :: rest) = UInt16.ofNat (leadingHex (first :: rest)) := by
  have start : (first :: rest).dropWhile isspace = first :: rest := by
    rw [List.dropWhile_cons_of_neg (by rw [not_isspace_of_hexDigit digit]; exact Bool.false_ne_true)]
  have unsigned : (first :: rest).head? ≠ some '-' ∧ (first :: rest).head? ≠ some '+' := by
    rw [List.head?_cons]
    constructor
    · intro minus
      rw [Option.some.inj minus] at digit
      exact absurd digit (by decide)
    · intro plus
      rw [Option.some.inj plus] at digit
      exact absurd digit (by decide)
  have second : (first :: rest)[1]? = rest.head? := List.head?_eq_getElem?.symm
  have whole : skipHexPrefix (first :: rest) = first :: rest := by
    rw [skipHexPrefix, second, beq_eq_false_iff_ne.mpr plain.1, beq_eq_false_iff_ne.mpr plain.2,
      Bool.or_false, Bool.and_false, Bool.false_and, if_neg Bool.false_ne_true]
  have least : min 18446744073709551615 (leadingHex (first :: rest)) =
      leadingHex (first :: rest) := Nat.min_eq_right (by omega)
  apply UInt16.toNat_inj.mp
  rw [tokenGroup, strtoul16_unsigned start unsigned, whole, least, UInt64.toNat_toUInt16,
    UInt64.toNat_ofNat', UInt16.toNat_ofNat']
  omega

/-- A group is read as `inet_pton` reads it. -/
theorem tokenGroup_hextet {field : List Char} (valid : isHextet field = true) :
    tokenGroup field = UInt16.ofNat (hexValue field) := by
  rcases Bool.and_eq_true_iff.mp valid with ⟨length, digits⟩
  have length := of_decide_eq_true length
  have all := List.all_eq_true.mp digits
  have whole : leadingHex field = hexValue field := by
    rw [leadingHex_eq, List.takeWhile_eq_self_iff.mpr all]
  have small : hexValue field < 65536 := hexValue_lt length.2
  cases field with
  | nil => exact absurd length.1 (by decide)
  | cons first rest =>
      have plain : rest.head? ≠ some 'x' ∧ rest.head? ≠ some 'X' := by
        constructor
        · intro second
          have there := List.mem_of_mem_head? second
          exact absurd (all 'x' (List.mem_cons_of_mem _ there)) (by decide)
        · intro second
          have there := List.mem_of_mem_head? second
          exact absurd (all 'X' (List.mem_cons_of_mem _ there)) (by decide)
      rw [tokenGroup_eq (all first List.mem_cons_self) plain (whole ▸ small), whole]

/-! ## A prefix length behind a field -/

theorem dropWhile_slash (text digits : List Char) :
    (text ++ '/' :: digits).dropWhile isspace = text.dropWhile isspace ++ '/' :: digits := by
  induction text with
  | nil => rfl
  | cons char text inductionHypothesis =>
      rw [List.cons_append, List.dropWhile_cons, List.dropWhile_cons, inductionHypothesis]
      split <;> rfl

theorem leadingHex_slash (text digits : List Char) :
    leadingHex (text ++ '/' :: digits) = leadingHex text := by
  rw [leadingHex_eq, leadingHex_eq]
  refine congrArg hexValue ?_
  induction text with
  | nil => rfl
  | cons char text inductionHypothesis =>
      rw [List.cons_append, List.takeWhile_cons, List.takeWhile_cons, inductionHypothesis]

theorem skipHexPrefix_slash (text digits : List Char) :
    skipHexPrefix (text ++ '/' :: digits) = skipHexPrefix text ++ '/' :: digits := by
  have slash : hexDigit '/' = none := by decide
  rcases text with _ | ⟨first, _ | ⟨second, _ | ⟨third, rest⟩⟩⟩
  · rfl
  · have far : (some '/' == some 'x' || some '/' == some 'X') = false := by decide
    simp only [skipHexPrefix, List.cons_append, List.nil_append, List.getElem?_cons_succ,
      List.getElem?_cons_zero, List.getElem?_nil, far, Bool.and_false, Bool.false_and,
      Bool.false_eq_true, if_false, Option.bind_none, Option.isSome_none]
  · simp only [skipHexPrefix, List.cons_append, List.nil_append, List.getElem?_cons_succ,
      List.getElem?_cons_zero, List.getElem?_nil, Option.bind_some, slash, Option.bind_none,
      Option.isSome_none, Bool.and_false, Bool.false_eq_true, if_false]
  · simp only [skipHexPrefix, List.cons_append, List.head?_cons, List.getElem?_cons_succ,
      List.getElem?_cons_zero, List.drop_succ_cons, List.drop_zero]
    split <;> rfl

/-- `strtoul` stops at a slash. -/
theorem tokenGroup_slash (text digits : List Char) :
    tokenGroup (text ++ '/' :: digits) = tokenGroup text := by
  have number : forall part, leadingHex (skipHexPrefix (part ++ '/' :: digits)) =
      leadingHex (skipHexPrefix part) := by
    intro part
    rw [skipHexPrefix_slash, leadingHex_slash]
  have start := dropWhile_slash text digits
  refine congrArg UInt64.toUInt16 ?_
  cases whole : text.dropWhile isspace with
  | nil =>
      rw [whole, List.nil_append] at start
      have slash : some '/' ≠ some '-' ∧ some '/' ≠ some '+' := by decide
      have none : ([] : List Char).head? ≠ some '-' ∧ ([] : List Char).head? ≠ some '+' := by decide
      rw [strtoul16_unsigned start slash, strtoul16_unsigned whole none]
      exact congrArg (fun value => UInt64.ofNat (min _ value)) (number [])
  | cons first rest =>
      rw [whole, List.cons_append] at start
      by_cases minus : first = '-'
      · rw [minus] at start whole
        rw [strtoul16_minus start, strtoul16_minus whole, number]
      by_cases plus : first = '+'
      · rw [plus] at start whole
        rw [strtoul16_plus start, strtoul16_plus whole, number]
      · have unsigned : some first ≠ some '-' ∧ some first ≠ some '+' :=
          ⟨fun same => minus (Option.some.inj same), fun same => plus (Option.some.inj same)⟩
        rw [strtoul16_unsigned start unsigned, strtoul16_unsigned whole unsigned]
        exact congrArg (fun value => UInt64.ofNat (min _ value)) (number (first :: rest))

/-! ## A dotted address at the end -/

theorem hexDigit_decimal {char : Char} (digit : char.isDigit = true) :
    hexDigit char = some (char.toNat - 48) :=
  if_pos digit

theorem ofDigitChars_ge (digits : List Char) (value : Nat) :
    value ≤ Nat.ofDigitChars 10 digits value := by
  induction digits generalizing value with
  | nil => exact Nat.le_refl _
  | cons digit digits inductionHypothesis =>
      rw [Nat.ofDigitChars_cons]
      have more := inductionHypothesis (10 * value + (digit.toNat - '0'.toNat))
      omega

/-- An octet is 0, or its digits read as hexadecimal ones are less than 256 times
its value. -/
theorem octet_cases {part : List Char} (octet : isOctet part = true) :
    part.all Char.isDigit = true ∧ part.length ≤ 3 ∧ leadingNumber part ≤ 255 ∧
      (part = ['0'] ∧ leadingNumber part = 0 ∨ hexValue part < 256 * leadingNumber part) := by
  rcases Bool.and_eq_true_iff.mp octet with ⟨digits, most⟩
  rcases Bool.and_eq_true_iff.mp digits with ⟨digits, start⟩
  have most := of_decide_eq_true most
  have all := List.all_eq_true.mp digits
  have number : leadingNumber part = Nat.ofDigitChars 10 part 0 := by
    rw [leadingNumber, List.takeWhile_eq_self_iff.mpr all]
  have base : '0'.toNat = 48 := rfl
  rw [number] at most
  rw [number]
  -- A leading digit that is not 0 counts at least 1.
  have leading : forall first rest, part = first :: rest -> rest ≠ [] -> 1 ≤ first.toNat - 48 := by
    intro first rest same more
    rw [same] at start all
    have one : ((first :: rest).length == 1) = false := by
      apply beq_eq_false_iff_ne.mpr
      intro single
      exact more (List.length_eq_zero_iff.mp (Nat.succ.inj single))
    rw [one, Bool.false_or, List.head?_cons] at start
    have other := bne_iff_ne.mp (Bool.and_eq_true_iff.mp start).2
    have bounds := (Char.isDigit_iff_toNat.mp (all first List.mem_cons_self)).1
    have apart : first.toNat ≠ 48 := fun zero => other (congrArg some (char_zero zero))
    omega
  refine ⟨digits, ?_⟩
  rcases part with _ | ⟨first, _ | ⟨second, _ | ⟨third, _ | ⟨fourth, rest⟩⟩⟩⟩
  · exact absurd start (by decide)
  · simp only [List.length_cons, List.length_nil, Nat.ofDigitChars_cons, Nat.ofDigitChars_nil,
      base, hexValue, List.foldl_cons, List.foldl_nil, hexDigit_decimal (all first List.mem_cons_self),
      Option.getD_some] at most ⊢
    refine ⟨by omega, most, ?_⟩
    by_cases zero : first.toNat = 48
    · exact Or.inl ⟨congrArg (fun char => [char]) (char_zero zero), by omega⟩
    · have bounds := (Char.isDigit_iff_toNat.mp (all first List.mem_cons_self)).1
      exact Or.inr (by omega)
  · have least := leading first [second] rfl (List.cons_ne_nil _ _)
    simp only [List.length_cons, List.length_nil, Nat.ofDigitChars_cons, Nat.ofDigitChars_nil,
      base, hexValue, List.foldl_cons, List.foldl_nil, hexDigit_decimal (all first (by simp)),
      hexDigit_decimal (all second (by simp)), Option.getD_some] at most ⊢
    exact ⟨by omega, most, Or.inr (by omega)⟩
  · have least := leading first [second, third] rfl (List.cons_ne_nil _ _)
    simp only [List.length_cons, List.length_nil, Nat.ofDigitChars_cons, Nat.ofDigitChars_nil,
      base, hexValue, List.foldl_cons, List.foldl_nil, hexDigit_decimal (all first (by simp)),
      hexDigit_decimal (all second (by simp)), hexDigit_decimal (all third (by simp)),
      Option.getD_some] at most ⊢
    exact ⟨by omega, most, Or.inr (by omega)⟩
  · have least := leading first (second :: third :: fourth :: rest) rfl (List.cons_ne_nil _ _)
    simp only [Nat.ofDigitChars_cons, base] at most
    have more := Nat.le_trans (ofDigitChars_ge rest _) most
    omega

/-- `0.0.0.0`. -/
def dottedZero : List Char := ['0', '.', '0', '.', '0', '.', '0']

/-- A text that starts with an octet and a dot is that octet to `strtoul`. -/
theorem tokenGroup_octet {part behind : List Char} (octet : isOctet part = true) :
    tokenGroup (part ++ '.' :: behind) = UInt16.ofNat (hexValue part) := by
  rcases octet_cases octet with ⟨digits, short, _, _⟩
  have all : forall char, char ∈ part -> (hexDigit char).isSome = true := by
    intro char member
    rw [hexDigit_decimal (List.all_eq_true.mp digits char member)]
    rfl
  have leading : leadingHex (part ++ '.' :: behind) = hexValue part := by
    have dot : ¬(hexDigit '.').isSome = true := by decide
    rw [leadingHex_eq, List.takeWhile_append_of_pos all,
      List.takeWhile_cons_of_neg (p := fun char => (hexDigit char).isSome) dot, List.append_nil]
  have small : hexValue part < 65536 := hexValue_lt (Nat.le_succ_of_le short)
  cases part with
  | nil => exact absurd octet (by decide)
  | cons first rest =>
      have plain : forall char, hexDigit char = none -> char ≠ '.' ->
          (rest ++ '.' :: behind).head? ≠ some char := by
        intro char letter other second
        cases rest with
        | nil => exact other (Option.some.inj second).symm
        | cons next rest =>
            have same : next = char := Option.some.inj second
            have digit := all next (List.mem_cons_of_mem _ List.mem_cons_self)
            rw [same, letter] at digit
            cases digit
      rw [List.cons_append] at leading ⊢
      rw [tokenGroup_eq (all first List.mem_cons_self)
        ⟨plain 'x' (by decide) (by decide), plain 'X' (by decide) (by decide)⟩
        (leading ▸ small), leading]

/-- The numbers of a dotted address. -/
theorem inetPton4_parts {last : List Char} {value : UInt32}
    (reads : inetPton4 (String.ofList last) = some value) :
    Exists fun a => Exists fun b => Exists fun c => Exists fun d =>
      last = a ++ '.' :: (b ++ '.' :: (c ++ '.' :: d)) ∧
        (isOctet a = true ∧ isOctet b = true ∧ isOctet c = true ∧ isOctet d = true) ∧
          value = UInt32.ofNat (((leadingNumber a * 256 + leadingNumber b) * 256 +
            leadingNumber c) * 256 + leadingNumber d) := by
  unfold inetPton4 at reads
  split at reads
  · rename_i valid
    unfold isIp4 at valid
    rw [String.toList_ofList] at reads valid
    have joined : ['.'].intercalate (last.splitOn '.') = last := List.intercalate_splitOn '.'
    rcases Bool.and_eq_true_iff.mp valid with ⟨four, octets⟩
    have four := beq_iff_eq.mp four
    generalize last.splitOn '.' = parts at reads joined four octets
    rcases parts with _ | ⟨a, _ | ⟨b, _ | ⟨c, _ | ⟨d, _ | ⟨e, rest⟩⟩⟩⟩⟩
    · cases four
    · cases four
    · cases four
    · cases four
    · have all := List.all_eq_true.mp octets
      refine ⟨a, b, c, d, ?_, ⟨all a (by simp), all b (by simp), all c (by simp), all d (by simp)⟩, ?_⟩
      · rw [← joined]
        simp only [List.intercalate, List.intersperse, List.flatten_cons, List.flatten_nil,
          List.append_nil, List.cons_append, List.nil_append]
      · simp only [List.foldl_cons, List.foldl_nil, Nat.zero_mul, Nat.zero_add] at reads
        exact (Option.some.inj reads).symm
    · simp only [List.length_cons] at four
      omega
  · cases reads

/-- The number in two groups. -/
theorem dottedGroups_toNat {value : UInt32} {high low : UInt16}
    (same : dottedGroups value = [high, low]) :
    value.toNat = high.toNat * 65536 + low.toNat := by
  have shift : (16 : UInt32).toNat % 32 = 16 := rfl
  rcases List.cons.inj same with ⟨upper, tail⟩
  have upper := congrArg UInt16.toNat upper
  have lower := congrArg UInt16.toNat (List.cons.inj tail).1
  rw [UInt32.toNat_toUInt16, UInt32.toNat_shiftRight, shift, Nat.shiftRight_eq_div_pow] at upper
  rw [UInt32.toNat_toUInt16] at lower
  have bound := value.toNat_lt
  omega

/-- The groups of a dotted address, and what `strtoul` makes of it, which is its
first number read as a hexadecimal one: the two agree on `0.0.0.0` alone. -/
theorem dotted_cases {last : List Char} {value : UInt32}
    (reads : inetPton4 (String.ofList last) = some value) :
    '.' ∈ last ∧ (last = dottedZero ∧ value = 0 ∧ tokenGroup last = 0 ∨
      last ≠ dottedZero ∧ value ≠ 0 ∧ dottedGroups value ≠ [tokenGroup last, 0]) := by
  rcases inetPton4_parts reads with ⟨a, b, c, d, parts, ⟨octetA, octetB, octetC, octetD⟩, number⟩
  have group : tokenGroup last = UInt16.ofNat (hexValue a) := by
    rw [parts, tokenGroup_octet octetA]
  rcases octet_cases octetA with ⟨_, shortA, mostA, casesA⟩
  rcases octet_cases octetB with ⟨_, _, mostB, casesB⟩
  rcases octet_cases octetC with ⟨_, _, mostC, casesC⟩
  rcases octet_cases octetD with ⟨_, _, mostD, casesD⟩
  have small : hexValue a < 65536 := hexValue_lt (Nat.le_succ_of_le shortA)
  have bits : value.toNat = ((leadingNumber a * 256 + leadingNumber b) * 256 + leadingNumber c) *
      256 + leadingNumber d := by
    have fits : ((leadingNumber a * 256 + leadingNumber b) * 256 + leadingNumber c) * 256 +
        leadingNumber d < 4294967296 := by omega
    rw [number]
    exact UInt32.toNat_ofNat_of_lt' fits
  refine ⟨?_, ?_⟩
  · rw [parts]
    exact List.mem_append_right _ List.mem_cons_self
  by_cases zero : value = 0
  · left
    have none : value.toNat = 0 := congrArg UInt32.toNat zero
    have same : a = ['0'] ∧ b = ['0'] ∧ c = ['0'] ∧ d = ['0'] := by
      rcases casesA with casesA | casesA
      · rcases casesB with casesB | casesB
        · rcases casesC with casesC | casesC
          · rcases casesD with casesD | casesD
            · exact ⟨casesA.1, casesB.1, casesC.1, casesD.1⟩
            · omega
          · omega
        · omega
      · omega
    refine ⟨?_, zero, ?_⟩
    · rw [parts, same.1, same.2.1, same.2.2.1, same.2.2.2]
      rfl
    · rw [group, same.1]
      decide
  · right
    refine ⟨?_, zero, ?_⟩
    · rintro rfl
      have read : inetPton4 (String.ofList dottedZero) = some 0 := by decide +kernel
      rw [read] at reads
      exact zero (Option.some.inj reads).symm
    · intro agree
      have none : (0 : UInt16).toNat = 0 := rfl
      have two := dottedGroups_toNat (group ▸ agree)
      rw [UInt16.toNat_ofNat_of_lt' small, none, Nat.add_zero] at two
      apply zero
      apply UInt32.toNat_inj.mp
      change value.toNat = 0
      rcases casesA with casesA | casesA
      · have digit : hexValue a = 0 := by
          rw [casesA.1]
          rfl
        omega
      · omega

end PolicyServer
