import Mathlib.Data.List.TakeWhile
import Mathlib.Tactic.Ring

namespace Lib
namespace JsonText

/-!
# JSON texts

A strict reader of JSON, which takes the characters that it reads off the front of a
text.  `Reads` is that a piece of text is read as a value wherever it stands; it is
proved of numerals, of decimal fractions, of strings without an escape, and of objects
whose members are read.  `readString_bounded` is what a writer that escapes nothing can
hope for: a string is read back only if it has no character to escape.
-/

/-- A number is its mantissa times a power of ten. -/
inductive Value where
  | null
  | bool (value : Bool)
  | num (mantissa exponent : Int)
  | str (text : String)
  | arr (elements : List Value)
  | obj (members : List (String × Value))

/-- The first member of that name. -/
def Value.member (value : Value) (key : String) : Option Value :=
  match value with
  | .obj members => members.lookup key
  | _ => none

/-- The value behind a path of names. -/
def Value.find (value : Value) : List String -> Option Value
  | [] => some value
  | key :: keys => (value.member key).bind fun inner => inner.find keys

/-! ## Strings -/

def hexDigit (c : Char) : Option Nat :=
  if c.isDigit then some (c.toNat - 48)
  else if 'a' ≤ c ∧ c ≤ 'f' then some (c.toNat - 87)
  else if 'A' ≤ c ∧ c ≤ 'F' then some (c.toNat - 55)
  else none

/-- The four digits of a code unit. -/
def readUnit : List Char -> Option (Nat × List Char)
  | a :: b :: c :: d :: rest =>
      (hexDigit a).bind fun a => (hexDigit b).bind fun b => (hexDigit c).bind fun c =>
        (hexDigit d).map fun d => (((a * 16 + b) * 16 + c) * 16 + d, rest)
  | _ => none

/-- The second code unit of a character that needs two. -/
def readLow (high : Nat) : List Char -> Option (Char × List Char)
  | '\\' :: 'u' :: rest =>
      (readUnit rest).bind fun (low, rest) =>
        if 56320 ≤ low ∧ low < 57344 then
          some (Char.ofNat (65536 + (high - 55296) * 1024 + (low - 56320)), rest)
        else none
  | _ => none

/-- The character of an escape, behind its backslash. -/
def readEscape : List Char -> Option (Char × List Char)
  | '"' :: rest => some ('"', rest)
  | '\\' :: rest => some ('\\', rest)
  | '/' :: rest => some ('/', rest)
  | 'b' :: rest => some ('\x08', rest)
  | 'f' :: rest => some ('\x0c', rest)
  | 'n' :: rest => some ('\n', rest)
  | 'r' :: rest => some ('\x0d', rest)
  | 't' :: rest => some ('\t', rest)
  | 'u' :: rest =>
      (readUnit rest).bind fun (unit, rest) =>
        if unit < 55296 ∨ 57344 ≤ unit then some (Char.ofNat unit, rest)
        else if unit < 56320 then readLow unit rest
        else none
  | _ => none

/-- A string behind its first quote. -/
def readString : (fuel : Nat) -> List Char -> Option (List Char × List Char)
  | 0, _ => none
  | _ + 1, [] => none
  | fuel + 1, c :: rest =>
      if c = '"' then some ([], rest)
      else if c = '\\' then
        (readEscape rest).bind fun (c, rest) =>
          (readString fuel rest).map fun (text, rest) => (c :: text, rest)
      else if c.toNat < 32 then none
      else (readString fuel rest).map fun (text, rest) => (c :: text, rest)

/-- A character that may stand in a string as it is. -/
def isPlain (c : Char) : Bool :=
  c != '"' && c != '\\' && 32 ≤ c.toNat

/-- No character of the text needs an escape. -/
def clean (text : List Char) : Bool :=
  text.all isPlain

theorem isPlain_of_isDigit {c : Char} (digit : c.isDigit = true) : isPlain c = true := by
  have least : 48 ≤ c.toNat := by
    simp only [Char.isDigit, ge_iff_le, Bool.and_eq_true, decide_eq_true_eq] at digit
    exact UInt32.le_iff_toNat_le.mp digit.1
  simp only [isPlain, Bool.and_eq_true, bne_iff_ne, decide_eq_true_eq]
  refine ⟨⟨?_, ?_⟩, by omega⟩
  · rintro rfl
    exact absurd digit (by decide)
  · rintro rfl
    exact absurd digit (by decide)

/-! ## Numbers -/

/-- One digit or more. -/
def readDigits (text : List Char) : Option (List Char × List Char) :=
  let digits := text.takeWhile Char.isDigit
  if digits.isEmpty then none else some (digits, text.dropWhile Char.isDigit)

def readMinus : List Char -> Int × List Char
  | '-' :: rest => (-1, rest)
  | text => (1, text)

/-- The digits behind a point, if there is one. -/
def readFraction : List Char -> Option (List Char × List Char)
  | '.' :: rest => readDigits rest
  | text => some ([], text)

/-- An exponent behind its letter. -/
def readPower (text : List Char) : Option (Int × List Char) :=
  let (sign, text) :=
    match text with
    | '+' :: rest => (1, rest)
    | text => readMinus text
  (readDigits text).map fun (digits, rest) => (sign * Nat.ofDigitChars 10 digits 0, rest)

def readExponent : List Char -> Option (Int × List Char)
  | 'e' :: rest => readPower rest
  | 'E' :: rest => readPower rest
  | text => some (0, text)

def leadingZero (digits : List Char) : Bool :=
  digits.head? == some '0' && 1 < digits.length

def readNumber (text : List Char) : Option (Value × List Char) :=
  let (sign, text) := readMinus text
  (readDigits text).bind fun (whole, text) =>
    if leadingZero whole then none
    else
      (readFraction text).bind fun (fraction, text) =>
        (readExponent text).map fun (exponent, rest) =>
          (.num (sign * Nat.ofDigitChars 10 (whole ++ fraction) 0) (exponent - fraction.length),
            rest)

/-! ## Values -/

def isSpace (c : Char) : Bool :=
  c == ' ' || c == '\t' || c == '\n' || c == '\x0d'

def skipSpace (text : List Char) : List Char :=
  text.dropWhile isSpace

mutual

def readValue : (fuel : Nat) -> List Char -> Option (Value × List Char)
  | 0, _ => none
  | fuel + 1, text =>
      match skipSpace text with
      | '\x7b' :: rest =>
          match skipSpace rest with
          | '\x7d' :: rest => some (.obj [], rest)
          | rest => (readMembers fuel rest).map fun (members, rest) => (.obj members, rest)
      | '[' :: rest =>
          match skipSpace rest with
          | ']' :: rest => some (.arr [], rest)
          | rest => (readElements fuel rest).map fun (elements, rest) => (.arr elements, rest)
      | '"' :: rest => (readString fuel rest).map fun (text, rest) => (.str (.ofList text), rest)
      | 't' :: 'r' :: 'u' :: 'e' :: rest => some (.bool true, rest)
      | 'f' :: 'a' :: 'l' :: 's' :: 'e' :: rest => some (.bool false, rest)
      | 'n' :: 'u' :: 'l' :: 'l' :: rest => some (.null, rest)
      | text => readNumber text

/-- The members of an object, with the brace behind them. -/
def readMembers : (fuel : Nat) -> List Char -> Option (List (String × Value) × List Char)
  | 0, _ => none
  | fuel + 1, text =>
      match skipSpace text with
      | '"' :: rest =>
          (readString fuel rest).bind fun (key, rest) =>
            match skipSpace rest with
            | ':' :: rest =>
                (readValue fuel rest).bind fun (value, rest) =>
                  match skipSpace rest with
                  | ',' :: rest =>
                      (readMembers fuel rest).map fun (members, rest) =>
                        ((.ofList key, value) :: members, rest)
                  | '\x7d' :: rest => some ([(.ofList key, value)], rest)
                  | _ => none
            | _ => none
      | _ => none

/-- The elements of an array, with the bracket behind them. -/
def readElements : (fuel : Nat) -> List Char -> Option (List Value × List Char)
  | 0, _ => none
  | fuel + 1, text =>
      (readValue fuel text).bind fun (value, rest) =>
        match skipSpace rest with
        | ',' :: rest =>
            (readElements fuel rest).map fun (elements, rest) => (value :: elements, rest)
        | ']' :: rest => some ([value], rest)
        | _ => none

end

/-- The value of a text that has one value and nothing else. -/
def parse (text : String) : Option Value :=
  (readValue (text.length + 1) text.toList).bind fun (value, rest) =>
    if (skipSpace rest).isEmpty then some value else none

/-! ## Strings read back -/

theorem readString_clean {raw : List Char} (plain : clean raw = true) {fuel : Nat}
    (enough : raw.length < fuel) (rest : List Char) :
    readString fuel (raw ++ '"' :: rest) = some (raw, rest) := by
  induction raw generalizing fuel with
  | nil =>
      cases fuel with
      | zero => omega
      | succ fuel => rfl
  | cons c raw inductionHypothesis =>
      rw [clean, List.all_cons, Bool.and_eq_true] at plain
      rcases plain with ⟨first, others⟩
      simp only [isPlain, Bool.and_eq_true, bne_iff_ne, decide_eq_true_eq] at first
      rcases first with ⟨⟨notQuote, notBackslash⟩, notControl⟩
      cases fuel with
      | zero => omega
      | succ fuel =>
          have shorter : raw.length < fuel := Nat.lt_of_succ_lt_succ enough
          rw [List.cons_append, readString, if_neg notQuote, if_neg notBackslash,
            if_neg (Nat.not_lt.mpr notControl), inductionHypothesis others shorter]
          rfl

theorem hexDigit_ne_quote {c : Char} {value : Nat} (digit : hexDigit c = some value) :
    c ≠ '"' := by
  rintro rfl
  cases digit

/-- What has been taken off the front of a text. -/
def Takes (text rest : List Char) : Prop :=
  Exists fun used => text = used ++ rest ∧ used ≠ [] ∧ '"' ∉ used

theorem Takes.cons {c : Char} {text rest : List Char} (plain : c ≠ '"')
    (takes : Takes text rest) : Takes (c :: text) rest := by
  rcases takes with ⟨used, rfl, _, none⟩
  exact ⟨c :: used, rfl, List.cons_ne_nil c used, List.not_mem_cons_of_ne_of_not_mem plain.symm none⟩

theorem Takes.single {c : Char} (plain : c ≠ '"') (rest : List Char) : Takes (c :: rest) rest :=
  ⟨[c], rfl, List.cons_ne_nil c [], fun member => plain (List.mem_singleton.mp member).symm⟩

theorem Takes.trans {text middle rest : List Char} (first : Takes text middle)
    (second : Takes middle rest) : Takes text rest := by
  rcases first with ⟨used, rfl, some', none⟩
  rcases second with ⟨used', rfl, _, none'⟩
  refine ⟨used ++ used', (List.append_assoc used used' rest).symm, ?_, ?_⟩
  · exact List.append_ne_nil_of_left_ne_nil some' used'
  · exact fun member => (List.mem_append.mp member).elim none none'

/-- What is taken off a text up to the first quote stands before that quote. -/
theorem Takes.before_quote {raw tail rest : List Char} (takes : Takes (raw ++ '"' :: tail) rest) :
    Exists fun raw' => rest = raw' ++ '"' :: tail ∧ raw'.length < raw.length := by
  rcases takes with ⟨used, same, some', none⟩
  have long : 0 < used.length := List.length_pos_iff.mpr some'
  rcases List.append_eq_append_iff.mp same with ⟨more, rfl, inner⟩ | ⟨more, rfl, rfl⟩
  · cases more with
    | nil =>
        rw [List.append_nil] at long
        exact ⟨[], inner.symm, long⟩
    | cons c more =>
        rw [List.cons_append] at inner
        rw [← (List.cons.inj inner).1] at none
        exact absurd (List.mem_append_right raw List.mem_cons_self) none
  · exact ⟨more, rfl, by rw [List.length_append]; omega⟩

theorem readUnit_takes {text rest : List Char} {unit : Nat}
    (reads : readUnit text = some (unit, rest)) : Takes text rest := by
  unfold readUnit at reads
  split at reads
  · rename_i a b c d behind
    rcases Option.bind_eq_some_iff.mp reads with ⟨_, first, reads⟩
    rcases Option.bind_eq_some_iff.mp reads with ⟨_, second, reads⟩
    rcases Option.bind_eq_some_iff.mp reads with ⟨_, third, reads⟩
    rcases Option.map_eq_some_iff.mp reads with ⟨_, fourth, same⟩
    rw [← (Prod.mk.inj same).2]
    exact Takes.cons (hexDigit_ne_quote first) (Takes.cons (hexDigit_ne_quote second)
      (Takes.cons (hexDigit_ne_quote third) (Takes.single (hexDigit_ne_quote fourth) behind)))
  · cases reads

theorem readLow_takes {high : Nat} {text rest : List Char} {c : Char}
    (reads : readLow high text = some (c, rest)) : Takes text rest := by
  unfold readLow at reads
  split at reads
  · rcases Option.bind_eq_some_iff.mp reads with ⟨⟨low, behind⟩, unit, reads⟩
    dsimp only at reads
    split at reads
    · rw [← (Prod.mk.inj (Option.some.inj reads)).2]
      exact Takes.cons (by decide) (Takes.cons (by decide) (readUnit_takes unit))
    · cases reads
  · cases reads

/-- An escape takes a quote and nothing else, or no quote. -/
theorem readEscape_takes {text rest : List Char} {c : Char}
    (reads : readEscape text = some (c, rest)) : text = '"' :: rest ∨ Takes text rest := by
  unfold readEscape at reads
  split at reads
  case h_1 => exact Or.inl (by rw [(Prod.mk.inj (Option.some.inj reads)).2])
  case h_9 =>
    refine Or.inr (Takes.cons (by decide) ?_)
    rcases Option.bind_eq_some_iff.mp reads with ⟨⟨unit, behind⟩, first, reads⟩
    dsimp only at reads
    split at reads
    · rw [← (Prod.mk.inj (Option.some.inj reads)).2]
      exact readUnit_takes first
    · split at reads
      · exact (readUnit_takes first).trans (readLow_takes reads)
      · cases reads
  case h_10 => cases reads
  all_goals
    rw [← (Prod.mk.inj (Option.some.inj reads)).2]
    exact Or.inr (Takes.single (by decide) _)

/-- Without a quote there is no string. -/
theorem readString_unclosed {text : List Char} (open' : '"' ∉ text) (fuel : Nat) :
    readString fuel text = none := by
  induction fuel generalizing text with
  | zero => rfl
  | succ fuel inductionHypothesis =>
      cases text with
      | nil => rfl
      | cons c text =>
          rcases not_or.mp (mt List.mem_cons.mpr open') with ⟨notQuote, others⟩
          rw [readString, if_neg (Ne.symm notQuote), inductionHypothesis others, Option.map_none]
          split
          · refine Option.bind_eq_none_iff.mpr ?_
            rintro ⟨d, rest⟩ reads
            rcases readEscape_takes reads with rfl | ⟨used, rfl, _⟩
            · exact absurd List.mem_cons_self others
            · have none : '"' ∉ rest := fun member => others (List.mem_append_right used member)
              dsimp only
              rw [inductionHypothesis none, Option.map_none]
          · split <;> rfl

/-- A text that is written between quotes as it is gives a string that is no longer;
it is as long only if nothing of the text needed an escape. -/
theorem readString_bounded {tail : List Char} (last : '"' ∉ tail) {raw value rest : List Char}
    {fuel : Nat} (reads : readString fuel (raw ++ '"' :: tail) = some (value, rest)) :
    value.length ≤ raw.length ∧
      (value.length = raw.length -> value = raw ∧ clean raw = true) := by
  induction fuel generalizing raw value rest with
  | zero => cases reads
  | succ fuel inductionHypothesis =>
      cases raw with
      | nil =>
          cases reads
          exact ⟨Nat.le_refl 0, fun _ => ⟨rfl, rfl⟩⟩
      | cons c raw =>
          rw [List.cons_append, readString] at reads
          by_cases quote : c = '"'
          · rw [if_pos quote] at reads
            cases reads
            exact ⟨Nat.zero_le _, fun impossible => by cases impossible⟩
          rw [if_neg quote] at reads
          by_cases backslash : c = '\\'
          · -- an escape takes two characters or more for one
            rw [if_pos backslash] at reads
            rcases Option.bind_eq_some_iff.mp reads with ⟨⟨d, behind⟩, escape, reads⟩
            rcases Option.map_eq_some_iff.mp reads with ⟨⟨others, _⟩, later, same⟩
            have length : value.length = others.length + 1 := by
              rw [← (Prod.mk.inj same).1, List.length_cons]
            rw [List.length_cons]
            rcases readEscape_takes escape with first | takes
            · cases raw with
              | nil =>
                  rw [← (List.cons.inj first).2, readString_unclosed last] at later
                  cases later
              | cons e raw =>
                  have behind := (List.cons.inj first).2
                  rw [← behind] at later
                  have bound := (inductionHypothesis later).1
                  rw [List.length_cons]
                  omega
            · rcases takes.before_quote with ⟨raw', rfl, shorter⟩
              have bound := (inductionHypothesis later).1
              omega
          rw [if_neg backslash] at reads
          by_cases control : c.toNat < 32
          · rw [if_pos control] at reads
            cases reads
          rw [if_neg control] at reads
          rcases Option.map_eq_some_iff.mp reads with ⟨⟨others, _⟩, later, same⟩
          rcases inductionHypothesis later with ⟨bound, whole⟩
          rw [← (Prod.mk.inj same).1, List.length_cons, List.length_cons]
          refine ⟨Nat.succ_le_succ bound, fun long => ?_⟩
          rcases whole (Nat.succ.inj long) with ⟨rfl, plain⟩
          have first : isPlain c = true := by
            simp only [isPlain, Bool.and_eq_true, bne_iff_ne, decide_eq_true_eq]
            exact ⟨⟨quote, backslash⟩, Nat.not_lt.mp control⟩
          exact ⟨rfl, by rw [clean, List.all_cons, first, Bool.true_and]; exact plain⟩

/-! ## Pieces of text that are read as a value -/

/-- No number goes on here. -/
def Ends (rest : List Char) : Prop :=
  forall c, rest.head? = some c -> c.isDigit = false ∧ c ≠ '.' ∧ c ≠ 'e' ∧ c ≠ 'E'

/-- The text is read as the value in front of whatever ends it. -/
def Reads (text : List Char) (value : Value) : Prop :=
  forall fuel rest, text.length < fuel -> Ends rest ->
    readValue fuel (text ++ rest) = some (value, rest)

/-- The end of the whole text is an end. -/
theorem parse_of_reads {text : String} {value : Value} (reads : Reads text.toList value) :
    parse text = some value := by
  have ends : Ends [] := fun c impossible => by cases impossible
  have enough : text.toList.length < text.length + 1 := Nat.lt_succ_of_le (Nat.le_of_eq rfl)
  have whole := reads (text.length + 1) [] enough ends
  rw [List.append_nil] at whole
  rw [parse, whole, Option.bind_some]
  rfl

/-! ### Numbers -/

section Numbers

variable {digits rest : List Char}

theorem readDigits_append (all : forall c, c ∈ digits -> c.isDigit = true) (some' : digits ≠ [])
    (stops : forall c, rest.head? = some c -> c.isDigit = false) :
    readDigits (digits ++ rest) = some (digits, rest) := by
  have none : rest.takeWhile Char.isDigit = [] := by
    cases rest with
    | nil => rfl
    | cons c rest => rw [List.takeWhile_cons, stops c rfl]; rfl
  have left : rest.dropWhile Char.isDigit = rest := by
    cases rest with
    | nil => rfl
    | cons c rest => rw [List.dropWhile_cons, stops c rfl]; rfl
  have taken : (digits ++ rest).takeWhile Char.isDigit = digits := by
    rw [List.takeWhile_append_of_pos all, none, List.append_nil]
  have dropped : (digits ++ rest).dropWhile Char.isDigit = rest := by
    rw [List.dropWhile_append_of_pos all, left]
  have filled : digits.isEmpty = false := List.isEmpty_eq_false_iff.mpr some'
  simp only [readDigits, taken, dropped, filled, Bool.false_eq_true, if_false]

theorem toDigits_isDigit (n : Nat) : forall c, c ∈ Nat.toDigits 10 n -> c.isDigit = true :=
  fun _ member => Nat.isDigit_of_mem_toDigits (by decide) (by decide) member

theorem clean_append (left right : List Char) :
    clean (left ++ right) = (clean left && clean right) := List.all_append

theorem clean_toString (n : Nat) : clean (toString n).toList = true := by
  rw [Nat.toString_eq_repr, Nat.toList_repr]
  exact List.all_eq_true.mpr fun c member => isPlain_of_isDigit (toDigits_isDigit n c member)

/-- The first digit of a number that is not 0 is none. -/
theorem toDigits_head_ne {n : Nat} (positive : 0 < n) : (Nat.toDigits 10 n).head? ≠ some '0' := by
  induction n using Nat.strongRecOn with
  | _ n inductionHypothesis =>
      rw [Nat.toDigits_eq_if (by decide)]
      by_cases small : n < 10
      · rw [if_pos small, List.head?_cons]
        exact fun zero => absurd (Nat.digitChar_eq_zero.mp (Option.some.inj zero)) (by omega)
      · rw [if_neg small, List.head?_append]
        have head := inductionHypothesis (n / 10) (by omega) (by omega)
        cases first : Nat.toDigits 10 (n / 10) with
        | nil => exact absurd first Nat.toDigits_ne_nil
        | cons c digits => rw [first] at head; exact head

theorem toDigits_leadingZero (n : Nat) : leadingZero (Nat.toDigits 10 n) = false := by
  rcases Nat.eq_zero_or_pos n with rfl | positive
  · rfl
  · have head := toDigits_head_ne positive
    cases first : (Nat.toDigits 10 n).head? with
    | none => simp only [leadingZero, first, Bool.and_eq_false_iff]; exact Or.inl rfl
    | some c =>
        have other : (some c == some '0') = false :=
          beq_eq_false_iff_ne.mpr fun same => head (first.trans same)
        rw [leadingZero, first, other, Bool.false_and]

theorem skipSpace_cons {c : Char} (solid : isSpace c = false) (text : List Char) :
    skipSpace (c :: text) = c :: text := by
  rw [skipSpace, List.dropWhile_cons, solid]
  rfl

theorem isSpace_of_isDigit {c : Char} (digit : c.isDigit = true) : isSpace c = false := by
  simp only [isSpace, Bool.or_eq_false_iff, beq_eq_false_iff_ne]
  and_intros
  all_goals
    rintro rfl
    exact absurd digit (by decide)

/-- A text that begins with a digit or a sign is read as a number. -/
theorem readValue_number {c : Char} (begins : c.isDigit = true ∨ c = '-') (fuel : Nat)
    (text : List Char) : readValue (fuel + 1) (c :: text) = readNumber (c :: text) := by
  have solid : isSpace c = false := by
    rcases begins with digit | rfl
    · exact isSpace_of_isDigit digit
    · rfl
  rw [readValue, skipSpace_cons solid]
  split
  case h_7 => rfl
  all_goals
    rename_i same
    rw [(List.cons.inj same).1] at begins
    exact absurd begins (by decide)

theorem readMinus_digits {c : Char} (digit : c.isDigit = true) (text : List Char) :
    readMinus (c :: text) = (1, c :: text) := by
  unfold readMinus
  split
  · rename_i same
    rw [(List.cons.inj same).1] at digit
    exact absurd digit (by decide)
  · rfl

/-- The sign of a number that is written with a minus or without. -/
def signText (negative : Bool) : List Char :=
  if negative then ['-'] else []

def signValue (negative : Bool) : Int :=
  if negative then -1 else 1

theorem readMinus_sign (negative : Bool) {digits : List Char} (some' : digits ≠ [])
    (all : forall c, c ∈ digits -> c.isDigit = true) (rest : List Char) :
    readMinus (signText negative ++ (digits ++ rest)) = (signValue negative, digits ++ rest) := by
  cases negative with
  | true => rfl
  | false =>
      cases digits with
      | nil => exact absurd rfl some'
      | cons c digits => exact readMinus_digits (all c List.mem_cons_self) (digits ++ rest)

theorem readValue_sign (negative : Bool) {digits : List Char} (some' : digits ≠ [])
    (all : forall c, c ∈ digits -> c.isDigit = true) (fuel : Nat) (rest : List Char) :
    readValue (fuel + 1) (signText negative ++ (digits ++ rest)) =
      readNumber (signText negative ++ (digits ++ rest)) := by
  cases negative with
  | true => exact readValue_number (Or.inr rfl) fuel _
  | false =>
      cases digits with
      | nil => exact absurd rfl some'
      | cons c digits => exact readValue_number (Or.inl (all c List.mem_cons_self)) fuel _

theorem readFraction_of_ends (ends : Ends rest) : readFraction rest = some ([], rest) := by
  unfold readFraction
  split
  · rename_i rest
    exact absurd rfl (ends '.' rfl).2.1
  · rfl

theorem readExponent_of_ends (ends : Ends rest) : readExponent rest = some (0, rest) := by
  unfold readExponent
  split
  · exact absurd rfl (ends 'e' rfl).2.2.1
  · exact absurd rfl (ends 'E' rfl).2.2.2
  · rfl

/-- `%u` of a number. -/
theorem reads_digits (n : Nat) : Reads (Nat.toDigits 10 n) (.num n 0) := by
  intro fuel rest enough ends
  cases fuel with
  | zero => omega
  | succ fuel =>
      have all := toDigits_isDigit n
      have begins := readValue_sign false Nat.toDigits_ne_nil all fuel rest
      have minus := readMinus_sign false Nat.toDigits_ne_nil all rest
      rw [signText, if_neg Bool.false_ne_true, List.nil_append] at begins minus
      have whole := readDigits_append all Nat.toDigits_ne_nil fun c first => (ends c first).1
      rw [begins, readNumber, minus]
      dsimp only
      rw [whole, Option.bind_some]
      dsimp only
      rw [toDigits_leadingZero, if_neg Bool.false_ne_true, readFraction_of_ends ends,
        Option.bind_some]
      dsimp only
      rw [readExponent_of_ends ends, Option.map_some, List.append_nil,
        Nat.ofDigitChars_ten_toDigits]
      simp only [signValue, Bool.false_eq_true, if_false, one_mul, List.length_nil, Nat.cast_zero,
        sub_zero]

/-- `%f`: a sign, the whole part, and the digits behind the point. -/
def fixedText (negative : Bool) (whole : Nat) (fraction : List Char) : List Char :=
  signText negative ++ (Nat.toDigits 10 whole ++ '.' :: fraction)

def fixedValue (negative : Bool) (whole : Nat) (fraction : List Char) : Value :=
  .num (signValue negative * Nat.ofDigitChars 10 (Nat.toDigits 10 whole ++ fraction) 0)
    (-fraction.length)

theorem reads_fixed (negative : Bool) (whole : Nat) {fraction : List Char}
    (some' : fraction ≠ []) (all : forall c, c ∈ fraction -> c.isDigit = true) :
    Reads (fixedText negative whole fraction) (fixedValue negative whole fraction) := by
  intro fuel rest enough ends
  cases fuel with
  | zero => omega
  | succ fuel =>
      have digits := toDigits_isDigit whole
      have same : fixedText negative whole fraction ++ rest =
          signText negative ++ (Nat.toDigits 10 whole ++ '.' :: (fraction ++ rest)) := by
        simp only [fixedText, List.append_assoc, List.cons_append]
      have point : forall c, ('.' :: (fraction ++ rest)).head? = some c -> c.isDigit = false := by
        intro c first
        cases first
        rfl
      rw [same, readValue_sign negative Nat.toDigits_ne_nil digits, readNumber,
        readMinus_sign negative Nat.toDigits_ne_nil digits]
      dsimp only
      rw [readDigits_append digits Nat.toDigits_ne_nil point, Option.bind_some]
      dsimp only
      rw [toDigits_leadingZero, if_neg Bool.false_ne_true, readFraction,
        readDigits_append all some' fun c first => (ends c first).1, Option.bind_some]
      dsimp only
      rw [readExponent_of_ends ends, Option.map_some, fixedValue]
      simp only [zero_sub]

end Numbers

/-! ### Strings and objects -/

theorem readValue_quote (fuel : Nat) (text : List Char) :
    readValue (fuel + 1) ('"' :: text) =
      (readString fuel text).map fun (text, rest) => (.str (.ofList text), rest) := by
  rw [readValue, skipSpace_cons rfl]
  rfl

theorem readValue_space (fuel : Nat) (text : List Char) :
    readValue fuel (' ' :: text) = readValue fuel text := by
  cases fuel with
  | zero => rfl
  | succ fuel =>
      have skips : skipSpace (' ' :: text) = skipSpace text := rfl
      rw [readValue, readValue, skips]

theorem readMembers_space (fuel : Nat) (text : List Char) :
    readMembers fuel (' ' :: text) = readMembers fuel text := by
  cases fuel with
  | zero => rfl
  | succ fuel =>
      have skips : skipSpace (' ' :: text) = skipSpace text := rfl
      rw [readMembers, readMembers, skips]

theorem readValue_brace (fuel : Nat) (text : List Char) :
    readValue (fuel + 1) ('\x7b' :: '"' :: text) =
      (readMembers fuel ('"' :: text)).map fun (members, rest) => (.obj members, rest) := by
  rw [readValue, skipSpace_cons rfl]
  rfl

theorem readMembers_quote (fuel : Nat) (text : List Char) :
    readMembers (fuel + 1) ('"' :: text) =
      (readString fuel text).bind fun (key, rest) =>
        match skipSpace rest with
        | ':' :: rest =>
            (readValue fuel rest).bind fun (value, rest) =>
              match skipSpace rest with
              | ',' :: rest =>
                  (readMembers fuel rest).map fun (members, rest) =>
                    ((.ofList key, value) :: members, rest)
              | '\x7d' :: rest => some ([(.ofList key, value)], rest)
              | _ => none
        | _ => none := by
  rw [readMembers, skipSpace_cons rfl]
  rfl

/-- `"key": text`. -/
def memberChars (key : String) (text : List Char) : List Char :=
  '"' :: (key.toList ++ '"' :: ':' :: ' ' :: text)

/-- `"raw"`. -/
def quoted (raw : List Char) : List Char :=
  '"' :: (raw ++ ['"'])

/-- `"%s"`. -/
theorem reads_string {text : String} (plain : clean text.toList = true) :
    Reads (quoted text.toList) (.str text) := by
  intro fuel rest enough _
  cases fuel with
  | zero => omega
  | succ fuel =>
      have room : text.toList.length < fuel := by
        rw [quoted, List.length_cons, List.length_append] at enough
        omega
      have same : quoted text.toList ++ rest = '"' :: (text.toList ++ '"' :: rest) := by
        simp only [quoted, List.cons_append, List.append_assoc, List.nil_append]
      rw [same, readValue_quote, readString_clean plain room, Option.map_some]
      dsimp only
      rw [String.ofList_toList]

/-- A member as it is written, and the value that its text has. -/
structure Field where
  key : String
  text : List Char
  value : Value

namespace Field

def member (field : Field) : String × Value := (field.key, field.value)

def chars (field : Field) : List Char := memberChars field.key field.text

/-- The key needs no escape, and the text is read as the value. -/
structure IsRead (field : Field) : Prop where
  key : clean field.key.toList = true
  text : Reads field.text field.value

end Field

/-- Members with a comma and a space between them. -/
def fieldsText (first : Field) : List Field -> List Char
  | [] => first.chars
  | next :: more => first.chars ++ ',' :: ' ' :: fieldsText next more

def objectText (first : Field) (more : List Field) : List Char :=
  '\x7b' :: (fieldsText first more ++ ['\x7d'])

theorem ends_cons {c : Char} (rest : List Char)
    (apart : c.isDigit = false ∧ c ≠ '.' ∧ c ≠ 'e' ∧ c ≠ 'E') : Ends (c :: rest) := by
  intro d first
  rw [← Option.some.inj first]
  exact apart

/-- One member off the front of what is left. -/
theorem readMembers_member {key : String} (plain : clean key.toList = true) {text : List Char}
    {fuel : Nat} (enough : key.toList.length < fuel) (rest : List Char) :
    readMembers (fuel + 1) (memberChars key text ++ rest) =
      (readValue fuel (text ++ rest)).bind fun (value, rest) =>
        match skipSpace rest with
        | ',' :: rest =>
            (readMembers fuel rest).map fun (members, rest) => ((key, value) :: members, rest)
        | '\x7d' :: rest => some ([(key, value)], rest)
        | _ => none := by
  have same : memberChars key text ++ rest =
      '"' :: (key.toList ++ '"' :: ':' :: ' ' :: (text ++ rest)) := by
    simp only [memberChars, List.cons_append, List.append_assoc]
  have colon : skipSpace (':' :: ' ' :: (text ++ rest)) = ':' :: ' ' :: (text ++ rest) :=
    skipSpace_cons rfl _
  rw [same, readMembers_quote, readString_clean plain enough, Option.bind_some]
  simp only [colon, readValue_space, String.ofList_toList]

theorem readMembers_field {field : Field} (isRead : field.IsRead) {fuel : Nat}
    (enough : field.chars.length ≤ fuel) {rest : List Char} (ends : Ends rest) :
    readMembers (fuel + 1) (field.chars ++ rest) =
      match skipSpace rest with
      | ',' :: rest =>
          (readMembers fuel rest).map fun (members, rest) => (field.member :: members, rest)
      | '\x7d' :: rest => some ([field.member], rest)
      | _ => none := by
  have length : field.chars.length = field.key.toList.length + field.text.length + 4 := by
    simp only [Field.chars, memberChars, List.length_cons, List.length_append]
    omega
  rw [Field.chars, readMembers_member isRead.key (by omega),
    isRead.text fuel rest (by omega) ends, Option.bind_some]
  rfl

theorem readMembers_fields {first : Field} {more : List Field} (isRead : first.IsRead)
    (others : forall field, field ∈ more -> field.IsRead) {fuel : Nat}
    (enough : (fieldsText first more).length < fuel) (rest : List Char) :
    readMembers fuel (fieldsText first more ++ '\x7d' :: rest) =
      some ((first :: more).map Field.member, rest) := by
  induction more generalizing first fuel with
  | nil =>
      cases fuel with
      | zero => omega
      | succ fuel =>
          have room : first.chars.length ≤ fuel := Nat.le_of_lt_succ enough
          have closed : Ends ('\x7d' :: rest) := ends_cons rest (by decide)
          rw [fieldsText, readMembers_field isRead room closed, skipSpace_cons rfl]
          rfl
  | cons next more inductionHypothesis =>
      cases fuel with
      | zero => omega
      | succ fuel =>
          rw [fieldsText, List.length_append, List.length_cons, List.length_cons] at enough
          have last := fun field member => others field (List.mem_cons_of_mem next member)
          have shorter : (fieldsText next more).length < fuel := by omega
          have rest' := inductionHypothesis (others next List.mem_cons_self) last shorter
          have split' : fieldsText first (next :: more) ++ '\x7d' :: rest =
              first.chars ++ ',' :: ' ' :: (fieldsText next more ++ '\x7d' :: rest) := by
            simp only [fieldsText, List.append_assoc, List.cons_append]
          have comma : Ends (',' :: ' ' :: (fieldsText next more ++ '\x7d' :: rest)) :=
            ends_cons _ (by decide)
          have space : readMembers fuel (' ' :: (fieldsText next more ++ '\x7d' :: rest)) =
              readMembers fuel (fieldsText next more ++ '\x7d' :: rest) :=
            readMembers_space fuel _
          rw [split', readMembers_field isRead (by omega) comma, skipSpace_cons rfl]
          change (readMembers fuel _).map _ = _
          rw [space, rest', Option.map_some]
          rfl

theorem readValue_object (fuel : Nat) (first : Field) (more : List Field) (rest : List Char) :
    readValue (fuel + 1) (objectText first more ++ rest) =
      (readMembers fuel (fieldsText first more ++ '\x7d' :: rest)).map fun (members, rest) =>
        (.obj members, rest) := by
  have same : objectText first more ++ rest =
      '\x7b' :: (fieldsText first more ++ '\x7d' :: rest) := by
    simp only [objectText, List.cons_append, List.append_assoc, List.nil_append]
  have quote : Exists fun text => fieldsText first more = '"' :: text := by
    cases more with
    | nil => exact ⟨_, rfl⟩
    | cons next more => exact ⟨_, rfl⟩
  rcases quote with ⟨text, begins⟩
  rw [same, begins, List.cons_append, readValue_brace]

/-- An object whose members are read. -/
theorem reads_object {first : Field} {more : List Field} (isRead : first.IsRead)
    (others : forall field, field ∈ more -> field.IsRead) :
    Reads (objectText first more) (.obj ((first :: more).map Field.member)) := by
  intro fuel rest enough _
  cases fuel with
  | zero => omega
  | succ fuel =>
      have room : (fieldsText first more).length < fuel := by
        rw [objectText, List.length_cons, List.length_append] at enough
        omega
      rw [readValue_object, readMembers_fields isRead others room rest, Option.map_some]

/-! ### A string that is written as it is -/

/-- What a reader can make of a text between quotes: no more characters than it has,
and as many only if it is that text and nothing of it needed an escape. -/
structure Within (raw : List Char) (text : String) : Prop where
  shorter : text.toList.length ≤ raw.length
  whole : text.toList.length = raw.length -> text.toList = raw ∧ clean raw = true

theorem readValue_quoted {raw tail rest : List Char} (last : '"' ∉ tail) {fuel : Nat}
    {value : Value} (reads : readValue fuel (quoted raw ++ tail) = some (value, rest)) :
    Exists fun text => value = .str text ∧ Within raw text := by
  cases fuel with
  | zero => cases reads
  | succ fuel =>
      have same : quoted raw ++ tail = '"' :: (raw ++ '"' :: tail) := by
        simp only [quoted, List.cons_append, List.append_assoc, List.nil_append]
      rw [same, readValue_quote] at reads
      rcases Option.map_eq_some_iff.mp reads with ⟨⟨text, _⟩, string, made⟩
      have bounded := readString_bounded last string
      rw [← String.toList_ofList (l := text)] at bounded
      exact ⟨.ofList text, (Prod.mk.inj made).1.symm, bounded.1, bounded.2⟩

theorem readMembers_quoted {key : String} (plain : clean key.toList = true)
    {raw tail rest : List Char} (last : '"' ∉ tail) {fuel : Nat} {members : List (String × Value)}
    (enough : key.toList.length < fuel)
    (reads : readMembers (fuel + 1) (memberChars key (quoted raw) ++ tail) = some (members, rest)) :
    Exists fun text => Exists fun more => members = (key, .str text) :: more ∧ Within raw text := by
  rw [readMembers_member plain enough] at reads
  rcases Option.bind_eq_some_iff.mp reads with ⟨⟨value, behind⟩, string, reads⟩
  rcases readValue_quoted last string with ⟨text, rfl, within⟩
  dsimp only at reads
  split at reads
  · rcases Option.map_eq_some_iff.mp reads with ⟨⟨more, _⟩, _, made⟩
    exact ⟨text, more, (Prod.mk.inj made).1.symm, within⟩
  · cases reads
    exact ⟨text, [], rfl, within⟩
  · cases reads

end JsonText
end Lib
