import Mathlib.Data.List.TakeWhile
import PolicyServer.Routes

namespace PolicyServer

/-!
# Addresses as text

`iputil.c`, with what `inet_pton`, `strtok` and `strtoul` make of a text.  A text
that `inet_pton` refuses leaves the address it should have stored as it was, and
an IPv6 address is packed by its groups in the order in which they stand, whether
`::` is among them or not.
-/

/-! ## IPv4 -/

/-- The number that `inet_pton` reads for `AF_INET`, as a number of the host. -/
def inetPton4 (ip : String) : Option UInt32 :=
  if isIp4 ip then
    some (UInt32.ofNat
      ((ip.toList.splitOn '.').foldl (fun value part => value * 256 + leadingNumber part) 0))
  else none

/-- `ip4_toi`, where `addr` is what its local holds before. -/
def ip4Toi (addr : UInt32) (ip : String) : UInt32 :=
  (inetPton4 ip).getD addr

/-! ## IPv6 -/

/-- The number that a hexadecimal digit stands for. -/
def hexDigit (char : Char) : Option Nat :=
  if char.isDigit then some (char.toNat - 48)
  else if 'a' ≤ char ∧ char ≤ 'f' then some (char.toNat - 87)
  else if 'A' ≤ char ∧ char ≤ 'F' then some (char.toNat - 55)
  else none

/-- A group of an IPv6 address. -/
def isHextet (field : List Char) : Bool :=
  decide (1 ≤ field.length ∧ field.length ≤ 4) && field.all fun char => (hexDigit char).isSome

/-- How many groups the fields between colons stand for; a dotted address at the
end stands for two. -/
def hextets : List (List Char) -> Option Nat
  | [] => some 0
  | [last] =>
      if isHextet last then some 1
      else if isIp4 (String.ofList last) then some 2
      else none
  | field :: fields => if isHextet field then (hextets fields).map (· + 1) else none

/-- The fields around `::`, which stands for at least one group; at the end of the
text it has one more empty field behind it. -/
def isCompressed (left right : List (List Char)) : Bool :=
  left.all isHextet &&
    if right = [[]] then decide (left.length ≤ 7)
    else right != [] && (hextets right).any fun count => decide (left.length + count ≤ 7)

/-- `is_ip6`. -/
def isIp6 (ip : String) : Bool :=
  let fields := ip.toList.splitOn ':'
  match fields.dropWhile (· ≠ []) with
  | [] => hextets fields == some 8
  | _ :: right =>
      let left := fields.takeWhile (· ≠ [])
      if left ≠ [] then isCompressed left right
      -- at the start of the text `::` has one more empty field in front
      else right.head? == some [] && isCompressed [] right.tail

/-- What `strtok` finds between the colons. -/
def tokens (ip : String) : List (List Char) :=
  (ip.toList.splitOn ':').filter (· ≠ [])

/-- The number of the leading hexadecimal digits. -/
def leadingHex (text : List Char) : Nat :=
  ((text.map hexDigit).takeWhile Option.isSome).foldl
    (fun value digit => value * 16 + digit.getD 0) 0

/-- `0x` in front of a digit is skipped. -/
def skipHexPrefix (text : List Char) : List Char :=
  if (text.head? == some '0' && (text[1]? == some 'x' || text[1]? == some 'X')) &&
      (text[2]?.bind hexDigit).isSome then text.drop 2
  else text

/-- `strtoul` with base 16: white space, a sign and digits, at most the largest
`unsigned long`. -/
def strtoul16 (text : List Char) : UInt64 :=
  let number := fun digits => leadingHex (skipHexPrefix digits)
  match text.dropWhile isspace with
  | '-' :: digits =>
      if number digits < 18446744073709551616 then -UInt64.ofNat (number digits)
      else 18446744073709551615
  | '+' :: digits => UInt64.ofNat (min 18446744073709551615 (number digits))
  | digits => UInt64.ofNat (min 18446744073709551615 (number digits))

/-- The bytes that `pack_ip6` stores; `none` where there is no group and it reads
from a null pointer. -/
def packIp6 (ip6 : String) : Option (List UInt8) :=
  if tokens ip6 = [] then none
  else
    some ((tokens ip6).flatMap fun token =>
      [(strtoul16 token >>> 8).toUInt8, (strtoul16 token).toUInt8])

/-- `prefixlen`. -/
def prefixlen (ip : String) : UInt8 :=
  if !strstr ip "/" then 0
  else (sscanfInt ((ip.toList.dropWhile (· != '/')).tail)).toUInt32.toUInt8

/-! ## How many groups there are -/

theorem hextets_length {fields : List (List Char)} {count : Nat}
    (counted : hextets fields = some count) : fields.length ≤ count := by
  induction fields generalizing count with
  | nil => exact Nat.zero_le _
  | cons field fields inductionHypothesis =>
      cases fields with
      | nil =>
          rw [hextets] at counted
          split at counted
          · cases counted
            exact Nat.le_refl _
          split at counted
          · cases counted
            exact Nat.le_succ 1
          · cases counted
      | cons second fields =>
          rw [hextets] at counted
          · split at counted
            · rcases Option.map_eq_some_iff.mp counted with ⟨rest, others, rfl⟩
              exact Nat.succ_le_succ (inductionHypothesis others)
            · cases counted
          · exact fun impossible => List.cons_ne_nil _ _ impossible

theorem compressed_length {left right : List (List Char)}
    (compressed : isCompressed left right = true) :
    left.length + (right.filter (· ≠ [])).length ≤ 7 := by
  unfold isCompressed at compressed
  rcases Bool.and_eq_true_iff.mp compressed with ⟨_, counted⟩
  split at counted
  · rename_i last
    rw [last]
    exact of_decide_eq_true counted
  · rcases Bool.and_eq_true_iff.mp counted with ⟨_, counted⟩
    rcases (Option.any_eq_true _ _).mp counted with ⟨count, groups, small⟩
    have few := hextets_length groups
    have fewer := List.length_filter_le (· ≠ []) right
    have small := of_decide_eq_true small
    omega

/-- An address with an empty field has at most seven groups. -/
theorem tokens_compressed {ip : String} (valid : isIp6 ip = true)
    (empty : [] ∈ ip.toList.splitOn ':') : (tokens ip).length ≤ 7 := by
  unfold isIp6 at valid
  unfold tokens
  dsimp only at valid
  generalize ip.toList.splitOn ':' = fields at valid empty ⊢
  split at valid
  · rename_i through
    have all := List.dropWhile_eq_nil_iff.mp through [] empty
    exact absurd (of_decide_eq_true all) (fun different => different rfl)
  · rename_i first right behind
    have parts : fields = fields.takeWhile (· ≠ []) ++ first :: right := by
      rw [← behind, List.takeWhile_append_dropWhile]
    have blank : first = [] := by
      have stops := List.head?_dropWhile_not (· ≠ []) fields
      rw [behind, List.head?_cons] at stops
      simpa using stops
    have others : ((first :: right).filter (· ≠ [])).length = (right.filter (· ≠ [])).length := by
      rw [blank]
      rfl
    rw [parts, List.filter_append, List.length_append, others]
    have front := List.length_filter_le (· ≠ []) (fields.takeWhile (· ≠ []))
    split at valid
    · have few := compressed_length valid
      omega
    · rename_i start
      have none : fields.takeWhile (· ≠ []) = [] := not_not.mp start
      rcases Bool.and_eq_true_iff.mp valid with ⟨doubled, compressed⟩
      have few := compressed_length compressed
      have tail : right.filter (· ≠ []) = right.tail.filter (· ≠ []) := by
        rcases List.head?_eq_some_iff.mp (beq_iff_eq.mp doubled) with ⟨rest, same⟩
        rw [same]
        rfl
      rw [none, tail]
      exact few

/-- An address has at most eight groups. -/
theorem tokens_length {ip : String} (valid : isIp6 ip = true) : (tokens ip).length ≤ 8 := by
  by_cases empty : [] ∈ ip.toList.splitOn ':'
  · exact Nat.le_succ_of_le (tokens_compressed valid empty)
  · have through : (ip.toList.splitOn ':').dropWhile (· ≠ []) = [] := by
      refine List.dropWhile_eq_nil_iff.mpr fun field member => decide_eq_true ?_
      intro same
      exact empty (same ▸ member)
    unfold isIp6 at valid
    dsimp only at valid
    rw [through] at valid
    have few := hextets_length (beq_iff_eq.mp valid)
    exact Nat.le_trans (List.length_filter_le _ _) few

theorem pairs_length {α : Type} (f g : α -> UInt8) (list : List α) :
    (list.flatMap fun x => [f x, g x]).length = 2 * list.length := by
  induction list with
  | nil => rfl
  | cons x list inductionHypothesis =>
      rw [List.flatMap_cons, List.length_append, inductionHypothesis, List.length_cons,
        List.length_cons, List.length_cons, List.length_nil]
      omega

/-- The bytes of an address fit into its field. -/
theorem packIp6_length {ip : String} {bytes : List UInt8} (few : (tokens ip).length ≤ 8)
    (packs : packIp6 ip = some bytes) : bytes.length ≤ 16 := by
  unfold packIp6 at packs
  split at packs
  · cases packs
  · cases packs
    rw [pairs_length]
    exact Nat.mul_le_mul_left 2 few

theorem packIp6_of_tokens {ip : String} (some' : tokens ip ≠ []) :
    Exists fun bytes => packIp6 ip = some bytes :=
  ⟨_, if_neg some'⟩

/-! ## A prefix length behind an address -/

/-- An address with at least one group, and a prefix length or none. -/
def IsText6 (text : String) : Prop :=
  Exists fun addr : String => Exists fun suffix => text.toList = addr.toList ++ suffix ∧
    isIp6 addr = true ∧ tokens addr ≠ [] ∧
      (suffix = [] ∨ Exists fun digits => suffix = '/' :: digits ∧ digits.all Char.isDigit = true)

/-- Text without a separator belongs to the last field. -/
theorem splitOn_append {separator : Char} {suffix : List Char} (apart : separator ∉ suffix)
    (text : List Char) :
    Exists fun init => Exists fun last => text.splitOn separator = init ++ [last] ∧
      (text ++ suffix).splitOn separator = init ++ [last ++ suffix] := by
  induction text with
  | nil => exact ⟨[], [], rfl, List.splitOn_eq_singleton apart⟩
  | cons char text inductionHypothesis =>
      rcases inductionHypothesis with ⟨init, last, fields, longer⟩
      rw [List.cons_append, List.splitOn_cons_eq_if_modifyHead, List.splitOn_cons_eq_if_modifyHead,
        fields, longer]
      by_cases same : (char == separator) = true
      · rw [if_pos same, if_pos same]
        exact ⟨[] :: init, last, rfl, rfl⟩
      · rw [if_neg same, if_neg same]
        cases init with
        | nil => exact ⟨[], char :: last, rfl, rfl⟩
        | cons first init => exact ⟨(char :: first) :: init, last, rfl, rfl⟩

/-- A prefix length belongs to the last group, or is one where the last field is empty. -/
theorem tokens_prefixed {text addr : String} {digits : List Char}
    (same : text.toList = addr.toList ++ '/' :: digits) (all : digits.all Char.isDigit = true) :
    [] ∈ addr.toList.splitOn ':' ∧ tokens text = tokens addr ++ ['/' :: digits] ∨
      Exists fun init => Exists fun last => tokens addr = init ++ [last] ∧
        tokens text = init ++ [last ++ '/' :: digits] := by
  have apart : ':' ∉ '/' :: digits := by
    intro member
    rcases List.mem_cons.mp member with slash | member
    · exact absurd slash (by decide)
    · exact absurd (List.all_eq_true.mp all ':' member) (by decide)
  rcases splitOn_append apart addr.toList with ⟨init, last, fields, longer⟩
  have whole : [last ++ '/' :: digits].filter (· ≠ []) = [last ++ '/' :: digits] := by
    refine List.filter_eq_self.mpr fun field member => decide_eq_true ?_
    rw [List.mem_singleton.mp member]
    exact List.append_ne_nil_of_right_ne_nil last (List.cons_ne_nil _ _)
  unfold tokens
  rw [same, longer, fields, List.filter_append, List.filter_append, whole]
  by_cases blank : last = []
  · have none : [last].filter (· ≠ []) = [] := by
      rw [blank]
      rfl
    left
    rw [none, List.append_nil, blank, List.nil_append]
    exact ⟨List.mem_append_right _ List.mem_cons_self, rfl⟩
  · have one : [last].filter (· ≠ []) = [last] := by
      refine List.filter_eq_self.mpr fun field member => decide_eq_true ?_
      rw [List.mem_singleton.mp member]
      exact blank
    right
    rw [one]
    exact ⟨_, last, rfl, rfl⟩

/-- A prefix length adds a group at most where `::` stands for one. -/
theorem tokens_of_text {text : String} (valid : IsText6 text) :
    tokens text ≠ [] ∧ (tokens text).length ≤ 8 := by
  rcases valid with ⟨addr, suffix, same, ipv6, groups, rfl | ⟨digits, rfl, all⟩⟩
  · rw [List.append_nil] at same
    rw [String.toList_inj.mp same]
    exact ⟨groups, tokens_length ipv6⟩
  · rcases tokens_prefixed same all with ⟨empty, longer⟩ | ⟨init, last, shorter, longer⟩
    · have few := tokens_compressed ipv6 empty
      rw [longer, List.length_append, List.length_singleton]
      exact ⟨List.append_ne_nil_of_right_ne_nil _ (List.cons_ne_nil _ _), Nat.succ_le_succ few⟩
    · have few := tokens_length ipv6
      rw [shorter, List.length_append, List.length_singleton] at few
      rw [longer, List.length_append, List.length_singleton]
      exact ⟨List.append_ne_nil_of_right_ne_nil _ (List.cons_ne_nil _ _), few⟩

/-! ## The two kinds are apart -/

/-- A text is what its fields say, and the separators. -/
theorem mem_splitOn {separator char : Char} {text : List Char} (member : char ∈ text) :
    char = separator ∨ Exists fun field => field ∈ text.splitOn separator ∧ char ∈ field := by
  induction text with
  | nil => cases member
  | cons first text inductionHypothesis =>
      rw [List.splitOn_cons_eq_if_modifyHead]
      by_cases same : first = separator
      · rw [if_pos (beq_iff_eq.mpr same)]
        rcases List.mem_cons.mp member with rfl | member
        · exact Or.inl same
        · rcases inductionHypothesis member with here | ⟨field, there, inside⟩
          · exact Or.inl here
          · exact Or.inr ⟨field, List.mem_cons_of_mem _ there, inside⟩
      · rw [if_neg (fun equal => same (beq_iff_eq.mp equal))]
        cases fields : text.splitOn separator with
        | nil => exact absurd fields (List.splitOn_ne_nil separator text)
        | cons field fields' =>
            rw [List.modifyHead_cons]
            rcases List.mem_cons.mp member with rfl | member
            · exact Or.inr ⟨char :: field, List.mem_cons_self, List.mem_cons_self⟩
            · rw [fields] at inductionHypothesis
              rcases inductionHypothesis member with here | ⟨other, there, inside⟩
              · exact Or.inl here
              · rcases List.mem_cons.mp there with rfl | there
                · exact Or.inr ⟨first :: other, List.mem_cons_self, List.mem_cons_of_mem _ inside⟩
                · exact Or.inr ⟨other, List.mem_cons_of_mem _ there, inside⟩

/-- A dotted address is digits and dots. -/
theorem isIp4_chars {ip : String} (valid : isIp4 ip = true) {c : Char} (member : c ∈ ip.toList) :
    c = '.' ∨ c.isDigit = true := by
  have octets := (Bool.and_eq_true_iff.mp valid).2
  have there : c = '.' ∨ Exists fun field => field ∈ ip.toList.splitOn '.' ∧ c ∈ field :=
    mem_splitOn member
  rcases there with dot | ⟨field, part, inside⟩
  · exact Or.inl dot
  · have octet := List.all_eq_true.mp octets field part
    unfold isOctet at octet
    rcases Bool.and_eq_true_iff.mp octet with ⟨digits, _⟩
    have digits := (Bool.and_eq_true_iff.mp digits).1
    exact Or.inr (List.all_eq_true.mp digits c inside)

/-- A dotted address has no colon. -/
theorem colon_not_mem {ip : String} (valid : isIp4 ip = true) : ':' ∉ ip.toList := by
  intro colon
  rcases isIp4_chars valid colon with impossible | impossible
  · exact absurd impossible (by decide)
  · exact absurd impossible (by decide)

theorem not_isIp6_of_isIp4 {ip : String} (valid : isIp4 ip = true) : isIp6 ip = false := by
  unfold isIp6
  rw [List.splitOn_eq_singleton (colon_not_mem valid)]
  dsimp only
  by_cases empty : ip.toList = []
  · rw [empty]
    rfl
  · have through : [ip.toList].dropWhile (· ≠ []) = [] := by
      simp only [List.dropWhile, empty, ne_eq, not_false_eq_true, decide_true]
    rw [through]
    dsimp only
    rw [hextets]
    split
    · rfl
    split
    · rfl
    · rfl

end PolicyServer
