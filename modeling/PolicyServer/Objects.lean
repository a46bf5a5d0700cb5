import PolicyServer.Lib.Loop
import PolicyServer.Pack

namespace PolicyServer

open Lib

/-!
# Objects and their tilings

COPS and PCMM objects share one layout: a 16-bit length that counts the whole
object, two tag bytes, and a body.  `Object least` is an object whose body has
at least `least` bytes and whose length field is right, so a list of objects
is a tiling of the bytes it encodes to.

Both walks of the server move in words of four bytes.  `wordTags` lists, for
every word of a body, the two bytes a walk would take for the tags if it took
the word for a header.
-/

/-- An object with a true length field. -/
structure Object (least : Nat) where
  major : UInt8
  minor : UInt8
  body : List UInt8
  aligned : 4 ∣ body.length
  enough : least ≤ body.length
  fits : body.length + 4 < 65536
  deriving DecidableEq

/-- A COPS object: C-Num, C-Type and a body that may be empty. -/
abbrev CopsObject := Object 0

/-- A PCMM object: S-Num, S-Type and a body of at least one word. -/
abbrev PcmmObject := Object 4

variable {least : Nat}

namespace Object

def size (object : Object least) : Nat :=
  object.body.length + 4

/-- The length field. -/
def length (object : Object least) : UInt16 :=
  UInt16.ofNat object.size

def bytes (object : Object least) : List UInt8 :=
  packU16Be object.length ++ ([object.major, object.minor] ++ object.body)

@[simp] theorem bytes_length (object : Object least) : object.bytes.length = object.size := by
  simp only [bytes, size, List.length_append, packU16Be_length, List.length_cons, List.length_nil]
  omega

theorem length_toNat (object : Object least) : object.length.toNat = object.size :=
  UInt16.toNat_ofNat_of_lt' object.fits

theorem size_pos (object : Object least) : 4 ≤ object.size :=
  Nat.le_add_left 4 _

/-- An object with a body of one word. -/
def ofWord (major minor high low high' low' : UInt8) (narrow : least ≤ 4) : Object least where
  major := major
  minor := minor
  body := [high, low, high', low']
  aligned := ⟨1, rfl⟩
  enough := narrow
  fits := (by decide : 8 < 65536)

end Object

/-- The bytes of a list of objects, one behind the other. -/
def encode (objects : List (Object least)) : List UInt8 :=
  objects.flatMap Object.bytes

def totalSize : List (Object least) -> Nat
  | [] => 0
  | object :: objects => object.size + totalSize objects

@[simp] theorem encode_nil : encode ([] : List (Object least)) = [] := rfl

@[simp] theorem encode_cons (object : Object least) (objects : List (Object least)) :
    encode (object :: objects) = object.bytes ++ encode objects :=
  List.flatMap_cons

theorem encode_append (left right : List (Object least)) :
    encode (left ++ right) = encode left ++ encode right :=
  List.flatMap_append

@[simp] theorem totalSize_nil : totalSize ([] : List (Object least)) = 0 := rfl

@[simp] theorem totalSize_cons (object : Object least) (objects : List (Object least)) :
    totalSize (object :: objects) = object.size + totalSize objects :=
  rfl

theorem totalSize_append (left right : List (Object least)) :
    totalSize (left ++ right) = totalSize left + totalSize right := by
  induction left with
  | nil => rw [List.nil_append, totalSize_nil, Nat.zero_add]
  | cons object objects restHolds =>
      rw [List.cons_append, totalSize_cons, totalSize_cons, restHolds, Nat.add_assoc]

theorem totalSize_take_drop (objects : List (Object least)) (k : Nat) :
    totalSize (objects.take k) + totalSize (objects.drop k) = totalSize objects := by
  rw [← totalSize_append, List.take_append_drop]

theorem totalSize_pos {objects : List (Object least)} (nonempty : objects ≠ []) :
    0 < totalSize objects := by
  cases objects with
  | nil => exact absurd rfl nonempty
  | cons object objects =>
      have size := object.size_pos
      rw [totalSize_cons]
      omega

@[simp] theorem encode_length (objects : List (Object least)) :
    (encode objects).length = totalSize objects := by
  induction objects with
  | nil => rfl
  | cons object objects restHolds =>
      rw [encode_cons, List.length_append, object.bytes_length, restHolds,
        totalSize_cons]

/-! ## Objects in memory -/

/-- An object lies in memory field by field. -/
structure Object.StoredAt (object : Object least) (memory : Memory) (start : Nat) : Prop where
  length : unpackU16 memory start = object.length
  major : memory (start + 2) = object.major
  minor : memory (start + 3) = object.minor
  body : memory.Holds (start + 4) object.body

theorem Object.storedAt_of_holds {object : Object least} {memory : Memory} {start : Nat}
    (holds : memory.Holds start object.bytes) : object.StoredAt memory start := by
  rcases Memory.holds_append.mp holds with ⟨length, tagged⟩
  rcases Memory.holds_append.mp tagged with ⟨tags, body⟩
  rcases Memory.holds_cons.mp tags with ⟨major, tags⟩
  have minor := (Memory.holds_cons.mp tags).1
  exact ⟨unpackU16_of_holds length, major, minor, body⟩

/-- Every object of a stored list is stored behind the ones before it. -/
theorem storedAt_of_holds {memory : Memory} {start : Nat} (before : List (Object least))
    {behind : List (Object least)} {object : Object least}
    (holds : memory.Holds start (encode (before ++ object :: behind))) :
    object.StoredAt memory (start + totalSize before) := by
  rw [encode_append, encode_cons] at holds
  have there := (Memory.holds_append.mp holds).2
  rw [encode_length] at there
  exact Object.storedAt_of_holds (Memory.holds_append.mp there).1

/-! ## The words of a body -/

/-- The last two bytes of every whole word. -/
def wordTags : List UInt8 -> List (UInt8 × UInt8)
  | _ :: _ :: major :: minor :: rest => (major, minor) :: wordTags rest
  | _ => []

/-- Induction over a list of whole words. -/
theorem wordInduction {property : (bytes : List UInt8) -> 4 ∣ bytes.length -> Prop}
    (nil : property [] (Nat.dvd_zero 4))
    (word : forall first second major minor rest shorter aligned, property rest shorter ->
      property (first :: second :: major :: minor :: rest) aligned)
    (bytes : List UInt8) (aligned : 4 ∣ bytes.length) : property bytes aligned := by
  match bytes, aligned with
  | [], _ => exact nil
  | [_], aligned => exact absurd aligned (by simp only [List.length_cons, List.length_nil]; omega)
  | [_, _], aligned =>
      exact absurd aligned (by simp only [List.length_cons, List.length_nil]; omega)
  | [_, _, _], aligned =>
      exact absurd aligned (by simp only [List.length_cons, List.length_nil]; omega)
  | first :: second :: major :: minor :: rest, aligned =>
      have shorter : 4 ∣ rest.length := by
        simp only [List.length_cons] at aligned
        omega
      exact word first second major minor rest shorter aligned (wordInduction nil word rest shorter)

theorem wordTags_append {left : List UInt8} (right : List UInt8) (aligned : 4 ∣ left.length) :
    wordTags (left ++ right) = wordTags left ++ wordTags right := by
  induction left, aligned using wordInduction with
  | nil => rfl
  | word first second major minor rest _ _ restHolds =>
      simp only [List.cons_append, wordTags, restHolds]

/-- A loop that steps over every word of a kind steps over a run of such words.
`place` is its state at an index. -/
theorem visits_aligned {State : Type} {guard : State -> Bool} {body : State -> Option State}
    {memory : Memory} (place : Nat -> State) (passed : UInt8 -> UInt8 -> Prop) {stop : Nat}
    (step : forall idx, idx < stop -> passed (memory (idx + 2)) (memory (idx + 3)) ->
      Loop.Visits guard body (place idx) (place (idx + 4)))
    {words : List UInt8} (aligned : 4 ∣ words.length) {start : Nat}
    (holds : memory.Holds start words) (inside : start + words.length ≤ stop)
    (all : forall tags, tags ∈ wordTags words -> passed tags.1 tags.2) :
    Loop.Visits guard body (place start) (place (start + words.length)) := by
  induction words, aligned using wordInduction generalizing start with
  | nil => exact .here
  | word first second major minor rest _ _ restVisited =>
      simp only [List.length_cons] at inside ⊢
      rcases Memory.holds_word.mp holds with ⟨_, _, atMajor, atMinor, restHolds⟩
      have header : passed (memory (start + 2)) (memory (start + 3)) := by
        rw [atMajor, atMinor]
        exact all (major, minor) List.mem_cons_self
      have word := step start (by omega) header
      have later := restVisited restHolds (by omega)
        (fun tags member => all tags (List.mem_cons_of_mem _ member))
      rw [show start + (rest.length + 1 + 1 + 1 + 1) = start + 4 + rest.length by omega]
      exact word.trans later

end PolicyServer
