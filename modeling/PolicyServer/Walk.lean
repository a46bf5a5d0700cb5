import PolicyServer.Objects

namespace PolicyServer

open Lib

/-!
# Walking by length fields

The receiver of a message finds its objects by their length fields: each counts
the whole object, and the next one starts behind it.  `walk` takes a number of
objects off the front of a list of bytes in this way.
-/

/-- An object as a reader finds it. -/
structure Record where
  major : UInt8
  minor : UInt8
  body : List UInt8
  deriving DecidableEq, Repr

namespace Record

def size (record : Record) : Nat := record.body.length + 4

def bytes (record : Record) : List UInt8 :=
  packU16Be (UInt16.ofNat record.size) ++ ([record.major, record.minor] ++ record.body)

@[simp] theorem bytes_length (record : Record) : record.bytes.length = record.size := by
  simp only [bytes, size, List.length_append, packU16Be_length, List.length_cons, List.length_nil]
  omega

end Record

/-- The number that a length field of two bytes stands for. -/
def lengthField (high low : UInt8) : Nat := high.toNat * 256 + low.toNat

/-- Take this many objects off the front; `none` where a length field is wrong. -/
def walk : Nat -> List UInt8 -> Option (List Record × List UInt8)
  | 0, bytes => some ([], bytes)
  | count + 1, high :: low :: major :: minor :: rest =>
      let length := lengthField high low
      if 4 ≤ length ∧ length - 4 ≤ rest.length then
        (walk count (rest.drop (length - 4))).map fun (records, behind) =>
          ({ major, minor, body := rest.take (length - 4) } :: records, behind)
      else none
  | _ + 1, _ => none

theorem lengthField_packed {size : Nat} (fits : size < 65536) :
    lengthField (UInt16.ofNat size >>> 8).toUInt8 (UInt16.ofNat size).toUInt8 = size := by
  have amount : (8 : UInt16).toNat % 16 = 8 := rfl
  have value : (UInt16.ofNat size).toNat = size := UInt16.toNat_ofNat_of_lt' fits
  simp only [lengthField, UInt16.toNat_toUInt8, UInt16.toNat_shiftRight, value, amount,
    Nat.shiftRight_eq_div_pow]
  omega

/-- A record in front is found, and the walk goes on behind it. -/
theorem walk_cons {record : Record} (fits : record.size < 65536) (count : Nat)
    (behind : List UInt8) :
    walk (count + 1) (record.bytes ++ behind) =
      (walk count behind).map fun (records, rest) => (record :: records, rest) := by
  have length : lengthField (UInt16.ofNat record.size >>> 8).toUInt8
      (UInt16.ofNat record.size).toUInt8 - 4 = record.body.length := by
    rw [lengthField_packed fits, Record.size, Nat.add_sub_cancel]
  have shape : record.bytes ++ behind =
      (UInt16.ofNat record.size >>> 8).toUInt8 :: (UInt16.ofNat record.size).toUInt8 ::
        record.major :: record.minor :: (record.body ++ behind) := by
    simp only [Record.bytes, packU16Be, List.cons_append, List.nil_append]
  have enough : 4 ≤ lengthField (UInt16.ofNat record.size >>> 8).toUInt8
        (UInt16.ofNat record.size).toUInt8 ∧
      record.body.length ≤ (record.body ++ behind).length := by
    rw [lengthField_packed fits, List.length_append]
    exact ⟨Nat.le_add_left 4 _, Nat.le_add_right _ _⟩
  rw [shape, walk, length, if_pos enough, List.drop_left, List.take_left]

/-- Records one behind the other are all found. -/
theorem walk_records {records : List Record}
    (fits : forall record, record ∈ records -> record.size < 65536) (behind : List UInt8) :
    walk records.length (records.flatMap Record.bytes ++ behind) = some (records, behind) := by
  induction records with
  | nil => rfl
  | cons record records inductionHypothesis =>
      have rest := inductionHypothesis fun other member =>
        fits other (List.mem_cons_of_mem _ member)
      rw [List.length_cons, List.flatMap_cons, List.append_assoc,
        walk_cons (fits record List.mem_cons_self), rest, Option.map_some]

end PolicyServer
