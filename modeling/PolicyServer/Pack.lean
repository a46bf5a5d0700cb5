import PolicyServer.Lib.Memory

namespace PolicyServer

open Lib

/-!
# Packing and unpacking integers

The big-endian readers and writers of `pack.c`.  The readers with an index
(`_it`) answer the value together with the advanced index, which is a `size_t`
and wraps at 2^64.  Values keep the width the source gives them, and the
`toNat` lemmas turn a read word into the arithmetic of its bytes.
-/

/-- A value stored in a `size_t`: taken modulo 2^64, a negative `int` included. -/
def sizeT (value : Int) : Nat :=
  (value % 18446744073709551616).toNat

theorem sizeT_succ {value : Nat} (small : value + 1 < 18446744073709551616) :
    sizeT (value + 1) = value + 1 := by
  unfold sizeT
  omega

theorem sizeT_add_two {value : Nat} (small : value + 2 < 18446744073709551616) :
    sizeT (value + 2) = value + 2 := by
  unfold sizeT
  omega

def unpackU16 (src : Memory) (i : Nat) : UInt16 :=
  (src i).toUInt16 <<< 8 ||| (src (i + 1)).toUInt16

def unpackN (src : Memory) (i : Nat) : UInt32 :=
  (src i).toUInt32 <<< 24 ||| (src (i + 1)).toUInt32 <<< 16 |||
    (src (i + 2)).toUInt32 <<< 8 ||| (src (i + 3)).toUInt32

def unpackU8It (src : Memory) (ptr : Nat) : UInt8 × Nat :=
  (src ptr, sizeT (ptr + 1))

def unpackU16It (src : Memory) (ptr : Nat) : UInt16 × Nat :=
  (unpackU16 src ptr, sizeT (ptr + 2))

def unpackU32It (src : Memory) (ptr : Nat) : UInt32 × Nat :=
  (unpackN src ptr, sizeT (ptr + 4))

/-- The two bytes `pack_u16_be` stores. -/
def packU16Be (val : UInt16) : List UInt8 :=
  [(val >>> 8).toUInt8, val.toUInt8]

/-- The four bytes `pack_u32_be` stores. -/
def packU32Be (val : UInt32) : List UInt8 :=
  [(val >>> 24).toUInt8, (val >>> 16).toUInt8, (val >>> 8).toUInt8, val.toUInt8]

@[simp] theorem packU16Be_length (val : UInt16) : (packU16Be val).length = 2 := rfl

@[simp] theorem packU32Be_length (val : UInt32) : (packU32Be val).length = 4 := rfl

/-! ## The value of a read word -/

private theorem shift_or_eq {high low width : Nat} (small : low < 1 <<< width) :
    high <<< width ||| low = high * (1 <<< width) + low := by
  rw [Nat.one_shiftLeft] at small ⊢
  rw [← Nat.shiftLeft_add_eq_or_of_lt small, Nat.shiftLeft_eq]

private theorem shift_amount_24 : (24 : UInt32).toNat % 32 = 24 := rfl
private theorem shift_amount_16 : (16 : UInt32).toNat % 32 = 16 := rfl
private theorem shift_amount_8 : (8 : UInt32).toNat % 32 = 8 := rfl

theorem unpackU16_toNat (src : Memory) (i : Nat) :
    (unpackU16 src i).toNat = (src i).toNat * 256 + (src (i + 1)).toNat := by
  have high := (src i).toNat_lt
  have low := (src (i + 1)).toNat_lt
  have fits : (src i).toNat <<< 8 < 2 ^ 16 := by
    rw [Nat.shiftLeft_eq]
    omega
  have amount : (8 : UInt16).toNat % 16 = 8 := rfl
  simp only [unpackU16, UInt16.toNat_or, UInt16.toNat_shiftLeft, UInt8.toNat_toUInt16]
  rw [amount, Nat.mod_eq_of_lt fits]
  exact shift_or_eq low

theorem unpackN_toNat (src : Memory) (i : Nat) :
    (unpackN src i).toNat = (src i).toNat * 16777216 + (src (i + 1)).toNat * 65536 +
      (src (i + 2)).toNat * 256 + (src (i + 3)).toNat := by
  have first := (src i).toNat_lt
  have second := (src (i + 1)).toNat_lt
  have third := (src (i + 2)).toNat_lt
  have fourth := (src (i + 3)).toNat_lt
  have fits : forall byte width, byte < 2 ^ 8 -> width ≤ 24 -> byte <<< width < 2 ^ 32 := by
    intro byte width small narrow
    rw [Nat.shiftLeft_eq]
    calc
      byte * 2 ^ width < 2 ^ 8 * 2 ^ width :=
        Nat.mul_lt_mul_of_pos_right small (Nat.two_pow_pos width)
      _ = 2 ^ (8 + width) := (Nat.pow_add 2 8 width).symm
      _ ≤ 2 ^ 32 := Nat.pow_le_pow_right (by decide) (by omega)
  simp only [unpackN, UInt32.toNat_or, UInt32.toNat_shiftLeft, UInt8.toNat_toUInt32,
    shift_amount_24, shift_amount_16, shift_amount_8]
  rw [Nat.mod_eq_of_lt (fits _ 24 first (by decide)),
    Nat.mod_eq_of_lt (fits _ 16 second (by decide)), Nat.mod_eq_of_lt (fits _ 8 third (by decide))]
  -- Gather the word from its low end: each `|||` adds a part below the shifted one.
  have low : (src (i + 2)).toNat <<< 8 ||| (src (i + 3)).toNat =
      (src (i + 2)).toNat * 256 + (src (i + 3)).toNat := shift_or_eq fourth
  have middle : (src (i + 1)).toNat <<< 16 ||| ((src (i + 2)).toNat * 256 + (src (i + 3)).toNat) =
      (src (i + 1)).toNat * 65536 + ((src (i + 2)).toNat * 256 + (src (i + 3)).toNat) :=
    shift_or_eq (by omega)
  rw [Nat.or_assoc, Nat.or_assoc, low, middle, shift_or_eq (by omega)]
  omega

/-- A stored word reads back as itself. -/
theorem unpackU16_of_holds {src : Memory} {i : Nat} {val : UInt16}
    (holds : src.Holds i (packU16Be val)) : unpackU16 src i = val := by
  rcases Memory.holds_cons.mp holds with ⟨high, rest⟩
  have low := (Memory.holds_cons.mp rest).1
  apply UInt16.toNat_inj.mp
  rw [unpackU16_toNat, high, low]
  have bound := val.toNat_lt
  have amount : (8 : UInt16).toNat % 16 = 8 := rfl
  simp only [UInt16.toNat_toUInt8, UInt16.toNat_shiftRight]
  rw [amount, Nat.shiftRight_eq_div_pow]
  omega

theorem unpackN_of_holds {src : Memory} {i : Nat} {val : UInt32}
    (holds : src.Holds i (packU32Be val)) : unpackN src i = val := by
  rcases Memory.holds_word.mp holds with ⟨first, second, third, fourth, _⟩
  apply UInt32.toNat_inj.mp
  rw [unpackN_toNat, first, second, third, fourth]
  have bound := val.toNat_lt
  simp only [UInt32.toNat_toUInt8, UInt32.toNat_shiftRight, shift_amount_24, shift_amount_16,
    shift_amount_8, Nat.shiftRight_eq_div_pow]
  omega

/-- A word depends on its own bytes only. -/
theorem unpackU16_congr {left right : Memory} {i j : Nat} (first : left i = right j)
    (second : left (i + 1) = right (j + 1)) : unpackU16 left i = unpackU16 right j := by
  simp only [unpackU16, first, second]

theorem unpackN_congr {left right : Memory} {i j : Nat} (first : left i = right j)
    (second : left (i + 1) = right (j + 1)) (third : left (i + 2) = right (j + 2))
    (fourth : left (i + 3) = right (j + 3)) : unpackN left i = unpackN right j := by
  simp only [unpackN, first, second, third, fourth]

/-- Memories that agree below a bound have the same integers there. -/
theorem unpackU16_agree {left right : Memory} {bound i : Nat}
    (same : forall i, i < bound -> left i = right i) (inside : i + 2 ≤ bound) :
    unpackU16 left i = unpackU16 right i := by
  apply unpackU16_congr
  · exact same i (by omega)
  · exact same (i + 1) (by omega)

theorem unpackN_agree {left right : Memory} {bound i : Nat}
    (same : forall i, i < bound -> left i = right i) (inside : i + 4 ≤ bound) :
    unpackN left i = unpackN right i := by
  apply unpackN_congr
  · exact same i (by omega)
  · exact same (i + 1) (by omega)
  · exact same (i + 2) (by omega)
  · exact same (i + 3) (by omega)

end PolicyServer
