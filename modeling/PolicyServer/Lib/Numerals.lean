import Mathlib.Data.List.Induction
import Mathlib.Data.Nat.Notation

namespace Lib

/-!
# Numerals and their bytes

How many bytes a decimal numeral has, a text of ASCII characters, and that a number
has one numeral without zeros in front.
-/

/-- The number of decimal digits. -/
def decimalWidth (n : Nat) : Nat := (Nat.toDigits 10 n).length

section Width

variable {n : Nat}

theorem decimalWidth_uint8 (small : n < 256) : decimalWidth n ≤ 3 :=
  (Nat.length_toDigits_le_iff (by decide) (by decide)).mpr (Nat.lt_trans small (by decide))

theorem decimalWidth_uint16 (small : n < 65536) : decimalWidth n ≤ 5 :=
  (Nat.length_toDigits_le_iff (by decide) (by decide)).mpr (Nat.lt_trans small (by decide))

theorem decimalWidth_uint32 (small : n < 4294967296) : decimalWidth n ≤ 10 :=
  (Nat.length_toDigits_le_iff (by decide) (by decide)).mpr (Nat.lt_trans small (by decide))

end Width

/-! ## Bytes -/

/-- Every character is one byte. -/
def isAscii (text : List Char) : Bool :=
  text.all fun c => c.utf8Size == 1

theorem utf8ByteSize_ofList {text : List Char} (ascii : isAscii text = true) :
    (String.ofList text).utf8ByteSize = text.length := by
  induction text with
  | nil => rfl
  | cons c text inductionHypothesis =>
      rw [isAscii, List.all_cons, Bool.and_eq_true, beq_iff_eq] at ascii
      have split' : String.ofList (c :: text) = String.ofList [c] ++ String.ofList text := by
        rw [← String.ofList_append]
        rfl
      have first : (String.ofList [c]).utf8ByteSize = 1 :=
        (String.utf8ByteSize_singleton).trans ascii.1
      rw [split', String.utf8ByteSize_append, first, inductionHypothesis ascii.2,
        List.length_cons, Nat.add_comm]

theorem utf8Size_of_isDigit {c : Char} (digit : c.isDigit = true) : c.utf8Size = 1 := by
  simp only [Char.isDigit, ge_iff_le, Bool.and_eq_true, decide_eq_true_eq] at digit
  exact if_pos (UInt32.le_trans digit.2 (by decide))

theorem isAscii_toDigits (n : Nat) : isAscii (Nat.toDigits 10 n) = true := by
  refine List.all_eq_true.mpr fun c member => beq_iff_eq.mpr ?_
  exact utf8Size_of_isDigit (Nat.isDigit_of_mem_toDigits (by decide) (by decide) member)

/-- A numeral has one byte for each digit. -/
theorem utf8ByteSize_toString (n : Nat) : (toString n).utf8ByteSize = decimalWidth n := by
  rw [Nat.toString_eq_ofList_toDigits, utf8ByteSize_ofList (isAscii_toDigits n), decimalWidth]

/-! ## One numeral for each number -/

/-- Digits that do not start with 0 are the numeral of the number they stand for. -/
theorem toDigits_ofDigitChars {digits : List Char} (all : digits.all Char.isDigit = true)
    (start : digits.head? ≠ some '0') (nonempty : digits ≠ []) :
    0 < Nat.ofDigitChars 10 digits 0 ∧
      Nat.toDigits 10 (Nat.ofDigitChars 10 digits 0) = digits := by
  induction digits using List.reverseRecOn with
  | nil => exact absurd rfl nonempty
  | append_singleton front last inductionHypothesis =>
      rw [List.all_append, Bool.and_eq_true, List.all_cons, List.all_nil, Bool.and_true] at all
      have base : '0'.toNat = 48 := rfl
      have bounds : 48 ≤ last.toNat ∧ last.toNat ≤ 57 := Char.isDigit_iff_toNat.mp all.2
      have digit : (last.toNat - 48).digitChar = last := by
        apply Char.toNat_inj.mp
        rw [Nat.toNat_digitChar_of_lt_ten (by omega)]
        omega
      have value : Nat.ofDigitChars 10 (front ++ [last]) 0 =
          10 * Nat.ofDigitChars 10 front 0 + (last.toNat - 48) := by
        rw [Nat.ofDigitChars_append, Nat.ofDigitChars_cons, Nat.ofDigitChars_nil, base]
      rw [value]
      cases front with
      | nil =>
          have nonzero : last.toNat ≠ 48 := by
            intro zero
            exact start (congrArg some (Char.toNat_inj.mp zero))
          rw [Nat.ofDigitChars_nil, Nat.mul_zero, Nat.zero_add,
            Nat.toDigits_of_lt_base (by omega), digit]
          exact ⟨by omega, rfl⟩
      | cons first front =>
          rcases inductionHypothesis all.1 start (List.cons_ne_nil _ _) with ⟨positive, same⟩
          refine ⟨by omega, ?_⟩
          rw [← Nat.toDigits_append_toDigits (by decide) positive (by omega), same,
            Nat.toDigits_of_lt_base (by omega), digit]

end Lib
