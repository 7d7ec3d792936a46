import Mathlib.Algebra.Group.Nat.Defs
import Reckoner.Number.Decimal
import Reckoner.Number.Integer

/-!
# Numerals

The digits of a natural number read back as the number and begin with no zero, unless they are zero
alone. Zeros in front of digits do not count, and zeros behind them count as powers of ten.
-/

namespace Reckoner.Text

/-- The digits from `0` to `9` are ten consecutive code points. -/
theorem isDigit_iff (char : Char) : isDigit char = true ↔ 48 ≤ char.toNat ∧ char.toNat ≤ 57 := by
  simp only [isDigit, Bool.and_eq_true, decide_eq_true_eq]
  exact Iff.rfl

/-- A digit in the sense of the standard library is a digit from `0` to `9`. -/
theorem isDigit_of_isDigit {char : Char} (digit : char.isDigit = true) : isDigit char = true := by
  simp only [Char.isDigit, Bool.and_eq_true, decide_eq_true_eq, ge_iff_le] at digit
  rw [isDigit_iff]
  exact digit

/-- Digits are read as in the standard library. -/
theorem digitsValue_eq (digits : List Char) : digitsValue digits = Nat.ofDigitChars 10 digits 0 :=
  (Nat.ofDigitChars_eq_foldl).symm

/-- Digits behind digits shift them by their number. -/
theorem digitsValue_append (left right : List Char) :
    digitsValue (left ++ right) = digitsValue left * 10 ^ right.length + digitsValue right := by
  rw [digitsValue_eq, Nat.ofDigitChars_append, Nat.ofDigitChars_eq_ofDigitChars_zero,
    ← digitsValue_eq, ← digitsValue_eq, Nat.mul_comm]

/-- Zeros have the value zero. -/
theorem digitsValue_zeros (count : Nat) : digitsValue (List.replicate count '0') = 0 := by
  rw [digitsValue_eq, Nat.ofDigitChars_replicate_zero, Nat.mul_zero]

end Reckoner.Text

namespace Reckoner.Decimal

open Text (isDigit digitsValue)
open Integer (isNonzeroDigit)

/-- A numeral has a digit. -/
theorem numeral_ne_nil (value : Nat) : numeral value ≠ [] := Nat.toDigits_ne_nil

/-- A numeral has nothing but digits. -/
theorem numeral_digits (value : Nat) : ∀ char ∈ numeral value, isDigit char = true :=
  fun _ member =>
    Text.isDigit_of_isDigit (Nat.isDigit_of_mem_toDigits (by decide) (by decide) member)

/-- A numeral reads back as its number. -/
theorem digitsValue_numeral (value : Nat) : digitsValue (numeral value) = value := by
  rw [Text.digitsValue_eq, numeral, Nat.ofDigitChars_ten_toDigits]

/-- The numeral of zero. -/
theorem numeral_zero : numeral 0 = ['0'] := Nat.toDigits_zero 10

/-- The numeral of a positive number does not begin with zero. -/
theorem numeral_leading (value : Nat) (positive : 0 < value) :
    ∃ first rest, numeral value = first :: rest ∧ isNonzeroDigit first = true := by
  induction value using Nat.strongRecOn with
  | ind value ih =>
    rw [numeral, Nat.toDigits_eq_if (by decide)]
    by_cases single : value < 10
    · rw [if_pos single]
      have digit : isDigit value.digitChar = true :=
        Text.isDigit_of_isDigit (by simpa using single)
      have nonzero : value.digitChar ≠ '0' := by
        simpa using Nat.ne_of_gt positive
      exact ⟨_, [], rfl, by simp [isNonzeroDigit, digit, nonzero]⟩
    · obtain ⟨first, rest, begins, nonzero⟩ := ih (value / 10) (by omega) (by omega)
      rw [if_neg single, ← numeral, begins]
      exact ⟨first, _, rfl, nonzero⟩

/-- The width of a padded numeral that the number fits into. -/
theorem paddedNumeral_length (width value : Nat) (positive : 0 < width)
    (fits : value < 10 ^ width) : (paddedNumeral width value).length = width := by
  have short : (numeral value).length ≤ width :=
    (Nat.length_toDigits_le_iff (by decide) positive).mpr fits
  rw [paddedNumeral, List.length_append, List.length_replicate]
  omega

/-- A padded numeral has nothing but digits. -/
theorem paddedNumeral_digits (width value : Nat) :
    ∀ char ∈ paddedNumeral width value, isDigit char = true := by
  intro char member
  rw [paddedNumeral, List.mem_append] at member
  cases member with
  | inl padding =>
    rw [List.eq_of_mem_replicate padding]
    rfl
  | inr digit => exact numeral_digits value char digit

/-- A padded numeral reads back as its number. -/
theorem digitsValue_paddedNumeral (width value : Nat) :
    digitsValue (paddedNumeral width value) = value := by
  rw [paddedNumeral, Text.digitsValue_append, Text.digitsValue_zeros, digitsValue_numeral,
    Nat.zero_mul, Nat.zero_add]

/-- Digits are their significant part and zeros behind it. -/
theorem dropFinalZeros_append (digits : List Char) :
    ∃ count, digits = dropFinalZeros digits ++ List.replicate count '0' := by
  refine ⟨(digits.reverse.takeWhile (· == '0')).length, ?_⟩
  have zeros : digits.reverse.takeWhile (· == '0') =
      List.replicate (digits.reverse.takeWhile (· == '0')).length '0' := by
    rw [List.eq_replicate_iff]
    refine ⟨rfl, fun char member => ?_⟩
    exact beq_iff_eq.mp (List.all_eq_true.mp List.all_takeWhile char member)
  have parts := congrArg List.reverse
    (List.takeWhile_append_dropWhile (p := (· == '0')) (l := digits.reverse))
  rw [List.reverse_append, List.reverse_reverse, zeros, List.reverse_replicate] at parts
  exact parts.symm

/-- A significant part does not end with zero. -/
theorem dropFinalZeros_last (digits : List Char) (last : Char)
    (ends : (dropFinalZeros digits).getLast? = some last) : last ≠ '0' := by
  rw [dropFinalZeros, List.getLast?_reverse] at ends
  have kept := List.head?_dropWhile_not (· == '0') digits.reverse
  rw [ends] at kept
  simpa using kept

end Reckoner.Decimal
