import Reckoner.Proofs.Number.Literal
import Reckoner.Proofs.Number.Rounding

/-!
# Plain decimals

A decimal written in place reads back as a number of the same rank, and the shortest decimal of a
rank has that rank. The written form has no leading zero and no zero at the end of its fraction.
-/

namespace Reckoner.Decimal

open Expression (isNumeric)
open Integer (isNonzeroDigit)
open Text (isDigit digitsValue)

/-! ## Rank and value -/

/-- A decimal has a denominator. -/
theorem denominator_pos (decimal : Decimal) : 0 < decimal.denominator := Nat.pow_pos (by decide)

/-- Decimals of equal value have the same rank. -/
theorem rank_of_equal_value {left right : Decimal}
    (same : left.numerator * right.denominator = right.numerator * left.denominator) :
    left.rank = right.rank :=
  Binary64.nearestRank_of_equal_value left.denominator_pos right.denominator_pos same

/-- Fives over as many tens are as many halves, and units are halves. -/
theorem rank_fives (digits count : Nat) (halves : Binary64.scale = Nat.pow 2 count) :
    rank ⟨digits * Nat.pow 5 count, -count⟩ = Binary64.nearestRank digits 1 := by
  rw [rank]
  apply Binary64.nearestRank_of_equal_value (denominator_pos _) Nat.one_pos
  rw [numerator, denominator, halves, show (-(count : Int)).toNat = 0 by omega,
    show (-(-(count : Int))).toNat = count by omega]
  simp only [Nat.pow_eq, Nat.pow_zero, Nat.mul_one, Nat.mul_assoc]
  rw [← Nat.mul_pow]

/-- The exact decimal of a rank has the rank. -/
theorem rank_exact (rank : Nat) : (exact rank).rank = rank := by
  have fives := rank_fives (Binary64.units rank) 1074 Binary64.scale.eq_1
  rw [Binary64.nearestRank_units] at fives
  exact fives

/-- A decimal that was chosen for a rank has the rank. -/
theorem rank_nearestOfExponent? {rank : Nat} {exponent : Int} {decimal : Decimal}
    (chosen : nearestOfExponent? rank exponent = some decimal) : decimal.rank = rank := by
  rw [nearestOfExponent?] at chosen
  have kept := List.find?_some (p := fun decimal : Decimal => decimal.rank == rank) chosen
  exact beq_iff_eq.mp kept

/-- The shortest decimal of a rank has the rank. -/
theorem rank_shortest (rank : Nat) : (shortest rank).rank = rank := by
  rw [shortest]
  cases found : (List.range 17).findSome? fun (after : Nat) =>
      nearestOfExponent? rank
        (leadingExponent (Binary64.units rank) Binary64.scale - after) with
  | none => exact rank_exact rank
  | some decimal =>
    obtain ⟨after, -, chosen⟩ := List.exists_of_findSome?_eq_some found
    exact rank_nearestOfExponent? chosen

/-! ## The digits of a plain decimal -/

/-- The digits in front of the point, for a decimal with places behind it. -/
def wholeDigits (digits places : Nat) : List Char := numeral (digits / 10 ^ places)

/-- The digits behind the point without the zeros at their end. -/
def fractionDigits (digits places : Nat) : List Char :=
  dropFinalZeros (paddedNumeral places (digits % 10 ^ places))

/-- The digits behind the point are digits. -/
theorem fractionDigits_digits (digits places : Nat) :
    ∀ char ∈ fractionDigits digits places, isDigit char = true := by
  intro char member
  obtain ⟨count, parts⟩ := dropFinalZeros_append (paddedNumeral places (digits % 10 ^ places))
  apply paddedNumeral_digits places (digits % 10 ^ places)
  rw [parts]
  exact List.mem_append_left _ member

/-- The digits around the point make up the decimal. -/
theorem digitsValue_parts (digits places : Nat) (positive : 0 < places) :
    digitsValue (wholeDigits digits places ++ fractionDigits digits places) * 10 ^ places =
      digits * 10 ^ (fractionDigits digits places).length := by
  have base : 0 < 10 ^ places := Nat.pow_pos (by decide)
  obtain ⟨count, parts⟩ := dropFinalZeros_append (paddedNumeral places (digits % 10 ^ places))
  rw [← fractionDigits] at parts
  have length : places = (fractionDigits digits places).length + count := by
    have whole := paddedNumeral_length places (digits % 10 ^ places) positive
      (Nat.mod_lt digits base)
    rw [parts, List.length_append, List.length_replicate] at whole
    exact whole.symm
  have value : digitsValue (fractionDigits digits places) * 10 ^ count = digits % 10 ^ places := by
    have read := digitsValue_paddedNumeral places (digits % 10 ^ places)
    rw [parts, Text.digitsValue_append, Text.digitsValue_zeros, List.length_replicate] at read
    exact read
  have power : 10 ^ places = 10 ^ (fractionDigits digits places).length * 10 ^ count := by
    rw [← Nat.pow_add, ← length]
  calc digitsValue (wholeDigits digits places ++ fractionDigits digits places) * 10 ^ places
      = (digits / 10 ^ places * 10 ^ (fractionDigits digits places).length +
          digitsValue (fractionDigits digits places)) * 10 ^ places := by
        rw [Text.digitsValue_append, wholeDigits, digitsValue_numeral]
    _ = (digits / 10 ^ places * 10 ^ places +
          digitsValue (fractionDigits digits places) * 10 ^ count) *
          10 ^ (fractionDigits digits places).length := by
        rw [Nat.add_mul, Nat.add_mul, Nat.mul_right_comm (digits / 10 ^ places),
          Nat.mul_assoc (digitsValue _), Nat.mul_comm (10 ^ count), ← power]
    _ = digits * 10 ^ (fractionDigits digits places).length := by
        rw [value, Nat.div_add_mod']

/-! ## Reading back -/

/-- A decimal without places behind the point reads back. -/
theorem parse?_plain_whole (digits power : Nat) :
    Literal.parse? (plain ⟨digits, .ofNat power⟩) =
      some (toBinary64 false ⟨digits, .ofNat power⟩) := by
  have written : plain ⟨digits, .ofNat power⟩ = numeral (digits * 10 ^ power) := rfl
  have digit := numeral_digits (digits * 10 ^ power)
  have rank : rank ⟨digits * 10 ^ power, 0⟩ = rank ⟨digits, .ofNat power⟩ := by
    apply rank_of_equal_value
    change digits * 10 ^ power * 1 * Binary64.scale * 10 ^ (-(power : Int)).toNat =
      digits * 10 ^ power * Binary64.scale * 1
    rw [show (-(power : Int)).toNat = 0 by omega, Nat.pow_zero, Nat.mul_one, Nat.mul_one,
      Nat.mul_one]
  rw [written, Literal.parse?_of_isNumeric fun char member =>
      (Literal.isNumeric_iff char).mpr (.inl (digit char member)),
    Literal.decimal?_whole (numeral_ne_nil _) digit, digitsValue_numeral, Option.map_some,
    toBinary64, rank, toBinary64]

/-- What is written of a decimal with places behind the point. -/
theorem plain_negSucc (digits power : Nat) :
    plain ⟨digits, .negSucc power⟩ =
      wholeDigits digits (power + 1) ++
        fraction (paddedNumeral (power + 1) (digits % 10 ^ (power + 1))) := rfl

/-- A fraction is the point and the digits that are kept, or nothing. -/
theorem fraction_cases (digits : List Char) :
    (dropFinalZeros digits = [] ∧ fraction digits = []) ∨
      (dropFinalZeros digits ≠ [] ∧ fraction digits = '.' :: dropFinalZeros digits) := by
  rw [fraction]
  cases dropFinalZeros digits with
  | nil => exact .inl ⟨rfl, rfl⟩
  | cons first rest => exact .inr ⟨List.cons_ne_nil first rest, rfl⟩

/-- A decimal with places behind the point writes the decimal of its digits around the point. -/
theorem decimal?_plain_negSucc (digits power : Nat) :
    Literal.decimal? (plain ⟨digits, .negSucc power⟩) =
      some ⟨digitsValue (wholeDigits digits (power + 1) ++ fractionDigits digits (power + 1)),
        0 - ((fractionDigits digits (power + 1)).length : Int)⟩ := by
  have whole := numeral_digits (digits / 10 ^ (power + 1))
  have some_digit : wholeDigits digits (power + 1) ≠ [] := numeral_ne_nil _
  rw [plain_negSucc]
  cases fraction_cases (paddedNumeral (power + 1) (digits % 10 ^ (power + 1))) with
  | inl nothing =>
    rw [nothing.2, fractionDigits, nothing.1, List.append_nil,
      Literal.decimal?_whole some_digit whole]
    rfl
  | inr written =>
    rw [written.2, ← fractionDigits]
    exact Literal.decimal?_pointed (List.append_ne_nil_of_left_ne_nil some_digit _) whole
      (fractionDigits_digits digits (power + 1))

/-- A plain decimal has nothing but digits and points. -/
theorem plain_numeric (decimal : Decimal) : ∀ char ∈ plain decimal, isNumeric char = true := by
  intro char member
  rw [Literal.isNumeric_iff]
  obtain ⟨digits, exponent⟩ := decimal
  cases exponent with
  | ofNat power => exact .inl (numeral_digits _ char member)
  | negSucc power =>
    rw [plain_negSucc, List.mem_append] at member
    cases member with
    | inl whole => exact .inl (numeral_digits _ char whole)
    | inr tail =>
      cases fraction_cases (paddedNumeral (power + 1) (digits % 10 ^ (power + 1))) with
      | inl nothing =>
        rw [nothing.2] at tail
        cases tail
      | inr written =>
        rw [written.2, List.mem_cons] at tail
        cases tail with
        | inl point => exact .inr point
        | inr digit => exact .inl (fractionDigits_digits digits (power + 1) char digit)

/-- A decimal with places behind the point reads back. -/
theorem parse?_plain_negSucc (digits power : Nat) :
    Literal.parse? (plain ⟨digits, .negSucc power⟩) =
      some (toBinary64 false ⟨digits, .negSucc power⟩) := by
  have value := digitsValue_parts digits (power + 1) (Nat.succ_pos power)
  have rank : rank ⟨digitsValue (wholeDigits digits (power + 1) ++
        fractionDigits digits (power + 1)),
        0 - ((fractionDigits digits (power + 1)).length : Int)⟩ =
      rank ⟨digits, .negSucc power⟩ := by
    apply rank_of_equal_value
    simp only [numerator, denominator]
    rw [show (0 - ((fractionDigits digits (power + 1)).length : Int)).toNat = 0 by omega,
      show (-(0 - ((fractionDigits digits (power + 1)).length : Int))).toNat =
        (fractionDigits digits (power + 1)).length by omega,
      show (Int.negSucc power).toNat = 0 from rfl,
      show (-Int.negSucc power).toNat = power + 1 from rfl]
    simp only [Nat.pow_eq, Nat.pow_zero, Nat.mul_one]
    rw [Nat.mul_right_comm, value, Nat.mul_right_comm]
  rw [Literal.parse?_of_isNumeric (plain_numeric _), decimal?_plain_negSucc, Option.map_some,
    toBinary64, rank, toBinary64]

/-- A plain decimal reads back as the number nearest to the decimal. -/
theorem parse?_plain (decimal : Decimal) :
    Literal.parse? (plain decimal) = some (toBinary64 false decimal) := by
  obtain ⟨digits, exponent⟩ := decimal
  cases exponent with
  | ofNat power => exact parse?_plain_whole digits power
  | negSucc power => exact parse?_plain_negSucc digits power

/-- The shortest decimal of a finite magnitude reads back as the magnitude. -/
theorem parse?_plain_shortest (rank : Fin Binary64.ceiling) :
    Literal.parse? (plain (shortest rank)) = some (.finite false rank) := by
  rw [parse?_plain, toBinary64, rank_shortest, Binary64.ofRank, dif_pos rank.isLt]

/-! ## The written form -/

/-- Digits that write a natural number: zero alone, or digits of which the first is not zero. -/
def IsWhole (chars : List Char) : Prop :=
  chars = ['0'] ∨ ∃ first rest, chars = first :: rest ∧ isNonzeroDigit first = true ∧
    ∀ char ∈ rest, isDigit char = true

/-- Nothing, or a point and digits of which the last is not zero. -/
def IsFraction (chars : List Char) : Prop :=
  chars = [] ∨ ∃ digits last, chars = '.' :: (digits ++ [last]) ∧
    (∀ char ∈ digits, isDigit char = true) ∧ isNonzeroDigit last = true

/-- The plain decimals: possibly a minus, the digits of a natural number and a fraction. -/
def IsPlain (chars : List Char) : Prop :=
  ∃ sign whole fraction, chars = sign ++ whole ++ fraction ∧ (sign = [] ∨ sign = ['-']) ∧
    IsWhole whole ∧ IsFraction fraction

/-- A natural number is written with a digit. -/
theorem IsWhole.ne_nil {chars : List Char} (whole : IsWhole chars) : chars ≠ [] := by
  rcases whole with rfl | ⟨first, rest, rfl, -⟩
  · exact List.cons_ne_nil _ _
  · exact List.cons_ne_nil _ _

/-- A numeral writes a natural number. -/
theorem isWhole_numeral (value : Nat) : IsWhole (numeral value) := by
  by_cases zero : value = 0
  · rw [zero, numeral_zero]
    exact .inl rfl
  · obtain ⟨first, rest, written, nonzero⟩ := numeral_leading value (Nat.pos_of_ne_zero zero)
    have digits := numeral_digits value
    rw [written] at digits
    exact .inr ⟨first, rest, written, nonzero,
      fun char member => digits char (List.mem_cons_of_mem first member)⟩

/-- What is written behind the digits of a natural number is a fraction. -/
theorem isFraction_fraction (digits places : Nat) :
    IsFraction (fraction (paddedNumeral places (digits % 10 ^ places))) := by
  cases fraction_cases (paddedNumeral places (digits % 10 ^ places)) with
  | inl nothing => exact .inl nothing.2
  | inr written =>
    rw [← fractionDigits] at written
    obtain ⟨front, last, parts⟩ :=
      (fractionDigits digits places).eq_nil_or_concat.resolve_left written.1
    rw [List.concat_eq_append] at parts
    have digit := fractionDigits_digits digits places
    rw [parts] at digit
    have nonzero : last ≠ '0' := by
      apply dropFinalZeros_last (paddedNumeral places (digits % 10 ^ places))
      rw [← fractionDigits, parts, List.getLast?_concat]
    refine .inr ⟨front, last, by rw [written.2, parts],
      fun char member => digit char (List.mem_append_left _ member), ?_⟩
    rw [isNonzeroDigit, digit last (by simp), Bool.true_and, bne_iff_ne]
    exact nonzero

/-- A decimal in place is the digits of a natural number and a fraction. -/
theorem plain_parts (decimal : Decimal) :
    ∃ whole fraction, plain decimal = whole ++ fraction ∧ IsWhole whole ∧ IsFraction fraction := by
  obtain ⟨digits, exponent⟩ := decimal
  cases exponent with
  | ofNat power =>
    exact ⟨numeral (digits * 10 ^ power), [], (List.append_nil _).symm, isWhole_numeral _,
      .inl rfl⟩
  | negSucc power =>
    exact ⟨_, _, plain_negSucc digits power, isWhole_numeral _, isFraction_fraction digits _⟩

end Reckoner.Decimal
