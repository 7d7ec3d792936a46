import Mathlib.Algebra.Group.Nat.Defs
import Reckoner.Number.Binary64

/-!
# Rounding of quotients

Rounding sees a quotient only through its value: two fractions of equal value have the same nearest
rank. On the magnitudes themselves rounding is exact, so the units of a rank round back to it.
-/

namespace Reckoner.Binary64

/-- A common factor of numerator and denominator does not change the nearest natural number. -/
theorem roundQuotient_scaled (numerator denominator factor : Nat) (positive : 0 < factor) :
    roundQuotient (numerator * factor) (denominator * factor) =
      roundQuotient numerator denominator := by
  have quotient : numerator * factor / (denominator * factor) = numerator / denominator :=
    Nat.mul_div_mul_right numerator denominator positive
  have twice : 2 * (numerator * factor % (denominator * factor)) =
      2 * (numerator % denominator) * factor := by
    rw [Nat.mul_mod_mul_right, Nat.mul_assoc]
  have below : 2 * (numerator % denominator) * factor < denominator * factor ↔
      2 * (numerator % denominator) < denominator := Nat.mul_lt_mul_right positive
  have tie : 2 * (numerator % denominator) * factor = denominator * factor ↔
      2 * (numerator % denominator) = denominator := Nat.mul_left_inj (by omega)
  simp only [roundQuotient, quotient, twice, below, tie]

/-- Fractions of equal value have the same nearest natural number. -/
theorem roundQuotient_of_equal_value {numerator denominator otherNumerator otherDenominator : Nat}
    (positive : 0 < denominator) (otherPositive : 0 < otherDenominator)
    (same : numerator * otherDenominator = otherNumerator * denominator) :
    roundQuotient numerator denominator = roundQuotient otherNumerator otherDenominator := by
  rw [← roundQuotient_scaled numerator denominator otherDenominator otherPositive,
    ← roundQuotient_scaled otherNumerator otherDenominator denominator positive, same,
    Nat.mul_comm otherDenominator denominator]

/-- The leading bit of a significand of fifty-three bits. -/
theorem implicitBit_eq : implicitBit = 2 ^ 52 := by decide

/-- The nearest rank counts the dropped bits in steps of the leading bit. -/
theorem nearestRank_eq (numerator denominator : Nat) :
    nearestRank numerator denominator =
      droppedBits numerator denominator * implicitBit +
        roundQuotient numerator (denominator * 2 ^ droppedBits numerator denominator) := rfl

/-- Fractions of equal value have the same nearest rank. -/
theorem nearestRank_of_equal_value {numerator denominator otherNumerator otherDenominator : Nat}
    (positive : 0 < denominator) (otherPositive : 0 < otherDenominator)
    (same : numerator * otherDenominator = otherNumerator * denominator) :
    nearestRank numerator denominator = nearestRank otherNumerator otherDenominator := by
  have quotient : numerator / denominator = otherNumerator / otherDenominator := by
    rw [← Nat.mul_div_mul_right numerator denominator otherPositive, same,
      Nat.mul_comm denominator otherDenominator, Nat.mul_div_mul_right _ _ positive]
  have dropped : droppedBits numerator denominator =
      droppedBits otherNumerator otherDenominator := by
    rw [droppedBits, quotient, droppedBits]
  have power := Nat.two_pow_pos (droppedBits otherNumerator otherDenominator)
  have scaled : numerator * (otherDenominator * 2 ^ droppedBits otherNumerator otherDenominator) =
      otherNumerator * (denominator * 2 ^ droppedBits otherNumerator otherDenominator) := by
    rw [← Nat.mul_assoc, same, Nat.mul_assoc]
  rw [nearestRank_eq, dropped, nearestRank_eq,
    roundQuotient_of_equal_value (Nat.mul_pos positive power) (Nat.mul_pos otherPositive power)
      scaled]

/-- A multiple of the denominator rounds to the factor. -/
theorem roundQuotient_multiple (value denominator : Nat) (positive : 0 < denominator) :
    roundQuotient (value * denominator) denominator = value := by
  have quotient : value * denominator / denominator = value := Nat.mul_div_cancel value positive
  simp only [roundQuotient, quotient, Nat.mul_mod_left, Nat.mul_zero, positive, true_or,
    ↓reduceIte]

/-- Nothing rounds to rank zero. -/
theorem nearestRank_zero (denominator : Nat) (positive : 0 < denominator) :
    nearestRank 0 denominator = 0 := by
  have dropped : droppedBits 0 denominator = 0 := by
    simp [droppedBits]
  have rounded := roundQuotient_multiple 0 denominator positive
  rw [Nat.zero_mul] at rounded
  rw [nearestRank_eq, dropped, Nat.pow_zero, Nat.mul_one, rounded, Nat.zero_mul]

/-- A significand of fifty-three bits, shifted, has the rank that its exponent and its low bits
make up. -/
theorem nearestRank_shifted (fraction shift : Nat) (bound : fraction < implicitBit) :
    nearestRank ((implicitBit + fraction) * 2 ^ shift) 1 =
      (shift + 1) * implicitBit + fraction := by
  have width : ((implicitBit + fraction) * 2 ^ shift).log2 = 52 + shift := by
    rw [implicitBit_eq] at bound ⊢
    rw [Nat.log2_eq_iff (Nat.mul_ne_zero (by omega) (Nat.ne_of_gt (Nat.two_pow_pos shift)))]
    constructor
    · rw [Nat.pow_add]
      exact Nat.mul_le_mul_right _ (Nat.le_add_right _ _)
    · rw [show 52 + shift + 1 = 53 + shift by omega, Nat.pow_add]
      exact Nat.mul_lt_mul_of_pos_right (by omega) (Nat.two_pow_pos shift)
  have dropped : droppedBits ((implicitBit + fraction) * 2 ^ shift) 1 = shift := by
    rw [droppedBits, Nat.div_one, width]
    omega
  rw [nearestRank_eq, dropped, Nat.one_mul, roundQuotient_multiple _ _ (Nat.two_pow_pos shift),
    Nat.add_mul, Nat.one_mul, Nat.add_assoc]

/-- The units of a rank with an exponent. -/
theorem units_of_le {rank : Nat} (large : implicitBit ≤ rank) :
    units rank = (implicitBit + rank % implicitBit) * 2 ^ (rank / implicitBit - 1) :=
  if_neg (Nat.not_lt.mpr large)

/-- The units of a rank round to the rank. -/
theorem nearestRank_units (rank : Nat) : nearestRank (units rank) 1 = rank := by
  by_cases small : rank < implicitBit
  · have width : rank.log2 ≤ 52 := by
      by_cases zero : rank = 0
      · rw [zero]
        decide
      · rw [implicitBit_eq] at small
        exact Nat.le_of_lt ((Nat.log2_lt zero).mpr small)
    have dropped : droppedBits rank 1 = 0 := by
      rw [droppedBits, Nat.div_one]
      omega
    have rounded := roundQuotient_multiple rank 1 Nat.one_pos
    rw [Nat.mul_one] at rounded
    rw [units, if_pos small, nearestRank_eq, dropped, Nat.pow_zero, Nat.mul_one, rounded,
      Nat.zero_mul, Nat.zero_add]
  · have large : implicitBit ≤ rank := Nat.le_of_not_lt small
    have exponent : 1 ≤ rank / implicitBit := Nat.div_pos large (by decide)
    rw [units_of_le large, nearestRank_shifted _ _ (Nat.mod_lt _ (by decide)),
      Nat.sub_add_cancel exponent]
    exact Nat.div_add_mod' rank implicitBit

/-- Only rank zero has no units. -/
theorem units_eq_zero_iff (rank : Nat) : units rank = 0 ↔ rank = 0 := by
  constructor
  · intro none
    have back := nearestRank_units rank
    rw [none, nearestRank_zero 1 Nat.one_pos] at back
    exact back.symm
  · rintro rfl
    rfl

/-- There are units in one. -/
theorem scale_pos : 0 < scale := by decide +kernel

/-- The number of no units is the zero of its sign. -/
theorem round_zero (negative : Bool) (denominator : Nat) (positive : 0 < denominator) :
    round negative 0 denominator = .finite negative ⟨0, by decide⟩ := by
  rw [round, nearestRank_zero denominator positive]
  rfl

/-- The units of a finite magnitude round to the number of that magnitude. -/
theorem round_units (negative : Bool) (rank : Fin ceiling) :
    round negative (units rank) 1 = .finite negative rank := by
  rw [round, nearestRank_units, ofRank, dif_pos rank.isLt]

end Reckoner.Binary64
