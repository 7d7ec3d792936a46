import Reckoner.Proofs.Number.Rounding

/-!
# The order of roundings

Rounding keeps the order of its quotients. A quotient that drops more bits than another has the
greater rank, because the bits that are kept are fifty-three; where as many are dropped, the kept
bits decide. A number of units whose dropped bits are all zero is a magnitude.
-/

namespace Reckoner.Binary64

/-! ## Quotients -/

/-- A quotient is not rounded below its whole part. -/
theorem le_roundQuotient (numerator denominator : Nat) :
    numerator / denominator ≤ roundQuotient numerator denominator := by
  simp only [roundQuotient]
  split <;> omega

/-- A quotient is not rounded beyond the natural number after its whole part. -/
theorem roundQuotient_le (numerator denominator : Nat) :
    roundQuotient numerator denominator ≤ numerator / denominator + 1 := by
  simp only [roundQuotient]
  split <;> omega

/-- Rounding to a natural number keeps the order of numerators. -/
theorem roundQuotient_mono {left right : Nat} (denominator : Nat) (order : left ≤ right) :
    roundQuotient left denominator ≤ roundQuotient right denominator := by
  have quotients : left / denominator ≤ right / denominator := Nat.div_le_div_right order
  by_cases apart : left / denominator < right / denominator
  · have above := roundQuotient_le left denominator
    have below := le_roundQuotient right denominator
    omega
  · have equal : left / denominator = right / denominator := by omega
    have leftParts := Nat.div_add_mod left denominator
    have rightParts := Nat.div_add_mod right denominator
    have remainders : left % denominator ≤ right % denominator := by
      rw [equal] at leftParts
      omega
    simp only [roundQuotient, equal]
    split <;> split <;> omega

/-! ## Dropped bits -/

/-- A greater number has no fewer bits. -/
theorem log2_mono {left right : Nat} (order : left ≤ right) : left.log2 ≤ right.log2 := by
  by_cases zero : left = 0
  · rw [zero, Nat.log2_zero]
    exact Nat.zero_le _
  · have power : 2 ^ left.log2 ≤ left := Nat.log2_self_le zero
    exact (Nat.le_log2 (by omega)).mpr (Nat.le_trans power order)

/-- A greater numerator drops no fewer bits. -/
theorem droppedBits_mono {left right : Nat} (denominator : Nat) (order : left ≤ right) :
    droppedBits left denominator ≤ droppedBits right denominator := by
  have widths := log2_mono (Nat.div_le_div_right order : left / denominator ≤ right / denominator)
  simp only [droppedBits]
  omega

/-- No more than fifty-three bits are kept. -/
theorem kept_lt (numerator denominator : Nat) :
    numerator / (denominator * 2 ^ droppedBits numerator denominator) < 2 * implicitBit := by
  have whole : numerator / denominator < 2 ^ ((numerator / denominator).log2 + 1) :=
    Nat.lt_log2_self
  have width : (numerator / denominator).log2 + 1 ≤ 53 + droppedBits numerator denominator := by
    rw [droppedBits]
    omega
  have bound := Nat.lt_of_lt_of_le whole (Nat.pow_le_pow_right (by decide : 0 < 2) width)
  rw [Nat.pow_add] at bound
  rw [← Nat.div_div_eq_div_mul, Nat.div_lt_iff_lt_mul (Nat.two_pow_pos _)]
  exact bound

/-- No fewer than fifty-three bits are kept where a bit is dropped. -/
theorem le_kept {numerator denominator : Nat} (some_bit : 0 < droppedBits numerator denominator) :
    implicitBit ≤ numerator / (denominator * 2 ^ droppedBits numerator denominator) := by
  have width : 52 + droppedBits numerator denominator = (numerator / denominator).log2 := by
    rw [droppedBits] at some_bit ⊢
    omega
  have nonzero : numerator / denominator ≠ 0 := by
    intro none
    rw [none, Nat.log2_zero] at width
    omega
  have whole := Nat.log2_self_le nonzero
  rw [← width, Nat.pow_add] at whole
  rw [← Nat.div_div_eq_div_mul, Nat.le_div_iff_mul_le (Nat.two_pow_pos _), implicitBit_eq]
  exact whole

/-! ## Ranks -/

/-- The ranks of a number of dropped bits end where those of one more begin. -/
theorem nearestRank_le (numerator denominator : Nat) :
    nearestRank numerator denominator ≤
      (droppedBits numerator denominator + 2) * implicitBit := by
  have kept := kept_lt numerator denominator
  have rounded := roundQuotient_le numerator
    (denominator * 2 ^ droppedBits numerator denominator)
  rw [nearestRank_eq, Nat.add_mul]
  omega

/-- The ranks of a number of dropped bits begin where those of one less end. -/
theorem le_nearestRank {numerator denominator : Nat}
    (some_bit : 0 < droppedBits numerator denominator) :
    (droppedBits numerator denominator + 1) * implicitBit ≤ nearestRank numerator denominator := by
  have kept := le_kept some_bit
  have rounded := le_roundQuotient numerator
    (denominator * 2 ^ droppedBits numerator denominator)
  rw [nearestRank_eq, Nat.add_mul]
  omega

/-- Rounding keeps the order of numerators. -/
theorem nearestRank_mono {left right : Nat} (denominator : Nat) (order : left ≤ right) :
    nearestRank left denominator ≤ nearestRank right denominator := by
  have bits := droppedBits_mono denominator order
  by_cases more : droppedBits left denominator < droppedBits right denominator
  · calc nearestRank left denominator
        ≤ (droppedBits left denominator + 2) * implicitBit := nearestRank_le left denominator
      _ ≤ (droppedBits right denominator + 1) * implicitBit :=
        Nat.mul_le_mul_right implicitBit (by omega)
      _ ≤ nearestRank right denominator := le_nearestRank (by omega)
  · have same : droppedBits left denominator = droppedBits right denominator := by omega
    rw [nearestRank_eq, nearestRank_eq, same]
    exact Nat.add_le_add_left (roundQuotient_mono _ order) _

/-! ## Magnitudes -/

/-- The units of the rank that a shift and a significand make up. The significand has its leading
bit unless nothing is shifted. -/
theorem units_significand {significand : Nat} (shift : Nat) (bound : significand < 2 * implicitBit)
    (leading : shift = 0 ∨ implicitBit ≤ significand) :
    units (shift * implicitBit + significand) = significand * 2 ^ shift := by
  have base : 0 < implicitBit := by decide
  by_cases low : significand < implicitBit
  · have none : shift = 0 := by omega
    rw [none, Nat.zero_mul, Nat.zero_add, units, if_pos low, Nat.pow_zero, Nat.mul_one]
  · have split : shift * implicitBit + significand =
        (significand - implicitBit) + implicitBit * (shift + 1) := by
      rw [Nat.mul_comm implicitBit, Nat.add_mul]
      omega
    have fraction : significand - implicitBit < implicitBit := by omega
    rw [split, units_of_le (Nat.le_trans (Nat.le_mul_of_pos_right _ (Nat.succ_pos shift))
        (Nat.le_add_left _ _)),
      Nat.add_mul_mod_self_left, Nat.add_mul_div_left _ _ base, Nat.mod_eq_of_lt fraction,
      Nat.div_eq_of_lt fraction, show 0 + (shift + 1) - 1 = shift by omega,
      show implicitBit + (significand - implicitBit) = significand by omega]

/-- A number of units whose dropped bits are zero is the magnitude of the rank nearest to it. -/
theorem units_nearestRank {count : Nat} (whole : 2 ^ droppedBits count 1 ∣ count) :
    units (nearestRank count 1) = count := by
  obtain ⟨significand, parts⟩ := whole
  have kept : count / (1 * 2 ^ droppedBits count 1) = significand := by
    rw [Nat.one_mul]
    exact Nat.div_eq_of_eq_mul_right (Nat.two_pow_pos _) parts
  have rounded : roundQuotient count (1 * 2 ^ droppedBits count 1) = significand := by
    have multiple := roundQuotient_multiple significand (2 ^ droppedBits count 1)
      (Nat.two_pow_pos _)
    rw [Nat.mul_comm, ← parts] at multiple
    rw [Nat.one_mul]
    exact multiple
  have bound := kept_lt count 1
  rw [kept] at bound
  have leading : droppedBits count 1 = 0 ∨ implicitBit ≤ significand := by
    by_cases none : droppedBits count 1 = 0
    · exact .inl none
    · have least := le_kept (Nat.pos_of_ne_zero none)
      rw [kept] at least
      exact .inr least
  rw [nearestRank_eq, rounded, units_significand _ bound leading, Nat.mul_comm]
  exact parts.symm

end Reckoner.Binary64
