import Reckoner.Proofs.Number.Rounding

/-!
# The sign of zero

Sums, differences, products and quotients by a divisor that is not zero do not depend on the signs
of zero operands, but for the sign of a zero result. So the sign of zero, once it is dropped, is
lost to nothing that follows.
-/

namespace Reckoner.Binary64

/-- A number with the sign of a zero made positive. -/
def unsignZero : Binary64 → Binary64
  | .finite negative rank => .finite (negative && rank.val != 0) rank
  | other => other

/-- A number that is not zero keeps its sign. -/
theorem unsignZero_of_ne {negative : Bool} {rank : Fin ceiling} (nonzero : rank.val ≠ 0) :
    unsignZero (.finite negative rank) = .finite negative rank := by
  rw [unsignZero, bne_iff_ne.mpr nonzero, Bool.and_true]

/-- The zeros become one. -/
theorem unsignZero_of_zero {negative : Bool} {rank : Fin ceiling} (none : rank.val = 0) :
    unsignZero (.finite negative rank) = .finite false rank := by
  rw [unsignZero, none]
  cases negative <;> rfl

/-- Making zero positive twice is making it positive. -/
theorem unsignZero_unsignZero (value : Binary64) :
    value.unsignZero.unsignZero = value.unsignZero := by
  cases value with
  | finite negative rank => simp only [unsignZero, Bool.and_assoc, Bool.and_self]
  | infinite negative => rfl
  | nan => rfl

/-- A number is zero whatever its sign. -/
theorem isZero_unsignZero (value : Binary64) : value.unsignZero.isZero = value.isZero := by
  cases value <;> rfl

/-- A number is finite whatever its sign. -/
theorem isFinite_unsignZero (value : Binary64) : value.unsignZero.isFinite = value.isFinite := by
  cases value <;> rfl

/-- A number that is not finite keeps its sign. -/
theorem unsignZero_of_not_finite {value : Binary64} (unbounded : value.isFinite = false) :
    value.unsignZero = value := by
  cases value with
  | finite negative rank => cases unbounded
  | infinite negative => rfl
  | nan => rfl

/-- Numbers that agree but for the sign of zero are equal or both zero. -/
theorem eq_or_isZero_of_unsignZero {left right : Binary64}
    (alike : left.unsignZero = right.unsignZero) :
    left = right ∨ (left.isZero = true ∧ right.isZero = true) := by
  cases zero : left.isZero with
  | true =>
    rw [← isZero_unsignZero, alike, isZero_unsignZero] at zero
    exact .inr ⟨rfl, zero⟩
  | false =>
    have keeps : ∀ value : Binary64, value.isZero = false → value.unsignZero = value := by
      intro value nonzero
      cases value with
      | finite negative rank => exact unsignZero_of_ne (by simpa [isZero] using nonzero)
      | infinite negative => rfl
      | nan => rfl
    have other : right.isZero = false := by
      rw [← isZero_unsignZero, ← alike, isZero_unsignZero, zero]
    rw [keeps left zero, keeps right other] at alike
    exact .inl alike

/-! ## Rounding -/

/-- The sign of a number of no units is lost. -/
theorem unsignZero_round_zero (left right : Bool) (denominator : Nat)
    (positive : 0 < denominator) :
    (round left 0 denominator).unsignZero = (round right 0 denominator).unsignZero := by
  rw [round_zero left denominator positive, round_zero right denominator positive,
    unsignZero_of_zero rfl, unsignZero_of_zero rfl]

/-- The units of zero have no sign. -/
theorem signedUnits_unsigned (negative : Bool) (rank : Nat) :
    signedUnits (negative && rank != 0) rank = signedUnits negative rank := by
  by_cases zero : rank = 0
  · have none : units rank = 0 := (units_eq_zero_iff rank).mpr zero
    simp only [signedUnits, none]
    cases negative <;> simp
  · rw [bne_iff_ne.mpr zero, Bool.and_true]

/-- There are units in a magnitude other than zero. -/
theorem units_pos {rank : Nat} (nonzero : rank ≠ 0) : 0 < units rank :=
  Nat.pos_of_ne_zero fun none => nonzero ((units_eq_zero_iff rank).mp none)

/-! ## The operations -/

/-- A sum does not depend on the signs of zero terms. -/
theorem add_unsignZero (left right : Binary64) :
    (left.unsignZero.add right.unsignZero).unsignZero = (left.add right).unsignZero := by
  cases left with
  | nan => rfl
  | infinite leftSign => cases right <;> rfl
  | finite leftSign leftRank =>
    cases right with
    | nan => rfl
    | infinite rightSign => rfl
    | finite rightSign rightRank =>
      simp only [unsignZero.eq_1 leftSign, unsignZero.eq_1 rightSign, add, signedUnits_unsigned]
      by_cases none : signedUnits leftSign leftRank + signedUnits rightSign rightRank = 0
      · simp only [none, Int.natAbs_zero]
        exact unsignZero_round_zero _ _ 1 Nat.one_pos
      · rw [if_neg none, if_neg none]

/-- The opposite number does not depend on the sign of a zero, but for the sign of zero. -/
theorem neg_unsignZero (value : Binary64) :
    value.unsignZero.neg.unsignZero = value.neg.unsignZero := by
  cases value with
  | nan => rfl
  | infinite negative => rfl
  | finite negative rank =>
    by_cases zero : rank.val = 0
    · rw [unsignZero_of_zero zero, neg, neg, unsignZero_of_zero zero, unsignZero_of_zero zero]
    · rw [unsignZero_of_ne zero]

/-- A difference does not depend on the signs of zero terms. -/
theorem sub_unsignZero (left right : Binary64) :
    (left.unsignZero.sub right.unsignZero).unsignZero = (left.sub right).unsignZero := by
  rw [sub, sub, ← add_unsignZero, unsignZero_unsignZero, neg_unsignZero, add_unsignZero]

/-- A product does not depend on the signs of zero factors. -/
theorem mul_unsignZero (left right : Binary64) :
    (left.unsignZero.mul right.unsignZero).unsignZero = (left.mul right).unsignZero := by
  cases left with
  | nan => rfl
  | infinite leftSign =>
    cases right with
    | nan => rfl
    | infinite rightSign => rfl
    | finite rightSign rightRank =>
      by_cases zero : rightRank.val = 0
      · simp only [unsignZero, mul, zero, if_true]
      · rw [unsignZero_of_ne zero]
        rfl
  | finite leftSign leftRank =>
    cases right with
    | nan => rfl
    | infinite rightSign =>
      by_cases zero : leftRank.val = 0
      · simp only [unsignZero, mul, zero, if_true]
      · rw [unsignZero_of_ne zero]
        rfl
    | finite rightSign rightRank =>
      by_cases leftZero : leftRank.val = 0
      · simp only [unsignZero.eq_1 leftSign, unsignZero.eq_1 rightSign, mul,
          (units_eq_zero_iff leftRank).mpr leftZero, Nat.zero_mul]
        exact unsignZero_round_zero _ _ scale scale_pos
      by_cases rightZero : rightRank.val = 0
      · simp only [unsignZero.eq_1 leftSign, unsignZero.eq_1 rightSign, mul,
          (units_eq_zero_iff rightRank).mpr rightZero, Nat.mul_zero]
        exact unsignZero_round_zero _ _ scale scale_pos
      · rw [unsignZero_of_ne leftZero, unsignZero_of_ne rightZero]

/-- A quotient by a divisor that is not zero does not depend on the sign of a zero. -/
theorem div_unsignZero (left right : Binary64) (nonzero : right.isZero = false) :
    (left.unsignZero.div right.unsignZero).unsignZero = (left.div right).unsignZero := by
  cases right with
  | nan => cases left <;> rfl
  | infinite rightSign =>
    cases left with
    | nan => rfl
    | infinite leftSign => rfl
    | finite leftSign leftRank =>
      have zero (sign : Bool) : ofRank sign 0 = .finite sign ⟨0, by decide⟩ := rfl
      simp only [unsignZero.eq_1 leftSign, unsignZero.eq_2, div, zero]
      rw [unsignZero_of_zero rfl, unsignZero_of_zero rfl]
  | finite rightSign rightRank =>
    have divisor : rightRank.val ≠ 0 := by simpa [isZero] using nonzero
    rw [unsignZero_of_ne divisor]
    cases left with
    | nan => rfl
    | infinite leftSign => rfl
    | finite leftSign leftRank =>
      by_cases leftZero : leftRank.val = 0
      · simp only [unsignZero.eq_1 leftSign, div, if_neg divisor,
          (units_eq_zero_iff leftRank).mpr leftZero, Nat.zero_mul]
        exact unsignZero_round_zero _ _ _ (units_pos divisor)
      · rw [unsignZero_of_ne leftZero]

/-- Zero less a magnitude is the number of that magnitude with a minus, unless it is zero. -/
theorem zero_sub (rank : Fin ceiling) :
    zero.sub (.finite false rank) = unsignZero (.finite true rank) := by
  have none : signedUnits false 0 = 0 := rfl
  have below : signedUnits true rank = -(units rank : Int) := rfl
  simp only [sub, neg, zero, add, Bool.not_false, none, below, Int.zero_add, Int.natAbs_neg,
    Int.natAbs_natCast]
  by_cases nothing : rank.val = 0
  · have no_units : units rank = 0 := (units_eq_zero_iff rank).mpr nothing
    rw [unsignZero_of_zero nothing, no_units, if_pos (by rfl), Bool.false_and,
      round_zero false 1 Nat.one_pos]
    exact congrArg (finite false) (Fin.ext nothing.symm)
  · have some_unit : 0 < units rank := units_pos nothing
    rw [unsignZero_of_ne nothing, if_neg (by omega), decide_eq_true (by omega), round_units]

end Reckoner.Binary64
