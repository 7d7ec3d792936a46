import Mathlib.Algebra.Order.Field.Basic
import Mathlib.Algebra.Order.Field.Rat
import Mathlib.Algebra.Order.Ring.Abs
import Mathlib.Tactic.Linarith
import Mathlib.Tactic.Ring
import Reckoner.Number.Decimal
import Reckoner.Proofs.Number.Order

/-!
# The number nearest to a value

The rank that a quotient of units is rounded to is that of a magnitude to which no other is nearer,
and an even one where another is as near (`nearestRank_nearest`). A quotient is beyond all finite
magnitudes from half a step after the greatest one on (`nearestRank_lt_ceiling_iff`). So a decimal is
read as the finite number nearest to its value, or as an infinity when there is none
(`Decimal.toBinary64_fraction`).
-/

namespace Reckoner.Binary64

/-! ## Halves -/

section

variable {numerator denominator : Nat}

/-- Twice a quotient is at most one away from twice the natural number that it rounds to, and that
number is even where it is just one away. -/
theorem roundQuotient_half (positive : 0 < denominator) :
    let rounded := roundQuotient numerator denominator
    2 * (rounded * denominator) ≤ 2 * numerator + denominator ∧
      2 * numerator ≤ 2 * (rounded * denominator) + denominator ∧
      (2 * (rounded * denominator) = 2 * numerator + denominator ∨
        2 * numerator = 2 * (rounded * denominator) + denominator → rounded % 2 = 0) := by
  intro rounded
  have parts := Nat.div_add_mod' numerator denominator
  have rest := Nat.mod_lt numerator positive
  have next : (numerator / denominator + 1) * denominator =
      numerator / denominator * denominator + denominator := Nat.succ_mul _ _
  by_cases down : 2 * (numerator % denominator) < denominator ∨
      (2 * (numerator % denominator) = denominator ∧ numerator / denominator % 2 = 0)
  · have below : rounded = numerator / denominator := if_pos down
    rw [below]
    generalize numerator / denominator * denominator = whole at *
    omega
  · have above : rounded = numerator / denominator + 1 := if_neg down
    rw [above, next]
    generalize numerator / denominator * denominator = whole at *
    omega

/-- A quotient rounds to zero exactly when it is no more than a half. -/
theorem roundQuotient_eq_zero_iff (positive : 0 < denominator) :
    roundQuotient numerator denominator = 0 ↔ 2 * numerator ≤ denominator := by
  obtain ⟨above, below, tie⟩ := @roundQuotient_half numerator _ positive
  constructor
  · intro zero
    rw [zero, Nat.zero_mul] at below
    omega
  · intro small
    by_contra nonzero
    have least : 1 * denominator ≤ roundQuotient numerator denominator * denominator :=
      Nat.mul_le_mul_right denominator (Nat.pos_of_ne_zero nonzero)
    have one : roundQuotient numerator denominator * denominator = 1 * denominator := by omega
    have same := Nat.eq_of_mul_eq_mul_right positive one
    have even := tie (.inl (by omega))
    omega

/-- A quotient rounds below an even number exactly when it is less than the number by more than a
half. -/
theorem roundQuotient_lt_iff (positive : 0 < denominator) {bound : Nat} (even : bound % 2 = 0) :
    roundQuotient numerator denominator < bound ↔
      2 * numerator + denominator < 2 * (bound * denominator) := by
  obtain ⟨above, below, tie⟩ := @roundQuotient_half numerator _ positive
  constructor
  · intro less
    have room : (roundQuotient numerator denominator + 1) * denominator ≤ bound * denominator :=
      Nat.mul_le_mul_right denominator less
    rw [Nat.add_mul, Nat.one_mul] at room
    by_contra reached
    -- No room is left only where the half is reached, but the number below an even one is odd.
    have full : roundQuotient numerator denominator * denominator + denominator =
        bound * denominator := by omega
    have last : (roundQuotient numerator denominator + 1) * denominator = bound * denominator := by
      rw [Nat.add_mul, Nat.one_mul, full]
    have odd := Nat.eq_of_mul_eq_mul_right positive last
    have half := tie (.inr (by omega))
    omega
  · intro less
    by_contra reached
    have most : bound * denominator ≤ roundQuotient numerator denominator * denominator :=
      Nat.mul_le_mul_right denominator (Nat.le_of_not_lt reached)
    omega

/-! ## The steps of magnitudes -/

/-- A shift and a significand make up the magnitude of their rank also when the significand is that
of the next shift. -/
theorem units_significand_le {significand : Nat} (shift : Nat)
    (bound : significand ≤ 2 * implicitBit) (leading : shift = 0 ∨ implicitBit ≤ significand) :
    units (shift * implicitBit + significand) = significand * 2 ^ shift := by
  by_cases inside : significand < 2 * implicitBit
  · exact units_significand shift inside leading
  · have full : significand = 2 * implicitBit := by omega
    have carried : shift * implicitBit + significand =
        (shift + 1) * implicitBit + implicitBit := by
      rw [full, Nat.add_mul]
      omega
    have base : implicitBit < 2 * implicitBit := by decide
    rw [carried, units_significand (shift + 1) base (.inr (Nat.le_refl _)), full, Nat.pow_succ,
      Nat.mul_comm 2, Nat.mul_assoc, Nat.mul_comm 2]

/-- The magnitude of the rank that a quotient rounds to is the rounded quotient of what is kept. -/
theorem units_nearestRank_eq (numerator denominator : Nat) :
    units (nearestRank numerator denominator) =
      roundQuotient numerator (denominator * 2 ^ droppedBits numerator denominator) *
        2 ^ droppedBits numerator denominator := by
  have kept := kept_lt numerator denominator
  have most := roundQuotient_le numerator (denominator * 2 ^ droppedBits numerator denominator)
  have least := le_roundQuotient numerator (denominator * 2 ^ droppedBits numerator denominator)
  rw [nearestRank_eq]
  apply units_significand_le
  · omega
  · by_cases none : droppedBits numerator denominator = 0
    · exact .inl none
    · exact .inr (Nat.le_trans (le_kept (Nat.pos_of_ne_zero none)) least)

/-- A magnitude is a multiple of a power of two, or less than all significands times that power. -/
theorem dvd_units_or_lt (dropped rank : Nat) :
    2 ^ dropped ∣ units rank ∨ (0 < dropped ∧ units rank < implicitBit * 2 ^ dropped) := by
  by_cases none : dropped = 0
  · rw [none, Nat.pow_zero]
    exact .inl (Nat.one_dvd _)
  have some_bit : 0 < dropped := Nat.pos_of_ne_zero none
  by_cases small : rank < implicitBit
  · rw [units, if_pos small]
    exact .inr ⟨some_bit, Nat.lt_of_lt_of_le small (Nat.le_mul_of_pos_right _ (Nat.two_pow_pos _))⟩
  rw [units_of_le (Nat.le_of_not_lt small)]
  by_cases coarse : dropped ≤ rank / implicitBit - 1
  · exact .inl (Nat.dvd_trans (Nat.pow_dvd_pow 2 coarse) (Nat.dvd_mul_left _ _))
  · have fraction := Nat.mod_lt rank (by decide : 0 < implicitBit)
    have power : 2 ^ (rank / implicitBit - 1 + 1) ≤ 2 ^ dropped :=
      Nat.pow_le_pow_right (by decide) (by omega)
    refine .inr ⟨some_bit, ?_⟩
    calc (implicitBit + rank % implicitBit) * 2 ^ (rank / implicitBit - 1)
        < (2 * implicitBit) * 2 ^ (rank / implicitBit - 1) :=
          Nat.mul_lt_mul_of_pos_right (by omega) (Nat.two_pow_pos _)
      _ = implicitBit * 2 ^ (rank / implicitBit - 1 + 1) := by
          rw [Nat.pow_succ, Nat.mul_comm 2, Nat.mul_assoc, Nat.mul_comm 2]
      _ ≤ implicitBit * 2 ^ dropped := Nat.mul_le_mul_left implicitBit power

/-! ## Distances -/

/-- A value that is within a half step of one number is no nearer to a number a step away, and as
near only at the half. -/
theorem near_of_apart {value here there half : ℚ} (close : |value - here| ≤ half)
    (apart : 2 * half ≤ |there - here|) :
    |value - here| ≤ |value - there| ∧
      (|value - here| = |value - there| → |value - here| = half) := by
  have way : |there - here| ≤ |value - there| + |value - here| := by
    have path : there - here = (value - here) - (value - there) := by ring
    rw [path, add_comm]
    exact abs_sub _ _
  constructor
  · linarith
  · intro same
    linarith

/-- Twice the distance of a quotient from a number, in parts of the denominator. -/
theorem sub_mul_denominator (positive : 0 < denominator) (number : ℚ) :
    2 * ((numerator / denominator : ℚ) - number) * denominator =
      2 * numerator - 2 * (number * denominator) := by
  have whole : (numerator / denominator : ℚ) * denominator = numerator :=
    div_mul_cancel₀ _ (ne_of_gt (Nat.cast_pos.mpr positive))
  rw [mul_assoc, sub_mul, whole]
  ring

/-- A quotient is within half a step of the magnitude of its nearest rank, and the rank is even
where it is just half a step away. -/
theorem abs_sub_units_nearestRank (positive : 0 < denominator) :
    |(numerator / denominator : ℚ) - units (nearestRank numerator denominator)| ≤
        2 ^ droppedBits numerator denominator / 2 ∧
      (|(numerator / denominator : ℚ) - units (nearestRank numerator denominator)| =
          2 ^ droppedBits numerator denominator / 2 →
        nearestRank numerator denominator % 2 = 0) := by
  have kept : 0 < denominator * 2 ^ droppedBits numerator denominator :=
    Nat.mul_pos positive (Nat.two_pow_pos _)
  obtain ⟨above, below, tie⟩ := @roundQuotient_half numerator _ kept
  have parity : nearestRank numerator denominator % 2 =
      roundQuotient numerator (denominator * 2 ^ droppedBits numerator denominator) % 2 := by
    rw [nearestRank_eq, implicitBit]
    omega
  rw [parity, units_nearestRank_eq, Nat.cast_mul, Nat.cast_pow, Nat.cast_ofNat]
  generalize roundQuotient numerator _ = rounded at *
  generalize droppedBits numerator denominator = dropped at *
  -- All sides are compared after they were multiplied by the denominator.
  have some_part : (0 : ℚ) < denominator := Nat.cast_pos.mpr positive
  have parts := @sub_mul_denominator numerator _ positive (rounded * 2 ^ dropped : ℚ)
  have least : (2 * (rounded * (denominator * 2 ^ dropped)) : ℚ) ≤
      2 * numerator + denominator * 2 ^ dropped := by exact_mod_cast above
  have most : (2 * numerator : ℚ) ≤
      2 * (rounded * (denominator * 2 ^ dropped)) + denominator * 2 ^ dropped := by
    exact_mod_cast below
  generalize (numerator / denominator : ℚ) - rounded * 2 ^ dropped = distance at *
  have lower : -(2 ^ dropped / 2) ≤ distance := by
    refine le_of_mul_le_mul_right ?_ some_part
    linarith
  have upper : distance ≤ 2 ^ dropped / 2 := by
    refine le_of_mul_le_mul_right ?_ some_part
    linarith
  refine ⟨abs_le.mpr ⟨lower, upper⟩, fun reached => tie ?_⟩
  rcases eq_or_eq_neg_of_abs_eq reached with beyond | before
  · rw [beyond] at parts
    have equal : (2 * numerator : ℚ) =
        2 * (rounded * (denominator * 2 ^ dropped)) + denominator * 2 ^ dropped := by linarith
    exact .inr (by exact_mod_cast equal)
  · rw [before] at parts
    have equal : (2 * (rounded * (denominator * 2 ^ dropped)) : ℚ) =
        2 * numerator + denominator * 2 ^ dropped := by linarith
    exact .inl (by exact_mod_cast equal)

/-- Two multiples of a step are a step apart. -/
theorem step_le_abs_sub {left right : Nat} (distinct : left ≠ right) (shift : Nat) :
    2 * ((2 : ℚ) ^ shift / 2) ≤ |(left : ℚ) * 2 ^ shift - right * 2 ^ shift| := by
  have apart : 1 ≤ |(left : ℤ) - right| :=
    Int.one_le_abs (sub_ne_zero.mpr fun same => distinct (Nat.cast_injective same))
  have cast : (1 : ℚ) ≤ |(left : ℚ) - right| := by exact_mod_cast apart
  have power : (0 : ℚ) ≤ 2 ^ shift := pow_nonneg zero_le_two shift
  rw [← sub_mul, abs_mul, abs_of_nonneg power]
  calc 2 * ((2 : ℚ) ^ shift / 2) = 1 * 2 ^ shift := by ring
    _ ≤ |(left : ℚ) - right| * 2 ^ shift := mul_le_mul_of_nonneg_right cast power

/-- A magnitude that the kept bits cannot write is farther from a quotient than the magnitude of
its nearest rank. -/
theorem farther_of_lt (positive : 0 < denominator) {other : Nat}
    (some_bit : 0 < droppedBits numerator denominator)
    (low : units other < implicitBit * 2 ^ droppedBits numerator denominator) :
    |(numerator / denominator : ℚ) - units (nearestRank numerator denominator)| <
      |(numerator / denominator : ℚ) - units other| := by
  obtain ⟨close, -⟩ := @abs_sub_units_nearestRank numerator _ positive
  have kept := le_kept some_bit
  rw [Nat.le_div_iff_mul_le (Nat.mul_pos positive (Nat.two_pow_pos _))] at kept
  rw [units_nearestRank_eq, Nat.cast_mul, Nat.cast_pow, Nat.cast_ofNat] at close ⊢
  generalize roundQuotient numerator _ = rounded at *
  generalize droppedBits numerator denominator = dropped at *
  -- The least significand of the kept bits lies between the magnitude and the quotient.
  have reached : (implicitBit * 2 ^ dropped : ℚ) ≤ numerator / denominator := by
    rw [le_div_iff₀ (Nat.cast_pos.mpr positive)]
    have cast : (implicitBit * (denominator * 2 ^ dropped) : ℚ) ≤ numerator := by
      exact_mod_cast kept
    linarith
  have below : (units other : ℚ) < implicitBit * 2 ^ dropped := by exact_mod_cast low
  have near : |(numerator / denominator : ℚ) - rounded * 2 ^ dropped| ≤
      |(numerator / denominator : ℚ) - implicitBit * 2 ^ dropped| := by
    by_cases least : implicitBit = rounded
    · rw [least]
    · exact (near_of_apart close (step_le_abs_sub least dropped)).1
  rw [abs_of_nonneg (sub_nonneg.mpr reached)] at near
  rw [abs_of_nonneg (sub_nonneg.mpr (le_of_lt (lt_of_lt_of_le below reached)))]
  linarith

/-- No magnitude is nearer to a quotient than that of its nearest rank, and where another is as
near, the rank is even. -/
theorem nearestRank_nearest (positive : 0 < denominator) (other : Nat) :
    let value : ℚ := numerator / denominator
    let here : ℚ := units (nearestRank numerator denominator)
    |value - here| ≤ |value - units other| ∧
      (|value - here| = |value - units other| →
        (units other : ℚ) = here ∨ nearestRank numerator denominator % 2 = 0) := by
  intro value here
  obtain ⟨close, tie⟩ := @abs_sub_units_nearestRank numerator _ positive
  rcases dvd_units_or_lt (droppedBits numerator denominator) other with
    ⟨factor, multiple⟩ | ⟨some_bit, low⟩
  · by_cases same : (units other : ℚ) = here
    · rw [same]
      exact ⟨le_refl _, fun _ => .inl rfl⟩
    · have magnitude := units_nearestRank_eq numerator denominator
      have distinct : factor ≠
          roundQuotient numerator (denominator * 2 ^ droppedBits numerator denominator) := by
        intro equal
        rw [← equal, Nat.mul_comm, ← multiple] at magnitude
        exact same (congrArg Nat.cast magnitude.symm)
      have apart := step_le_abs_sub distinct (droppedBits numerator denominator)
      have cast : (units other : ℚ) = factor * 2 ^ droppedBits numerator denominator := by
        rw [multiple, Nat.mul_comm, Nat.cast_mul, Nat.cast_pow, Nat.cast_ofNat]
      have center : here =
          roundQuotient numerator (denominator * 2 ^ droppedBits numerator denominator) *
            2 ^ droppedBits numerator denominator := by
        show (units (nearestRank numerator denominator) : ℚ) = _
        rw [magnitude, Nat.cast_mul, Nat.cast_pow, Nat.cast_ofNat]
      rw [← cast, ← center] at apart
      obtain ⟨near, half⟩ := near_of_apart close apart
      exact ⟨near, fun equal => .inr (tie (half equal))⟩
  · have farther := farther_of_lt positive some_bit low
    exact ⟨le_of_lt farther, fun same => absurd same (ne_of_lt farther)⟩

/-! ## The ends of the finite magnitudes -/

/-- A quotient has rank zero exactly when it is no more than half a unit. -/
theorem nearestRank_eq_zero_iff (positive : 0 < denominator) :
    nearestRank numerator denominator = 0 ↔ 2 * numerator ≤ denominator := by
  have half := @roundQuotient_eq_zero_iff numerator _ positive
  by_cases none : droppedBits numerator denominator = 0
  · rw [nearestRank_eq, none, Nat.pow_zero, Nat.mul_one, Nat.zero_mul, Nat.zero_add]
    exact half
  · have some_bit := Nat.pos_of_ne_zero none
    have least := le_nearestRank some_bit
    have whole : denominator ≤ numerator := by
      by_contra less
      rw [droppedBits, Nat.div_eq_of_lt (Nat.lt_of_not_le less)] at some_bit
      exact absurd some_bit (by decide)
    have base : 0 < implicitBit := by decide
    have more : 1 * implicitBit ≤ (droppedBits numerator denominator + 1) * implicitBit :=
      Nat.mul_le_mul_right implicitBit (by omega)
    omega

/-- A quotient that drops no more than so many bits is less than a significand too many, shifted by
them. -/
theorem lt_of_droppedBits_le (positive : 0 < denominator) {shift : Nat}
    (fewer : droppedBits numerator denominator ≤ shift) :
    numerator < 2 * implicitBit * (denominator * 2 ^ shift) := by
  have kept := kept_lt numerator denominator
  rw [Nat.div_lt_iff_lt_mul (Nat.mul_pos positive (Nat.two_pow_pos _))] at kept
  have power : 2 ^ droppedBits numerator denominator ≤ 2 ^ shift :=
    Nat.pow_le_pow_right two_pos fewer
  exact Nat.lt_of_lt_of_le kept
    (Nat.mul_le_mul_left (2 * implicitBit) (Nat.mul_le_mul_left denominator power))

/-- A quotient that drops at least so many bits is at least the first significand, shifted by
them. -/
theorem le_of_le_droppedBits (positive : 0 < denominator) {shift : Nat} (some_bit : 0 < shift)
    (more : shift ≤ droppedBits numerator denominator) :
    implicitBit * (denominator * 2 ^ shift) ≤ numerator := by
  have kept := le_kept (Nat.lt_of_lt_of_le some_bit more)
  rw [Nat.le_div_iff_mul_le (Nat.mul_pos positive (Nat.two_pow_pos _))] at kept
  have power : 2 ^ shift ≤ 2 ^ droppedBits numerator denominator :=
    Nat.pow_le_pow_right two_pos more
  exact Nat.le_trans
    (Nat.mul_le_mul_left implicitBit (Nat.mul_le_mul_left denominator power)) kept

/-- More shifted bits are a factor. -/
theorem mul_two_pow_add (factor shift more : Nat) :
    factor * 2 ^ (shift + more) = 2 ^ more * (factor * 2 ^ shift) := by
  rw [Nat.pow_add, ← Nat.mul_assoc, Nat.mul_comm]

/-- A quotient has a rank in front of those of a shift exactly when it is less than their first
magnitude by more than half a step. -/
theorem nearestRank_lt_iff (positive : 0 < denominator) (shift : Nat) :
    nearestRank numerator denominator < (shift + 3) * implicitBit ↔
      numerator < (4 * implicitBit - 1) * (denominator * 2 ^ shift) := by
  have rank := nearestRank_eq numerator denominator
  have most := nearestRank_le numerator denominator
  -- The magnitudes in front of the shift that end at it drop one bit more than are shifted.
  rcases Nat.lt_trichotomy (droppedBits numerator denominator) (shift + 1) with fewer | just | more
  · have less := lt_of_droppedBits_le positive (Nat.le_of_lt_succ fewer)
    have steps : (droppedBits numerator denominator + 2) * implicitBit ≤
        (shift + 2) * implicitBit := Nat.mul_le_mul_right implicitBit (Nat.succ_le_succ fewer)
    generalize denominator * 2 ^ shift = part at *
    rw [implicitBit] at *
    omega
  · have rounded := @roundQuotient_lt_iff numerator _
      (Nat.mul_pos positive (Nat.two_pow_pos (shift + 1))) (2 * implicitBit) (by decide)
    rw [just, mul_two_pow_add] at rank
    rw [mul_two_pow_add] at rounded
    generalize denominator * 2 ^ shift = part at *
    generalize roundQuotient numerator (2 ^ 1 * part) = significand at *
    rw [implicitBit] at *
    omega
  · have reached := le_of_le_droppedBits positive (Nat.succ_pos _) more
    have steps : (shift + 3) * implicitBit ≤
        (droppedBits numerator denominator + 1) * implicitBit :=
      Nat.mul_le_mul_right implicitBit (Nat.succ_le_succ more)
    have begun := @le_nearestRank numerator denominator (Nat.lt_of_lt_of_le (Nat.succ_pos _) more)
    rw [Nat.succ_eq_add_one, Nat.add_assoc, mul_two_pow_add] at reached
    generalize denominator * 2 ^ shift = part at *
    rw [implicitBit] at *
    omega

/-- The units that are half a step more than those of the greatest finite magnitude. -/
def overflow : Nat := (2 ^ 54 - 1) * 2 ^ 2044

/-- A quotient has a finite rank exactly when it is less than half a step beyond the greatest finite
magnitude. -/
theorem nearestRank_lt_ceiling_iff (positive : 0 < denominator) :
    nearestRank numerator denominator < ceiling ↔ numerator < overflow * denominator := by
  have base : 2 ^ 54 - 1 = 4 * implicitBit - 1 := by decide
  have last : ceiling = (2044 + 3) * implicitBit := by decide
  rw [last, nearestRank_lt_iff positive, overflow, base, Nat.mul_assoc, Nat.mul_comm denominator]

/-! ## Values -/

/-- The value of a finite number. -/
def rational? : Binary64 → Option ℚ
  | .finite negative rank => some (signedUnits negative rank / scale)
  | _ => none

/-- The last bit of the significand of a finite number is zero. -/
def isEven : Binary64 → Bool
  | .finite _ rank => rank.val % 2 == 0
  | _ => false

/-- A finite number is nearest to a value: no other finite number is nearer, and where another is as
near, the number is the even one. -/
def IsNearest (number : Binary64) (value : ℚ) : Prop :=
  ∃ here, number.rational? = some here ∧
    ∀ (other : Binary64) (there : ℚ), other.rational? = some there →
      |value - here| ≤ |value - there| ∧
        (|value - here| = |value - there| → there = here ∨ number.isEven = true)

/-- Neither magnitude nor its opposite is nearer to a quotient than the magnitude of its nearest
rank, and where one of them is as near, the rank is even. -/
theorem nearestRank_nearest_signed (positive : 0 < denominator) (negative : Bool) (other : Nat) :
    let value : ℚ := numerator / denominator
    let here : ℚ := units (nearestRank numerator denominator)
    |value - here| ≤ |value - signedUnits negative other| ∧
      (|value - here| = |value - signedUnits negative other| →
        (signedUnits negative other : ℚ) = here ∨ nearestRank numerator denominator % 2 = 0) := by
  intro value here
  cases negative with
  | false => exact nearestRank_nearest positive other
  | true =>
    -- Zero is at least as near as anything below it.
    obtain ⟨near, tie⟩ := @nearestRank_nearest numerator denominator positive 0
    have quotient : 0 ≤ value := div_nonneg (Nat.cast_nonneg _) (Nat.cast_nonneg _)
    have magnitude : (0 : ℚ) ≤ units other := Nat.cast_nonneg _
    have zero : ((units 0 : Nat) : ℚ) = 0 := Nat.cast_zero
    have opposite : (signedUnits true other : ℚ) = -units other := Int.cast_neg _
    rw [zero, sub_zero, abs_of_nonneg quotient] at near tie
    rw [opposite, sub_neg_eq_add, abs_of_nonneg (add_nonneg quotient magnitude)]
    refine ⟨by linarith, fun same => ?_⟩
    have none : (units other : ℚ) = 0 := by linarith
    rw [none, neg_zero]
    exact tie (by linarith)

/-- The number of the nearest rank of a quotient of units is nearest to the value of the
quotient. -/
theorem isNearest_finite (positive : 0 < denominator)
    (fits : nearestRank numerator denominator < ceiling) :
    IsNearest (.finite false ⟨nearestRank numerator denominator, fits⟩)
      (numerator / denominator / scale) := by
  have some_scale : (0 : ℚ) < scale := Nat.cast_pos.mpr scale_pos
  have scaled (left right : ℚ) : |left / scale - right / scale| = |left - right| / scale := by
    rw [← sub_div, abs_div, abs_of_pos some_scale]
  refine ⟨_, rfl, fun other there known => ?_⟩
  cases other with
  | finite negative rank =>
    cases known
    obtain ⟨near, tie⟩ := @nearestRank_nearest_signed numerator _ positive negative rank
    rw [scaled, scaled, div_le_div_iff_of_pos_right some_scale, div_left_inj' (ne_of_gt some_scale)]
    refine ⟨near, fun same => (tie same).imp (congrArg (· / (scale : ℚ))) fun even => ?_⟩
    exact beq_iff_eq.mpr even
  | infinite negative => cases known
  | nan => cases known

end

end Reckoner.Binary64

/-! ## Decimals -/

namespace Reckoner.Decimal

open Binary64 (ceiling nearestRank overflow scale scale_pos)

section

variable (digits places : Nat)

/-- The units of a decimal without a whole power of ten. -/
theorem units_fraction :
    numerator ⟨digits, 0 - (places : Int)⟩ = digits * scale ∧
      denominator ⟨digits, 0 - (places : Int)⟩ = 10 ^ places := by
  have whole : (0 - (places : Int)).toNat = 0 := by omega
  have part : (-(0 - (places : Int))).toNat = places := by omega
  constructor
  · rw [numerator, whole]
    show digits * 1 * scale = _
    rw [Nat.mul_one]
  · rw [denominator, part]
    rfl

/-- The quotient of the units is the value in units. -/
theorem units_div_scale :
    ((digits * scale : Nat) / (10 ^ places : Nat) / scale : ℚ) = digits / 10 ^ places := by
  have some_scale : (scale : ℚ) ≠ 0 := ne_of_gt (Nat.cast_pos.mpr scale_pos)
  rw [div_right_comm, Nat.cast_mul, mul_div_cancel_right₀ _ some_scale, Nat.cast_pow,
    Nat.cast_ofNat]

/-- Half a step of the greatest finite numbers in units. -/
theorem halfStep_units : 2 ^ 970 * scale = 2 ^ 2044 := by decide +kernel

/-- The value of half a step beyond the greatest finite number. -/
theorem overflow_div_scale : (overflow : ℚ) / scale = 2 ^ 1024 - 2 ^ 970 := by
  have some_scale : (scale : ℚ) ≠ 0 := ne_of_gt (Nat.cast_pos.mpr scale_pos)
  have last : ((2 ^ 54 - 1 : Nat) : ℚ) = 2 ^ 54 - 1 := by norm_num
  rw [overflow, ← halfStep_units, Nat.cast_mul, Nat.cast_mul, mul_div_assoc,
    mul_div_cancel_right₀ _ some_scale, last, Nat.cast_pow, Nat.cast_ofNat, sub_mul, one_mul,
    ← pow_add]

/-- A decimal is rounded to a finite number exactly when its value is less than half a step beyond
the greatest one. -/
theorem nearestRank_lt_ceiling_iff_value :
    nearestRank (digits * scale) (10 ^ places) < ceiling ↔
      (digits / 10 ^ places : ℚ) < 2 ^ 1024 - 2 ^ 970 := by
  have some_scale : (0 : ℚ) < scale := Nat.cast_pos.mpr scale_pos
  have some_part : (0 : ℚ) < 10 ^ places := pow_pos (by norm_num) places
  rw [Binary64.nearestRank_lt_ceiling_iff (Nat.pow_pos (by decide)), ← overflow_div_scale,
    div_lt_div_iff₀ some_part some_scale]
  exact_mod_cast Iff.rfl

/-- Two units make up a power of two. -/
theorem twice_scale : 2 * scale = 2 ^ 1075 := by decide +kernel

/-- A decimal is rounded to zero exactly when its value is no more than half a unit. -/
theorem nearestRank_eq_zero_iff_value :
    nearestRank (digits * scale) (10 ^ places) = 0 ↔
      (digits / 10 ^ places : ℚ) ≤ 1 / 2 ^ 1075 := by
  have some_part : (0 : ℚ) < 10 ^ places := pow_pos (by norm_num) places
  have some_power : (0 : ℚ) < 2 ^ 1075 := pow_pos two_pos 1075
  have product : 2 * (digits * scale) = digits * 2 ^ 1075 := by
    rw [← twice_scale, Nat.mul_left_comm]
  rw [Binary64.nearestRank_eq_zero_iff (Nat.pow_pos (by decide)), product,
    div_le_div_iff₀ some_part some_power, one_mul]
  exact_mod_cast Iff.rfl

/-- A decimal without a whole power of ten is rounded to the finite number nearest to its value, or
to an infinity when the value is too great. -/
theorem toBinary64_fraction :
    let value : ℚ := digits / 10 ^ places
    let number := toBinary64 false ⟨digits, 0 - (places : Int)⟩
    (value < 2 ^ 1024 - 2 ^ 970 → number.isInfinite = false ∧ number.IsNearest value ∧
        (number = .zero ↔ value ≤ 1 / 2 ^ 1075)) ∧
      (¬ value < 2 ^ 1024 - 2 ^ 970 → number.isInfinite = true) := by
  intro value number
  obtain ⟨numerator, denominator⟩ := units_fraction digits places
  have rounded : number = .ofRank false (nearestRank (digits * scale) (10 ^ places)) := by
    show toBinary64 false _ = _
    rw [toBinary64, rank, numerator, denominator]
  have positive : 0 < 10 ^ places := Nat.pow_pos (by decide)
  rw [rounded, Binary64.ofRank, ← nearestRank_lt_ceiling_iff_value digits places]
  constructor
  · intro fits
    have nearest := Binary64.isNearest_finite positive fits
    rw [units_div_scale] at nearest
    have zero := nearestRank_eq_zero_iff_value digits places
    rw [dif_pos fits]
    refine ⟨rfl, nearest, ?_⟩
    rw [← zero, Binary64.zero, Binary64.finite.injEq, Fin.mk.injEq]
    exact and_iff_right rfl
  · intro beyond
    rw [dif_neg beyond]
    rfl

end

end Reckoner.Decimal
