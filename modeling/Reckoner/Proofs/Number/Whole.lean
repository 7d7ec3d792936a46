import Reckoner.Proofs.Number.Order
import Reckoner.Proofs.Number.Plain

/-!
# Whole numbers

Every natural number up to 2⁵³ is a magnitude. So where operands are integers and the exact result
is an integer of such a magnitude, sums, differences and products are exact.
-/

namespace Reckoner.Binary64

open Integer (signed)

/-! ## The magnitudes -/

/-- How many units make one, with the exponent as a variable: a power of that size is not to be
computed. -/
theorem scale_power : ∃ shift, shift = 1074 ∧ scale = 2 ^ shift := by
  obtain ⟨shift, size⟩ : ∃ shift, shift = 1074 := ⟨1074, rfl⟩
  exact ⟨shift, size, by rw [scale, ← size, Nat.pow_eq]⟩

/-- A natural number up to 2⁵³, shifted, drops no more bits than one beyond the shift. -/
theorem droppedBits_shifted_le {count : Nat} (shift : Nat) (bound : count ≤ 2 ^ 53) :
    droppedBits (count * 2 ^ shift) 1 ≤ shift + 1 := by
  have most : count * 2 ^ shift ≤ 2 ^ (53 + shift) := by
    rw [Nat.pow_add]
    exact Nat.mul_le_mul_right _ bound
  have width : (count * 2 ^ shift).log2 ≤ 53 + shift := by
    have order := log2_mono most
    rw [Nat.log2_two_pow] at order
    exact order
  rw [droppedBits, Nat.div_one]
  omega

/-- The bits that a natural number up to 2⁵³, shifted, drops are zero. -/
theorem dropped_dvd_shifted {count : Nat} (shift : Nat) (bound : count ≤ 2 ^ 53) :
    2 ^ droppedBits (count * 2 ^ shift) 1 ∣ count * 2 ^ shift := by
  by_cases few : droppedBits (count * 2 ^ shift) 1 ≤ shift
  · exact Nat.dvd_trans (Nat.pow_dvd_pow 2 few) (Nat.dvd_mul_left _ count)
  · -- One bit more is dropped only from 2⁵³ itself.
    have dropped : droppedBits (count * 2 ^ shift) 1 = shift + 1 := by
      have most := droppedBits_shifted_le shift bound
      omega
    have width : 53 + shift ≤ (count * 2 ^ shift).log2 := by
      rw [droppedBits, Nat.div_one] at dropped
      omega
    have nonzero : count * 2 ^ shift ≠ 0 := by
      intro none
      rw [none, Nat.log2_zero] at width
      omega
    have least := (Nat.le_log2 nonzero).mp width
    rw [Nat.pow_add] at least
    have whole : count = 2 ^ 53 :=
      Nat.le_antisymm bound (Nat.le_of_mul_le_mul_right least (Nat.two_pow_pos shift))
    rw [dropped, whole, ← Nat.pow_add]
    exact Nat.pow_dvd_pow 2 (by omega)

/-- A natural number up to 2⁵³ is the magnitude of its rank. -/
theorem units_whole {count : Nat} (bound : count ≤ 2 ^ 53) :
    units (nearestRank (count * scale) 1) = count * scale := by
  obtain ⟨shift, -, power⟩ := scale_power
  rw [power]
  exact units_nearestRank (dropped_dvd_shifted shift bound)

/-- A natural number up to 2⁵³ is no more than the greatest finite magnitude. -/
theorem nearestRank_whole_lt {count : Nat} (bound : count ≤ 2 ^ 53) :
    nearestRank (count * scale) 1 < ceiling := by
  obtain ⟨shift, size, power⟩ := scale_power
  have dropped := droppedBits_shifted_le shift bound
  rw [← power] at dropped
  calc nearestRank (count * scale) 1
      ≤ (droppedBits (count * scale) 1 + 2) * implicitBit := nearestRank_le _ 1
    _ ≤ 1077 * implicitBit := Nat.mul_le_mul_right implicitBit (by omega)
    _ < ceiling := by decide

/-- Different natural numbers up to 2⁵³ have different ranks. -/
theorem whole_injective {left right : Nat} (leftBound : left ≤ 2 ^ 53) (rightBound : right ≤ 2 ^ 53)
    (same : nearestRank (left * scale) 1 = nearestRank (right * scale) 1) : left = right := by
  have units := units_whole leftBound
  rw [same, units_whole rightBound] at units
  exact (Nat.eq_of_mul_eq_mul_right scale_pos units).symm

/-! ## Signs -/

/-- A sign does not change the magnitude. -/
theorem natAbs_signed (negative : Bool) (magnitude : Nat) :
    (signed negative magnitude).natAbs = magnitude := by
  cases negative <;> simp [signed]

/-- An integer is its magnitude with its sign; either sign will do for zero. -/
theorem signed_natAbs {negative : Bool} {value : Int}
    (sign : value ≠ 0 → negative = decide (value < 0)) : signed negative value.natAbs = value := by
  by_cases zero : value = 0
  · rw [zero]
    cases negative <;> rfl
  · rw [sign zero, signed]
    by_cases below : value < 0
    · simp only [below, decide_true, if_true]
      omega
    · simp only [below, decide_false, Bool.false_eq_true, if_false]
      omega

/-- The opposite sign makes the opposite integer. -/
theorem signed_not (negative : Bool) (magnitude : Nat) :
    signed (!negative) magnitude = -signed negative magnitude := by
  cases negative <;> simp [signed]

/-- Equal signs make a positive product and different ones a negative product. -/
theorem signed_mul (left right : Bool) (first second : Nat) :
    signed (left != right) (first * second) = signed left first * signed right second := by
  cases left with
  | false =>
    cases right with
    | false => exact Int.natCast_mul first second
    | true =>
      show -((first * second : Nat) : Int) = first * -(second : Int)
      rw [Int.natCast_mul, Int.mul_neg]
  | true =>
    cases right with
    | false =>
      show -((first * second : Nat) : Int) = -(first : Int) * second
      rw [Int.natCast_mul, Int.neg_mul]
    | true =>
      show ((first * second : Nat) : Int) = -(first : Int) * -(second : Int)
      rw [Int.natCast_mul, Int.neg_mul_neg]

/-! ## The integer of a number -/

/-- A number is an integer when its units are as many as those of the magnitude of the integer and
its sign is that of the integer; either sign will do for zero. -/
theorem toInt?_finite_iff (negative : Bool) (rank : Fin ceiling) (value : Int) :
    (finite negative rank).toInt? = some value ↔
      units rank = value.natAbs * scale ∧ signed negative value.natAbs = value := by
  have positive := scale_pos
  rw [toInt?]
  constructor
  · intro whole
    split at whole
    · rename_i multiple
      have same : signed negative (units rank / scale) = value := Option.some.inj whole
      have parts : units rank / scale * scale = units rank :=
        Nat.div_mul_cancel (Nat.dvd_of_mod_eq_zero multiple)
      rw [← same, natAbs_signed]
      exact ⟨parts.symm, rfl⟩
    · cases whole
  · rintro ⟨parts, sign⟩
    rw [parts, Nat.mul_mod_left, Nat.mul_div_cancel _ positive, if_pos rfl]
    exact congrArg some sign

/-- A number that is an integer is finite, and its magnitude is that of the integer. -/
theorem exists_of_toInt? {number : Binary64} {value : Int} (whole : number.toInt? = some value) :
    ∃ negative rank, number = .finite negative rank ∧ units rank = value.natAbs * scale ∧
      signed negative value.natAbs = value := by
  cases number with
  | finite negative rank =>
    exact ⟨negative, rank, rfl, (toInt?_finite_iff negative rank value).mp whole⟩
  | infinite negative => cases whole
  | nan => cases whole

/-- An integer of a magnitude up to 2⁵³ is rounded to itself. -/
theorem toInt?_round (negative : Bool) {count : Nat} (bound : count ≤ 2 ^ 53) :
    (round negative (count * scale) 1).toInt? = some (signed negative count) := by
  rw [round, ofRank, dif_pos (nearestRank_whole_lt bound), toInt?_finite_iff, natAbs_signed]
  exact ⟨units_whole bound, rfl⟩

/-! ## The operations -/

/-- The signed units of an integer. -/
theorem signedUnits_whole {negative : Bool} {rank : Nat} {value : Int}
    (magnitude : units rank = value.natAbs * scale) (sign : signed negative value.natAbs = value) :
    signedUnits negative rank = value * scale := by
  have product : signed negative value.natAbs * (scale : Int) = value * scale := by rw [sign]
  rw [← product, signedUnits, magnitude, signed]
  cases negative with
  | false => rw [if_neg Bool.false_ne_true, if_neg Bool.false_ne_true, Int.natCast_mul]
  | true => rw [if_pos rfl, if_pos rfl, Int.natCast_mul, Int.neg_mul]

/-- The opposite of an integer. -/
theorem toInt?_neg {number : Binary64} {value : Int} (whole : number.toInt? = some value) :
    number.neg.toInt? = some (-value) := by
  obtain ⟨negative, rank, rfl, magnitude, sign⟩ := exists_of_toInt? whole
  rw [neg, toInt?_finite_iff, Int.natAbs_neg, signed_not, sign]
  exact ⟨magnitude, rfl⟩

/-- A sum of integers is exact. -/
theorem toInt?_add {left right : Binary64} {first second : Int}
    (leftWhole : left.toInt? = some first) (rightWhole : right.toInt? = some second)
    (bound : (first + second).natAbs ≤ 2 ^ 53) :
    (left.add right).toInt? = some (first + second) := by
  obtain ⟨leftSign, leftRank, rfl, leftUnits, leftSigned⟩ := exists_of_toInt? leftWhole
  obtain ⟨rightSign, rightRank, rfl, rightUnits, rightSigned⟩ := exists_of_toInt? rightWhole
  have positive := scale_pos
  have total : signedUnits leftSign leftRank + signedUnits rightSign rightRank =
      (first + second) * scale := by
    rw [signedUnits_whole leftUnits leftSigned, signedUnits_whole rightUnits rightSigned,
      Int.add_mul]
  have magnitude : ((first + second) * (scale : Int)).natAbs = (first + second).natAbs * scale := by
    rw [Int.natAbs_mul, Int.natAbs_natCast]
  simp only [add, total, magnitude]
  rw [toInt?_round _ bound, signed_natAbs]
  intro nonzero
  have units : (0 : Int) < scale := by omega
  have below : (first + second) * scale < 0 ↔ first + second < 0 := by
    have scaled := @Int.mul_lt_mul_right (scale : Int) (first + second) 0 units
    rw [Int.zero_mul] at scaled
    exact scaled
  rw [if_neg (Int.mul_ne_zero nonzero (by omega))]
  exact decide_eq_decide.mpr below

/-- A difference of integers is exact. -/
theorem toInt?_sub {left right : Binary64} {first second : Int}
    (leftWhole : left.toInt? = some first) (rightWhole : right.toInt? = some second)
    (bound : (first - second).natAbs ≤ 2 ^ 53) :
    (left.sub right).toInt? = some (first - second) := by
  rw [Int.sub_eq_add_neg] at bound ⊢
  exact toInt?_add leftWhole (toInt?_neg rightWhole) bound

/-- A product of integers is exact. -/
theorem toInt?_mul {left right : Binary64} {first second : Int}
    (leftWhole : left.toInt? = some first) (rightWhole : right.toInt? = some second)
    (bound : (first * second).natAbs ≤ 2 ^ 53) :
    (left.mul right).toInt? = some (first * second) := by
  obtain ⟨leftSign, leftRank, rfl, leftUnits, leftSigned⟩ := exists_of_toInt? leftWhole
  obtain ⟨rightSign, rightRank, rfl, rightUnits, rightSigned⟩ := exists_of_toInt? rightWhole
  have ratio : nearestRank (units leftRank * units rightRank) scale =
      nearestRank ((first * second).natAbs * scale) 1 := by
    apply nearestRank_of_equal_value scale_pos Nat.one_pos
    rw [leftUnits, rightUnits, Int.natAbs_mul, Nat.mul_one, Nat.mul_mul_mul_comm,
      Nat.mul_assoc (_ * _)]
  rw [mul, round, ratio, ← round, toInt?_round _ bound, Int.natAbs_mul, signed_mul, leftSigned,
    rightSigned]

end Reckoner.Binary64

namespace Reckoner.Decimal

open Binary64 (nearestRank scale scale_pos units)

/-! ## The shortest decimal -/

/-- The rank of a decimal without places behind the point. -/
theorem rank_whole (digits power : Nat) :
    rank ⟨digits, (power : Int)⟩ = nearestRank (digits * 10 ^ power * scale) 1 := by
  have negative : (-(power : Int)).toNat = 0 := by omega
  rw [rank, numerator, denominator, negative]
  rfl

/-- A natural number is read as itself. -/
theorem toInt?_toBinary64 {count : Nat} (bound : count ≤ 2 ^ 53) :
    (toBinary64 false ⟨count, 0⟩).toInt? = some (count : Int) := by
  have value : toBinary64 false ⟨count, 0⟩ = Binary64.round false (count * scale) 1 := by
    have ranks := rank_whole count 0
    rw [Nat.pow_zero, Nat.mul_one] at ranks
    exact congrArg (Binary64.ofRank false) ranks
  rw [value, Binary64.toInt?_round false bound]
  rfl

/-- A decimal of an exponent is chosen with that exponent. -/
theorem exponent_nearestOfExponent? {rank : Nat} {exponent : Int} {decimal : Decimal}
    (chosen : nearestOfExponent? rank exponent = some decimal) : decimal.exponent = exponent := by
  rw [nearestOfExponent?] at chosen
  obtain ⟨digits, -, same⟩ := List.mem_map.mp (List.mem_of_find?_eq_some chosen)
  rw [← same]

/-- The first digit of a natural number stands as many places in front of the last as there are
digits behind it. -/
theorem leadingExponent_whole {count : Nat} (positive : 0 < count) :
    leadingExponent (count * scale) scale = (numeral count).length - 1 := by
  rw [leadingExponent, if_pos (Nat.le_mul_of_pos_left scale positive),
    Nat.mul_div_cancel count scale_pos]

/-- A natural number reads back from its digits. -/
theorem nearestOfExponent?_whole {rank count : Nat} (whole : units rank = count * scale) :
    nearestOfExponent? rank 0 = some ⟨count, 0⟩ := by
  have positive : 0 < scale * Nat.pow 10 (0 : Int).toNat := Nat.mul_pos scale_pos Nat.one_pos
  have ratio : units rank * Nat.pow 10 (-(0 : Int)).toNat =
      count * (scale * Nat.pow 10 (0 : Int).toNat) := by
    rw [whole, ← Nat.mul_assoc]
    rfl
  have back : (Decimal.mk count 0).rank = rank := by
    have ranks := rank_whole count 0
    rw [Nat.pow_zero, Nat.mul_one, ← whole, Binary64.nearestRank_units] at ranks
    exact ranks
  simp only [nearestOfExponent?, ratio, Nat.mul_mod_left, Nat.mul_div_cancel count positive,
    Nat.mul_zero, positive, decide_true, Bool.true_or, if_true, List.map_cons]
  exact List.find?_cons_of_pos (beq_iff_eq.mpr back)

/-- From 2⁵³ on the even natural numbers follow each other. -/
theorem nearestRank_even {fraction : Nat} (bound : fraction < Binary64.implicitBit) :
    nearestRank ((Binary64.implicitBit + fraction) * 2 * scale) 1 =
      1076 * Binary64.implicitBit + fraction := by
  obtain ⟨shift, size, power⟩ := Binary64.scale_power
  have shifted := Binary64.nearestRank_shifted fraction (shift + 1) bound
  rw [Nat.pow_succ, Nat.mul_comm (2 ^ shift), ← Nat.mul_assoc, ← power] at shifted
  rw [shifted, size]

/-- Of the multiples of ten none but a natural number up to 2⁵³ itself reads back as the number.
Beyond 2⁵³ such a multiple is two more at least, and that is the next magnitude. -/
theorem eq_of_nearestRank {multiple count : Nat} (bound : count ≤ 2 ^ 53) (ten : 10 ∣ multiple)
    (same : nearestRank (multiple * scale) 1 = nearestRank (count * scale) 1) :
    multiple = count := by
  by_cases small : multiple ≤ 2 ^ 53
  · exact Binary64.whole_injective small bound same
  have greatest := nearestRank_even (show 0 < Binary64.implicitBit by decide)
  have next := nearestRank_even (show 1 < Binary64.implicitBit by decide)
  rw [show (Binary64.implicitBit + 0) * 2 = 2 ^ 53 by decide] at greatest
  rw [show (Binary64.implicitBit + 1) * 2 = 2 ^ 53 + 2 by decide] at next
  have above : (2 ^ 53 + 2) * scale ≤ multiple * scale := Nat.mul_le_mul_right scale (by omega)
  have below : count * scale ≤ 2 ^ 53 * scale := Nat.mul_le_mul_right scale bound
  have multipleRank := Binary64.nearestRank_mono 1 above
  have countRank := Binary64.nearestRank_mono 1 below
  omega

/-- A search through the natural numbers in order ends no later than at a number that is found. -/
theorem exists_findSome?_range {Found : Type} (find : Nat → Option Found) {limit place : Nat}
    (inside : place < limit) (here : find place ≠ none) :
    ∃ first value, first ≤ place ∧ find first = some value ∧
      (List.range limit).findSome? find = some value := by
  cases found : (List.range limit).findSome? find with
  | none =>
    exact absurd (List.findSome?_eq_none_iff.mp found place (List.mem_range.mpr inside)) here
  | some value =>
    obtain ⟨before, first, after, parts, chosen, skipped⟩ := List.findSome?_eq_some_iff.mp found
    have increasing : (before ++ first :: after).Pairwise (· < ·) := by
      rw [← parts]
      exact List.pairwise_lt_range
    have member : place ∈ before ++ first :: after := by
      rw [← parts]
      exact List.mem_range.mpr inside
    refine ⟨first, value, ?_, chosen, rfl⟩
    rcases List.mem_append.mp member with skip | later
    · exact absurd (skipped place skip) here
    · cases List.mem_cons.mp later with
      | inl same => exact Nat.le_of_eq same.symm
      | inr behind =>
        have tail := (List.pairwise_append.mp increasing).2.1
        exact Nat.le_of_lt ((List.pairwise_cons.mp tail).1 place behind)

/-- The search for the shortest decimal of a natural number ends with the last digit, if not
before, and so with no place behind the point. -/
theorem exists_shortest_whole {rank count : Nat} (positive : 0 < count) (bound : count ≤ 2 ^ 53)
    (whole : units rank = count * scale) :
    ∃ (digits power : Nat), shortest rank = ⟨digits, power⟩ ∧
      nearestOfExponent? rank power = some ⟨digits, power⟩ := by
  have some_digit : 0 < (numeral count).length := List.length_pos_iff.mpr (numeral_ne_nil count)
  have short : (numeral count).length ≤ 16 :=
    (Nat.length_toDigits_le_iff (by decide) (by decide)).mpr (by omega)
  have leading := leadingExponent_whole positive
  rw [← whole] at leading
  have last : ((numeral count).length - 1 : Int) - ((numeral count).length - 1 : Nat) = 0 := by
    omega
  have here : nearestOfExponent? rank
      (((numeral count).length - 1 : Int) - ((numeral count).length - 1 : Nat)) ≠ none := by
    rw [last, nearestOfExponent?_whole whole]
    exact Option.some_ne_none _
  obtain ⟨first, ⟨digits, exponent⟩, early, chosen, found⟩ := exists_findSome?_range
    (fun (after : Nat) => nearestOfExponent? rank ((numeral count).length - 1 - after))
    (show (numeral count).length - 1 < 17 by omega) here
  have places : ((numeral count).length - 1 : Int) - first =
      ((numeral count).length - 1 - first : Nat) := by
    omega
  have kept : exponent = ((numeral count).length - 1 - first : Nat) :=
    (exponent_nearestOfExponent? chosen).trans places
  refine ⟨digits, (numeral count).length - 1 - first, ?_, ?_⟩
  · rw [shortest, leading, found, kept]
    rfl
  · simp only [places, kept] at chosen
    exact chosen

/-- A natural number up to 2⁵³ is written in place as its numeral. -/
theorem plain_shortest_whole {rank count : Nat} (positive : 0 < count) (bound : count ≤ 2 ^ 53)
    (whole : units rank = count * scale) : plain (shortest rank) = numeral count := by
  obtain ⟨digits, power, shortest, chosen⟩ := exists_shortest_whole positive bound whole
  have value : digits * 10 ^ power = count := by
    cases power with
    | zero =>
      have same := (nearestOfExponent?_whole whole).symm.trans chosen
      rw [Option.some.injEq, mk.injEq] at same
      rw [Nat.pow_zero, Nat.mul_one, same.1]
    | succ power =>
      have ten : 10 ∣ digits * 10 ^ (power + 1) := by
        rw [Nat.pow_succ, ← Nat.mul_assoc]
        exact Nat.dvd_mul_left 10 _
      have back : nearestRank (digits * 10 ^ (power + 1) * scale) 1 =
          nearestRank (count * scale) 1 := by
        rw [← rank_whole, rank_nearestOfExponent? chosen, ← whole, Binary64.nearestRank_units]
      exact eq_of_nearestRank bound ten back
  rw [shortest]
  exact congrArg numeral value

end Reckoner.Decimal
