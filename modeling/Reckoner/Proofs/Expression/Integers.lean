import Reckoner.Proofs.Expression.Agreement
import Reckoner.Proofs.Number.Whole

/-!
# Integer arithmetic

A phrase without a point and without a quotient has an exact value, an integer. While no part of the
phrase has one of a magnitude beyond 2⁵³, the numbers that the evaluation goes through are these
integers, and the text printed in the end is the numeral of the exact value. A zero may have come
about with a minus; it is printed without.
-/

namespace Reckoner.Expression

open Binary64 (scale_pos units)

/-! ## Exact values -/

/-- The exact value of an operator of a sum. -/
def SumOperator.exact : SumOperator → Int → Int → Int
  | .plus, left, right => left + right
  | .minus, left, right => left - right

/-- The exact value of a product; a quotient has none. -/
def ProductOperator.integer? : ProductOperator → Int → Int → Option Int
  | .times, left, right => some (left * right)
  | .divided, _, _ => none

/-- The exact value of a numeral without a point. -/
def Numeral.integer? (word : Numeral) : Option Int :=
  if word.chars.all Text.isDigit then some (Text.digitsValue word.chars) else none

namespace Phrase

/-- The exact value of a phrase without a point and without a quotient. -/
def integer? : {level : Level} → Phrase level → Option Int
  | _, .numeral word => word.integer?
  | _, .group inner => inner.integer?
  | _, .atom inner => inner.integer?
  | _, .negation operand => operand.integer?.map (- ·)
  | _, .sign inner => inner.integer?
  | _, .product left operator right => do
    let first ← left.integer?
    let second ← right.integer?
    operator.integer? first second
  | _, .term inner => inner.integer?
  | _, .sum left operator right => do
    let first ← left.integer?
    let second ← right.integer?
    return operator.exact first second

/-- A phrase and all phrases in it. -/
def parts : {level : Level} → Phrase level → List (Sigma Phrase)
  | _, .numeral word => [⟨_, .numeral word⟩]
  | _, .group inner => ⟨_, .group inner⟩ :: inner.parts
  | _, .atom inner => ⟨_, .atom inner⟩ :: inner.parts
  | _, .negation operand => ⟨_, .negation operand⟩ :: operand.parts
  | _, .sign inner => ⟨_, .sign inner⟩ :: inner.parts
  | _, .product left operator right =>
    ⟨_, .product left operator right⟩ :: (left.parts ++ right.parts)
  | _, .term inner => ⟨_, .term inner⟩ :: inner.parts
  | _, .sum left operator right => ⟨_, .sum left operator right⟩ :: (left.parts ++ right.parts)

/-- No part has an exact value of a magnitude beyond 2⁵³. -/
def Moderate {level : Level} (phrase : Phrase level) : Prop :=
  ∀ part ∈ phrase.parts, ∀ value, part.2.integer? = some value → value.natAbs ≤ 2 ^ 53

/-- A phrase is a part of itself. -/
theorem self_mem_parts {level : Level} (phrase : Phrase level) :
    ⟨level, phrase⟩ ∈ phrase.parts := by
  cases phrase <;> exact List.mem_cons_self

/-- The exact value of a phrase is bounded as those of its parts are. -/
theorem Moderate.bound {level : Level} {phrase : Phrase level} {value : Int}
    (moderate : phrase.Moderate) (integral : phrase.integer? = some value) :
    value.natAbs ≤ 2 ^ 53 :=
  moderate ⟨level, phrase⟩ phrase.self_mem_parts value integral

/-- The only operand of a moderate phrase is moderate. -/
theorem Moderate.inner {level innerLevel : Level} {phrase : Phrase level}
    {inner : Phrase innerLevel} {self : Sigma Phrase} (moderate : phrase.Moderate)
    (operand : phrase.parts = self :: inner.parts) : inner.Moderate := by
  intro part member
  apply moderate part
  rw [operand]
  exact List.mem_cons_of_mem self member

/-- Both operands of a moderate phrase are moderate. -/
theorem Moderate.operands {level leftLevel rightLevel : Level} {phrase : Phrase level}
    {left : Phrase leftLevel} {right : Phrase rightLevel} {self : Sigma Phrase}
    (moderate : phrase.Moderate) (operands : phrase.parts = self :: (left.parts ++ right.parts)) :
    left.Moderate ∧ right.Moderate := by
  constructor
  · intro part member
    apply moderate part
    rw [operands]
    exact List.mem_cons_of_mem self (List.mem_append_left _ member)
  · intro part member
    apply moderate part
    rw [operands]
    exact List.mem_cons_of_mem self (List.mem_append_right _ member)

end Phrase

/-! ## Values -/

/-- A numeral without a point has its exact value. -/
theorem value_of_integer? {word : Numeral} {value : Int} (integral : word.integer? = some value)
    (bound : value.natAbs ≤ 2 ^ 53) :
    ∃ number, word.value = .ok number ∧ number.toInt? = some value := by
  rw [Numeral.integer?] at integral
  split at integral
  · rename_i digits
    cases integral
    rw [List.all_eq_true] at digits
    rw [Int.natAbs_natCast] at bound
    have whole := Decimal.toInt?_toBinary64 bound
    obtain ⟨negative, rank, finite, -⟩ := Binary64.exists_of_toInt? whole
    refine ⟨_, ?_, whole⟩
    rw [Numeral.value, Literal.parse?_of_isNumeric word.numeric,
      Literal.decimal?_whole word.nonempty digits, Option.map_some, finite]
    rfl
  · cases integral

/-- The exact value of a sum or a difference is its value. -/
theorem SumOperator.toInt?_apply (operator : SumOperator) {left right : Binary64}
    {first second : Int} (leftWhole : left.toInt? = some first)
    (rightWhole : right.toInt? = some second)
    (bound : (operator.exact first second).natAbs ≤ 2 ^ 53) :
    (operator.apply left right).toInt? = some (operator.exact first second) := by
  cases operator with
  | plus => exact Binary64.toInt?_add leftWhole rightWhole bound
  | minus => exact Binary64.toInt?_sub leftWhole rightWhole bound

/-- The exact value of a product is its value. -/
theorem ProductOperator.toInt?_apply {operator : ProductOperator} {left right : Binary64}
    {first second value : Int} (leftWhole : left.toInt? = some first)
    (rightWhole : right.toInt? = some second)
    (integral : operator.integer? first second = some value)
    (bound : value.natAbs ≤ 2 ^ 53) :
    ∃ number, operator.apply left right = .ok number ∧ number.toInt? = some value := by
  cases operator with
  | divided => cases integral
  | times =>
    cases integral
    exact ⟨left.mul right, rfl, Binary64.toInt?_mul leftWhole rightWhole bound⟩

/-- Zero is the integer zero. -/
theorem toInt?_zero : Binary64.zero.toInt? = some 0 := by decide +kernel

namespace Phrase

/-- A moderate phrase has its exact value. -/
theorem value_of_integer? {level : Level} (phrase : Phrase level) (value : Int)
    (integral : phrase.integer? = some value) (moderate : phrase.Moderate) :
    ∃ number, phrase.value = .ok number ∧ number.toInt? = some value := by
  have bound := moderate.bound integral
  induction phrase generalizing value with
  | numeral word => exact Expression.value_of_integer? integral bound
  | group inner ih => exact ih value integral (moderate.inner rfl) bound
  | atom inner ih => exact ih value integral (moderate.inner rfl) bound
  | negation operand ih =>
    obtain ⟨opposite, operandExact, rfl⟩ := Option.map_eq_some_iff.mp integral
    rw [Int.natAbs_neg] at bound
    obtain ⟨number, evaluated, whole⟩ := ih opposite operandExact (moderate.inner rfl) bound
    have difference := Binary64.toInt?_sub toInt?_zero whole
    rw [Int.zero_sub, Int.natAbs_neg] at difference
    refine ⟨Binary64.zero.sub number, ?_, difference bound⟩
    rw [Phrase.value, evaluated]
    rfl
  | sign inner ih => exact ih value integral (moderate.inner rfl) bound
  | product left operator right leftIh rightIh =>
    obtain ⟨first, firstExact, rest⟩ := Option.bind_eq_some_iff.mp integral
    obtain ⟨second, secondExact, last⟩ := Option.bind_eq_some_iff.mp rest
    obtain ⟨leftModerate, rightModerate⟩ := moderate.operands rfl
    obtain ⟨leftNumber, leftValue, leftWhole⟩ :=
      leftIh first firstExact leftModerate (leftModerate.bound firstExact)
    obtain ⟨rightNumber, rightValue, rightWhole⟩ :=
      rightIh second secondExact rightModerate (rightModerate.bound secondExact)
    rw [Phrase.value, leftValue, rightValue]
    exact ProductOperator.toInt?_apply leftWhole rightWhole last bound
  | term inner ih => exact ih value integral (moderate.inner rfl) bound
  | sum left operator right leftIh rightIh =>
    obtain ⟨first, firstExact, rest⟩ := Option.bind_eq_some_iff.mp integral
    obtain ⟨second, secondExact, last⟩ := Option.bind_eq_some_iff.mp rest
    cases last
    obtain ⟨leftModerate, rightModerate⟩ := moderate.operands rfl
    obtain ⟨leftNumber, leftValue, leftWhole⟩ :=
      leftIh first firstExact leftModerate (leftModerate.bound firstExact)
    obtain ⟨rightNumber, rightValue, rightWhole⟩ :=
      rightIh second secondExact rightModerate (rightModerate.bound secondExact)
    rw [Phrase.value, leftValue, rightValue]
    exact ⟨_, rfl, operator.toInt?_apply leftWhole rightWhole bound⟩

end Phrase

/-! ## Printing -/

/-- The numeral of an integer is that of its magnitude, behind a minus if it is negative. -/
theorem toString_signed {negative : Bool} {value : Int}
    (sign : Integer.signed negative value.natAbs = value) (nonzero : value ≠ 0) :
    toString value =
      String.ofList ((if negative then ['-'] else []) ++ Decimal.numeral value.natAbs) := by
  cases value with
  | ofNat magnitude =>
    cases negative with
    | false => exact Nat.repr_eq_ofList_toDigits
    | true =>
      rw [Integer.signed, if_pos rfl, Int.ofNat_eq_natCast] at sign
      rw [Int.ofNat_eq_natCast] at nonzero
      omega
  | negSucc magnitude =>
    cases negative with
    | false => cases sign
    | true =>
      have digits : (magnitude + 1).repr = String.ofList (Decimal.numeral (magnitude + 1)) :=
        Nat.repr_eq_ofList_toDigits
      show "-" ++ (magnitude + 1).repr = _
      rw [digits, String.ofList_append]
      rfl

/-- An integer of a magnitude up to 2⁵³ is printed as its numeral. -/
theorem format_whole {number : Binary64} {value : Int} (whole : number.toInt? = some value)
    (bound : value.natAbs ≤ 2 ^ 53) : format number = .ok (toString value) := by
  obtain ⟨negative, rank, rfl, magnitude, sign⟩ := Binary64.exists_of_toInt? whole
  have nothing : rank.val = 0 ↔ value = 0 := by
    rw [← Binary64.units_eq_zero_iff, magnitude, Nat.mul_eq_zero, Int.natAbs_eq_zero]
    have positive := scale_pos
    omega
  rw [format]
  by_cases zero : value = 0
  · rw [if_pos (nothing.mpr zero), zero]
    rfl
  · have plain := Decimal.plain_shortest_whole (Int.natAbs_pos.mpr zero) bound magnitude
    rw [if_neg (mt nothing.mp zero), plain, toString_signed sign zero]

/-- Integer arithmetic is exact. A text that spells, with blanks anywhere, a phrase without a point
and without a quotient is evaluated to the numeral of the exact value of the phrase, if no part of
the phrase has an exact value of a magnitude beyond 2⁵³. -/
theorem evaluate_exact (phrase : Phrase .sum) (text : String) (value : Int)
    (spelled : Spells text phrase.lexemes) (integral : phrase.integer? = some value)
    (moderate : phrase.Moderate) : evaluate text = .ok (toString value) := by
  obtain ⟨number, evaluated, whole⟩ := phrase.value_of_integer? value integral moderate
  obtain ⟨negative, rank, finite, -⟩ := Binary64.exists_of_toInt? whole
  have outcome : phrase.outcome = .ok number := by
    rw [Phrase.outcome, evaluated, finite]
    rfl
  rw [evaluate, compute_of_spells spelled, outcome]
  exact format_whole whole (moderate.bound integral)

/-- A product of a negative number and a difference that is zero, less the greatest magnitude that
is granted. -/
def zeroLess : Phrase .sum :=
  let word (chars : List Char) (nonempty : chars ≠ []) (numeric : chars.all isNumeric = true) :=
    Phrase.atom (.numeral ⟨chars, nonempty, List.all_eq_true.mp numeric⟩)
  let two := word ['2'] (by decide) rfl
  let padded := word ['0', '3'] (by decide) rfl
  let three := word ['3'] (by decide) rfl
  let greatest := word "9007199254740992".toList (by decide) (by decide)
  let difference := Phrase.sum (.term (.sign padded)) .minus (.sign three)
  let product := Phrase.product (.sign (.negation two)) .times (.atom (.group difference))
  .sum (.term (.sign (.atom (.group (.term product))))) .minus (.sign greatest)

/-- Leading zeros, redundant parentheses, blanks, a zero that has come about with a minus, and 2⁵³
itself. -/
theorem evaluate_exact_zeroLess :
    Spells "( -2*(03 -3)) - 9007 199254740992" zeroLess.lexemes ∧
      evaluate "( -2*(03 -3)) - 9007 199254740992" = .ok "-9007199254740992" := by
  have spelled : Spells "( -2*(03 -3)) - 9007 199254740992" zeroLess.lexemes := rfl
  have integral : zeroLess.integer? = some (-9007199254740992) := by decide +kernel
  have numeral : toString (-9007199254740992 : Int) = "-9007199254740992" := by decide +kernel
  have checked : zeroLess.parts.all (fun part =>
      part.2.integer?.all fun value => decide (value.natAbs ≤ 2 ^ 53)) = true := by
    decide +kernel
  have moderate : zeroLess.Moderate := by
    intro part member value known
    have bounded := List.all_eq_true.mp checked part member
    rw [known] at bounded
    exact of_decide_eq_true bounded
  rw [← numeral]
  exact ⟨spelled, evaluate_exact zeroLess _ _ spelled integral moderate⟩

end Reckoner.Expression
