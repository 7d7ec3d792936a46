import Reckoner.Number.Binary64
import Reckoner.Text.Digit

/-!
# Decimals

A decimal is a natural number times a power of ten. Reading one rounds it to the nearest binary64
number; writing a binary64 number takes the decimal of fewest digits that reads back as it, and
of those the nearest.
-/

namespace Reckoner

/-- A natural number times a power of ten. -/
structure Decimal where
  /-- The natural number. -/
  digits : Nat
  /-- The power of ten. -/
  exponent : Int
  deriving DecidableEq, Repr

namespace Decimal

/-- The numerator of a decimal in units of binary64. -/
def numerator (decimal : Decimal) : Nat :=
  decimal.digits * Nat.pow 10 decimal.exponent.toNat * Binary64.scale

/-- The denominator of a decimal in units of binary64. -/
def denominator (decimal : Decimal) : Nat := Nat.pow 10 (-decimal.exponent).toNat

/-- The rank of the magnitude nearest to a decimal. -/
def rank (decimal : Decimal) : Nat := Binary64.nearestRank decimal.numerator decimal.denominator

/-- The number of a sign nearest to a decimal. -/
def toBinary64 (negative : Bool) (decimal : Decimal) : Binary64 :=
  Binary64.ofRank negative decimal.rank

/-- The decimal digits of a natural number, without leading zeros. -/
def numeral (value : Nat) : List Char := Nat.toDigits 10 value

/-- The decimal digits of a natural number, with leading zeros up to a width. -/
def paddedNumeral (width value : Nat) : List Char :=
  let digits := numeral value
  List.replicate (width - digits.length) '0' ++ digits

/-- Digits without the zeros at their end. -/
def dropFinalZeros (digits : List Char) : List Char :=
  (digits.reverse.dropWhile (· == '0')).reverse

/-- The part of a decimal numeral from the point on; nothing when no digit is left. -/
def fraction (digits : List Char) : List Char :=
  match dropFinalZeros digits with
  | [] => []
  | kept => '.' :: kept

/-- A decimal written with all its digits in place, without an exponent and without zeros at the
end of the fraction. -/
def plain (decimal : Decimal) : List Char :=
  match decimal.exponent with
  | .ofNat power => numeral (decimal.digits * Nat.pow 10 power)
  | .negSucc power =>
    let base := Nat.pow 10 (power + 1)
    numeral (decimal.digits / base) ++
      fraction (paddedNumeral (power + 1) (decimal.digits % base))

/-- The exponent of the first digit of a positive quotient. -/
def leadingExponent (numerator denominator : Nat) : Int :=
  if denominator ≤ numerator then (numeral (numerator / denominator)).length - 1
  else -((numeral ((denominator - 1) / numerator)).length : Int)

/-- Of the two decimals of an exponent that enclose the magnitude of a rank, the nearest that reads
back as the rank; of two equally near, the even one. -/
def nearestOfExponent? (rank : Nat) (exponent : Int) : Option Decimal :=
  let numerator := Binary64.units rank * Nat.pow 10 (-exponent).toNat
  let denominator := Binary64.scale * Nat.pow 10 exponent.toNat
  let lower := numerator / denominator
  let upper := lower + 1
  let twice := 2 * (numerator % denominator)
  let lowerFirst := twice < denominator || (twice == denominator && lower % 2 == 0)
  let candidates := if lowerFirst then [lower, upper] else [upper, lower]
  (candidates.map fun digits => Decimal.mk digits exponent).find? fun decimal =>
    decimal.rank == rank

/-- The magnitude of a rank, exactly. -/
def exact (rank : Nat) : Decimal := ⟨Binary64.units rank * Nat.pow 5 1074, -1074⟩

/-- The decimal of fewest digits that reads back as a rank. Seventeen digits always suffice. -/
def shortest (rank : Nat) : Decimal :=
  let leading := leadingExponent (Binary64.units rank) Binary64.scale
  let found := (List.range 17).findSome? fun (after : Nat) =>
    nearestOfExponent? rank (leading - after)
  found.getD (exact rank)

end Decimal

end Reckoner
