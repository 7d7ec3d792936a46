/-!
# Binary64 numbers

Every finite binary64 magnitude is a multiple of the smallest positive one, the unit. Listed in
increasing order from zero the magnitudes have ranks, and the rank of a magnitude is its encoding
without the sign bit. Rounding therefore needs one function, from a quotient of units to the
nearest rank, and each operation is the exact result, rounded.
-/

namespace Reckoner

/-- The rank that follows the greatest finite magnitude. -/
def Binary64.ceiling : Nat := 0x7ff0000000000000

/-- A binary64 number. -/
inductive Binary64 where
  /-- A finite number: its sign and the rank of its magnitude. -/
  | finite (negative : Bool) (rank : Fin Binary64.ceiling)
  /-- An infinity and its sign. -/
  | infinite (negative : Bool)
  /-- The result of an operation that has none. -/
  | nan
  deriving DecidableEq, Repr

namespace Binary64

/-- The weight of the leading bit of a significand of fifty-three bits, which the encoding of a
magnitude leaves out. -/
def implicitBit : Nat := 0x10000000000000

/-- How many units make one. -/
def scale : Nat := Nat.pow 2 1074

/-- How many units make the magnitude of a rank. -/
def units (rank : Nat) : Nat :=
  if rank < implicitBit then rank
  else (implicitBit + rank % implicitBit) * Nat.pow 2 (rank / implicitBit - 1)

/-- The natural number nearest to a quotient; a tie goes to the even one. -/
def roundQuotient (numerator denominator : Nat) : Nat :=
  let quotient := numerator / denominator
  let twice := 2 * (numerator % denominator)
  if twice < denominator ∨ (twice = denominator ∧ quotient % 2 = 0) then quotient
  else quotient + 1

/-- How many low bits of a quotient of units its rounding drops: none while fifty-three suffice. -/
def droppedBits (numerator denominator : Nat) : Nat := (numerator / denominator).log2 - 52

/-- The rank of the magnitude nearest to a quotient of units; a tie goes to the even rank. Ranks
from the ceiling on stand for magnitudes beyond the greatest finite one. -/
def nearestRank (numerator denominator : Nat) : Nat :=
  let dropped := droppedBits numerator denominator
  dropped * implicitBit + roundQuotient numerator (denominator * Nat.pow 2 dropped)

/-- The number of a sign and a rank, infinite from the ceiling on. -/
def ofRank (negative : Bool) (rank : Nat) : Binary64 :=
  if bounded : rank < ceiling then .finite negative ⟨rank, bounded⟩ else .infinite negative

/-- The number of a sign nearest to a quotient of units. -/
def round (negative : Bool) (numerator denominator : Nat) : Binary64 :=
  ofRank negative (nearestRank numerator denominator)

/-- Positive zero. -/
def zero : Binary64 := .finite false ⟨0, by decide⟩

/-- A zero of either sign. -/
def isZero : Binary64 → Bool
  | .finite _ rank => rank.val == 0
  | _ => false

/-- Neither infinite nor the result of an operation that has none. -/
def isFinite : Binary64 → Bool
  | .finite .. => true
  | _ => false

/-- An infinity of either sign. -/
def isInfinite : Binary64 → Bool
  | .infinite _ => true
  | _ => false

/-- The signed number of units of a sign and a rank. -/
def signedUnits (negative : Bool) (rank : Nat) : Int :=
  if negative then -(units rank : Int) else (units rank : Int)

/-- The number of the opposite sign. -/
def neg : Binary64 → Binary64
  | .finite negative rank => .finite (!negative) rank
  | .infinite negative => .infinite (!negative)
  | .nan => .nan

/-- The sum, rounded. A zero sum is negative exactly when both terms are. -/
def add : Binary64 → Binary64 → Binary64
  | .nan, _ | _, .nan => .nan
  | .infinite left, .infinite right => if left = right then .infinite left else .nan
  | .infinite left, .finite .. => .infinite left
  | .finite .., .infinite right => .infinite right
  | .finite left leftRank, .finite right rightRank =>
    let sum := signedUnits left leftRank + signedUnits right rightRank
    round (if sum = 0 then left && right else decide (sum < 0)) sum.natAbs 1

/-- The difference, rounded. -/
def sub (left right : Binary64) : Binary64 := left.add right.neg

/-- The product, rounded. -/
def mul : Binary64 → Binary64 → Binary64
  | .nan, _ | _, .nan => .nan
  | .infinite left, .infinite right => .infinite (left != right)
  | .infinite left, .finite right rank | .finite right rank, .infinite left =>
    if rank.val = 0 then .nan else .infinite (left != right)
  | .finite left leftRank, .finite right rightRank =>
    round (left != right) (units leftRank * units rightRank) scale

/-- The quotient, rounded. -/
def div : Binary64 → Binary64 → Binary64
  | .nan, _ | _, .nan => .nan
  | .infinite _, .infinite _ => .nan
  | .infinite left, .finite right _ => .infinite (left != right)
  | .finite left _, .infinite right => ofRank (left != right) 0
  | .finite left leftRank, .finite right rightRank =>
    if rightRank.val = 0 then
      if leftRank.val = 0 then .nan else .infinite (left != right)
    else round (left != right) (units leftRank * scale) (units rightRank)

/-- The integer that a number is, if it is one. -/
def toInt? : Binary64 → Option Int
  | .finite negative rank =>
    if units rank % scale = 0 then
      some (if negative then -(units rank / scale : Nat) else (units rank / scale : Nat))
    else none
  | _ => none

/-- The sign bit of the encoding. -/
def signBit (negative : Bool) : Nat := if negative then 0x8000000000000000 else 0

/-- The encoding. -/
def toBits : Binary64 → UInt64
  | .finite negative rank => UInt64.ofNat (signBit negative + rank)
  | .infinite negative => UInt64.ofNat (signBit negative + ceiling)
  | .nan => 0x7ff8000000000000

/-- The number of an encoding. -/
def ofBits (bits : UInt64) : Binary64 :=
  let negative := decide (0x8000000000000000 ≤ bits.toNat)
  let rank := bits.toNat % 0x8000000000000000
  if bounded : rank < ceiling then .finite negative ⟨rank, bounded⟩
  else if rank = ceiling then .infinite negative
  else .nan

end Binary64

end Reckoner
