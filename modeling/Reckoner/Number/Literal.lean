import Reckoner.Number.Decimal
import Reckoner.Number.Integer

/-!
# Number literals

The texts that denote a binary64 number: blanks other than the information separators around it, a
sign, then digits with at most one point and at least one digit, then possibly an exponent; or the
word for an infinity or for no number, in any case. Digits of every script count, and one underscore
may stand between two digits.
-/

namespace Reckoner.Literal

/-- A digit of any script as a digit from `0` to `9`; any other character as itself. -/
def latinDigit (char : Char) : Char :=
  match Text.digitValue? char with
  | some value => Text.digitChar value
  | none => char

/-- Characters without the underscores between two digits; nothing when another one is left. -/
def dropUnderscores? (previous : Option Char) : List Char → Option (List Char)
  | [] => some []
  | '_' :: rest =>
    match previous, rest with
    | some before, after :: _ =>
      if Text.isDigit before && Text.isDigit after then dropUnderscores? (some '_') rest else none
    | _, _ => none
  | char :: rest => (dropUnderscores? (some char) rest).map (char :: ·)

/-- The sign in front of characters, true for a minus, and what follows it. -/
def takeSign : List Char → Bool × List Char
  | '-' :: rest => (true, rest)
  | '+' :: rest => (false, rest)
  | rest => (false, rest)

/-- An exponent, kept within a bound beyond which it makes no difference; nothing when the
characters are neither empty nor an exponent. -/
def exponent? (bound : Nat) : List Char → Option Int
  | [] => some 0
  | mark :: rest =>
    if mark = 'e' ∨ mark = 'E' then
      let (negative, digits) := takeSign rest
      if digits.isEmpty || !digits.all Text.isDigit then none
      else
        let value := min (Text.digitsValue digits) bound
        some (if negative then -value else value)
    else none

/-- The digits after the point of an unsigned literal, and what follows them. -/
def takeFraction : List Char → List Char × List Char
  | '.' :: rest => (rest.takeWhile Text.isDigit, rest.dropWhile Text.isDigit)
  | rest => ([], rest)

/-- The decimal that an unsigned literal without underscores writes. -/
def decimal? (chars : List Char) : Option Decimal :=
  let whole := chars.takeWhile Text.isDigit
  let (fraction, rest) := takeFraction (chars.dropWhile Text.isDigit)
  let digits := whole ++ fraction
  if digits.isEmpty then none
  else (exponent? (digits.length + 400) rest).map fun exponent =>
    ⟨Text.digitsValue digits, exponent - fraction.length⟩

/-- The letter from `a` to `z` in place of one from `A` to `Z`. -/
def lowerLetter (char : Char) : Char :=
  if 'A' ≤ char && char ≤ 'Z' then Char.ofNat (char.toNat + 32) else char

/-- The number that a literal denotes. -/
def parse? (text : List Char) : Option Binary64 :=
  match dropUnderscores? none ((Text.trimOf Integer.isMargin text).map latinDigit) with
  | none => none
  | some chars =>
    let (negative, unsigned) := takeSign chars
    let word := String.ofList (unsigned.map lowerLetter)
    if word = "inf" ∨ word = "infinity" then some (.infinite negative)
    else if word = "nan" then some .nan
    else (decimal? unsigned).map (Decimal.toBinary64 negative)

end Reckoner.Literal
