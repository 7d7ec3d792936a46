import Reckoner.Text.Blank
import Reckoner.Text.Digit

/-!
# Written integers

A plain integer is digits that begin with no zero, or zero alone, with a minus in front or not. A
text denotes an integer when it is plain, or becomes plain without the blanks around it, a plus, the
zeros in front of its digits, a point with zeros behind it and the underscores between two digits.
An integer of too many digits is not read.
-/

namespace Reckoner.Integer

/-- Why a text denotes no integer. -/
inductive Flaw where
  /-- The text is no integer. -/
  | unreadable
  /-- The text has more digits than an integer may have. -/
  | tooLong
  deriving DecidableEq, Repr

/-- The most digits of an integer. -/
def maxDigits : Nat := 4300

/-- The integer of a sign, true for a minus, and a magnitude. -/
def signed (negative : Bool) (magnitude : Nat) : Int := if negative then -magnitude else magnitude

/-- The number that plain characters without a minus write. What follows too many digits does not
matter. -/
def magnitude (chars : List Char) : Except Flaw Nat :=
  let digits := chars.takeWhile Text.isDigit
  match digits with
  | [] => .error .unreadable
  | '0' :: _ => if chars.length = 1 then .ok 0 else .error .unreadable
  | _ =>
    if maxDigits < digits.length then .error .tooLong
    else if digits.length = chars.length then .ok (Text.digitsValue digits)
    else .error .unreadable

/-- The integer that characters are if they are plain. -/
def plain : List Char → Except Flaw Int
  | '-' :: unsigned => (magnitude unsigned).map (signed true)
  | unsigned => (magnitude unsigned).map (signed false)

/-- The blanks that may stand around a number: all but the information separators. -/
def isMargin (char : Char) : Bool :=
  Text.isBlank char && !(0x1c ≤ char.toNat && char.toNat ≤ 0x1f)

/-- A sign. -/
def isSign (char : Char) : Bool := char == '-' || char == '+'

/-- The sign in front of characters, true for a minus, and what follows it; none when another sign
does. -/
def takeSign? : List Char → Option (Bool × List Char)
  | [] => some (false, [])
  | char :: rest =>
    if isSign char then if rest.head?.any isSign then none else some (char == '-', rest)
    else some (false, char :: rest)

/-- A digit but for zero. -/
def isNonzeroDigit (char : Char) : Bool := Text.isDigit char && char != '0'

/-- What follows zeros and underscores of which one was the last: the significant part, which may
bring a minus of its own, or that last one when nothing or a point follows it. -/
def dropZeros? (last : Char) : List Char → Option (List Char)
  | [] => some [last]
  | char :: rest =>
    if char = '0' ∨ char = '_' then dropZeros? char rest
    else if isNonzeroDigit char ∨ char = '-' then some (char :: rest)
    else if char = '.' then some (last :: char :: rest)
    else none

/-- Unsigned characters from the significant part on; none when something else is in front of it. -/
def significant? : List Char → Option (List Char)
  | [] => none
  | char :: rest =>
    if char = '0' then dropZeros? char rest
    else if isNonzeroDigit char then some (char :: rest)
    else none

/-- Characters without a point and the zeros behind it, if there is nothing else behind it. -/
def dropFraction (chars : List Char) : List Char :=
  match chars.dropWhile (· != '.') with
  | _ :: zero :: zeros =>
    if (zero :: zeros).all (· == '0') then chars.takeWhile (· != '.') else chars
  | _ => chars

/-- Two underscores follow each other. -/
def hasDoubleUnderscore : List Char → Bool
  | '_' :: '_' :: _ => true
  | _ :: rest => hasDoubleUnderscore rest
  | [] => false

/-- Characters without their underscores, unless one is at an end or next to another. -/
def dropUnderscores (chars : List Char) : List Char :=
  if chars.head? = some '_' ∨ chars.getLast? = some '_' ∨ hasDoubleUnderscore chars then chars
  else chars.filter (· != '_')

/-- Characters without what a plain integer lacks. A minus is set aside and put back in front of the
significant part. -/
def simplify? (chars : List Char) : Option (List Char) := do
  let (negative, unsigned) ← takeSign? (Text.trimOf isMargin chars)
  let significant ← significant? unsigned
  let digits := dropUnderscores (dropFraction significant)
  return if negative then '-' :: digits else digits

/-- The integer that characters denote. -/
def parse (chars : List Char) : Except Flaw Int :=
  match plain chars with
  | .error .unreadable =>
    match simplify? chars with
    | some simple => plain simple
    | none => .error .unreadable
  | result => result

end Reckoner.Integer
