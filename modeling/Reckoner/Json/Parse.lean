import Reckoner.Json.Basic
import Reckoner.Json.Escape
import Reckoner.Number.Literal
import Reckoner.Text.Utf8

/-!
# Reading JSON

A document is one value with blanks around it. How deep values nest and how many digits a number has
in front of its point are limited; inside those limits the number of items of an array or object is
bounded by the characters that are left.
-/

namespace Reckoner.Json

/-- How large a document may be. -/
structure Limits where
  /-- The most arrays and objects around one another that are not empty. -/
  depth : Nat
  /-- The most digits of a number in front of its point or exponent. -/
  digits : Nat
  deriving DecidableEq, Repr

/-- The limits of documents from outside. -/
def Limits.usual : Limits := ⟨200, Integer.maxDigits⟩

/-- Characters without the blanks in front. -/
def skipBlanks (chars : List Char) : List Char :=
  chars.dropWhile fun char => char == ' ' || char == '\t' || char == '\n' || char == '\r'

/-- What follows a word, if the characters begin with it. -/
def afterWord? (word : String) (chars : List Char) : Option (List Char) :=
  if word.toList.isPrefixOf chars then some (chars.drop word.length) else none

/-- The digits of a fraction, and what follows them; none when there is no point, and failure when
no digit follows the point. -/
def readFraction? : List Char → Option (List Char × List Char)
  | '.' :: rest =>
    let digits := rest.takeWhile Text.isDigit
    if digits.isEmpty then none else some (digits, rest.dropWhile Text.isDigit)
  | rest => some ([], rest)

/-- The characters of an exponent, and what follows them; none when there is no mark, and failure
when no digit follows it. -/
def readExponent? : List Char → Option (List Char × List Char)
  | [] => some ([], [])
  | mark :: rest =>
    if mark = 'e' ∨ mark = 'E' then
      let sign := rest.takeWhile fun char => char == '+' || char == '-'
      let unsigned := rest.dropWhile fun char => char == '+' || char == '-'
      let digits := unsigned.takeWhile Text.isDigit
      if 1 < sign.length || digits.isEmpty then none
      else some (mark :: (sign ++ digits), unsigned.dropWhile Text.isDigit)
    else some ([], mark :: rest)

/-- Digits that may stand in front of the point or exponent of a number: one or more, but not more
than a limit, and no zero in front of others. -/
def isWhole (limit : Nat) (digits : List Char) : Bool :=
  !digits.isEmpty && (digits.head? != some '0' || digits.length == 1) && digits.length ≤ limit

/-- A number without its sign, and what follows it. -/
def readUnsigned? (limit : Nat) (negative : Bool) (chars : List Char) :
    Option (Json × List Char) :=
  let whole := chars.takeWhile Text.isDigit
  if !isWhole limit whole then none
  else
    match readFraction? (chars.dropWhile Text.isDigit) with
    | none => none
    | some (fraction, rest) =>
      match readExponent? rest with
      | none => none
      | some (exponent, rest) =>
        if fraction.isEmpty && exponent.isEmpty then
          let value := Text.digitsValue whole
          some (.int (if negative then -value else value), rest)
        else
          (Literal.decimal? (whole ++ '.' :: (fraction ++ exponent))).map fun decimal =>
            (.float (decimal.toBinary64 negative), rest)

/-- A number, an infinity or the word for no number, and what follows it. -/
def readNumber? (limit : Nat) (chars : List Char) : Option (Json × List Char) :=
  let negative := chars.head? == some '-'
  let unsigned := if negative then chars.drop 1 else chars
  match afterWord? "Infinity" unsigned with
  | some rest => some (.float (.infinite negative), rest)
  | none =>
    match (if negative then none else afterWord? "NaN" chars) with
    | some rest => some (.float .nan, rest)
    | none => readUnsigned? limit negative unsigned

/-- A value other than an array or an object, and what follows it. -/
def readScalar? (limit : Nat) (chars : List Char) : Option (Json × List Char) :=
  match chars with
  | '"' :: rest => (readString? rest).map fun (text, after) => (.string (String.ofList text), after)
  | _ =>
    match afterWord? "null" chars, afterWord? "true" chars, afterWord? "false" chars with
    | some rest, _, _ => some (.null, rest)
    | _, some rest, _ => some (.bool true, rest)
    | _, _, some rest => some (.bool false, rest)
    | none, none, none => readNumber? limit chars

/-- One or more items, separated by commas and ended by a mark, and what follows the mark. -/
def readItems? {Item : Type} (item : List Char → Option (Item × List Char)) (close : Char) :
    Nat → List Char → Option (List Item × List Char)
  | 0, _ => none
  | fuel + 1, chars =>
    match item chars with
    | none => none
    | some (first, rest) =>
      match skipBlanks rest with
      | [] => none
      | mark :: rest =>
        if mark = close then some ([first], rest)
        else if mark = ',' then
          (readItems? item close fuel rest).map fun (others, after) => (first :: others, after)
        else none

/-- A member of an object: a name, a colon and a value. -/
def readMember? (value : List Char → Option (Json × List Char)) (chars : List Char) :
    Option ((String × Json) × List Char) :=
  match skipBlanks chars with
  | '"' :: rest =>
    match readString? rest with
    | none => none
    | some (name, rest) =>
      match skipBlanks rest with
      | ':' :: rest => (value rest).map fun (value, after) => ((String.ofList name, value), after)
      | _ => none
  | _ => none

/-- What follows the closing mark, if nothing but blanks is in front of it. -/
def afterEmpty? (close : Char) (chars : List Char) : Option (List Char) :=
  match skipBlanks chars with
  | [] => none
  | mark :: rest => if mark = close then some rest else none

/-- The items from behind an opening mark, possibly none, and what follows the closing mark. There
may be none when the items cannot be read. -/
def readGroup? {Item : Type} (item? : Option (List Char → Option (Item × List Char))) (close : Char)
    (chars : List Char) : Option (List Item × List Char) :=
  match afterEmpty? close chars, item? with
  | some rest, _ => some ([], rest)
  | none, some item => readItems? item close (chars.length + 1) chars
  | none, none => none

/-- A value, given how to read the values inside an array or object, and what follows it. -/
def readWith? (limit : Nat) (inner? : Option (List Char → Option (Json × List Char)))
    (chars : List Char) : Option (Json × List Char) :=
  match skipBlanks chars with
  | '[' :: rest =>
    (readGroup? inner? ']' rest).map fun (items, after) => (.array items, after)
  | '\x7b' :: rest =>
    (readGroup? (inner?.map readMember?) '\x7d' rest).map fun (members, after) =>
      (.object members, after)
  | scalar => readScalar? limit scalar

/-- A value with at most so many arrays and objects around one another that are not empty, and what
follows it. -/
def readValue? (limit : Nat) : Nat → List Char → Option (Json × List Char)
  | 0 => readWith? limit none
  | depth + 1 => readWith? limit (some (readValue? limit depth))

/-- The value of a document within limits. -/
def parseWithin? (limits : Limits) (chars : List Char) : Option Json :=
  match readValue? limits.digits limits.depth chars with
  | some (value, rest) => if (skipBlanks rest).isEmpty then some value else none
  | none => none

/-- The value of a document. -/
def parse? (chars : List Char) : Option Json := parseWithin? .usual chars

/-- The value of an encoded document. -/
def ofBytes? (bytes : Bytes) : Option Json :=
  match Text.Utf8.decode bytes with
  | .ok chars => parse? chars
  | .error _ => none

end Reckoner.Json
