import Reckoner.Text.Utf8

/-!
# Base64

Texts that write bytes, six bits to a character. The text is read from left to right. An equals sign
counts as padding where a byte has begun, and the text ends with the padding that completes it;
elsewhere an equals sign says nothing, but no data may follow one.
-/

namespace Reckoner.Text.Base64

/-- Why a text writes no bytes. -/
inductive Flaw where
  /-- A character is neither data nor padding. -/
  | foreign
  /-- The text begins with padding. -/
  | leadingPadding
  /-- Data follows padding. -/
  | brokenPadding
  /-- The text goes on after the padding that completes it. -/
  | excess
  /-- The padding that would complete the text is not there. -/
  | incomplete
  /-- So many data characters are one more than make whole bytes. -/
  | oneTooMany (count : Nat)
  deriving DecidableEq, Repr

/-- The words for a flaw. -/
def Flaw.message : Flaw → String
  | .foreign => "Only base64 data is allowed"
  | .leadingPadding => "Leading padding not allowed"
  | .brokenPadding => "Discontinuous padding not allowed"
  | .excess => "Excess data after padding"
  | .incomplete => "Incorrect padding"
  | .oneTooMany count =>
    "Invalid base64-encoded string: number of data characters (" ++ toString count ++
      ") cannot be 1 more than a multiple of 4"

/-- The value of a data character. -/
def sextet? (char : Char) : Option Nat :=
  if 'A' ≤ char && char ≤ 'Z' then some (char.toNat - 'A'.toNat)
  else if 'a' ≤ char && char ≤ 'z' then some (char.toNat - 'a'.toNat + 26)
  else if '0' ≤ char && char ≤ '9' then some (char.toNat - '0'.toNat + 52)
  else if char = '+' then some 62
  else if char = '/' then some 63
  else none

/-- What the end of a text after so many data characters means. -/
def atEnd (count : Nat) : Except Flaw (List Nat) :=
  if count % 4 = 0 then .ok []
  else if count % 4 = 1 then .error (.oneTooMany count)
  else .error .incomplete

/-- The values of the data characters that follow so many others, the padding that counts and
whether there was any equals sign. -/
def sextets (count padding : Nat) (padded : Bool) : List Char → Except Flaw (List Nat)
  | [] => atEnd count
  | char :: rest =>
    if char = '=' then
      if 2 ≤ count % 4 then
        if 4 ≤ count % 4 + padding + 1 then if rest.isEmpty then .ok [] else .error .excess
        else sextets count (padding + 1) true rest
      else sextets count padding true rest
    else
      match sextet? char with
      | none => .error .foreign
      | some value =>
        if padded then .error .brokenPadding
        else (sextets (count + 1) padding padded rest).map (value :: ·)

/-- The whole bytes of values of six bits; the bits that are left over do not matter. -/
def bytesOf : List Nat → Bytes
  | first :: second :: third :: fourth :: rest =>
    UInt8.ofNat (4 * first + second / 16) :: UInt8.ofNat (16 * (second % 16) + third / 4) ::
      UInt8.ofNat (64 * (third % 4) + fourth) :: bytesOf rest
  | [first, second, third] =>
    [UInt8.ofNat (4 * first + second / 16), UInt8.ofNat (16 * (second % 16) + third / 4)]
  | [first, second] => [UInt8.ofNat (4 * first + second / 16)]
  | _ => []

/-- The bytes that a text writes. -/
def decode (chars : List Char) : Except Flaw Bytes :=
  if chars.head? = some '=' then .error .leadingPadding
  else (sextets 0 0 false chars).map bytesOf

end Reckoner.Text.Base64
