import Reckoner.Text.Printable

/-!
# Quoted texts

The quoted form of a text in messages: single quotes unless the text holds one and no double
quote, backslash escapes for the backslash, the quote in use and the short controls, and numeric
escapes for every other character that is not printable.
-/

namespace Reckoner.Text

/-- A number in lower-case hexadecimal, padded with zeros to a width. -/
def hexPadded (width value : Nat) : List Char :=
  let digits := Nat.toDigits 16 value
  List.replicate (width - digits.length) '0' ++ digits

/-- The escape of a character by its number, in the shortest of the three forms that fits. -/
def numericEscape (char : Char) : List Char :=
  let code := char.toNat
  if code < 0x100 then '\\' :: 'x' :: hexPadded 2 code
  else if code < 0x10000 then '\\' :: 'u' :: hexPadded 4 code
  else '\\' :: 'U' :: hexPadded 8 code

/-- One character inside quotes. -/
def quoteChar (mark char : Char) : List Char :=
  if char = mark ∨ char = '\\' then ['\\', char]
  else if char = '\n' then ['\\', 'n']
  else if char = '\r' then ['\\', 'r']
  else if char = '\t' then ['\\', 't']
  else if isPrintable char then [char]
  else numericEscape char

/-- The quote that a text is put in. -/
def quoteMark (chars : List Char) : Char :=
  if chars.contains '\'' && !chars.contains '"' then '"' else '\''

/-- Characters in quotes. -/
def quoteChars (chars : List Char) : List Char :=
  let mark := quoteMark chars
  mark :: (chars.flatMap (quoteChar mark) ++ [mark])

/-- A text in quotes. -/
def quote (text : String) : String := String.ofList (quoteChars text.toList)

end Reckoner.Text
