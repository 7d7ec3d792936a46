/-!
# Lines

Where a text breaks into lines, and the newline of plain text files.
-/

namespace Reckoner.Text

/-- A line ends at one of ten characters; the carriage return and line feed may end it together. -/
def isLineBreak (char : Char) : Bool :=
  let code := char.toNat
  (0xa ≤ code && code ≤ 0xd) || (0x1c ≤ code && code ≤ 0x1e) || code == 0x85 || code == 0x2028 ||
    code == 0x2029

/-- A character put in front of the first line. -/
def joinLine (char : Char) : List (List Char) → List (List Char)
  | [] => [[char]]
  | line :: lines => (char :: line) :: lines

/-- The lines of a text, without the characters that end them. A text that ends with a line break
has no line after it. -/
def lines : List Char → List (List Char)
  | [] => []
  | '\r' :: '\n' :: rest => [] :: lines rest
  | char :: rest => if isLineBreak char then [] :: lines rest else joinLine char (lines rest)

/-- Text with every carriage return, alone or before a line feed, made a line feed. -/
def unifyNewlines : List Char → List Char
  | [] => []
  | '\r' :: '\n' :: rest => '\n' :: unifyNewlines rest
  | char :: rest => (if char = '\r' then '\n' else char) :: unifyNewlines rest

end Reckoner.Text
