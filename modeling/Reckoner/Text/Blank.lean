/-!
# Blanks

The characters that separate without meaning anything, and the text that is left when they are
taken from both ends.
-/

namespace Reckoner.Text

/-- A blank is a Unicode space, one of the ASCII layout controls, or one of the four ASCII
information separators. -/
def isBlank (char : Char) : Bool :=
  let code := char.toNat
  (0x9 ≤ code && code ≤ 0xd) || (0x1c ≤ code && code ≤ 0x20) || code == 0x85 || code == 0xa0 ||
    code == 0x1680 || (0x2000 ≤ code && code ≤ 0x200a) || code == 0x2028 || code == 0x2029 ||
    code == 0x202f || code == 0x205f || code == 0x3000

/-- Characters without those of a class at their end. -/
def trimEndOf (drops : Char → Bool) (chars : List Char) : List Char :=
  (chars.reverse.dropWhile drops).reverse

/-- Characters without those of a class at either end. -/
def trimOf (drops : Char → Bool) (chars : List Char) : List Char :=
  trimEndOf drops (chars.dropWhile drops)

/-- Characters without the blanks at either end. -/
def trim (chars : List Char) : List Char := trimOf isBlank chars

/-- A text without the blanks at its end. -/
def stripEnd (text : String) : String := String.ofList (trimEndOf isBlank text.toList)

/-- A text without the blanks at either end. -/
def strip (text : String) : String := String.ofList (trim text.toList)

/-- A text is blank exactly when it holds nothing but blanks. -/
def isBlankText (text : String) : Bool := text.toList.all isBlank

end Reckoner.Text
