import Reckoner.Text.Line

/-!
# Parts of a text

A text cut at every occurrence of a mark.
-/

namespace Reckoner.Text

/-- The parts between the occurrences of a mark: one more than there are occurrences. -/
def split (mark : Char) : List Char → List (List Char)
  | [] => [[]]
  | char :: rest =>
    if char = mark then [] :: split mark rest else joinLine char (split mark rest)

/-- The parts of a text with a mark between neighbours. -/
def join (mark : Char) (parts : List (List Char)) : List Char := [mark].intercalate parts

end Reckoner.Text
