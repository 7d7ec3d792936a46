import Reckoner.Json.Escape
import Reckoner.Text.Split

/-!
# Objects of strings

The compact text of an object whose members are all strings.
-/

namespace Reckoner.Json

/-- A member whose value is a string. -/
def writeMember (member : String × String) : List Char :=
  writeString member.1 ++ ':' :: writeString member.2

/-- An object whose members are all strings, without blanks. -/
def writeStrings (members : List (String × String)) : List Char :=
  '\x7b' :: (Text.join ',' (members.map writeMember) ++ ['\x7d'])

end Reckoner.Json
