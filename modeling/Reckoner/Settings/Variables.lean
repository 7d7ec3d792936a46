import Reckoner.Settings.Assignment

/-!
# Variables

Named values in the order in which the names first came up. A value of a file may refer to variables
that came before it, to those of the environment, or to a text to take instead.
-/

namespace Reckoner

/-- Named values; a name may be known and have no value. -/
abbrev Variables := List (String × Option String)

namespace Variables

/-- Variables with a value given to a name, where it was or else last. -/
def put (name : String) (value? : Option String) : Variables → Variables
  | [] => [(name, value?)]
  | (other, old) :: rest =>
    if other = name then (name, value?) :: rest else (other, old) :: put name value? rest

/-- The text that a reference stands for: the value of the name among the known variables, else in
the environment, else the text to take instead. -/
def refer (known environment : Variables) (name : String) (instead : List Char) : List Char :=
  match known.lookup name with
  | some value? => (value?.getD "").toList
  | none =>
    match environment.lookup name with
    | some value? => (value?.getD "").toList
    | none => instead

/-- A reference from behind its dollar sign: its name, the text to take instead, and its length. -/
def reference? : List Char → Option (List Char × List Char × Nat)
  | '\x7b' :: rest =>
    let name := rest.takeWhile fun char => char != '\x7d' && char != ':'
    match rest.drop name.length with
    | '\x7d' :: _ => some (name, [], name.length + 2)
    | ':' :: '-' :: rest =>
      let instead := rest.takeWhile (· != '\x7d')
      if instead.length < rest.length then some (name, instead, name.length + instead.length + 4)
      else none
    | _ => none
  | _ => none

/-- What is left of characters without so many in front, every reference replaced by what it stands
for. -/
def expandAfter (known environment : Variables) : Nat → List Char → List Char
  | _, [] => []
  | skip + 1, _ :: rest => expandAfter known environment skip rest
  | 0, char :: rest =>
    match if char = '$' then reference? rest else none with
    | some (name, instead, length) =>
      refer known environment (String.ofList name) instead ++
        expandAfter known environment length rest
    | none => char :: expandAfter known environment 0 rest

/-- A text with every reference replaced by what it stands for. -/
def expand (known environment : Variables) (text : String) : String :=
  String.ofList (expandAfter known environment 0 text.toList)

/-- The variables of assignments. -/
def ofAssignments (environment : Variables) (assignments : List Assignment) : Variables :=
  assignments.foldl (fun known assignment =>
    known.put assignment.name (assignment.value?.map (expand known environment))) []

/-- The lower-case letter from `a` to `z` of a character that has one: besides the capital letters
only the Kelvin sign does. -/
def lowerChar (char : Char) : Char := if char = '\u212a' then 'k' else char.toLower

/-- A name written with other cases of letters. -/
def isSpelling (name spelling : String) : Bool := spelling.toList.map lowerChar == name.toList

/-- The value of a name, written with any cases of letters; the last of several counts. -/
def get? (known : Variables) (name : String) : Option String :=
  (known.reverse.find? fun entry => isSpelling name entry.1).bind Prod.snd

end Variables

end Reckoner
