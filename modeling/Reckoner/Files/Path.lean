import Reckoner.Text.Quoted
import Reckoner.Text.Split
import Reckoner.Validation.Issue

/-!
# Paths

A path is a root and the names below it. Its text is read without empty parts and single points,
and its last name is taken apart at the points.
-/

namespace Reckoner

/-- Where a path starts. -/
inductive Path.Root where
  /-- At the working directory. -/
  | here
  /-- At the root of the file system. -/
  | slash
  /-- At the place that exactly two slashes name. -/
  | doubleSlash
  deriving DecidableEq, Repr

/-- A path. -/
structure Path where
  /-- Where the path starts. -/
  root : Path.Root
  /-- The names from there on. -/
  parts : List (List Char)
  deriving DecidableEq, Repr

namespace Path

/-- The text of a root. -/
def Root.text : Root → List Char
  | .here => []
  | .slash => ['/']
  | .doubleSlash => ['/', '/']

/-- Where a text starts. -/
def rootOf (chars : List Char) : Root :=
  match (chars.takeWhile (· == '/')).length with
  | 0 => .here
  | 2 => .doubleSlash
  | _ => .slash

/-- The path of a text. -/
def ofText (text : String) : Path :=
  ⟨rootOf text.toList,
    (Text.split '/' text.toList).filter fun part => !part.isEmpty && part != ['.']⟩

/-- The characters of a path. -/
def chars (path : Path) : List Char :=
  if path.root = .here ∧ path.parts = [] then ['.']
  else path.root.text ++ Text.join '/' path.parts

/-- The text of a path. -/
def text (path : Path) : String := String.ofList path.chars

/-- The path that a value means. -/
def reading : Json → Except Problem Path
  | .string text => .ok (ofText text)
  | _ => .error .notPath

/-- The last name of a path; empty when there is none. -/
def name (path : Path) : List Char := path.parts.getLast?.getD []

/-- A name without the points in front. -/
def undotted (name : List Char) : List Char := name.dropWhile (· == '.')

/-- A name ends with a point. -/
def endsWithPoint (name : List Char) : Bool := name.getLast? == some '.'

/-- The suffixes of a name: its parts from the first inner point on, each with its point. A name
that ends with a point has none. -/
def suffixesOf (name : List Char) : List (List Char) :=
  if endsWithPoint name then [] else ((Text.split '.' (undotted name)).drop 1).map ('.' :: ·)

/-- The suffixes of a path. -/
def suffixes (path : Path) : List (List Char) := suffixesOf path.name

/-- The suffix of a name: what begins with its last point, unless that comes first or last. -/
def suffixOf (name : List Char) : List Char :=
  let after := (name.reverse.takeWhile (· != '.')).reverse
  if after.isEmpty || name.length ≤ after.length + 1 then [] else '.' :: after

/-- The suffix of a path. -/
def suffix (path : Path) : List Char := suffixOf path.name

/-- The path with another last name. -/
def withName (path : Path) (name : List Char) : Path :=
  { path with parts := path.parts.dropLast ++ [name] }

end Path

end Reckoner
