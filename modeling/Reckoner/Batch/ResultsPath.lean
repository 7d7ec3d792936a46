import Reckoner.Files.Path

/-!
# Where results go

The results of a batch go next to its input, under the name of the input with its suffixes joined
to it by underscores.
-/

namespace Reckoner

/-- A path without a last name. -/
structure EmptyName where
  /-- The path. -/
  path : Path
  deriving DecidableEq, Repr

/-- The words for a path without a last name. -/
def EmptyName.message (error : EmptyName) : String :=
  "PosixPath(" ++ Text.quote error.path.text ++ ") has an empty name"

namespace ResultsPath

/-- What every name of results ends with. -/
def ending : List Char := "_results.txt".toList

/-- A name with the suffixes cut off, one after the other. -/
def stem (name : List Char) : List Char :=
  (Path.suffixesOf name).foldl (fun rest suffix => rest.take (rest.length - suffix.length)) name

/-- The suffixes of a name in a row, with underscores for points. -/
def safeSuffix (name : List Char) : List Char :=
  (Path.suffixesOf name).flatten.map fun char => if char = '.' then '_' else char

/-- The name of the results of an input. -/
def nameOf (name : List Char) : List Char := stem name ++ safeSuffix name ++ ending

/-- The path of the results of an input. -/
def ofInput (path : Path) : Except EmptyName Path :=
  if path.name.isEmpty then .error ⟨path⟩ else .ok (path.withName (nameOf path.name))

end ResultsPath

end Reckoner
