import Reckoner.Files.Archive

/-!
# Folders

The files that an activity can see. Reading and writing answer as a file system does when a name is
not there, is of the wrong kind or is too long.
-/

namespace Reckoner

/-- What a folder holds under a name. -/
inductive Entry where
  /-- A file. -/
  | file (bytes : Bytes)
  /-- An archive, by its members. -/
  | archive (format : Archive.Format) (members : List Archive.Member)
  /-- A directory. -/
  | directory
  deriving Repr

/-- The bytes of a file. What is not known by its bytes counts as empty. -/
def Entry.bytes : Entry → Bytes
  | .file bytes => bytes
  | .archive .. | .directory => []

/-- Why a file cannot be read or written. -/
inductive FileError where
  /-- No file is there. -/
  | notFound (path : Path)
  /-- A directory is there. -/
  | isDirectory (path : Path)
  /-- A name on the way is no directory. -/
  | notDirectory (path : Path)
  /-- A name, or the path as a whole, has more bytes than a file system stores. -/
  | tooLong (path : Path)
  /-- A name holds the null character, which no file system stores. -/
  | nullCharacter
  deriving DecidableEq, Repr

/-- The words for a file that cannot be read or written. -/
def FileError.message : FileError → String
  | .notFound path => "[Errno 2] No such file or directory: " ++ Text.quote path.text
  | .isDirectory path => "[Errno 21] Is a directory: " ++ Text.quote path.text
  | .notDirectory path => "[Errno 20] Not a directory: " ++ Text.quote path.text
  | .tooLong path => "[Errno 36] File name too long: " ++ Text.quote path.text
  | .nullCharacter => "embedded null byte"

/-- The place of an entry: the names that lead to it from the working directory, or from a root
that comes first and holds a slash. -/
abbrev Place := List (List Char)

/-- The entries of a file system that matter. -/
structure Folder where
  /-- The entries and their places. -/
  entries : List (Place × Entry)

namespace Folder

/-- The entry at a place. -/
def entry? (folder : Folder) (place : Place) : Option Entry := folder.entries.lookup place

/-- A place where paths start: the working directory or a root. -/
def isStart (place : Place) : Bool :=
  place.isEmpty || place == [Path.Root.slash.text] || place == [Path.Root.doubleSlash.text]

/-- A place holds a directory: paths start there, one was put there, or other entries lie
below. -/
def isDirectory (folder : Folder) (place : Place) : Bool :=
  isStart place || folder.entries.any fun (other, entry) =>
    match entry with
    | .directory => place.isPrefixOf other
    | _ => place.isPrefixOf other && other != place

/-- The place above. There is none above a root, and what lies above the working directory is not
known. -/
def above? (place : Place) : Option Place :=
  if place.isEmpty then none else if isStart place then some place else some place.dropLast

/-- The most bytes of a name. -/
def maxNameLength : Nat := 255

/-- The most bytes of a path. -/
def maxPathLength : Nat := 4095

/-- Characters whose encoding has more bytes than a bound. -/
def exceeds (bound : Nat) (chars : List Char) : Bool := bound < (Text.Utf8.encode chars).length

/-- The place that names lead to from another, if every name on the way is a directory. -/
def walk (folder : Folder) (path : Path) (place : Place) : List (List Char) → Except FileError Place
  | [] => .ok place
  | part :: rest =>
    if !folder.isDirectory place then
      .error (if (folder.entry? place).isSome then .notDirectory path else .notFound path)
    else if part = ['.', '.'] then
      match above? place with
      | some place => folder.walk path place rest
      | none => .error (.notFound path)
    else if exceeds maxNameLength part then .error (.tooLong path)
    else folder.walk path (place ++ [part]) rest

/-- The place where a path starts. -/
def startOf (path : Path) : Place := if path.root = .here then [] else [path.root.text]

/-- The place that a path names. -/
def place (folder : Folder) (path : Path) : Except FileError Place :=
  if path.chars.contains '\x00' then .error .nullCharacter
  else if exceeds maxPathLength path.chars then .error (.tooLong path)
  else folder.walk path (startOf path) path.parts

/-- The entry that a path names, which must not be a directory. -/
def read (folder : Folder) (path : Path) : Except FileError Entry :=
  match folder.place path with
  | .error error => .error error
  | .ok place =>
    if folder.isDirectory place then .error (.isDirectory path)
    else
      match folder.entry? place with
      | some entry => .ok entry
      | none => .error (.notFound path)

/-- Whether a path names something other than a directory; of a path that is too long this cannot
be told. -/
def isFile (folder : Folder) (path : Path) : Except FileError Bool :=
  match folder.read path with
  | .ok _ => .ok true
  | .error (.tooLong path) => .error (.tooLong path)
  | .error _ => .ok false

/-- Entries with a file put at a place, where the old one was or else last. -/
def put (place : Place) (bytes : Bytes) : List (Place × Entry) → List (Place × Entry)
  | [] => [(place, .file bytes)]
  | (other, entry) :: rest =>
    if other = place then (place, .file bytes) :: rest else (other, entry) :: put place bytes rest

/-- The folder after bytes were written to the file that a path names. -/
def write (folder : Folder) (path : Path) (bytes : Bytes) : Except FileError Folder :=
  match folder.place path with
  | .error error => .error error
  | .ok place =>
    if folder.isDirectory place then .error (.isDirectory path)
    else .ok ⟨put place bytes folder.entries⟩

end Folder

end Reckoner
