import Reckoner.Files.Path
import Reckoner.Text.Utf8

/-!
# Archives

An archive is a list of members. The text of an archive is its first member with the suffix of a
text file, and each format has its own way to list members and to look one up.
-/

namespace Reckoner

/-- What an archive holds under a name. -/
inductive Archive.Content where
  /-- A regular file. -/
  | file (bytes : Bytes)
  /-- A directory. -/
  | directory
  /-- A link to another name. -/
  | link (target : String)
  deriving DecidableEq, Repr

/-- A member of an archive. -/
structure Archive.Member where
  /-- The name. -/
  name : String
  /-- What the archive holds under it. -/
  content : Archive.Content
  deriving DecidableEq, Repr

/-- The formats of archives. -/
inductive Archive.Format where
  /-- Members are listed with a slash after directories, and the last of a name is looked up. -/
  | zip
  /-- Only regular files are listed, and the last of a name is looked up. -/
  | tarXz
  /-- All members are listed, by the texts of their paths, and the first of a name is looked up. -/
  | sevenZip
  deriving DecidableEq, Repr

namespace Archive

/-- The suffix of a format. -/
def Format.suffix : Format → List Char
  | .zip => ".zip".toList
  | .tarXz => ".tar.xz".toList
  | .sevenZip => ".7z".toList

/-- The word for a format. -/
def Format.label : Format → String
  | .zip => "zip"
  | .tarXz => "tar.xz"
  | .sevenZip => "7z"

/-- The format of a suffix. -/
def Format.ofSuffix? (suffix : List Char) : Option Format :=
  [Format.zip, .tarXz, .sevenZip].find? fun format => format.suffix == suffix

/-- The suffix that tells the format of an archive: the last of a path, or its last two when they
are those of a compressed tape archive. -/
def suffix (path : Path) : List Char :=
  let suffixes := path.suffixes
  if suffixes.drop (suffixes.length - 2) = [".tar".toList, ".xz".toList] then ".tar.xz".toList
  else path.suffix

/-- The suffix of a text file. -/
def textSuffix : List Char := ".txt".toList

/-- The name of a text file. -/
def isText (name : String) : Bool := textSuffix.isSuffixOf name.toList

/-- A regular file. -/
def Content.isFile : Content → Bool
  | .file _ => true
  | _ => false

/-- The bytes of a member that is no directory; those of a link are its target. -/
def Content.bytes? : Content → Option Bytes
  | .file bytes => some bytes
  | .directory => none
  | .link target => some (Text.Utf8.encode target.toList)

/-- The members that a format lists, under the names that it lists. -/
def Format.listing (format : Format) (members : List Member) : List Member :=
  match format with
  | .zip => members.map fun member =>
      if member.content = .directory ∧ ¬ ['/'].isSuffixOf member.name.toList then
        { member with name := member.name ++ "/" }
      else member
  | .tarXz => members.filter fun member => member.content.isFile
  | .sevenZip => members.map fun member => { member with name := (Path.ofText member.name).text }

/-- The member that a format finds under a listed name. -/
def Format.lookUp? (format : Format) (name : String) (listing : List Member) : Option Member :=
  match format with
  | .zip | .tarXz => listing.reverse.find? fun member => member.name == name
  | .sevenZip => listing.find? fun member => member.name == name

/-- Why no bytes come out of an archive. -/
inductive ReadError where
  /-- No member is a text file. -/
  | noText (format : Format)
  /-- The member cannot be read. -/
  | unreadable (name : String)
  deriving DecidableEq, Repr

/-- The bytes of the first text file of an archive. -/
def read (format : Format) (members : List Member) : Except ReadError Bytes :=
  let listing := format.listing members
  match listing.find? fun member => isText member.name with
  | none => .error (.noText format)
  | some first =>
    match (format.lookUp? first.name listing).bind fun member => member.content.bytes? with
    | some bytes => .ok bytes
    | none => .error (.unreadable first.name)

end Archive

end Reckoner
