import Reckoner.Files.Folder
import Reckoner.Text.Line

/-!
# Batch input

The text of a batch comes from a text file or from the first text file of an archive. A text file
is read with every newline made a line feed, an archive as it is.
-/

namespace Reckoner

/-- Why a batch has no text. -/
inductive InputError where
  /-- The suffixes of the path are those of no archive. -/
  | unsupported (suffixes : String)
  /-- No bytes come out of the archive. -/
  | archive (error : Archive.ReadError)
  /-- The bytes are no archive of the format. -/
  | damaged
  /-- The bytes are no text. -/
  | undecodable (error : Text.Utf8.DecodeError)
  /-- The file cannot be read. -/
  | file (error : FileError)
  deriving DecidableEq, Repr

namespace InputError

/-- The words for a batch without a text. -/
def message : InputError → String
  | .unsupported suffixes => "📄❌ Unsupported archive format: " ++ suffixes
  | .archive (.noText format) => "📄❌ No .txt file found in " ++ format.label ++ " archive"
  | .archive (.unreadable name) => Text.quote name
  | .damaged => "damaged archive"
  | .undecodable error => error.message
  | .file error => error.message

end InputError

namespace Input

/-- The characters of encoded text. -/
def decode (bytes : Bytes) : Except InputError (List Char) :=
  match Text.Utf8.decode bytes with
  | .ok chars => .ok chars
  | .error error => .error (.undecodable error)

/-- The text of an archive that a path names. -/
def readArchive (folder : Folder) (path : Path) : Except InputError (List Char) :=
  match Archive.Format.ofSuffix? (Archive.suffix path) with
  | none => .error (.unsupported (String.ofList path.suffixes.flatten))
  | some format =>
    match folder.read path with
    | .error error => .error (.file error)
    | .ok (.archive found members) =>
      if found = format then
        match Archive.read format members with
        | .ok bytes => decode bytes
        | .error error => .error (.archive error)
      else .error .damaged
    | .ok _ => .error .damaged

/-- The text of a text file that a path names. -/
def readText (folder : Folder) (path : Path) : Except InputError (List Char) :=
  match folder.read path with
  | .error error => .error (.file error)
  | .ok (.file bytes) => (decode bytes).map Text.unifyNewlines
  | .ok _ => .error .damaged

/-- The text of the batch that a path names. -/
def load (folder : Folder) (path : Path) : Except InputError (List Char) :=
  if path.suffix = Archive.textSuffix then readText folder path else readArchive folder path

end Input

end Reckoner
