import Reckoner.CommandLine.Run

/-!
# The program

The outer layer of the command line: it looks at the files and variables that a command depends on,
runs the command on them and carries out what the run leaves.
-/

namespace Reckoner.Main

open CommandLine

/-- A name of the file system for a place. -/
def nameOf (place : Place) : String :=
  if place.isEmpty then "."
  else
    match place with
    | first :: rest =>
      if Folder.isStart [first] then String.ofList (first ++ Text.join '/' rest)
      else String.ofList (Text.join '/' place)
    | [] => "."

/-- What the file system holds at a place. -/
def look (place : Place) : IO (Option Entry) := do
  if ← (System.mkFilePath [nameOf place]).isDir then return some .directory
  else
    try
      return some (.file (← IO.FS.readBinFile (nameOf place)).toList)
    catch _ => return none

/-- The places on the way to what a path names, and that place itself. -/
def placesOf (path : Path) : List Place :=
  let step (places : List Place) (part : List Char) : List Place :=
    let last := places.headD []
    (if part = ['.', '.'] then (Folder.above? last).getD last else last ++ [part]) :: places
  (path.parts.foldl step [Folder.startOf path]).reverse

/-- The entries at the places of paths. -/
def snapshot (paths : List Path) : IO Folder := do
  let mut entries : List (Place × Entry) := []
  for place in paths.flatMap placesOf do
    if (entries.lookup place).isNone then
      if let some entry ← look place then
        entries := entries ++ [(place, entry)]
  return ⟨entries⟩

/-- Writes the files of a folder that another did not hold. -/
def carryOut (before after : Folder) : IO Unit := do
  for (place, entry) in after.entries do
    match entry, before.entry? place with
    | .file new, some (.file old) =>
      if new != old then IO.FS.writeBinFile (nameOf place) ⟨new.toArray⟩
    | .file new, _ => IO.FS.writeBinFile (nameOf place) ⟨new.toArray⟩
    | _, _ => pure ()

/-- The variable of a line that gives a value to a name. -/
def variableOf? (line : List Char) : Option (String × Option String) :=
  match line.dropWhile (· != '=') with
  | _ :: value => some (String.ofList (line.takeWhile (· != '=')), some (String.ofList value))
  | [] => none

/-- The variables of the environment, as the system lists them. -/
def environment : IO Variables := do
  try
    let bytes ← IO.FS.readBinFile "/proc/self/environ"
    match Text.Utf8.decode bytes.toList with
    | .ok chars => return (Text.split '\x00' chars).filterMap variableOf?
    | .error _ => return []
  catch _ => return []

/-- How many workers the machine can run at one time: as many as it lists processors. -/
def workers : IO { value : Nat // 0 < value } := do
  let count ← try
      let lines ← IO.FS.lines "/proc/cpuinfo"
      pure (lines.toList.countP fun line => "processor".toList.isPrefixOf line.toList)
    catch _ => pure 0
  return ⟨max 1 count, Nat.lt_of_lt_of_le Nat.zero_lt_one (Nat.le_max_left 1 count)⟩

/-- Twelve random bytes. -/
def randomNonce : IO Nonce := do
  let bytes := (← IO.getRandomBytes 12).toList
  return Vector.ofFn fun index => bytes.getD index.val 0

/-- Runs the program on its words. -/
def run (words : List String) : IO UInt32 := do
  let paths := assignmentsPath :: (match parse words with
    | .ok command => command.paths
    | .error _ => [])
  let folder ← snapshot paths
  let result := CommandLine.run ⟨← environment, folder, ← randomNonce, ← workers⟩ words
    (some (Checked.summary "NotePayload"))
  carryOut folder result.folder
  for line in result.log do
    IO.eprintln line
  if let some complaint := result.complaint then
    IO.eprintln complaint
  IO.print result.output
  match result.ending with
  | .exit code => return UInt32.ofNat code
  | .fault fault =>
    IO.eprintln fault.message
    return 1

end Reckoner.Main

/-- The entry point of the program. -/
def main (words : List String) : IO UInt32 := Reckoner.Main.run words
