import Reckoner.Batch.ResultsPath
import Reckoner.Batch.Server
import Reckoner.CommandLine.Arguments
import Reckoner.Notes.Vault
import Reckoner.Settings.Basic

/-!
# Running a command

What the program does when it is told something: first it reads the words, then the settings, then
the level of the log, and then it runs the command. A run ends with an exit code, or with a fault
that nothing catches.
-/

namespace Reckoner.CommandLine

/-- What a run depends on besides its words. -/
structure Surroundings where
  /-- The variables of the environment. -/
  environment : Variables
  /-- The files. -/
  folder : Folder
  /-- A nonce that was never used before. -/
  nonce : Nonce
  /-- How many workers the machine can run at one time. -/
  workers : { value : Nat // 0 < value }

/-- What ends a run early. -/
inductive Fault where
  /-- No file is named. -/
  | unnamedFile
  /-- The file of assignments is no text. -/
  | assignments (error : Text.Utf8.DecodeError)
  /-- The level of the log is unknown. -/
  | level (error : Log.UnknownLevel)
  /-- The path of the input has no name. -/
  | name (error : EmptyName)
  /-- The batch has no text. -/
  | input (error : InputError)
  /-- A file cannot be read or written. -/
  | file (error : FileError)
  deriving DecidableEq, Repr

/-- The words for a fault. -/
def Fault.message : Fault → String
  | .unnamedFile => "expected str, bytes or os.PathLike object, not list"
  | .assignments error => error.message
  | .level error => error.message
  | .name error => error.message
  | .input error => error.message
  | .file error => error.message

/-- How a run ends. -/
inductive Ending where
  /-- With an exit code. -/
  | exit (code : Nat)
  /-- With a fault. -/
  | fault (fault : Fault)
  deriving DecidableEq, Repr

/-- What a run leaves. -/
structure Run where
  /-- How it ended. -/
  ending : Ending
  /-- What was printed. -/
  output : String
  /-- What was said about a wrong use of the program. -/
  complaint : Option String
  /-- The files. -/
  folder : Folder
  /-- The lines of the log. -/
  log : List String

namespace Run

/-- A run that ended without an effect. -/
def quiet (ending : Ending) (folder : Folder) : Run := ⟨ending, "", none, folder, []⟩

/-- A run that ended after it printed something. -/
def printed (code : Nat) (output : String) (folder : Folder) : Run :=
  ⟨.exit code, output, none, folder, []⟩

/-- A run of a program or command that was used wrongly. -/
def complained (program message : String) (folder : Folder) : Run :=
  ⟨.exit 2, "", some (program ++ ": error: " ++ message), folder, []⟩

/-- A run of the program that was given something wrong. -/
def refused (message : String) (folder : Folder) : Run := complained programName message folder

/-- A run whose reading of words stopped. -/
def ofStop (stop : Stop) (folder : Folder) : Run :=
  match stop with
  | .help text => printed 0 text folder
  | .refused error => complained error.program error.message folder

end Run

/-! ## Commands -/

/-- Evaluates one expression and prints its result or what is wrong with it. -/
def evaluate (expression : String) (folder : Folder) : Run :=
  match Expression.evaluate expression with
  | .ok result => .printed 0 ("= " ++ result ++ "\n") folder
  | .error failure => .printed 1 ("Error: " ++ failure.message ++ "\n") folder

/-- Evaluates a file of expressions through a server that runs as long as its client, and prints
where the results are. How the client reaches the server is given. -/
def batchThrough (reach : Server → Client.Peer) (settings : Settings) (logger : Log.Logger)
    (folder : Folder) (path : Path) : Run :=
  match folder.isFile path with
  | .error error => .quiet (.fault (.file error)) folder
  | .ok false => .refused (Checked.summary "BatchArgs" [⟨["file_path"], .notFile⟩]) folder
  | .ok true =>
    match ResultsPath.ofInput path with
    | .error error => .quiet (.fault (.name error)) folder
    | .ok output =>
      let run := Client.send ⟨settings.endpoint⟩ (reach (settings.server output)) folder path output
      let log := logger.lines run.records
      match run.raised with
      | some error => ⟨.fault (.input error), "", none, run.folder, log⟩
      | none => ⟨.exit 0, output.text ++ "\n", none, run.folder, log⟩

/-- Evaluates a file of expressions through a server on this machine, whose workers report
promptly. -/
def batch (settings : Settings) (logger : Log.Logger) (surroundings : Surroundings)
    (path : Path) : Run :=
  let setting := Server.Setting.orderly surroundings.workers Address.loopback.text
  batchThrough (fun server => server.asPeer setting) settings logger surroundings.folder path

/-- The vault that the settings have the key of, or the words for why there is none. -/
def vaultOf (settings : Settings) : Except String Vault :=
  match settings.key with
  | .error error => .error error.message
  | .ok key => (Vault.ofBytes key.bytes).mapError (Checked.summary "NoteVault")

/-- Seals a text note into a file with a vault. -/
def sealWith (vault : Vault) (logger : Log.Logger) (surroundings : Surroundings) (text : String)
    (output : Path) : Run :=
  let folder := surroundings.folder
  match Payload.ofFields .text (some text) none none with
  | .error issues => .refused (Checked.summary "NotePayload" issues) folder
  | .ok payload =>
    match folder.write output (vault.lock surroundings.nonce payload) with
    | .error .nullCharacter => .refused FileError.nullCharacter.message folder
    | .error error => .quiet (.fault (.file error)) folder
    | .ok folder =>
      ⟨.exit 0, "", none, folder,
        logger.lines [Log.info ("🔐 Note sealed into " ++ output.text)]⟩

/-- Seals a text note into a file. -/
def sealNote (settings : Settings) (logger : Log.Logger) (surroundings : Surroundings)
    (text : String) (output : Path) : Run :=
  match vaultOf settings with
  | .error message => .refused message surroundings.folder
  | .ok vault => sealWith vault logger surroundings text output

/-- Opens a sealed note with a vault and prints it. What is wrong with a plaintext is reported in
the log. -/
def openWith (vault : Vault) (logger : Log.Logger) (folder : Folder) (path : Path)
    (report? : Option IssueReport) : Run :=
  match folder.read path with
  | .error error => .quiet (.fault (.file error)) folder
  | .ok entry =>
    match vault.unlock entry.bytes with
    | .ok payload => .printed 0 (payload.shown ++ "\n") folder
    | .error error =>
      ⟨.exit 1, "", none, folder, logger.lines
        [Log.error ("🔐❌ Could not open " ++ path.text ++ ": " ++ error.message report?)]⟩

/-- Opens a sealed note and prints it. -/
def openNote (settings : Settings) (logger : Log.Logger) (folder : Folder) (path : Path)
    (report? : Option IssueReport) : Run :=
  match folder.isFile path with
  | .error error => .quiet (.fault (.file error)) folder
  | .ok false => .refused (Checked.summary "NoteOpenArgs" [⟨["sealed_path"], .notFile⟩]) folder
  | .ok true =>
    match vaultOf settings with
    | .error message => .refused message folder
    | .ok vault => openWith vault logger folder path report?

/-- Runs a command. -/
def runCommand (settings : Settings) (logger : Log.Logger) (surroundings : Surroundings)
    (report? : Option IssueReport) : Command → Run
  | .evaluate expression => evaluate expression surroundings.folder
  | .batch path => batch settings logger surroundings (.ofText path)
  | .sealNote text (some output) => sealNote settings logger surroundings text (.ofText output)
  | .sealNote _ none => .quiet (.fault .unnamedFile) surroundings.folder
  | .openNote path => openNote settings logger surroundings.folder (.ofText path) report?

/-- The paths that a command reads or writes. -/
def Command.paths : Command → List Path
  | .evaluate _ | .sealNote _ none => []
  | .batch path =>
    let input := Path.ofText path
    match ResultsPath.ofInput input with
    | .ok output => [input, output]
    | .error _ => [input]
  | .sealNote _ (some output) => [Path.ofText output]
  | .openNote path => [Path.ofText path]

/-! ## The program -/

/-- The file of assignments. -/
def assignmentsPath : Path := .ofText ".env"

/-- The text of the file of assignments; empty when there is none. -/
def assignments (folder : Folder) : Except Text.Utf8.DecodeError (List Char) :=
  match folder.read assignmentsPath with
  | .ok (.file bytes) => Text.Utf8.decode bytes
  | _ => .ok []

/-- Runs the program. What is wrong with the plaintext of a note is told in the words of a report,
if there is one. -/
def run (surroundings : Surroundings) (words : List String)
    (report? : Option IssueReport := none) : Run :=
  let folder := surroundings.folder
  match parse words with
  | .error stop => .ofStop stop folder
  | .ok command =>
    match assignments folder with
    | .error error => .quiet (.fault (.assignments error)) folder
    | .ok file =>
      match Settings.ofSources [] surroundings.environment file with
      | .error issues =>
        .refused ("invalid configuration: " ++ Checked.summary "Settings" issues) folder
      | .ok settings =>
        match Log.Logger.ofName settings.level with
        | .error error => .quiet (.fault (.level error)) folder
        | .ok logger => runCommand settings logger surroundings report? command

end Reckoner.CommandLine
