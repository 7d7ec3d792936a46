/-!
# Commands

What the program can be told to do, and how the words for it are shown in its help.
-/

namespace Reckoner.CommandLine

/-- What the program can be told to do. -/
inductive Command where
  /-- Evaluate one expression. -/
  | evaluate (expression : String)
  /-- Evaluate a file of expressions through a server. -/
  | batch (path : String)
  /-- Seal a text note into a file, if one is named. -/
  | sealNote (text : String) (output : Option String)
  /-- Open a sealed note. -/
  | openNote (path : String)
  deriving DecidableEq, Repr

/-- A word that a command takes. -/
structure Parameter where
  /-- What stands for the word. -/
  name : String
  /-- What the word means. -/
  help : String
  deriving DecidableEq, Repr

/-- The commands, without the words that they take. -/
inductive Verb where
  /-- Evaluate one expression. -/
  | evaluate
  /-- Evaluate a file of expressions through a server. -/
  | batch
  /-- Seal a text note into a file. -/
  | sealNote
  /-- Open a sealed note. -/
  | openNote
  deriving DecidableEq, Repr

/-- The name of the program. -/
def programName : String := "calcnote"

namespace Verb

/-- All commands, in the order of the help. -/
def all : List Verb := [.evaluate, .batch, .sealNote, .openNote]

/-- The word for a command. -/
def name : Verb → String
  | .evaluate => "eval"
  | .batch => "batch"
  | .sealNote => "note-seal"
  | .openNote => "note-open"

/-- The command of a word. -/
def ofName? (name : String) : Option Verb := all.find? fun verb => verb.name == name

/-- What a command does. -/
def help : Verb → String
  | .evaluate => "Evaluate one arithmetic expression"
  | .batch => "Evaluate a file of expressions through the server"
  | .sealNote => "Encrypt a text note into a file"
  | .openNote => "Decrypt a sealed note and print it"

/-- The words that a command takes. -/
def parameters : Verb → List Parameter
  | .evaluate => [⟨"expression", "Expression, e.g. '2*(3+4)/5'"⟩]
  | .batch => [⟨"file_path", "Path to the file containing arithmetic operations"⟩]
  | .sealNote => [⟨"text", "Note text"⟩, ⟨"output", "Where to write the sealed note"⟩]
  | .openNote => [⟨"sealed_path", "Path of a sealed note"⟩]

/-- The command with the words that it takes, if they are as many. Only the last of several may lack
its word. -/
def command? : Verb → List (Option String) → Option Command
  | .evaluate, [some expression] => some (.evaluate expression)
  | .batch, [some path] => some (.batch path)
  | .sealNote, [some text, output] => some (.sealNote text output)
  | .openNote, [some path] => some (.openNote path)
  | _, _ => none

/-- The name of the program, told to run a command. -/
def program (verb : Verb) : String := programName ++ " " ++ verb.name

end Verb

/-! ## Help -/

/-- A text with spaces behind it, up to a width. -/
def padTo (width : Nat) (text : String) : String :=
  text ++ String.ofList (List.replicate (width - text.length) ' ')

/-- Lines, each ended. -/
def endLines (lines : List String) : String := String.join (lines.map (· ++ "\n"))

/-- The option that asks for help. -/
def helpOption : Parameter := ⟨"-h, --help", "show this help message and exit"⟩

/-- A line of help for a word, in a column of a width. -/
def Parameter.line (indent : String) (width : Nat) (parameter : Parameter) : String :=
  indent ++ padTo width parameter.name ++ "  " ++ parameter.help

/-- The help of a command. The column of names is as wide as the longest name. -/
def Verb.helpText (verb : Verb) : String :=
  let width := ((helpOption :: verb.parameters).map fun parameter => parameter.name.length).foldl
    max 0
  endLines
    (["usage: " ++ verb.program ++ " [-h]" ++
        String.join (verb.parameters.map fun parameter => " " ++ parameter.name),
      "", "positional arguments:"] ++ verb.parameters.map (Parameter.line "  " width) ++
      ["", "options:", helpOption.line "  " width])

/-- The words for all commands, in braces. -/
def verbNames : String := "\x7b" ++ ",".intercalate (Verb.all.map Verb.name) ++ "\x7d"

/-- The help of the program. -/
def programHelp : String :=
  endLines
    (["usage: " ++ programName ++ " [-h] " ++ verbNames ++ " ...", "",
      "Calculator and encrypted notes", "", "positional arguments:", "  " ++ verbNames] ++
      Verb.all.map (fun verb => Parameter.line "    " 18 ⟨verb.name, verb.help⟩) ++
      ["", "options:", helpOption.line "  " 20])

end Reckoner.CommandLine
