import Reckoner.CommandLine.Command
import Reckoner.Text.Digit
import Reckoner.Text.Quoted

/-!
# Arguments

How the words of a command line name a command. A word that begins with a hyphen is an option,
unless it is a negative number, holds a space or comes after the mark that ends the options; the
only option is the one that asks for help. Other words go to the parameters in order.
-/

namespace Reckoner.CommandLine

/-- Why words name no command. -/
inductive ArgumentError where
  /-- Parameters have no word. -/
  | missing (program : String) (names : List String)
  /-- No command is named so. -/
  | unknownCommand (word : String)
  /-- The option that asks for help was given a value. -/
  | ignoredValue (program value : String)
  /-- Some words are neither options nor taken by a parameter. -/
  | unrecognized (words : List String)
  deriving DecidableEq, Repr

namespace ArgumentError

/-- The program or command that refuses the words. -/
def program : ArgumentError → String
  | .missing program _ | .ignoredValue program _ => program
  | .unknownCommand _ | .unrecognized _ => programName

/-- The words for the reason. -/
def message : ArgumentError → String
  | .missing _ names => "the following arguments are required: " ++ ", ".intercalate names
  | .unknownCommand word =>
    "argument command: invalid choice: " ++ Text.quote word ++ " (choose from " ++
      ", ".intercalate (Verb.all.map fun verb => Text.quote verb.name) ++ ")"
  | .ignoredValue _ value => "argument -h/--help: ignored explicit argument " ++ Text.quote value
  | .unrecognized words => "unrecognized arguments: " ++ " ".intercalate words

end ArgumentError

/-- How the reading of words can end without a command. -/
inductive Stop where
  /-- Help was asked for. -/
  | help (text : String)
  /-- The words name no command. -/
  | refused (error : ArgumentError)
  deriving DecidableEq, Repr

/-- What a word is. -/
inductive Word where
  /-- A word for a parameter. -/
  | plain
  /-- The option that asks for help. -/
  | help
  /-- The option that asks for help, with a value. -/
  | valued (value : List Char)
  /-- An option that there is not. -/
  | unknown
  deriving DecidableEq, Repr

namespace Word

/-- The mark that ends the options. -/
def endOfOptions : String := "--"

/-- A decimal digit of any script. -/
def isDecimal (char : Char) : Bool := (Text.digitValue? char).isSome

/-- Digits, or a fraction: what a hyphen makes a negative number of. -/
def isMagnitude (chars : List Char) : Bool :=
  let whole := chars.takeWhile isDecimal
  match chars.dropWhile isDecimal with
  | [] => !whole.isEmpty
  | '.' :: fraction => !fraction.isEmpty && fraction.all isDecimal
  | _ => false

/-- A negative number; a line feed at its end does not matter. -/
def isNegative : List Char → Bool
  | '-' :: rest => isMagnitude (if rest.getLast? = some '\n' then rest.dropLast else rest)
  | _ => false

/-- What follows the hyphen and the letter of the short option: the same letter may be repeated, and
anything else is a value. -/
def short : List Char → Word
  | [] => .help
  | 'h' :: rest => short rest
  | value => .valued value

/-- The long option, possibly cut short, possibly with a value behind an equals sign. -/
def long? (chars : List Char) : Option Word :=
  let name := chars.takeWhile (· != '=')
  if name.isPrefixOf "--help".toList then
    some (match chars.drop name.length with
      | [] => .help
      | _ :: value => .valued value)
  else none

/-- The option that a word beginning with a hyphen is, if there is one. Behind the equals sign of the
short option its letter may be repeated, too. -/
def option? : List Char → Option Word
  | '-' :: '-' :: rest => long? ('-' :: '-' :: rest)
  | ['-', 'h', '='] => some (.valued [])
  | '-' :: 'h' :: '=' :: rest => some (short rest)
  | '-' :: 'h' :: rest => some (short rest)
  | _ => none

/-- What a word is. -/
def ofString (word : String) : Word :=
  let chars := word.toList
  if chars.head? != some '-' || chars.length = 1 then .plain
  else
    match option? chars with
    | some found => found
    | none => if isNegative chars || chars.contains ' ' then .plain else .unknown

end Word

/-- The words that parameters were given, and the words that were left over. -/
structure Filling where
  /-- The words of the parameters, in order. A parameter that was given the mark that ends the
  options has none. -/
  values : List (Option String)
  /-- The words that were left over. -/
  extras : List String
  deriving DecidableEq, Repr

namespace Filling

/-- A filling with one more parameter in front. -/
def withValue (value : Option String) (filling : Filling) : Filling :=
  { filling with values := value :: filling.values }

/-- A filling with one more word left over in front. -/
def withExtra (extra : String) (filling : Filling) : Filling :=
  { filling with extras := extra :: filling.extras }

/-- How words fill so many parameters after the end of the options. -/
def afterMark : Nat → List String → Filling
  | 0, words => ⟨[], words⟩
  | _, [] => ⟨[], []⟩
  | room + 1, word :: rest =>
    (afterMark room rest).withValue (if word = Word.endOfOptions then none else some word)

/-- How the mark that ends the options and the words behind it fill so many parameters. The mark
goes with the word of a parameter next to it, the one in front if there is one, and otherwise it is
left over. -/
def fromMark (adjacent : Bool) (room : Nat) (words : List String) : Filling :=
  if adjacent then afterMark room words
  else
    match room, words with
    | room + 1, word :: rest => (afterMark room rest).withValue (some word)
    | _, words => ⟨[], Word.endOfOptions :: words⟩

/-- How words fill so many parameters of a program with a help text; a parameter may have been
filled just before. -/
def ofWords (program help : String) (adjacent : Bool) (room : Nat) :
    List String → Except Stop Filling
  | [] => .ok ⟨[], []⟩
  | word :: rest =>
    if word = Word.endOfOptions then .ok (fromMark adjacent room rest)
    else
      match Word.ofString word with
      | .help => .error (.help help)
      | .valued value => .error (.refused (.ignoredValue program (String.ofList value)))
      | .unknown => (ofWords program help false room rest).map (withExtra word)
      | .plain =>
        match room with
        | 0 => (ofWords program help false 0 rest).map (withExtra word)
        | room + 1 => (ofWords program help true room rest).map (withValue (some word))

end Filling

/-- The command of words behind the word for it, and the words that were left over. -/
def Verb.parse (verb : Verb) (words : List String) : Except Stop (Command × List String) :=
  match Filling.ofWords verb.program verb.helpText false verb.parameters.length words with
  | .error stop => .error stop
  | .ok filling =>
    match verb.command? filling.values with
    | some command => .ok (command, filling.extras)
    | none =>
      .error (.refused (.missing verb.program
        ((verb.parameters.drop filling.values.length).map Parameter.name)))

/-- The command of a word and the words behind it, and the words that were left over. -/
def dispatch (name : String) (words : List String) : Except Stop (Command × List String) :=
  match Verb.ofName? name with
  | some verb => verb.parse words
  | none => .error (.refused (.unknownCommand name))

/-- The command that words name after options of the program, and the words that were left over. -/
def find : List String → Except Stop (Command × List String)
  | [] => .error (.refused (.missing programName ["command"]))
  | word :: rest =>
    if word = Word.endOfOptions then
      if rest.isEmpty then .error (.refused (.missing programName ["command"]))
      else .error (.refused (.unknownCommand word))
    else
      match Word.ofString word with
      | .help => .error (.help programHelp)
      | .valued value => .error (.refused (.ignoredValue programName (String.ofList value)))
      | .unknown => (find rest).map fun (command, extras) => (command, word :: extras)
      | .plain => dispatch word rest

/-- The command that words name. -/
def parse (words : List String) : Except Stop Command :=
  match find words with
  | .error stop => .error stop
  | .ok (command, extras) =>
    if extras.isEmpty then .ok command else .error (.refused (.unrecognized extras))

end Reckoner.CommandLine
