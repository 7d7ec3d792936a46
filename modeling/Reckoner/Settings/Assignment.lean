import Reckoner.Text.Blank
import Reckoner.Text.Line

/-!
# Assignments

A file of assignments gives values to names, one assignment to a statement. Names and values may be
quoted, and a quoted value may go over several lines; comments begin with a number sign. A statement
that cannot be read is passed over up to the end of its line.
-/

namespace Reckoner

/-- A statement of a file of assignments: a name, and its value if it is given one. -/
structure Assignment where
  /-- The name. -/
  name : String
  /-- The value. -/
  value? : Option String
  deriving DecidableEq, Repr

namespace Assignment

/-- A blank inside a line. -/
def isGap (char : Char) : Bool := Text.isBlank char && char != '\n'

/-- Characters without the blanks of a line in front. -/
def skipGap (chars : List Char) : List Char := chars.dropWhile isGap

/-- What follows the line that characters begin with. -/
def nextLine (chars : List Char) : List Char := (chars.dropWhile (· != '\n')).drop 1

/-- Characters without the word that may stand before a name. -/
def skipExport (chars : List Char) : List Char :=
  let rest := chars.drop 6
  if "export".toList.isPrefixOf chars && rest.head?.any isGap then skipGap rest else chars

/-- A character of a name that is not quoted. -/
def isNameChar (char : Char) : Bool := char != '=' && char != '#' && !Text.isBlank char

/-- A name, quoted or not, and what follows it; a comment has none. -/
def readName? (chars : List Char) : Option (Option (List Char) × List Char) :=
  match chars with
  | '#' :: _ => some (none, chars)
  | '\'' :: quoted =>
    let name := quoted.takeWhile (· != '\'')
    match quoted.dropWhile (· != '\'') with
    | [] => none
    | _ :: rest => if name.isEmpty then none else some (some name, rest)
  | _ =>
    let name := chars.takeWhile isNameChar
    if name.isEmpty then none else some (some name, chars.dropWhile isNameChar)

/-- The inside of a quoted value, and what follows the closing quote. The value ends at the first
quote in front of which no backslash is left over; a backslash takes the character behind it. -/
def readQuoted? (mark : Char) : List Char → Option (List Char × List Char)
  | [] => none
  | '\\' :: char :: rest =>
    (readQuoted? mark rest).map fun (inside, after) => ('\\' :: char :: inside, after)
  | char :: rest =>
    if char = mark then some ([], rest)
    else (readQuoted? mark rest).map fun (inside, after) => (char :: inside, after)

/-- The character of an escape in a value in single quotes. -/
def singleEscape? (char : Char) : Option Char :=
  if char = '\\' ∨ char = '\'' then some char else none

/-- The character of an escape in a value in double quotes. -/
def doubleEscape? (char : Char) : Option Char :=
  if char = '\\' ∨ char = '\'' ∨ char = '"' then some char
  else if char = 'a' then some '\x07'
  else if char = 'b' then some '\x08'
  else if char = 'f' then some '\x0c'
  else if char = 'n' then some '\n'
  else if char = 'r' then some '\r'
  else if char = 't' then some '\t'
  else if char = 'v' then some '\x0b'
  else none

/-- Characters with the escapes of a kind resolved; any other backslash stays. -/
def unescape (escape? : Char → Option Char) : List Char → List Char
  | [] => []
  | '\\' :: char :: rest =>
    match escape? char with
    | some meant => meant :: unescape escape? rest
    | none => '\\' :: unescape escape? (char :: rest)
  | char :: rest => char :: unescape escape? rest

/-- A value that is not quoted, up to the first number sign behind a blank. -/
def untilComment : List Char → List Char
  | [] => []
  | [char] => [char]
  | char :: next :: rest =>
    if Text.isBlank char && next == '#' then [] else char :: untilComment (next :: rest)

/-- A value from behind its equals sign, and what follows it. -/
def readValue? (chars : List Char) : Option (List Char × List Char) :=
  match skipGap chars with
  | '\'' :: quoted =>
    (readQuoted? '\'' quoted).map fun (inside, rest) => (unescape singleEscape? inside, rest)
  | '"' :: quoted =>
    (readQuoted? '"' quoted).map fun (inside, rest) => (unescape doubleEscape? inside, rest)
  | _ =>
    some (Text.trim (untilComment (chars.takeWhile (· != '\n'))), chars.dropWhile (· != '\n'))

/-- What follows the line, if only blanks and a comment are left of it. -/
def endLine? (chars : List Char) : Option (List Char) :=
  match skipGap chars with
  | [] => some []
  | '\n' :: rest => some rest
  | '#' :: rest => some (nextLine rest)
  | _ => none

/-- The assignment of a name and the value that may have been read. -/
def of (name? value? : Option (List Char)) : Option Assignment :=
  name?.map fun name => ⟨String.ofList name, value?.map String.ofList⟩

/-- The end of a statement: the assignment, if nothing else is left of the line. -/
def finish (assignment? : Option Assignment) (chars : List Char) : Option Assignment × List Char :=
  match endLine? chars with
  | some rest => (assignment?, rest)
  | none => (none, nextLine chars)

/-- The statement that characters begin with, and what follows it. -/
def readStatement (chars : List Char) : Option Assignment × List Char :=
  let start := skipExport chars
  match readName? start with
  | none => (none, nextLine start)
  | some (name?, rest) =>
    match skipGap rest with
    | '=' :: rest =>
      match readValue? rest with
      | none => (none, nextLine rest)
      | some (value, rest) => finish (of name? (some value)) rest
    | rest => finish (of name? none) rest

/-- The assignments of characters with at most so many statements. -/
def readAll : Nat → List Char → List Assignment
  | 0, _ => []
  | fuel + 1, chars =>
    match chars.dropWhile Text.isBlank with
    | [] => []
    | first :: rest =>
      let (assignment?, after) := readStatement (first :: rest)
      assignment?.toList ++ readAll fuel after

/-- Characters without the byte order mark in front. -/
def skipMark : List Char → List Char
  | '\ufeff' :: rest => rest
  | chars => chars

/-- The assignments of a file. Every statement takes at least one character. -/
def parse (chars : List Char) : List Assignment :=
  let chars := Text.unifyNewlines (skipMark chars)
  readAll chars.length chars

end Assignment

end Reckoner
