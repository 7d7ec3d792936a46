import Reckoner.Text.Quoted

/-!
# JSON strings

A string is written with escapes for the quote, the backslash and the controls, and every other
character as itself. A string is read with every escape of the format.
-/

namespace Reckoner.Json

/-- One character inside a written string. -/
def escapeChar (char : Char) : List Char :=
  if char = '"' then ['\\', '"']
  else if char = '\\' then ['\\', '\\']
  else if char = '\x08' then ['\\', 'b']
  else if char = '\x0c' then ['\\', 'f']
  else if char = '\n' then ['\\', 'n']
  else if char = '\r' then ['\\', 'r']
  else if char = '\t' then ['\\', 't']
  else if char.toNat < 0x20 then '\\' :: 'u' :: Text.hexPadded 4 char.toNat
  else [char]

/-- A written string. -/
def writeString (text : String) : List Char :=
  '"' :: (text.toList.flatMap escapeChar ++ ['"'])

/-- The value of a hexadecimal digit. -/
def hexDigit? (char : Char) : Option Nat :=
  if '0' ≤ char && char ≤ '9' then some (char.toNat - '0'.toNat)
  else if 'a' ≤ char && char ≤ 'f' then some (char.toNat - 'a'.toNat + 10)
  else if 'A' ≤ char && char ≤ 'F' then some (char.toNat - 'A'.toNat + 10)
  else none

/-- The value of four hexadecimal digits. -/
def hexUnit? (first second third fourth : Char) : Option Nat := do
  let first ← hexDigit? first
  let second ← hexDigit? second
  let third ← hexDigit? third
  let fourth ← hexDigit? fourth
  return ((first * 16 + second) * 16 + third) * 16 + fourth

/-- The character of a short escape. -/
def shortEscape? (mark : Char) : Option Char :=
  if mark = '"' ∨ mark = '\\' ∨ mark = '/' then some mark
  else if mark = 'b' then some '\x08'
  else if mark = 'f' then some '\x0c'
  else if mark = 'n' then some '\n'
  else if mark = 'r' then some '\r'
  else if mark = 't' then some '\t'
  else none

/-- The character of two surrogates, if they are a high and a low one. -/
def surrogatePair? (high low : Nat) : Option Char :=
  if 0xd800 ≤ high ∧ high < 0xdc00 ∧ 0xdc00 ≤ low ∧ low < 0xe000 then
    some (Char.ofNat (0x10000 + (high - 0xd800) * 0x400 + (low - 0xdc00)))
  else none

/-- The characters of a string from behind its opening quote, and what follows its closing quote.
A control character, an unknown escape and a lone surrogate end the reading. -/
def readString? : List Char → Option (List Char × List Char)
  | [] => none
  | char :: rest =>
    if char = '"' then some ([], rest)
    else if char = '\\' then
      match rest with
      | 'u' :: first :: second :: third :: fourth :: rest =>
        match hexUnit? first second third fourth with
        | none => none
        | some code =>
          if code < 0xd800 ∨ 0xe000 ≤ code then
            (readString? rest).map fun (chars, after) => (Char.ofNat code :: chars, after)
          else
            match rest with
            | '\\' :: 'u' :: fifth :: sixth :: seventh :: eighth :: rest =>
              match (hexUnit? fifth sixth seventh eighth).bind (surrogatePair? code) with
              | none => none
              | some char => (readString? rest).map fun (chars, after) => (char :: chars, after)
            | _ => none
      | mark :: rest =>
        match shortEscape? mark with
        | none => none
        | some char => (readString? rest).map fun (chars, after) => (char :: chars, after)
      | [] => none
    else if char.toNat < 0x20 then none
    else (readString? rest).map fun (chars, after) => (char :: chars, after)

end Reckoner.Json
