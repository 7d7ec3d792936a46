import Reckoner.Expression.Token
import Reckoner.Text.Blank

/-!
# From text to tokens

Blanks mean nothing, not even inside a number. What is left is cut into maximal runs of digits and
points, which become number tokens unread, and single characters. A minus where an operand should
begin is then written out as a difference from zero.
-/

namespace Reckoner.Expression

/-- The characters of a text that are not blank, each with its position. -/
def significant (text : List Char) : List (Char × Nat) :=
  text.zipIdx.filter fun entry => !Text.isBlank entry.1

/-- A character of a number token. -/
def isNumeric (char : Char) : Bool := Text.isDigit char || char == '.'

/-- The token of a character outside numbers. -/
def symbolToken (char : Char) (position : Nat) : Except Failure Token :=
  if (Operator.ofSymbol? (String.singleton char)).isSome then
    Token.operator (String.singleton char) false
  else if char = '(' then .ok Token.lparen
  else if char = ')' then .ok Token.rparen
  else .error (.fault (.unexpectedCharacter char position))

/-- The number token of a run of characters, last first, in front of tokens; an empty run adds
none. -/
def closeRun (run : List Char) (tokens : List Token) : List Token :=
  if run.isEmpty then tokens else Token.number (String.ofList run.reverse) :: tokens

/-- The tokens of characters that follow a run of number characters, last first. -/
def scanFrom (run : List Char) : List (Char × Nat) → Except Failure (List Token)
  | [] => .ok (closeRun run [])
  | (char, position) :: rest =>
    if isNumeric char then scanFrom (char :: run) rest
    else do
      let token ← symbolToken char position
      let tokens ← scanFrom [] rest
      return closeRun run (token :: tokens)

/-- The tokens of a text as they are written. -/
def scan (text : String) : Except Failure (List Token) :=
  let chars := significant text.toList
  if chars.isEmpty then .error (.fault .emptyExpression) else scanFrom [] chars

/-- An operand begins at the start, after an operator and after an opening parenthesis. -/
def beginsOperand : Option Token → Bool
  | none => true
  | some previous => previous.kind == .operator || previous.kind == .lparen

/-- A minus. -/
def isMinus (token : Token) : Bool := token.kind == .operator && token.text == "-"

/-- Tokens with every minus in front of an operand written out as a difference from zero. -/
def expandMinus (previous : Option Token) : List Token → List Token
  | [] => []
  | token :: rest =>
    if isMinus token && beginsOperand previous then
      Token.number "0" :: ⟨.operator, "-", true⟩ :: expandMinus (some token) rest
    else token :: expandMinus (some token) rest

/-- The tokens of a text. -/
def tokenize (text : String) : Except Failure (List Token) := (scan text).map (expandMinus none)

end Reckoner.Expression
