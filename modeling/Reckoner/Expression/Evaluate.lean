import Reckoner.Expression.Postfix
import Reckoner.Expression.Scan
import Reckoner.Number.Literal

/-!
# Evaluation

Tokens in postfix order are evaluated on a stack of numbers. A text is evaluated by way of its
tokens and their postfix order, and its value is written as a plain decimal.
-/

namespace Reckoner.Expression

/-- The number of a number token, which must be finite unless it is no number at all. -/
def readNumber (text : String) : Except Failure Binary64 :=
  match Literal.parse? text.toList with
  | some value =>
    if value.isInfinite then .error (.fault (.invalidNumber text)) else .ok value
  | none => .error (.fault (.invalidNumber text))

/-- The value of an operator token on two numbers. A division by zero is found before the operator
is looked up. -/
def applySymbol (symbol : String) (left right : Binary64) : Except Failure Binary64 :=
  if symbol = "/" ∧ right.isZero = true then .error (.fault .divisionByZero)
  else
    match Operator.ofSymbol? symbol with
    | some operator => operator.apply left right
    | none => .error (.unlistedOperator symbol)

/-- The stack after one more token. The number pushed last is the right operand. -/
def step (stack : List Binary64) (token : Token) : Except Failure (List Binary64) :=
  match token.kind with
  | .number => (readNumber token.text).map (· :: stack)
  | .operator =>
    match stack with
    | right :: left :: rest => (applySymbol token.text left right).map (· :: rest)
    | _ => .error (.fault (.insufficientOperands token.text))
  | .lparen | .rparen => .error (.fault .mismatchedParentheses)

/-- The stack after all tokens. -/
def run (stack : List Binary64) (tokens : List Token) : Except Failure (List Binary64) :=
  tokens.foldlM step stack

/-- The value that a final stack holds: exactly one, and finite. -/
def conclude : List Binary64 → Except Failure Binary64
  | [value] => if value.isFinite then .ok value else .error (.fault (.invalidResult value))
  | stack => .error (.fault (.malformedExpression stack.length))

/-- The value of tokens in postfix order. -/
def evaluatePostfix (tokens : List Token) : Except Failure Binary64 := do
  conclude (← run [] tokens)

/-- A finite number as a plain decimal. Zero has no sign. -/
def format : Binary64 → Except Failure String
  | .finite negative rank =>
    if rank.val = 0 then .ok "0"
    else
      .ok (String.ofList ((if negative then ['-'] else []) ++ (Decimal.shortest rank).plain))
  | value => .error (.fault (.invalidResult value))

/-- The value of a text. -/
def compute (text : String) : Except Failure Binary64 := do
  let tokens ← tokenize text
  let postfixed ← toPostfix tokens
  evaluatePostfix postfixed

/-- The value of a text, as a plain decimal. -/
def evaluate (text : String) : Except Failure String := do format (← compute text)

end Reckoner.Expression
