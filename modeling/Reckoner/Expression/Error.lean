import Reckoner.Number.Decimal
import Reckoner.Text.Quoted

/-!
# Evaluation failures

The faults of an expression that its author is told about, and the failures of a stage that was
given what no earlier stage produces.
-/

namespace Reckoner

/-- A fault of an expression. -/
inductive EvalError where
  /-- The text holds nothing but blanks. -/
  | emptyExpression
  /-- A character that belongs to no token, and its position in the text. -/
  | unexpectedCharacter (char : Char) (position : Nat)
  /-- A parenthesis without its partner. -/
  | mismatchedParentheses
  /-- A number token that denotes no number, or one too great. -/
  | invalidNumber (text : String)
  /-- An operator with fewer than two operands. -/
  | insufficientOperands (operator : String)
  /-- A division by a zero of either sign. -/
  | divisionByZero
  /-- A number of values other than one is left at the end. -/
  | malformedExpression (remaining : Nat)
  /-- The value is infinite or no number. -/
  | invalidResult (value : Binary64)
  deriving DecidableEq, Repr

/-- The kinds of faults. -/
inductive EvalError.Kind where
  /-- See `EvalError.emptyExpression`. -/
  | emptyExpression
  /-- See `EvalError.unexpectedCharacter`. -/
  | unexpectedCharacter
  /-- See `EvalError.mismatchedParentheses`. -/
  | mismatchedParentheses
  /-- See `EvalError.invalidNumber`. -/
  | invalidNumber
  /-- See `EvalError.insufficientOperands`. -/
  | insufficientOperands
  /-- See `EvalError.divisionByZero`. -/
  | divisionByZero
  /-- See `EvalError.malformedExpression`. -/
  | malformedExpression
  /-- See `EvalError.invalidResult`. -/
  | invalidResult
  deriving DecidableEq, Repr

namespace EvalError

/-- The name of a kind. -/
def Kind.name : Kind → String
  | .emptyExpression => "EmptyExpression"
  | .unexpectedCharacter => "UnexpectedCharacter"
  | .mismatchedParentheses => "MismatchedParentheses"
  | .invalidNumber => "InvalidNumber"
  | .insufficientOperands => "InsufficientOperands"
  | .divisionByZero => "DivisionByZero"
  | .malformedExpression => "MalformedExpression"
  | .invalidResult => "InvalidResult"

/-- Every kind, in the order in which they are listed to users. -/
def Kind.all : List Kind :=
  [.emptyExpression, .unexpectedCharacter, .mismatchedParentheses, .invalidNumber,
    .insufficientOperands, .divisionByZero, .malformedExpression, .invalidResult]

/-- The kind of a name. -/
def Kind.ofName? (name : String) : Option Kind := Kind.all.find? fun kind => kind.name == name

/-- The kind of a fault. -/
def kind : EvalError → Kind
  | .emptyExpression => .emptyExpression
  | .unexpectedCharacter .. => .unexpectedCharacter
  | .mismatchedParentheses => .mismatchedParentheses
  | .invalidNumber _ => .invalidNumber
  | .insufficientOperands _ => .insufficientOperands
  | .divisionByZero => .divisionByZero
  | .malformedExpression _ => .malformedExpression
  | .invalidResult _ => .invalidResult

/-- The word for a value that is not finite, and the digits of one that is. -/
def valueText : Binary64 → String
  | .finite negative rank =>
    String.ofList ((if negative then ['-'] else []) ++ (Decimal.shortest rank).plain)
  | .infinite negative => if negative then "-inf" else "inf"
  | .nan => "nan"

/-- The words for a fault. -/
def message : EvalError → String
  | .emptyExpression => "empty expression"
  | .unexpectedCharacter char position =>
    "unexpected character " ++ Text.quote (String.singleton char) ++ " at position " ++
      toString position
  | .mismatchedParentheses => "mismatched parentheses"
  | .invalidNumber text => "invalid number " ++ Text.quote text
  | .insufficientOperands operator => "not enough operands for " ++ Text.quote operator
  | .divisionByZero => "division by zero"
  | .malformedExpression remaining =>
    "malformed expression (" ++ toString remaining ++ " values left after evaluation)"
  | .invalidResult value => "result is not a finite number (" ++ valueText value ++ ")"

end EvalError

/-- Why a stage of an evaluation ends without a result. -/
inductive Failure where
  /-- The expression has a fault. -/
  | fault (error : EvalError)
  /-- An operator token was asked for with a symbol that is no operator. -/
  | unknownOperator (symbol : String)
  /-- A symbol was looked up in the table of operators and is not in it. -/
  | unlistedOperator (symbol : String)
  /-- A quotient by zero reached the arithmetic. -/
  | undefinedQuotient
  deriving DecidableEq, Repr

/-- The words for a failure. -/
def Failure.message : Failure → String
  | .fault error => error.message
  | .unknownOperator symbol => "Unknown operator: " ++ Text.quote symbol
  | .unlistedOperator symbol => Text.quote symbol
  | .undefinedQuotient => "float division by zero"

end Reckoner
