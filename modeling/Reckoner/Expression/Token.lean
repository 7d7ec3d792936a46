import Reckoner.Expression.Error

/-!
# Operators and tokens

The four operators, what they compute and how tightly they bind, and the tokens of an expression.
-/

namespace Reckoner

/-- An operator on two numbers. -/
inductive Operator where
  /-- The sum. -/
  | add
  /-- The difference. -/
  | sub
  /-- The product. -/
  | mul
  /-- The quotient. -/
  | div
  deriving DecidableEq, Repr

namespace Operator

/-- The symbol of an operator. -/
def symbol : Operator → String
  | .add => "+"
  | .sub => "-"
  | .mul => "*"
  | .div => "/"

/-- The operator of a symbol. -/
def ofSymbol? (symbol : String) : Option Operator :=
  if symbol = "+" then some .add
  else if symbol = "-" then some .sub
  else if symbol = "*" then some .mul
  else if symbol = "/" then some .div
  else none

/-- How tightly an operator binds: products and quotients before sums and differences. -/
def precedence : Operator → Nat
  | .add | .sub => 1
  | .mul | .div => 2

/-- The value of an operator. A quotient by zero has none. -/
def apply : Operator → Binary64 → Binary64 → Except Failure Binary64
  | .add, left, right => .ok (left.add right)
  | .sub, left, right => .ok (left.sub right)
  | .mul, left, right => .ok (left.mul right)
  | .div, left, right =>
    if right.isZero then .error .undefinedQuotient else .ok (left.div right)

end Operator

/-- What a token is. -/
inductive TokenKind where
  /-- A number, not yet read. -/
  | number
  /-- An operator. -/
  | operator
  /-- An opening parenthesis. -/
  | lparen
  /-- A closing parenthesis. -/
  | rparen
  deriving DecidableEq, Repr

/-- A token of an expression. -/
structure Token where
  /-- What the token is. -/
  kind : TokenKind
  /-- The characters of the token. -/
  text : String
  /-- A minus that was written in front of a single operand. -/
  unary : Bool
  deriving DecidableEq, Repr

namespace Token

/-- How tightly a unary minus binds: before every operator on two numbers. -/
def unaryPrecedence : Nat := 3

/-- A number token. -/
def number (text : String) : Token := ⟨.number, text, false⟩

/-- An opening parenthesis. -/
def lparen : Token := ⟨.lparen, "(", false⟩

/-- A closing parenthesis. -/
def rparen : Token := ⟨.rparen, ")", false⟩

/-- An operator token, for the symbol of an operator only. -/
def operator (symbol : String) (unary : Bool) : Except Failure Token :=
  match Operator.ofSymbol? symbol with
  | some _ => .ok ⟨.operator, symbol, unary⟩
  | none => .error (.unknownOperator symbol)

/-- Equality of tokens. It does not see how a minus was written, so an expression and its expanded
form `0 - x` have equal tokens. -/
def same (left right : Token) : Bool := left.kind == right.kind && left.text == right.text

/-- Tokens are the same when their kinds and their texts are equal. -/
theorem same_iff {left right : Token} :
    left.same right = true ↔ left.kind = right.kind ∧ left.text = right.text := by
  rw [same, Bool.and_eq_true, beq_iff_eq, beq_iff_eq]

/-- A parenthesis of either side. -/
def isParen (token : Token) : Bool := token.kind == .lparen || token.kind == .rparen

/-- How tightly a token binds; zero for anything but an operator. -/
def precedence (token : Token) : Except Failure Nat :=
  if token.kind = .operator then
    if token.unary then .ok unaryPrecedence
    else
      match Operator.ofSymbol? token.text with
      | some operator => .ok operator.precedence
      | none => .error (.unlistedOperator token.text)
  else .ok 0

end Token

end Reckoner
