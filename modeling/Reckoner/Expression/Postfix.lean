import Reckoner.Expression.Token

/-!
# Postfix order

Tokens in the order of evaluation: every operator after its operands and no parentheses. One pass
keeps a stack of the operators and opening parentheses that still wait. Only the balance of the
parentheses is checked.
-/

namespace Reckoner.Expression

/-- Whether a waiting token goes out before an incoming operator. A unary minus lets its equals
wait, so that a chain of them nests to the right. -/
def yields (waiting incoming : Token) : Except Failure Bool :=
  if waiting.kind = .operator then do
    let held ← waiting.precedence
    let new ← incoming.precedence
    return if incoming.unary then decide (new < held) else decide (new ≤ held)
  else .ok false

/-- The tokens on top of the stack that go out before an incoming operator, and the others. -/
def release (incoming : Token) : List Token → Except Failure (List Token × List Token)
  | [] => .ok ([], [])
  | top :: rest => do
    if ← yields top incoming then
      let (released, kept) ← release incoming rest
      return (top :: released, kept)
    else return ([], top :: rest)

/-- The tokens above the last opening parenthesis of the stack, and those below it. -/
def closeGroup? : List Token → Option (List Token × List Token)
  | [] => none
  | top :: rest =>
    if top.kind = .lparen then some ([], rest)
    else (closeGroup? rest).map fun (inside, below) => (top :: inside, below)

/-- The postfix order of tokens that follow a stack of waiting ones. -/
def postfixFrom (stack : List Token) : List Token → Except Failure (List Token)
  | [] => if stack.any Token.isParen then .error (.fault .mismatchedParentheses) else .ok stack
  | token :: rest =>
    match token.kind with
    | .number => (postfixFrom stack rest).map (token :: ·)
    | .operator => do
      let (released, kept) ← release token stack
      let following ← postfixFrom (token :: kept) rest
      return released ++ following
    | .lparen => postfixFrom (token :: stack) rest
    | .rparen =>
      match closeGroup? stack with
      | none => .error (.fault .mismatchedParentheses)
      | some (inside, below) => (postfixFrom below rest).map (inside ++ ·)

/-- The postfix order of tokens. -/
def toPostfix (tokens : List Token) : Except Failure (List Token) := postfixFrom [] tokens

end Reckoner.Expression
