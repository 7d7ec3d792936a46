import Reckoner.Proofs.Expression.Lexeme

/-!
# The expansion of unary minus

Which minus is unary depends on the lexeme in front of it alone, so the tokens of lexemes in
sequence are those of each part, once it is known whether an operand is awaited where the part
begins.
-/

namespace Reckoner.Expression

/-- The token of a minus in front of a single operand. -/
def unaryMinus : Token := ⟨.operator, "-", true⟩

namespace Lexeme

/-- An operand is awaited behind the lexeme. -/
def awaitsOperand : Lexeme → Bool
  | .operator _ | .opening => true
  | .numeral _ | .closing => false

/-- A minus of either sort. -/
def isMinus : Lexeme → Bool
  | .operator .sub => true
  | _ => false

/-- The tokens of a lexeme, where an operand is awaited or not. -/
def expansion (awaiting : Bool) (lexeme : Lexeme) : List Token :=
  if lexeme.isMinus && awaiting then [Token.number "0", unaryMinus] else [lexeme.token]

end Lexeme

/-- The tokens of lexemes that begin where an operand is awaited or not. -/
def expand (awaiting : Bool) : List Lexeme → List Token
  | [] => []
  | first :: rest => first.expansion awaiting ++ expand first.awaitsOperand rest

/-- Whether an operand is awaited behind lexemes. -/
def awaitsAfter (awaiting : Bool) : List Lexeme → Bool
  | [] => awaiting
  | first :: rest => awaitsAfter first.awaitsOperand rest

/-- The token of a lexeme tells whether an operand is awaited behind it. -/
theorem beginsOperand_token (lexeme : Lexeme) :
    beginsOperand (some lexeme.token) = lexeme.awaitsOperand := by
  cases lexeme <;> rfl

/-- The token of a lexeme tells whether it is a minus. -/
theorem isMinus_token (lexeme : Lexeme) : isMinus lexeme.token = lexeme.isMinus := by
  cases lexeme with
  | operator operator => cases operator <;> decide
  | numeral _ => rfl
  | opening => rfl
  | closing => rfl

/-- Writing out every unary minus expands each lexeme. -/
theorem expandMinus_tokens (previous : Option Token) (lexemes : List Lexeme) :
    expandMinus previous (lexemes.map Lexeme.token) = expand (beginsOperand previous) lexemes := by
  induction lexemes generalizing previous with
  | nil => rfl
  | cons first rest ih =>
    have tail := ih (some first.token)
    rw [beginsOperand_token] at tail
    rw [List.map_cons, expandMinus, isMinus_token, tail, expand, Lexeme.expansion]
    split <;> rfl

/-- The tokens of a sequence are those of its parts. -/
theorem expand_append (awaiting : Bool) (left right : List Lexeme) :
    expand awaiting (left ++ right) =
      expand awaiting left ++ expand (awaitsAfter awaiting left) right := by
  induction left generalizing awaiting with
  | nil => rfl
  | cons first rest ih =>
    rw [List.cons_append, expand, ih, expand, awaitsAfter, List.append_assoc]

/-- A lexeme that is no minus has its own token everywhere. -/
theorem expand_cons_of_not_minus (awaiting : Bool) {first : Lexeme} (other : first.isMinus = false)
    (rest : List Lexeme) :
    expand awaiting (first :: rest) = first.token :: expand first.awaitsOperand rest := by
  rw [expand, Lexeme.expansion, other, Bool.false_and, if_neg Bool.false_ne_true]
  rfl

/-- Behind an operand every lexeme has its own token. -/
theorem expand_cons_of_operand (first : Lexeme) (rest : List Lexeme) :
    expand false (first :: rest) = first.token :: expand first.awaitsOperand rest := by
  rw [expand, Lexeme.expansion, Bool.and_false, if_neg Bool.false_ne_true]
  rfl

/-- A text that spells separated lexemes has their tokens, with every unary minus written out. -/
theorem tokenize_of_spells {text : String} {lexemes : List Lexeme} (spelled : Spells text lexemes)
    (separated : Separated lexemes) (nonempty : lexemes ≠ []) :
    tokenize text = .ok (expand true lexemes) := by
  rw [tokenize, scan_of_spells spelled separated nonempty, Except.map, expandMinus_tokens]
  rfl

end Reckoner.Expression
