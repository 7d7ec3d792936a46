import Reckoner.Proofs.Expression.Faults

/-!
# From stage to stage

Each stage of an evaluation leaves to the next what that one can work with. The tokens of a text are
of five sorts (`Written`), their order of evaluation holds the numbers and operators among them
(`mem_of_toPostfix`), and the value of a text is finite. So an evaluation ends with a text or with a
fault of the expression, and each stage finds faults of its own kinds only (`evaluate_stages`).
-/

namespace Reckoner.Expression

/-! ## The tokens of a text -/

/-- The tokens that a text can have. -/
inductive Written : Token → Prop where
  /-- A number is a run of digits and points. -/
  | number (word : Numeral) : Written (Token.number word.text)
  /-- An operator on two numbers is one of the four. -/
  | operator (operator : Operator) : Written ⟨.operator, operator.symbol, false⟩
  /-- An operator in front of a single operand is a minus. -/
  | unaryMinus : Written unaryMinus
  /-- A parenthesis opens a group. -/
  | opening : Written Token.lparen
  /-- A parenthesis closes a group. -/
  | closing : Written Token.rparen

/-- The token of a lexeme is one that a text can have. -/
theorem Lexeme.written (lexeme : Lexeme) : Written lexeme.token := by
  cases lexeme with
  | numeral word => exact .number word
  | operator operator => exact .operator operator
  | opening => exact .opening
  | closing => exact .closing

/-- The zero in front of a unary minus is a number. -/
theorem written_zero : Written (Token.number "0") := by
  have digit : ∀ char ∈ ['0'], isNumeric char = true := List.all_eq_true.mp rfl
  exact .number ⟨['0'], List.cons_ne_nil _ _, digit⟩

/-- The tokens of lexemes are ones that a text can have, where an operand is awaited or not. -/
theorem expand_written (awaiting : Bool) (lexemes : List Lexeme) :
    ∀ token ∈ expand awaiting lexemes, Written token := by
  induction lexemes generalizing awaiting with
  | nil => exact fun _ none => absurd none List.not_mem_nil
  | cons first rest ih =>
    intro token member
    rw [expand, List.mem_append] at member
    rcases member with here | later
    · rw [Lexeme.expansion] at here
      split at here
      · rcases List.mem_cons.mp here with rfl | single
        · exact written_zero
        · rw [List.mem_singleton.mp single]
          exact .unaryMinus
      · rw [List.mem_singleton.mp here]
        exact first.written
    · exact ih first.awaitsOperand token later

/-! ## Evaluations -/

/-- An evaluation ends with a text or with a fault of the expression.

The scan of a text finds nothing but numbers of digits and points, the four operators, of which
only a minus is unary, and parentheses, or it refuses the text. The conversion of any tokens gives
some of their numbers and operators and no parenthesis; that of a text fails only where parentheses
do not match. So the run is given no parenthesis and no operator that it does not know, divides by
no zero, and finds faults of its own kinds only. And a value is finite, so that it is written
down. -/
theorem evaluate_stages (text : String) :
    ((∃ result, evaluate text = .ok result) ∨ ∃ error, evaluate text = .error (.fault error)) ∧
    FaultsOf scanKinds (tokenize text) ∧
    (∀ tokens, tokenize text = .ok tokens →
      (∀ token ∈ tokens, Written token) ∧
      FaultsOf [.mismatchedParentheses] (toPostfix tokens) ∧
      ∀ output, toPostfix tokens = .ok output →
        FaultsOf (runKinds ++ finalKinds) (evaluatePostfix output)) ∧
    (∀ tokens output, toPostfix tokens = .ok output →
      ∀ token ∈ output, token ∈ tokens ∧ (token.kind = .number ∨ token.kind = .operator)) ∧
    ∀ value, compute text = .ok value →
      value.isFinite = true ∧ ∃ result, format value = .ok result := by
  refine ⟨?_, tokenize_faults text, ?_, fun _ _ => mem_of_toPostfix, ?_⟩
  · cases evaluated : evaluate text with
    | ok result => exact .inl ⟨result, rfl⟩
    | error failure =>
      obtain ⟨error, rfl⟩ := evaluate_onlyFaults text failure evaluated
      exact .inr ⟨error, rfl⟩
  · intro tokens scanned
    refine ⟨?_, toPostfix_faults scanned, fun output => evaluatePostfix_toPostfix_faults scanned⟩
    obtain ⟨lexemes, rfl⟩ := exists_lexemes scanned
    exact expand_written true lexemes
  · intro value computed
    have finite := isFinite_of_compute computed
    exact ⟨finite, exists_format finite⟩

/-- The text of a product with a negated group. -/
def groupText : String := "2 *-(3)"

/-- Its tokens. -/
def groupTokens : List Token :=
  [.number "2", ⟨.operator, "*", false⟩, .number "0", unaryMinus, .lparen, .number "3", .rparen]

/-- Its order of evaluation. -/
def groupPostfix : List Token :=
  [.number "2", .number "0", .number "3", unaryMinus, ⟨.operator, "*", false⟩]

/-- The product passes through all stages, and what each leaves is what the next works with. -/
theorem evaluate_stages_group :
    tokenize groupText = .ok groupTokens ∧ toPostfix groupTokens = .ok groupPostfix ∧
      (∀ token ∈ groupTokens, Written token) ∧
      (∀ token ∈ groupPostfix,
        token ∈ groupTokens ∧ (token.kind = .number ∨ token.kind = .operator)) ∧
      FaultsOf (runKinds ++ finalKinds) (evaluatePostfix groupPostfix) ∧
      ∃ value result, compute groupText = .ok value ∧ format value = .ok result := by
  have scanned : tokenize groupText = .ok groupTokens := eq_ok_of_toOption (by decide +kernel)
  have converted : toPostfix groupTokens = .ok groupPostfix := eq_ok_of_toOption (by decide +kernel)
  have valued : (compute groupText).toOption.isSome = true := by decide +kernel
  obtain ⟨value, computed⟩ := Option.isSome_iff_exists.mp valued
  obtain ⟨-, -, stages, conversion, finite⟩ := evaluate_stages groupText
  obtain ⟨written, -, runs⟩ := stages groupTokens scanned
  obtain ⟨-, result, shown⟩ := finite value (eq_ok_of_toOption computed)
  exact ⟨scanned, converted, written, conversion groupTokens groupPostfix converted,
    runs groupPostfix converted, value, result, eq_ok_of_toOption computed, shown⟩

end Reckoner.Expression
