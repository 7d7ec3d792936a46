import Reckoner.Expression.Evaluate
import Reckoner.Proofs.Expression.Expansion
import Reckoner.Proofs.Result

/-!
# The grammar of expressions

A phrase is a syntax tree of the grammar

    sum     := product (('+' | '-') product)*
    product := sign (('*' | '/') sign)*
    sign    := '-' sign | atom
    atom    := numeral | '(' sum ')'

with the repetitions nested to the left. A phrase has a value of its own, by recursion on the tree:
operands are evaluated from left to right and the first fault ends the evaluation.
-/

namespace Reckoner.Expression

/-- The levels of the grammar. -/
inductive Level where
  /-- Products, added and subtracted. -/
  | sum
  /-- Signs, multiplied and divided. -/
  | product
  /-- An atom behind any number of minuses. -/
  | sign
  /-- A numeral or a group. -/
  | atom

/-- The operators of a sum. -/
inductive SumOperator where
  /-- The sum. -/
  | plus
  /-- The difference. -/
  | minus

/-- The operators of a product. -/
inductive ProductOperator where
  /-- The product. -/
  | times
  /-- The quotient. -/
  | divided

/-- The operator of a sum, as an operator. -/
def SumOperator.operator : SumOperator → Operator
  | .plus => .add
  | .minus => .sub

/-- The operator of a product, as an operator. -/
def ProductOperator.operator : ProductOperator → Operator
  | .times => .mul
  | .divided => .div

/-- A syntax tree of the grammar. -/
inductive Phrase : Level → Type where
  /-- A numeral. -/
  | numeral (word : Numeral) : Phrase .atom
  /-- A sum in parentheses. -/
  | group (inner : Phrase .sum) : Phrase .atom
  /-- An atom without a minus. -/
  | atom (inner : Phrase .atom) : Phrase .sign
  /-- A minus in front of a sign. -/
  | negation (operand : Phrase .sign) : Phrase .sign
  /-- A product of one sign. -/
  | sign (inner : Phrase .sign) : Phrase .product
  /-- A product and one more sign. -/
  | product (left : Phrase .product) (operator : ProductOperator) (right : Phrase .sign) :
    Phrase .product
  /-- A sum of one product. -/
  | term (inner : Phrase .product) : Phrase .sum
  /-- A sum and one more product. -/
  | sum (left : Phrase .sum) (operator : SumOperator) (right : Phrase .product) : Phrase .sum

/-! ## The direct value -/

/-- The value of a numeral, which must be finite unless it is no number at all. -/
def Numeral.value (word : Numeral) : Except EvalError Binary64 :=
  match Literal.parse? word.chars with
  | some value => if value.isInfinite then .error (.invalidNumber word.text) else .ok value
  | none => .error (.invalidNumber word.text)

/-- The value of an operator of a sum. -/
def SumOperator.apply : SumOperator → Binary64 → Binary64 → Binary64
  | .plus, left, right => left.add right
  | .minus, left, right => left.sub right

/-- The value of an operator of a product; a zero of either sign divides nothing. -/
def ProductOperator.apply : ProductOperator → Binary64 → Binary64 → Except EvalError Binary64
  | .times, left, right => .ok (left.mul right)
  | .divided, left, right => if right.isZero then .error .divisionByZero else .ok (left.div right)

namespace Phrase

/-- The value of a phrase, or its first fault from left to right. -/
def value : {level : Level} → Phrase level → Except EvalError Binary64
  | _, .numeral word => word.value
  | _, .group inner => inner.value
  | _, .atom inner => inner.value
  | _, .negation operand => do
    let value ← operand.value
    return Binary64.zero.sub value
  | _, .sign inner => inner.value
  | _, .product left operator right => do
    let first ← left.value
    let second ← right.value
    operator.apply first second
  | _, .term inner => inner.value
  | _, .sum left operator right => do
    let first ← left.value
    let second ← right.value
    return operator.apply first second

/-- The value of a phrase that stands alone, which must be finite. -/
def outcome {level : Level} (phrase : Phrase level) : Except EvalError Binary64 := do
  let value ← phrase.value
  if value.isFinite then return value else throw (.invalidResult value)

/-- The lexemes of a phrase. -/
def lexemes : {level : Level} → Phrase level → List Lexeme
  | _, .numeral word => [.numeral word]
  | _, .group inner => .opening :: (inner.lexemes ++ [.closing])
  | _, .atom inner => inner.lexemes
  | _, .negation operand => .operator .sub :: operand.lexemes
  | _, .sign inner => inner.lexemes
  | _, .product left operator right =>
    left.lexemes ++ .operator operator.operator :: right.lexemes
  | _, .term inner => inner.lexemes
  | _, .sum left operator right => left.lexemes ++ .operator operator.operator :: right.lexemes

/-- A quotient has no fault but a division by zero. -/
theorem apply_error {operator : ProductOperator} {left right : Binary64} {error : EvalError}
    (failed : operator.apply left right = .error error) : error.kind = .divisionByZero := by
  cases operator with
  | times => cases failed
  | divided =>
    rw [ProductOperator.apply] at failed
    split at failed
    · cases failed
      rfl
    · cases failed

/-- A numeral has no fault but to denote no number. -/
theorem numeral_error {word : Numeral} {error : EvalError} (failed : word.value = .error error) :
    error.kind = .invalidNumber := by
  rw [Numeral.value] at failed
  split at failed
  · split at failed
    · cases failed
      rfl
    · cases failed
  · cases failed
    rfl

/-- The faults that a phrase can have. -/
theorem value_error {level : Level} (phrase : Phrase level) (error : EvalError)
    (failed : phrase.value = .error error) :
    error.kind = .invalidNumber ∨ error.kind = .divisionByZero := by
  induction phrase with
  | numeral word => exact .inl (numeral_error failed)
  | group inner ih => exact ih failed
  | atom inner ih => exact ih failed
  | negation operand ih =>
    rcases bind_eq_error failed with inner | ⟨_, -, impossible⟩
    · exact ih inner
    · cases impossible
  | sign inner ih => exact ih failed
  | product left operator right leftIh rightIh =>
    rcases bind_eq_error failed with first | ⟨_, -, failed⟩
    · exact leftIh first
    rcases bind_eq_error failed with second | ⟨_, -, last⟩
    · exact rightIh second
    · exact .inr (apply_error last)
  | term inner ih => exact ih failed
  | sum left operator right leftIh rightIh =>
    rcases bind_eq_error failed with first | ⟨_, -, failed⟩
    · exact leftIh first
    rcases bind_eq_error failed with second | ⟨_, -, impossible⟩
    · exact rightIh second
    · cases impossible

/-- The faults of a phrase that stands alone. -/
theorem outcome_error {level : Level} (phrase : Phrase level) (error : EvalError)
    (failed : phrase.outcome = .error error) :
    error.kind = .invalidNumber ∨ error.kind = .divisionByZero ∨ error.kind = .invalidResult := by
  rcases bind_eq_error failed with inner | ⟨value, -, last⟩
  · exact (phrase.value_error error inner).imp_right .inl
  · split at last
    · cases last
    · cases last
      exact .inr (.inr rfl)

/-! ## The lexemes of a phrase -/

/-- A phrase has a lexeme. -/
theorem lexemes_ne_nil {level : Level} (phrase : Phrase level) : phrase.lexemes ≠ [] := by
  induction phrase with
  | numeral word => exact List.cons_ne_nil _ _
  | group inner ih => exact List.cons_ne_nil _ _
  | atom inner ih => exact ih
  | negation operand ih => exact List.cons_ne_nil _ _
  | sign inner ih => exact ih
  | product left operator right leftIh rightIh =>
    exact List.append_ne_nil_of_left_ne_nil leftIh _
  | term inner ih => exact ih
  | sum left operator right leftIh rightIh => exact List.append_ne_nil_of_left_ne_nil leftIh _

/-- No two numerals of a phrase stand side by side, whatever follows but a numeral. -/
theorem separated_append {level : Level} (phrase : Phrase level) (rest : List Lexeme)
    (follows : beginsNumeral rest = false) (separated : Separated rest) :
    Separated (phrase.lexemes ++ rest) := by
  induction phrase generalizing rest with
  | numeral word => exact ⟨by simp [follows], separated⟩
  | group inner ih =>
    have closed : Separated (.closing :: rest) := ⟨by simp [Lexeme.isNumeral], separated⟩
    have tail := ih (.closing :: rest) rfl closed
    rw [lexemes, List.cons_append, List.append_assoc]
    exact ⟨by simp [Lexeme.isNumeral], tail⟩
  | atom inner ih => exact ih rest follows separated
  | negation operand ih => exact ⟨by simp [Lexeme.isNumeral], ih rest follows separated⟩
  | sign inner ih => exact ih rest follows separated
  | product left operator right leftIh rightIh =>
    rw [lexemes, List.append_assoc]
    exact leftIh _ rfl ⟨by simp [Lexeme.isNumeral], rightIh rest follows separated⟩
  | term inner ih => exact ih rest follows separated
  | sum left operator right leftIh rightIh =>
    rw [lexemes, List.append_assoc]
    exact leftIh _ rfl ⟨by simp [Lexeme.isNumeral], rightIh rest follows separated⟩

/-- No two numerals of a phrase stand side by side. -/
theorem separated {level : Level} (phrase : Phrase level) : Separated phrase.lexemes := by
  have alone := phrase.separated_append [] rfl trivial
  rw [List.append_nil] at alone
  exact alone

end Phrase

end Reckoner.Expression
