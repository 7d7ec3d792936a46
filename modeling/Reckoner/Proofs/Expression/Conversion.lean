import Reckoner.Proofs.Expression.Grammar
import Reckoner.Proofs.Expression.Waiting

/-!
# Phrases in postfix order

Behind a phrase the operators that still wait are those on the right edge of its tree, and what has
gone out before them is the rest of its postfix order. This holds on every stack whose top lets the
operators of the phrase pass, so it can be shown by induction on the tree.
-/

namespace Reckoner.Expression

/-! ## Precedence -/

/-- The token of an operator between two operands. -/
def binaryToken (operator : Operator) : Token := ⟨.operator, operator.symbol, false⟩

/-- The precedence of an operator between two operands. -/
theorem precedence_binaryToken (operator : Operator) :
    (binaryToken operator).precedence = .ok operator.precedence := by
  cases operator <;> rfl

/-- An operator lets another one of less or equal precedence go out first. -/
theorem yields_binary (waiting incoming : Operator) :
    yields (binaryToken waiting) (binaryToken incoming) =
      .ok (decide (incoming.precedence ≤ waiting.precedence)) := by
  rw [yields, precedence_binaryToken, precedence_binaryToken]
  rfl

/-- An operator goes out before a looser one. -/
theorem yields_binary_of_le {waiting incoming : Operator}
    (looser : incoming.precedence ≤ waiting.precedence) :
    yields (binaryToken waiting) (binaryToken incoming) = .ok true := by
  rw [yields_binary, decide_eq_true looser]

/-- A unary minus goes out before every operator between two operands. -/
theorem yields_unaryMinus (incoming : Operator) :
    yields unaryMinus (binaryToken incoming) = .ok true := by
  cases incoming <;> rfl

/-- No operator between two operands goes out before a unary minus. -/
theorem yields_binary_unaryMinus (waiting : Operator) :
    yields (binaryToken waiting) unaryMinus = .ok false := by
  cases waiting <;> rfl

/-! ## The right edge of a phrase -/

/-- The least precedence of an operator of a level outside parentheses. -/
def Level.bound : Level → Nat
  | .sum => 1
  | .product => 2
  | .sign => 3
  | .atom => 3

/-- The top of a stack lets every operator of a bound or tighter wait above it. -/
def Waits (bound : Nat) (stack : List Token) : Prop :=
  ∀ top, stack.head? = some top → yields top unaryMinus = .ok false ∧
    ∀ operator : Operator, bound ≤ operator.precedence →
      yields top (binaryToken operator) = .ok false

/-- A stack for looser operators is one for tighter ones. -/
theorem Waits.mono {bound tighter : Nat} {stack : List Token} (waits : Waits bound stack)
    (order : bound ≤ tighter) : Waits tighter stack :=
  fun top head => ⟨(waits top head).1,
    fun operator tight => (waits top head).2 operator (Nat.le_trans order tight)⟩

/-- Nothing is on the empty stack. -/
theorem waits_nil (bound : Nat) : Waits bound [] := fun _ head => by cases head

/-- Everything waits above an opening parenthesis. -/
theorem waits_lparen (bound : Nat) (stack : List Token) : Waits bound (Token.lparen :: stack) := by
  intro top head
  cases head
  exact ⟨yields_lparen _, fun _ _ => yields_lparen _⟩

/-- Every tighter operator waits above an operator. -/
theorem waits_binary {operator : Operator} {bound : Nat} (looser : operator.precedence < bound)
    (stack : List Token) : Waits bound (binaryToken operator :: stack) := by
  intro top head
  cases head
  refine ⟨yields_binary_unaryMinus operator, fun other tight => ?_⟩
  rw [yields_binary, decide_eq_false (by omega)]

/-- Only another unary minus waits above a unary minus. -/
theorem waits_unaryMinus (stack : List Token) : Waits 3 (unaryMinus :: stack) := by
  intro top head
  cases head
  refine ⟨rfl, fun other tight => ?_⟩
  cases other <;> exact absurd tight (by decide)

/-- What waits above a stack goes out before every operator of a bound or looser. -/
def Leaves (bound : Nat) (pending : List Token) : Prop :=
  ∀ token ∈ pending, token.kind = .operator ∧ ∀ operator : Operator, operator.precedence ≤ bound →
    yields token (binaryToken operator) = .ok true

/-- What goes out before tighter operators goes out before looser ones. -/
theorem Leaves.mono {bound looser : Nat} {pending : List Token} (leaves : Leaves bound pending)
    (order : looser ≤ bound) : Leaves looser pending :=
  fun token member => ⟨(leaves token member).1,
    fun operator loose => (leaves token member).2 operator (Nat.le_trans loose order)⟩

/-- Nothing goes out from an empty list. -/
theorem leaves_nil (bound : Nat) : Leaves bound [] := fun _ member => by cases member

/-- An operator that goes out may lie below what goes out. -/
theorem Leaves.append_singleton {bound : Nat} {pending : List Token} {last : Token}
    (leaves : Leaves bound pending) (kind : last.kind = .operator)
    (yielding : ∀ operator : Operator, operator.precedence ≤ bound →
      yields last (binaryToken operator) = .ok true) : Leaves bound (pending ++ [last]) := by
  intro token member
  cases List.mem_append.mp member with
  | inl inside => exact leaves token inside
  | inr below =>
    rw [List.mem_singleton.mp below]
    exact ⟨kind, yielding⟩

namespace Phrase

/-- The operators that wait behind a phrase, the last one first. -/
def pending : {level : Level} → Phrase level → List Token
  | _, .numeral _ => []
  | _, .group _ => []
  | _, .atom inner => inner.pending
  | _, .negation operand => operand.pending ++ [unaryMinus]
  | _, .sign inner => inner.pending
  | _, .product _ operator right => right.pending ++ [binaryToken operator.operator]
  | _, .term inner => inner.pending
  | _, .sum _ operator right => right.pending ++ [binaryToken operator.operator]

/-- The tokens that have gone out behind a phrase. -/
def emitted : {level : Level} → Phrase level → List Token
  | _, .numeral word => [Token.number word.text]
  | _, .group inner => inner.emitted ++ inner.pending
  | _, .atom inner => inner.emitted
  | _, .negation operand => Token.number "0" :: operand.emitted
  | _, .sign inner => inner.emitted
  | _, .product left _ right => left.emitted ++ (left.pending ++ right.emitted)
  | _, .term inner => inner.emitted
  | _, .sum left _ right => left.emitted ++ (left.pending ++ right.emitted)

/-- The postfix order of a phrase. -/
def postorder : {level : Level} → Phrase level → List Token
  | _, .numeral word => [Token.number word.text]
  | _, .group inner => inner.postorder
  | _, .atom inner => inner.postorder
  | _, .negation operand => Token.number "0" :: (operand.postorder ++ [unaryMinus])
  | _, .sign inner => inner.postorder
  | _, .product left operator right =>
    left.postorder ++ (right.postorder ++ [binaryToken operator.operator])
  | _, .term inner => inner.postorder
  | _, .sum left operator right =>
    left.postorder ++ (right.postorder ++ [binaryToken operator.operator])

/-- What has gone out and what waits make up the postfix order. -/
theorem emitted_append_pending {level : Level} (phrase : Phrase level) :
    phrase.emitted ++ phrase.pending = phrase.postorder := by
  induction phrase with
  | numeral word => rfl
  | group inner ih => rw [emitted, pending, List.append_nil, ih, postorder]
  | atom inner ih => exact ih
  | negation operand ih =>
    rw [emitted, pending, postorder, List.cons_append, ← List.append_assoc, ih]
  | sign inner ih => exact ih
  | product left operator right leftIh rightIh =>
    rw [emitted, pending, postorder, ← leftIh, ← rightIh]
    simp only [List.append_assoc]
  | term inner ih => exact ih
  | sum left operator right leftIh rightIh =>
    rw [emitted, pending, postorder, ← leftIh, ← rightIh]
    simp only [List.append_assoc]

/-- The operators of a product are as tight as the level. -/
theorem precedence_productOperator (operator : ProductOperator) :
    operator.operator.precedence = 2 := by
  cases operator <;> rfl

/-- The operators of a sum are as tight as the level. -/
theorem precedence_sumOperator (operator : SumOperator) : operator.operator.precedence = 1 := by
  cases operator <;> rfl

/-- What waits behind a phrase goes out before an operator that is no tighter than the level. -/
theorem pending_leaves {level : Level} (phrase : Phrase level) :
    Leaves level.bound phrase.pending := by
  induction phrase with
  | numeral word => exact leaves_nil _
  | group inner ih => exact leaves_nil _
  | atom inner ih => exact ih
  | negation operand ih =>
    exact ih.append_singleton rfl fun operator _ => yields_unaryMinus operator
  | sign inner ih => exact ih.mono (by decide)
  | product left operator right _ rightIh =>
    exact (rightIh.mono (by decide)).append_singleton rfl fun other loose => yields_binary_of_le
      (Nat.le_trans loose (Nat.le_of_eq (precedence_productOperator operator).symm))
  | term inner ih => exact ih.mono (by decide)
  | sum left operator right _ rightIh =>
    exact (rightIh.mono (by decide)).append_singleton rfl fun other loose => yields_binary_of_le
      (Nat.le_trans loose (Nat.le_of_eq (precedence_sumOperator operator).symm))

/-- What waits behind a phrase holds no opening parenthesis. -/
theorem pending_kind {level : Level} (phrase : Phrase level) :
    ∀ token ∈ phrase.pending, token.kind ≠ .lparen := by
  intro token member opens
  have kind := (phrase.pending_leaves token member).1
  rw [opens] at kind
  cases kind

/-- A reading of two phrases is one of both with an operator between them that is as tight as the
left one and looser than the right one. -/
theorem postfixFrom_between {leftLevel rightLevel : Level} (left : Phrase leftLevel)
    (operator : Operator) (right : Phrase rightLevel)
    (precedence : operator.precedence = leftLevel.bound)
    (tighter : leftLevel.bound < rightLevel.bound) (stack : List Token)
    (waits : Waits leftLevel.bound stack) (rest : List Lexeme)
    (leftReading : ∀ rest, postfixFrom stack (expand true (left.lexemes ++ rest)) =
      (postfixFrom (left.pending ++ stack) (expand false rest)).map (left.emitted ++ ·))
    (rightReading : ∀ stack, Waits rightLevel.bound stack →
      postfixFrom stack (expand true (right.lexemes ++ rest)) =
        (postfixFrom (right.pending ++ stack) (expand false rest)).map (right.emitted ++ ·)) :
    postfixFrom stack (expand true (left.lexemes ++ .operator operator :: right.lexemes ++ rest)) =
      (postfixFrom (right.pending ++ [binaryToken operator] ++ stack) (expand false rest)).map
        (left.emitted ++ (left.pending ++ right.emitted) ++ ·) := by
  have first := leftReading (.operator operator :: (right.lexemes ++ rest))
  have released := release_append (binaryToken operator) left.pending stack
    (fun token member => (left.pending_leaves token member).2 operator (Nat.le_of_eq precedence))
    fun top head => (waits top head).2 operator (Nat.le_of_eq precedence.symm)
  have last := rightReading (binaryToken operator :: stack)
    (waits_binary (by rw [precedence]; exact tighter) stack)
  rw [List.append_assoc, List.cons_append, first, expand_cons_of_operand]
  simp only [Lexeme.token, Lexeme.awaitsOperand]
  rw [← binaryToken, postfixFrom_operator rfl released, last, map_map, map_map]
  simp only [List.append_assoc, List.singleton_append]
  rfl

/-- Reading a phrase sends out its emitted tokens and leaves its pending ones on the stack. -/
theorem postfixFrom_phrase {level : Level} (phrase : Phrase level) (stack : List Token)
    (waits : Waits level.bound stack) (rest : List Lexeme) :
    postfixFrom stack (expand true (phrase.lexemes ++ rest)) =
      (postfixFrom (phrase.pending ++ stack) (expand false rest)).map (phrase.emitted ++ ·) := by
  induction phrase generalizing stack rest with
  | numeral word => rfl
  | group inner ih =>
    have inside := ih (Token.lparen :: stack) (waits_lparen _ stack) (.closing :: rest)
    have closes := closeGroup?_append inner.pending stack inner.pending_kind
    rw [lexemes, List.cons_append, List.append_assoc, expand_cons_of_not_minus _ rfl,
      postfixFrom_lparen rfl]
    show postfixFrom (Token.lparen :: stack) (expand true _) = _
    rw [List.singleton_append, inside, expand_cons_of_operand, postfixFrom_rparen rfl closes,
      map_map, pending, List.nil_append, emitted]
    simp only [List.append_assoc]
    rfl
  | atom inner ih => exact ih stack waits rest
  | negation operand ih =>
    have inside := ih (unaryMinus :: stack) (waits_unaryMinus stack) rest
    have released := release_append unaryMinus [] stack (fun _ member => by cases member)
      fun top head => (waits top head).1
    have written : expand true ((negation operand).lexemes ++ rest) =
        Token.number "0" :: unaryMinus :: expand true (operand.lexemes ++ rest) := rfl
    rw [List.nil_append] at released
    rw [written, postfixFrom_number rfl, postfixFrom_operator rfl released, inside, map_map,
      map_map, pending, List.append_assoc, emitted]
    rfl
  | sign inner ih => exact ih stack (waits.mono (by decide)) rest
  | product left operator right leftIh rightIh =>
    exact postfixFrom_between left operator.operator right (precedence_productOperator operator)
      (by decide) stack waits rest (leftIh stack waits) fun stack waits => rightIh stack waits rest
  | term inner ih => exact ih stack (waits.mono (by decide)) rest
  | sum left operator right leftIh rightIh =>
    exact postfixFrom_between left operator.operator right (precedence_sumOperator operator)
      (by decide) stack waits rest (leftIh stack waits) fun stack waits => rightIh stack waits rest

/-- The tokens of a phrase have the postfix order of the phrase. -/
theorem toPostfix_phrase (phrase : Phrase .sum) :
    toPostfix (expand true phrase.lexemes) = .ok phrase.postorder := by
  have whole := phrase.postfixFrom_phrase [] (waits_nil _) []
  have no_paren : phrase.pending.any Token.isParen = false := by
    rw [List.any_eq_false]
    intro token member paren
    rw [Token.isParen, (phrase.pending_leaves token member).1] at paren
    cases paren
  rw [List.append_nil, List.append_nil] at whole
  rw [toPostfix, whole, expand, postfixFrom, no_paren, if_neg Bool.false_ne_true, Except.map,
    emitted_append_pending]

end Phrase

end Reckoner.Expression
