import Reckoner.Proofs.Expression.Agreement

/-!
# Counts of tokens

The conversion checks that parentheses are balanced and neither loses nor adds a number or an
operator. The run takes one value for every operator and gives one for every number, so what is left
at the end is told by the counts alone.
-/

namespace Reckoner.Expression

/-! ## The conversion as a relation -/

/-- How a stack of waiting tokens and the tokens that follow become an order of evaluation. -/
inductive Converts : List Token → List Token → List Token → Prop where
  /-- What waits at the end goes out. -/
  | nil {stack : List Token} (operators : ∀ token ∈ stack, token.kind ≠ .lparen) :
    Converts stack [] stack
  /-- A number goes out. -/
  | number {stack rest following : List Token} {token : Token} (kind : token.kind = .number)
    (tail : Converts stack rest following) : Converts stack (token :: rest) (token :: following)
  /-- An operator waits, and some of those on top of the stack go out. -/
  | operator {released kept rest following : List Token} {token : Token}
    (kind : token.kind = .operator) (operators : ∀ other ∈ released, other.kind = .operator)
    (tail : Converts (token :: kept) rest following) :
    Converts (released ++ kept) (token :: rest) (released ++ following)
  /-- An opening parenthesis waits. -/
  | opening {stack rest following : List Token} {token : Token} (kind : token.kind = .lparen)
    (tail : Converts (token :: stack) rest following) : Converts stack (token :: rest) following
  /-- A closing parenthesis takes the last opening one, and what waits above that goes out. -/
  | closing {inside below rest following : List Token} {token opening : Token}
    (kind : token.kind = .rparen) (opens : opening.kind = .lparen)
    (closed : ∀ other ∈ inside, other.kind ≠ .lparen) (tail : Converts below rest following) :
    Converts (inside ++ opening :: below) (token :: rest) (inside ++ following)

/-- A conversion that succeeds is one of the relation. -/
theorem converts_of_postfixFrom {stack tokens output : List Token}
    (converted : postfixFrom stack tokens = .ok output) : Converts stack tokens output := by
  induction tokens generalizing stack output with
  | nil =>
    obtain ⟨rfl, closed⟩ := postfixFrom_nil_eq_ok converted
    exact .nil closed
  | cons token rest ih =>
    rcases postfixFrom_cons_eq_ok converted with ⟨kind, following, tail, rfl⟩ |
      ⟨kind, released, kept, following, parts, tail, rfl⟩ | ⟨kind, tail⟩ |
      ⟨kind, inside, below, following, closes, tail, rfl⟩
    · exact .number kind (ih tail)
    · obtain ⟨whole, operators⟩ := release_eq_ok parts
      rw [whole]
      exact .operator kind operators (ih tail)
    · exact .opening kind (ih tail)
    · obtain ⟨opening, opens, whole, closed⟩ := closeGroup?_eq_some closes
      rw [whole]
      exact .closing kind opens closed (ih tail)

/-! ## Counts -/

/-- The number of tokens of a kind. -/
def count (kind : TokenKind) (tokens : List Token) : Nat :=
  tokens.countP fun token => token.kind == kind

/-- No token does not count. -/
theorem count_nil (kind : TokenKind) : count kind [] = 0 := rfl

/-- The first token counts if it is of the kind. -/
theorem count_cons (kind : TokenKind) (token : Token) (rest : List Token) :
    count kind (token :: rest) = count kind rest + if token.kind = kind then 1 else 0 := by
  rw [count, List.countP_cons, ← count]
  simp only [beq_iff_eq]

/-- Tokens of a sequence are those of its parts. -/
theorem count_append (kind : TokenKind) (left right : List Token) :
    count kind (left ++ right) = count kind left + count kind right := List.countP_append

/-- Tokens of other kinds do not count. -/
theorem count_eq_zero {kind : TokenKind} {tokens : List Token}
    (others : ∀ token ∈ tokens, token.kind ≠ kind) : count kind tokens = 0 := by
  rw [count, List.countP_eq_zero]
  exact fun token member same => others token member (beq_iff_eq.mp same)

/-- A conversion keeps the number of tokens of every kind but the parentheses. -/
theorem count_of_converts {kind : TokenKind} {stack tokens output : List Token}
    (opens : kind ≠ .lparen) (closes : kind ≠ .rparen)
    (converted : Converts stack tokens output) :
    count kind output = count kind stack + count kind tokens := by
  induction converted with
  | nil operators => rfl
  | number same tail ih => rw [count_cons, count_cons, ih, Nat.add_assoc]
  | operator same operators tail ih =>
    rw [count_append, count_append, count_cons, ih, count_cons]
    omega
  | opening same tail ih =>
    rw [count_cons, ih, count_cons, same, if_neg (Ne.symm opens)]
    omega
  | closing same opened closed tail ih =>
    rw [count_append, count_append, count_cons, count_cons, ih, same, opened,
      if_neg (Ne.symm opens), if_neg (Ne.symm closes)]
    omega

/-- The run changes the height of the stack by the numbers less the operators. -/
theorem length_of_run {stack after : List Binary64} {tokens : List Token}
    (ran : run stack tokens = .ok after) :
    after.length + count .operator tokens = stack.length + count .number tokens := by
  induction tokens generalizing stack with
  | nil =>
    cases ran
    rfl
  | cons token rest ih =>
    rw [run_cons] at ran
    obtain ⟨next, stepped, ran⟩ := bind_eq_ok ran
    have tail := ih ran
    rw [count_cons, count_cons]
    cases kind : token.kind with
    | number =>
      simp only [step, kind] at stepped
      obtain ⟨value, -, same⟩ := map_eq_ok stepped
      rw [← same, List.length_cons] at tail
      simp only [reduceCtorEq, ↓reduceIte]
      omega
    | operator =>
      simp only [step, kind] at stepped
      split at stepped
      · obtain ⟨value, -, same⟩ := map_eq_ok stepped
        rw [← same, List.length_cons] at tail
        simp only [List.length_cons, reduceCtorEq, ↓reduceIte]
        omega
      · cases stepped
    | lparen =>
      simp only [step, kind] at stepped
      cases stepped
    | rparen =>
      simp only [step, kind] at stepped
      cases stepped

/-- Tokens that have a value hold one number more than operators. -/
theorem count_of_evaluatePostfix {tokens : List Token} {value : Binary64}
    (evaluated : evaluatePostfix tokens = .ok value) :
    count .number tokens = count .operator tokens + 1 := by
  have height := length_of_run (run_of_evaluatePostfix evaluated).1
  rw [List.length_singleton, List.length_nil] at height
  omega

/-! ## Parentheses -/

/-- Every closing parenthesis has an opening one in front of it, behind a number of open ones, and
none is left open. -/
def balanced (depth : Nat) : List Token → Bool
  | [] => depth == 0
  | token :: rest =>
    match token.kind with
    | .lparen => balanced (depth + 1) rest
    | .rparen => depth != 0 && balanced (depth - 1) rest
    | .number | .operator => balanced depth rest

/-- Converted tokens are balanced behind the open parentheses of the stack. -/
theorem balanced_of_converts {stack tokens output : List Token}
    (converted : Converts stack tokens output) : balanced (count .lparen stack) tokens = true := by
  induction converted with
  | nil operators =>
    rw [count_eq_zero operators]
    rfl
  | number same tail ih =>
    rw [balanced, same]
    exact ih
  | operator same operators tail ih =>
    have none : count .lparen _ = 0 := count_eq_zero fun other member opens =>
      absurd ((operators other member).symm.trans opens) (by decide)
    rw [balanced, same, count_append, none, Nat.zero_add]
    rw [count_cons, same] at ih
    exact ih
  | opening same tail ih =>
    rw [count_cons, if_pos same] at ih
    rw [balanced, same]
    exact ih
  | closing same opened closed tail ih =>
    rw [balanced, same, count_append, count_eq_zero closed, count_cons, if_pos opened,
      Nat.zero_add]
    exact ih

end Reckoner.Expression
