import Reckoner.Proofs.Expression.Agreement
import Reckoner.Proofs.Number.Zero

/-!
# A group in any context

Tokens in parentheses are converted as they are alone, whatever stands around them, and the run of
what they become pushes their value on whatever lies below. So the context of a group sees nothing
of it but its value, and of a zero not even the sign.
-/

namespace Reckoner.Expression

/-! ## The conversion -/

/-- Tokens above an opening parenthesis are converted as they are alone, and the closing parenthesis
behind them takes the opening one. -/
theorem postfixFrom_group {group tokens output : List Token} (below rest : List Token)
    (converted : postfixFrom group tokens = .ok output) :
    postfixFrom (group ++ Token.lparen :: below) (tokens ++ Token.rparen :: rest) =
      (postfixFrom below rest).map (output ++ ·) := by
  induction tokens generalizing group output with
  | nil =>
    obtain ⟨rfl, closed⟩ := postfixFrom_nil_eq_ok converted
    exact postfixFrom_rparen rfl (closeGroup?_append output below closed)
  | cons token tail ih =>
    rw [List.cons_append]
    rcases postfixFrom_cons_eq_ok converted with ⟨kind, following, converted, same⟩ |
      ⟨kind, released, kept, following, parts, converted, same⟩ | ⟨kind, converted⟩ |
      ⟨kind, inside, lower, following, closes, converted, same⟩
    · rw [postfixFrom_number kind, ih converted, map_map, same]
      rfl
    · have waiting := release_append_lparen token group below
      rw [parts] at waiting
      have inside := ih converted
      rw [List.cons_append] at inside
      rw [postfixFrom_operator kind waiting, inside, map_map, same]
      simp only [Function.comp_def, List.append_assoc]
    · rw [postfixFrom_lparen kind]
      exact ih converted
    · rw [postfixFrom_rparen kind (closeGroup?_append_of_some _ closes), ih converted, map_map,
        same]
      simp only [Function.comp_def, List.append_assoc]

/-- What a group becomes is put into what its context becomes, or the context fails whatever the
group is. -/
theorem postfixFrom_hole (before stack rest : List Token) :
    ∃ hole : Except Failure (List Token × List Token), ∀ tokens output,
      toPostfix tokens = .ok output →
        postfixFrom stack (before ++ Token.lparen :: (tokens ++ Token.rparen :: rest)) =
          hole.map fun (front, back) => front ++ (output ++ back) := by
  induction before generalizing stack with
  | nil =>
    refine ⟨(postfixFrom stack rest).map fun following => ([], following),
      fun tokens output converted => ?_⟩
    have group := postfixFrom_group stack rest converted
    rw [map_map]
    exact group
  | cons token before ih =>
    -- Below, the stack after the token is the same for every group.
    cases kind : token.kind with
    | number =>
      obtain ⟨hole, filled⟩ := ih stack
      refine ⟨hole.map fun (front, back) => (token :: front, back),
        fun tokens output converted => ?_⟩
      rw [List.cons_append, postfixFrom_number kind, filled tokens output converted, map_map,
        map_map]
      rfl
    | operator =>
      cases parts : release token stack with
      | error failure =>
        refine ⟨.error failure, fun tokens output converted => ?_⟩
        simp only [List.cons_append, postfixFrom, kind, parts]
        rfl
      | ok split =>
        obtain ⟨hole, filled⟩ := ih (token :: split.2)
        refine ⟨hole.map fun (front, back) => (split.1 ++ front, back),
          fun tokens output converted => ?_⟩
        rw [List.cons_append, postfixFrom_operator kind parts, filled tokens output converted,
          map_map, map_map]
        simp only [Function.comp_def, List.append_assoc]
    | lparen =>
      obtain ⟨hole, filled⟩ := ih (token :: stack)
      refine ⟨hole, fun tokens output converted => ?_⟩
      rw [List.cons_append, postfixFrom_lparen kind]
      exact filled tokens output converted
    | rparen =>
      cases closes : closeGroup? stack with
      | none =>
        refine ⟨.error (.fault .mismatchedParentheses), fun tokens output converted => ?_⟩
        simp only [List.cons_append, postfixFrom, kind, closes]
        rfl
      | some parts =>
        obtain ⟨hole, filled⟩ := ih parts.2
        refine ⟨hole.map fun (front, back) => (parts.1 ++ front, back),
          fun tokens output converted => ?_⟩
        rw [List.cons_append, postfixFrom_rparen kind closes, filled tokens output converted,
          map_map, map_map]
        simp only [Function.comp_def, List.append_assoc]

/-! ## The run above other values -/

/-- A run of a sequence is one of its parts. -/
theorem run_append (stack : List Binary64) (front back : List Token) :
    run stack (front ++ back) = run stack front >>= fun stack => run stack back :=
  List.foldlM_append

/-- A token that has its operands leaves what lies below them. -/
theorem step_append {stack after : List Binary64} {token : Token} (below : List Binary64)
    (stepped : step stack token = .ok after) :
    step (stack ++ below) token = .ok (after ++ below) := by
  cases kind : token.kind with
  | number =>
    simp only [step, kind] at stepped ⊢
    obtain ⟨value, read, same⟩ := map_eq_ok stepped
    rw [read, ← same]
    rfl
  | operator =>
    simp only [step, kind] at stepped
    split at stepped
    · obtain ⟨value, applied, same⟩ := map_eq_ok stepped
      simp only [step, kind, List.cons_append]
      rw [applied, ← same]
      rfl
    · cases stepped
  | lparen =>
    simp only [step, kind] at stepped
    cases stepped
  | rparen =>
    simp only [step, kind] at stepped
    cases stepped

/-- A run that has its operands leaves what lies below them. -/
theorem run_append_stack {stack after : List Binary64} {tokens : List Token}
    (below : List Binary64) (ran : run stack tokens = .ok after) :
    run (stack ++ below) tokens = .ok (after ++ below) := by
  induction tokens generalizing stack with
  | nil =>
    cases ran
    rfl
  | cons token rest ih =>
    rw [run_cons] at ran
    obtain ⟨next, stepped, ran⟩ := bind_eq_ok ran
    rw [run_cons, step_append below stepped]
    exact ih ran

/-! ## The sign of a zero operand -/

open Binary64 (unsignZero)

/-- Numbers with the zeros among them made positive. -/
def unsigned (stack : List Binary64) : List Binary64 := stack.map unsignZero

/-- Making zeros positive twice is making them positive. -/
theorem unsigned_unsigned (stack : List Binary64) : unsigned (unsigned stack) = unsigned stack := by
  rw [unsigned, unsigned, List.map_map]
  exact List.map_congr_left fun value _ => Binary64.unsignZero_unsignZero value

/-- An operator does not see the sign of a zero operand, but for the sign of a zero result. -/
theorem applySymbol_unsignZero (symbol : String) (left right : Binary64) :
    (applySymbol symbol left right).map unsignZero =
      (applySymbol symbol left.unsignZero right.unsignZero).map unsignZero := by
  rw [applySymbol, applySymbol, Binary64.isZero_unsignZero]
  split
  · rfl
  · cases Operator.ofSymbol? symbol with
    | none => rfl
    | some operator =>
      cases operator with
      | add => exact congrArg Except.ok (Binary64.add_unsignZero left right).symm
      | sub => exact congrArg Except.ok (Binary64.sub_unsignZero left right).symm
      | mul => exact congrArg Except.ok (Binary64.mul_unsignZero left right).symm
      | div =>
        simp only [Operator.apply, Binary64.isZero_unsignZero]
        cases zero : right.isZero with
        | true => rfl
        | false => exact congrArg Except.ok (Binary64.div_unsignZero left right zero).symm

/-- A token does not see the signs of zeros on the stack, but for those of zeros it leaves. -/
theorem step_unsigned (stack : List Binary64) (token : Token) :
    (step stack token).map unsigned = (step (unsigned stack) token).map unsigned := by
  cases kind : token.kind with
  | number =>
    simp only [step, kind]
    cases readNumber token.text with
    | error failure => rfl
    | ok value =>
      show Except.ok (value.unsignZero :: unsigned stack) =
        .ok (value.unsignZero :: unsigned (unsigned stack))
      rw [unsigned_unsigned]
  | operator =>
    match stack with
    | [] => simp only [step, kind, unsigned, List.map_nil]
    | [single] => simp only [step, kind, unsigned, List.map_cons, List.map_nil]
    | right :: left :: rest =>
      have applied := applySymbol_unsignZero token.text left right
      simp only [step, kind, unsigned, List.map_cons]
      rw [map_map, map_map]
      have pushed (outcome : Except Failure Binary64) (below : List Binary64) :
          outcome.map (unsigned ∘ (· :: below)) =
            (outcome.map unsignZero).map (· :: unsigned below) := by
        rw [map_map]
        rfl
      rw [← unsigned, pushed, pushed, applied, unsigned_unsigned]
  | lparen => simp only [step, kind]
  | rparen => simp only [step, kind]

/-- A token leaves stacks that differ in the signs of zeros alike. -/
theorem step_alike {left right : List Binary64} (alike : unsigned left = unsigned right)
    (token : Token) : (step left token).map unsigned = (step right token).map unsigned := by
  rw [step_unsigned, alike, ← step_unsigned]

/-- A run leaves stacks that differ in the signs of zeros alike. -/
theorem run_alike {left right : List Binary64} (alike : unsigned left = unsigned right)
    (tokens : List Token) : (run left tokens).map unsigned = (run right tokens).map unsigned := by
  induction tokens generalizing left right with
  | nil => exact congrArg Except.ok alike
  | cons token rest ih =>
    rw [run_cons, run_cons, map_bind, map_bind]
    exact bind_alike (step_alike alike token) fun _ _ alike => ih alike

end Reckoner.Expression
