import Reckoner.Proofs.Expression.Arrangement
import Reckoner.Proofs.Expression.Hole

/-!
# A group as an operand

Tokens in parentheses stand in every context, well-formed or not, like a single number: the order of
evaluation is the one with the number, and that of the group in the place of the number
(`toPostfix_group`). So parentheses around all tokens make no difference
(`toPostfix_parenthesized`).
-/

namespace Reckoner.Expression

/-- Tokens with others in the place of every one that is the same as a given one. -/
def replaced (place : Token) (others tokens : List Token) : List Token :=
  tokens.flatMap fun token => if token.same place then others else [token]

/-- How often a token occurs, with or without a mark. -/
def occurrences (place : Token) (tokens : List Token) : Nat :=
  tokens.countP fun token => token.same place

variable {before group after output : List Token} {place : Token}

/-! ## Replacement -/

/-- A token is the same as itself. -/
theorem same_self (token : Token) : token.same token = true := Token.same_iff.mpr ⟨rfl, rfl⟩

/-- A sequence holds a token as often as its parts do. -/
theorem occurrences_append (front back : List Token) :
    occurrences place (front ++ back) = occurrences place front + occurrences place back :=
  List.countP_append

/-- A token occurs where it is put. -/
theorem occurrences_cons_self (rest : List Token) :
    occurrences place (place :: rest) = occurrences place rest + 1 :=
  List.countP_cons_of_pos (same_self place)

/-- Tokens among which the place does not occur stay as they are. -/
theorem replaced_of_absent (others : List Token) {tokens : List Token}
    (absent : occurrences place tokens = 0) : replaced place others tokens = tokens := by
  have other : ∀ token ∈ tokens, (if token.same place then others else [token]) = [token] :=
    fun token member => if_neg (List.countP_eq_zero.mp absent token member)
  rw [replaced, List.flatMap_def, List.map_congr_left other, ← List.flatMap_def,
    List.flatMap_singleton']

/-- Others come into the place where it occurs once. -/
theorem replaced_of_single (others : List Token) {front back : List Token}
    (single : occurrences place (front ++ place :: back) = 1) :
    replaced place others (front ++ place :: back) = front ++ (others ++ back) := by
  rw [occurrences_append, occurrences_cons_self] at single
  have frontAbsent : occurrences place front = 0 := by omega
  have backAbsent : occurrences place back = 0 := by omega
  have head := replaced_of_absent others frontAbsent
  have tail := replaced_of_absent others backAbsent
  rw [replaced] at head tail ⊢
  rw [List.flatMap_append, List.flatMap_cons, head, tail, if_pos (same_self place)]

/-! ## Orders of evaluation -/

/-- Tokens that are converted alike above every stack are converted alike behind others. -/
theorem postfixFrom_behind {left right : List Token}
    (alike : ∀ stack, postfixFrom stack left = postfixFrom stack right) (front stack : List Token) :
    postfixFrom stack (front ++ left) = postfixFrom stack (front ++ right) := by
  induction front generalizing stack with
  | nil => exact alike stack
  | cons token rest ih =>
    rw [List.cons_append, List.cons_append, postfixFrom, postfixFrom]
    simp only [ih]

/-- Parentheses around a number make no difference. -/
theorem postfixFrom_parenthesized_number (number : place.kind = .number) (stack : List Token) :
    postfixFrom stack (Token.lparen :: place :: Token.rparen :: after) =
      postfixFrom stack (place :: after) := by
  have closes : closeGroup? (Token.lparen :: stack) = some ([], stack) := rfl
  rw [postfixFrom_lparen rfl, postfixFrom_number number, postfixFrom_rparen rfl closes, map_map,
    postfixFrom_number number]
  rfl

/-- A number that the tokens around it do not hold occurs once in their order of evaluation. -/
theorem occurrences_toPostfix (number : place.kind = .number)
    (fresh : ∀ token ∈ before ++ after, token.same place = false)
    (converted : toPostfix (before ++ place :: after) = .ok output) :
    occurrences place output = 1 := by
  obtain ⟨placed, rfl, arranges⟩ := exists_arrangement converted
  have absent {tokens : List Token} (inside : tokens ⊆ before ++ after) :
      occurrences place (tokens.filter fun token => !token.isParen) = 0 := by
    refine List.countP_eq_zero.mpr fun token member => ?_
    rw [fresh token (inside (List.mem_filter.mp member).1)]
    exact Bool.false_ne_true
  have shown : (!place.isParen) = true := by
    rw [Token.isParen, number]
    rfl
  rw [occurrences, arranges.perm.countP_eq, ← occurrences, List.filter_append, List.filter_cons,
    if_pos shown, occurrences_append, occurrences_cons_self,
    absent (List.subset_append_left before after), absent (List.subset_append_right before after)]

/-- Parentheses around tokens that convert make no difference. -/
theorem toPostfix_parenthesized (converted : toPostfix group = .ok output) :
    toPostfix (Token.lparen :: (group ++ [Token.rparen])) = .ok output := by
  have alone := postfixFrom_group [] [] converted
  rw [List.nil_append] at alone
  rw [toPostfix, postfixFrom_lparen rfl, alone]
  exact congrArg Except.ok (List.append_nil output)

/-- Tokens in parentheses that have an order of evaluation of their own are like a number that does
not occur around them: in every context, the tokens with the group are refused exactly when those
with the number are, and otherwise their order of evaluation is that with the number, the order of
the group in its place. The number occurs there once. Parentheses around balanced tokens make no
difference. -/
theorem toPostfix_group (number : place.kind = .number)
    (fresh : ∀ token ∈ before ++ after, token.same place = false)
    (converted : toPostfix group = .ok output) :
    let grouped := before ++ Token.lparen :: (group ++ Token.rparen :: after)
    let single := before ++ place :: after
    toPostfix grouped = (toPostfix single).map (replaced place output) ∧
      (∀ order, toPostfix single = .ok order → occurrences place order = 1) ∧
      (toPostfix grouped = .error (.fault .mismatchedParentheses) ↔
        toPostfix single = .error (.fault .mismatchedParentheses)) ∧
      ∀ tokens, (∀ token ∈ tokens, Known token) → balanced 0 tokens = true →
        toPostfix (Token.lparen :: (tokens ++ [Token.rparen])) = toPostfix tokens := by
  intro grouped single
  have once (order : List Token) : toPostfix single = .ok order → occurrences place order = 1 :=
    occurrences_toPostfix number fresh
  have same : toPostfix grouped = (toPostfix single).map (replaced place output) := by
    obtain ⟨hole, filled⟩ := postfixFrom_hole before [] after
    have alone : toPostfix [place] = .ok [place] := by
      rw [toPostfix, postfixFrom_number number]
      rfl
    have bare : toPostfix single = _ :=
      (postfixFrom_behind (postfixFrom_parenthesized_number number) before []).symm.trans
        (filled [place] [place] alone)
    have full : toPostfix grouped = _ := filled group output converted
    rw [full, bare]
    cases hole with
    | error failure => rfl
    | ok parts =>
      exact congrArg Except.ok (replaced_of_single output (once _ bare)).symm
  refine ⟨same, once, ?_, ?_⟩
  · rw [same]
    exact ⟨map_eq_error, fun refused => by rw [refused]; rfl⟩
  · intro tokens known matched
    obtain ⟨order, found⟩ := (balanced_iff_exists_toPostfix known).mp matched
    rw [found, toPostfix_parenthesized found]

/-- A product with an open group. -/
def openTokens : List Token := [.number "2", ⟨.operator, "*", false⟩, .lparen]

/-- A difference that closes the group. -/
def closeTokens : List Token := [⟨.operator, "-", false⟩, .number "1", .rparen]

/-- A sum that lacks an operand. -/
def lackingTokens : List Token := [.number "1", ⟨.operator, "+", false⟩]

/-- A number that does not occur around the sum. -/
def freshToken : Token := .number "7"

/-- The sum that lacks an operand takes the place of the number, and where a parenthesis is left
open both are refused. -/
theorem toPostfix_group_lacking :
    freshToken.kind = .number ∧
      (∀ token ∈ openTokens ++ closeTokens, token.same freshToken = false) ∧
      toPostfix lackingTokens = .ok lackingTokens ∧
      toPostfix (openTokens ++ Token.lparen :: (lackingTokens ++ Token.rparen :: closeTokens)) =
        .ok (.number "2" :: (lackingTokens ++
          [.number "1", ⟨.operator, "-", false⟩, ⟨.operator, "*", false⟩])) ∧
      toPostfix (openTokens ++ Token.lparen :: (lackingTokens ++ [Token.rparen])) =
        .error (.fault .mismatchedParentheses) := by
  have listed : (openTokens ++ closeTokens).all (fun token => !token.same freshToken) = true := by
    decide
  have fresh : ∀ token ∈ openTokens ++ closeTokens, token.same freshToken = false :=
    fun token member => Bool.not_eq_true' _ ▸ List.all_eq_true.mp listed token member
  have freshOpen : ∀ token ∈ openTokens ++ [], token.same freshToken = false :=
    fun token member => fresh token (List.append_subset.mpr
      ⟨List.subset_append_left _ _, List.nil_subset _⟩ member)
  have converted : toPostfix lackingTokens = .ok lackingTokens := rfl
  obtain ⟨replacing, -⟩ := toPostfix_group rfl fresh converted
  obtain ⟨-, -, refused, -⟩ := toPostfix_group rfl freshOpen converted
  exact ⟨rfl, fresh, converted, replacing.trans rfl, refused.mpr rfl⟩

end Reckoner.Expression
