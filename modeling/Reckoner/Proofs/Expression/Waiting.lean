import Reckoner.Expression.Postfix
import Reckoner.Proofs.Result

/-!
# The stack of waiting tokens

What leaves the stack in front of an operator or at a closing parenthesis is a part of it from the
top, and depends on nothing below the first token that stays.
-/

namespace Reckoner.Expression

/-! ## Operators -/

/-- Nothing passes an opening parenthesis. -/
theorem yields_lparen (incoming : Token) : yields Token.lparen incoming = .ok false := rfl

/-- Only operators go out before an operator. -/
theorem kind_of_yields {waiting incoming : Token} (leaves : yields waiting incoming = .ok true) :
    waiting.kind = .operator := by
  by_cases operator : waiting.kind = .operator
  · exact operator
  · rw [yields, if_neg operator] at leaves
    cases leaves

/-- An operator below a token that stays is not looked at. -/
theorem release_cons_of_stays {incoming top : Token} (stays : yields top incoming = .ok false)
    (rest : List Token) : release incoming (top :: rest) = .ok ([], top :: rest) := by
  rw [release, stays]
  rfl

/-- A token that goes out does so before those below it. -/
theorem release_cons_of_leaves {incoming top : Token} (leaves : yields top incoming = .ok true)
    (rest : List Token) :
    release incoming (top :: rest) =
      (release incoming rest).map fun (released, kept) => (top :: released, kept) := by
  rw [release, leaves]
  cases release incoming rest with
  | error failure => rfl
  | ok parts => rfl

/-- The tokens that go out before an incoming one, above a token that stays. -/
theorem release_append (incoming : Token) (pending stack : List Token)
    (leave : ∀ token ∈ pending, yields token incoming = .ok true)
    (stays : ∀ top, stack.head? = some top → yields top incoming = .ok false) :
    release incoming (pending ++ stack) = .ok (pending, stack) := by
  induction pending with
  | nil =>
    cases stack with
    | nil => rfl
    | cons top rest => exact release_cons_of_stays (stays top rfl) rest
  | cons first rest ih =>
    have tail := ih fun token member => leave token (List.mem_cons_of_mem first member)
    rw [List.cons_append, release_cons_of_leaves (leave first List.mem_cons_self), tail]
    rfl

/-- What goes out before an operator is operators from the top of the stack. -/
theorem release_eq_ok {incoming : Token} {stack released kept : List Token}
    (split : release incoming stack = .ok (released, kept)) :
    stack = released ++ kept ∧ ∀ token ∈ released, token.kind = .operator := by
  induction stack generalizing released kept with
  | nil =>
    cases split
    exact ⟨rfl, fun _ member => by cases member⟩
  | cons top rest ih =>
    rw [release] at split
    obtain ⟨leaves, decided, split⟩ := bind_eq_ok split
    cases leaves with
    | false =>
      cases split
      exact ⟨rfl, fun _ member => by cases member⟩
    | true =>
      obtain ⟨⟨others, below⟩, tail, split⟩ := bind_eq_ok split
      cases split
      obtain ⟨parts, operators⟩ := ih tail
      refine ⟨by rw [parts, List.cons_append], fun token member => ?_⟩
      cases List.mem_cons.mp member with
      | inl first =>
        rw [first]
        exact kind_of_yields decided
      | inr other => exact operators token other

/-- What goes out before an operator does not depend on what lies below an opening parenthesis. -/
theorem release_append_lparen (incoming : Token) (group below : List Token) :
    release incoming (group ++ Token.lparen :: below) =
      (release incoming group).map fun (released, kept) =>
        (released, kept ++ Token.lparen :: below) := by
  induction group with
  | nil => exact release_cons_of_stays (yields_lparen incoming) below
  | cons top rest ih =>
    rw [List.cons_append, release, release, ih]
    cases yields top incoming with
    | error failure => rfl
    | ok leaves =>
      cases leaves with
      | false => rfl
      | true =>
        cases release incoming rest with
        | error failure => rfl
        | ok parts => rfl

/-! ## Groups -/

/-- The tokens of a group lie above its opening parenthesis. -/
theorem closeGroup?_append (inside below : List Token)
    (closed : ∀ token ∈ inside, token.kind ≠ .lparen) :
    closeGroup? (inside ++ Token.lparen :: below) = some (inside, below) := by
  induction inside with
  | nil => rfl
  | cons first rest ih =>
    have tail := ih fun token member => closed token (List.mem_cons_of_mem first member)
    rw [List.cons_append, closeGroup?, if_neg (closed first List.mem_cons_self), tail]
    rfl

/-- A group ends at the first opening parenthesis from the top of the stack. -/
theorem closeGroup?_eq_some {stack inside below : List Token}
    (closes : closeGroup? stack = some (inside, below)) :
    ∃ opening, opening.kind = .lparen ∧ stack = inside ++ opening :: below ∧
      ∀ token ∈ inside, token.kind ≠ .lparen := by
  induction stack generalizing inside below with
  | nil => cases closes
  | cons top rest ih =>
    by_cases opens : top.kind = .lparen
    · rw [closeGroup?, if_pos opens] at closes
      cases closes
      exact ⟨top, opens, rfl, fun _ member => by cases member⟩
    · rw [closeGroup?, if_neg opens, Option.map_eq_some_iff] at closes
      obtain ⟨⟨others, lower⟩, tail, same⟩ := closes
      cases same
      obtain ⟨opening, kind, parts, closed⟩ := ih tail
      refine ⟨opening, kind, by rw [parts, List.cons_append], fun token member => ?_⟩
      cases List.mem_cons.mp member with
      | inl first =>
        rw [first]
        exact opens
      | inr other => exact closed token other

/-- A group is closed in the same way whatever lies under it. -/
theorem closeGroup?_append_of_some {group inside below : List Token} (stack : List Token)
    (closes : closeGroup? group = some (inside, below)) :
    closeGroup? (group ++ stack) = some (inside, below ++ stack) := by
  induction group generalizing inside below with
  | nil => cases closes
  | cons top rest ih =>
    by_cases opens : top.kind = .lparen
    · rw [closeGroup?, if_pos opens] at closes
      cases closes
      rw [List.cons_append, closeGroup?, if_pos opens]
    · rw [closeGroup?, if_neg opens, Option.map_eq_some_iff] at closes
      obtain ⟨⟨others, lower⟩, tail, same⟩ := closes
      cases same
      rw [List.cons_append, closeGroup?, if_neg opens, ih tail]
      rfl

/-! ## One token of the conversion -/

section

variable {stack rest : List Token} {token : Token}

/-- A number goes out at once. -/
theorem postfixFrom_number (kind : token.kind = .number) :
    postfixFrom stack (token :: rest) = (postfixFrom stack rest).map (token :: ·) := by
  simp only [postfixFrom, kind]

/-- An operator sends out what goes before it, and waits. -/
theorem postfixFrom_operator {released kept : List Token} (kind : token.kind = .operator)
    (parts : release token stack = .ok (released, kept)) :
    postfixFrom stack (token :: rest) =
      (postfixFrom (token :: kept) rest).map (released ++ ·) := by
  simp only [postfixFrom, kind, parts, bind, Except.bind]
  cases postfixFrom (token :: kept) rest with
  | error failure => rfl
  | ok following => rfl

/-- An opening parenthesis waits. -/
theorem postfixFrom_lparen (kind : token.kind = .lparen) :
    postfixFrom stack (token :: rest) = postfixFrom (token :: stack) rest := by
  simp only [postfixFrom, kind]

/-- A closing parenthesis sends out what waits in its group. -/
theorem postfixFrom_rparen {inside below : List Token} (kind : token.kind = .rparen)
    (closes : closeGroup? stack = some (inside, below)) :
    postfixFrom stack (token :: rest) = (postfixFrom below rest).map (inside ++ ·) := by
  simp only [postfixFrom, kind, closes]

/-- A conversion that succeeds does so with what its first token makes of the stack. -/
theorem postfixFrom_cons_eq_ok {output : List Token}
    (converted : postfixFrom stack (token :: rest) = .ok output) :
    (token.kind = .number ∧ ∃ following, postfixFrom stack rest = .ok following ∧
      output = token :: following) ∨
    (token.kind = .operator ∧ ∃ released kept following,
      release token stack = .ok (released, kept) ∧
      postfixFrom (token :: kept) rest = .ok following ∧ output = released ++ following) ∨
    (token.kind = .lparen ∧ postfixFrom (token :: stack) rest = .ok output) ∨
    (token.kind = .rparen ∧ ∃ inside below following,
      closeGroup? stack = some (inside, below) ∧ postfixFrom below rest = .ok following ∧
      output = inside ++ following) := by
  cases kind : token.kind with
  | number =>
    rw [postfixFrom_number kind] at converted
    obtain ⟨following, tail, same⟩ := map_eq_ok converted
    exact .inl ⟨rfl, following, tail, same.symm⟩
  | operator =>
    cases parts : release token stack with
    | error failure =>
      simp only [postfixFrom, kind, parts] at converted
      cases converted
    | ok split =>
      rw [postfixFrom_operator kind parts] at converted
      obtain ⟨following, tail, same⟩ := map_eq_ok converted
      exact .inr (.inl ⟨rfl, split.1, split.2, following, rfl, tail, same.symm⟩)
  | lparen =>
    rw [postfixFrom_lparen kind] at converted
    exact .inr (.inr (.inl ⟨rfl, converted⟩))
  | rparen =>
    cases closes : closeGroup? stack with
    | none =>
      simp only [postfixFrom, kind, closes] at converted
      cases converted
    | some parts =>
      rw [postfixFrom_rparen kind closes] at converted
      obtain ⟨following, tail, same⟩ := map_eq_ok converted
      exact .inr (.inr (.inr ⟨rfl, parts.1, parts.2, following, rfl, tail, same.symm⟩))

/-- At the end every waiting token goes out, and none is an opening parenthesis. -/
theorem postfixFrom_nil_eq_ok {output : List Token}
    (converted : postfixFrom stack [] = .ok output) :
    output = stack ∧ ∀ token ∈ stack, token.kind ≠ .lparen := by
  rw [postfixFrom] at converted
  split at converted
  · cases converted
  · rename_i none
    refine ⟨(Except.ok.inj converted).symm, fun token member opens => none ?_⟩
    rw [List.any_eq_true]
    exact ⟨token, member, by rw [Token.isParen, opens]; rfl⟩

end

end Reckoner.Expression
