import Mathlib.Data.List.Induction
import Reckoner.Proofs.Expression.Faults
import Reckoner.Proofs.Expression.Hole

/-!
# Post-order listings

Tokens in postfix order are read one by one, and the first token that offends ends the reading. As
long as none does, what has been read lists trees one after the other (`Grown`): each operator takes
the last two of them, and the stack holds their values. A tree can be told from any list that it
stands at the end of (`Tree.listing_append_inj`), so tokens that are read to the end and leave one
value list exactly one tree.
-/

namespace Reckoner

/-- The value of an operator on two numbers; a zero of either sign divides nothing. -/
def Operator.result : Operator → Binary64 → Binary64 → Except EvalError Binary64
  | .add, left, right => .ok (left.add right)
  | .sub, left, right => .ok (left.sub right)
  | .mul, left, right => .ok (left.mul right)
  | .div, left, right => if right.isZero then .error .divisionByZero else .ok (left.div right)

namespace Expression

/-! ## Trees -/

/-- The number that a text denotes, if it denotes one and the number is not too great. -/
def numberOf? (text : String) : Option Binary64 :=
  (Literal.parse? text.toList).filter fun value => !value.isInfinite

/-- A binary tree of numbers and operators. -/
inductive Tree where
  /-- A number, not yet read. -/
  | leaf (text : String) (unary : Bool)
  /-- An operator on two trees. -/
  | node (left : Tree) (operator : Operator) (unary : Bool) (right : Tree)

namespace Tree

/-- The tokens of a tree in post-order: both operands, then the operator. -/
def listing : Tree → List Token
  | leaf text unary => [⟨.number, text, unary⟩]
  | node left operator unary right =>
    left.listing ++ right.listing ++ [⟨.operator, operator.symbol, unary⟩]

/-- The value of a tree, or its first fault: operands from left to right, then the operator. -/
def value : Tree → Except EvalError Binary64
  | leaf text _ =>
    match numberOf? text with
    | some value => .ok value
    | none => .error (.invalidNumber text)
  | node left operator _ right => do
    let first ← left.value
    let second ← right.value
    operator.result first second

end Tree

/-- An operator has one symbol. -/
theorem symbol_injective {first second : Operator} (same : first.symbol = second.symbol) :
    first = second := by
  cases first <;> cases second <;> first | rfl | exact absurd same (by decide)

/-- The tree at the end of tokens is the only one there. -/
theorem Tree.listing_append_inj {front other : List Token} {tree another : Tree}
    (same : front ++ tree.listing = other ++ another.listing) : front = other ∧ tree = another := by
  induction tree generalizing front other another with
  | leaf text unary =>
    cases another with
    | leaf otherText otherUnary =>
      obtain ⟨fronts, lasts⟩ := List.append_inj' same rfl
      cases lasts
      exact ⟨fronts, rfl⟩
    | node left operator unary right =>
      rw [listing, listing, ← List.append_assoc] at same
      cases (List.append_inj' same rfl).2
  | node left operator unary right leftIh rightIh =>
    cases another with
    | leaf otherText otherUnary =>
      rw [listing, listing, ← List.append_assoc] at same
      cases (List.append_inj' same rfl).2
    | node otherLeft otherOperator otherUnary otherRight =>
      rw [listing, listing, ← List.append_assoc, ← List.append_assoc, ← List.append_assoc,
        ← List.append_assoc] at same
      obtain ⟨operands, lasts⟩ := List.append_inj' same rfl
      obtain ⟨lefts, rfl⟩ := rightIh operands
      obtain ⟨fronts, rfl⟩ := leftIh lefts
      simp only [List.cons.injEq, Token.mk.injEq, and_true, true_and] at lasts
      rw [symbol_injective lasts.1, lasts.2]
      exact ⟨fronts, rfl⟩

/-! ## Heights -/

/-- How many numbers more than operators tokens hold. -/
def height (tokens : List Token) : Int := count .number tokens - count .operator tokens

/-- The height of a sequence is that of its parts. -/
theorem height_append (left right : List Token) :
    height (left ++ right) = height left + height right := by
  rw [height, height, height, count_append, count_append]
  omega

/-- A tree leaves one value. -/
theorem Tree.height_listing (tree : Tree) : height tree.listing = 1 := by
  induction tree with
  | leaf text unary => rfl
  | node left operator unary right leftIh rightIh =>
    have last : height [⟨.operator, operator.symbol, unary⟩] = -1 := rfl
    rw [listing, height_append, height_append, leftIh, rightIh, last]
    rfl

/-- The tokens of trees, the last one first. -/
def listings : List Tree → List Token
  | [] => []
  | last :: others => listings others ++ last.listing

/-- Trees leave a value each. -/
theorem height_listings (trees : List Tree) : height (listings trees) = trees.length := by
  induction trees with
  | nil => rfl
  | cons last others ih =>
    rw [listings, height_append, ih, last.height_listing, List.length_cons]
    rfl

/-! ## Offending tokens -/

/-- A token offends behind tokens in front of which none does: a number that cannot be read, an
operator that finds fewer than two values, or a division by the last tree when its value is zero. -/
inductive Offends (front : List Token) (token : Token) : EvalError → Prop where
  /-- A number must be read. -/
  | number (kind : token.kind = .number) (unread : numberOf? token.text = none) :
    Offends front token (.invalidNumber token.text)
  /-- An operator must find two values. -/
  | operands (kind : token.kind = .operator) (few : height front < 2) :
    Offends front token (.insufficientOperands token.text)
  /-- A division must find a divisor. -/
  | divisor {rest : List Token} {right : Tree} {value : Binary64} (kind : token.kind = .operator)
    (slash : token.text = "/") (enough : 2 ≤ height front) (last : front = rest ++ right.listing)
    (valued : right.value = .ok value) (zero : value.isZero = true) :
    Offends front token .divisionByZero

/-- No token offends. -/
def Spotless (tokens : List Token) : Prop :=
  ∀ front token back error, tokens = front ++ token :: back → ¬ Offends front token error

/-- The first token that offends does so with a fault. -/
def FirstOffence (tokens : List Token) (error : EvalError) : Prop :=
  ∃ front token back, tokens = front ++ token :: back ∧ Spotless front ∧ Offends front token error

/-- Where there is no token, none offends. -/
theorem spotless_nil : Spotless [] := by
  intro front token back error parts
  cases front <;> cases parts

/-- No token offends in front of the last one, if none does. -/
theorem Spotless.front {front : List Token} {token : Token}
    (spotless : Spotless (front ++ [token])) : Spotless front := by
  intro first other back error parts
  refine spotless first other (back ++ [token]) error ?_
  rw [parts, List.append_assoc, List.cons_append]

/-- No token offends when none does in front of the last one, nor the last one. -/
theorem Spotless.append {front : List Token} {token : Token} (spotless : Spotless front)
    (last : ∀ error, ¬ Offends front token error) : Spotless (front ++ [token]) := by
  intro first other back error parts
  rcases List.eq_nil_or_concat back with rfl | ⟨middle, final, rfl⟩
  · obtain ⟨rfl, same⟩ := List.append_inj' parts rfl
    cases same
    exact last error
  · rw [List.concat_eq_append, ← List.cons_append, ← List.append_assoc] at parts
    obtain ⟨rfl, -⟩ := List.append_inj' parts rfl
    exact spotless first other middle error rfl

/-- No token offends, or there is a first one that does. -/
theorem spotless_or_firstOffence (tokens : List Token) :
    Spotless tokens ∨ ∃ error, FirstOffence tokens error := by
  induction tokens using List.reverseRecOn with
  | nil => exact .inl spotless_nil
  | append_singleton front token ih =>
    rcases ih with spotless | ⟨error, first, other, back, rfl, spotless, offends⟩
    · by_cases offence : ∃ error, Offends front token error
      · obtain ⟨error, offends⟩ := offence
        exact .inr ⟨error, front, token, [], rfl, spotless, offends⟩
      · exact .inl (spotless.append fun error offends => offence ⟨error, offends⟩)
    · refine .inr ⟨error, first, other, back ++ [token], ?_, spotless, offends⟩
      rw [List.append_assoc, List.cons_append]

/-! ## Readings -/

/-- A number token is read as the number of its text. -/
theorem readNumber_eq (text : String) :
    readNumber text =
      match numberOf? text with
      | some value => .ok value
      | none => .error (.fault (.invalidNumber text)) := by
  rw [readNumber, numberOf?]
  cases Literal.parse? text.toList with
  | none => rfl
  | some value =>
    cases infinite : value.isInfinite with
    | true => simp only [Option.filter, infinite, Bool.not_true, Bool.false_eq_true, ↓reduceIte]
    | false => simp only [Option.filter, infinite, Bool.not_false, Bool.false_eq_true, ↓reduceIte]

/-- The symbol of an operator stands for its value. -/
theorem applySymbol_symbol (operator : Operator) (left right : Binary64) :
    applySymbol operator.symbol left right =
      (operator.result left right).mapError Failure.fault := by
  cases operator with
  | add => rfl
  | sub => rfl
  | mul => rfl
  | div => exact applySymbol_productOperator .divided left right

/-- A list of two or more begins with two. -/
theorem exists_firstTwo {α : Type} {list : List α} (enough : 2 ≤ list.length) :
    ∃ first second rest, list = first :: second :: rest := by
  have filled : 0 < list.length := Nat.lt_of_lt_of_le Nat.two_pos enough
  obtain ⟨first, tail, rfl⟩ := List.exists_cons_of_length_pos filled
  rw [List.length_cons] at enough
  obtain ⟨second, rest, rfl⟩ := List.exists_cons_of_length_pos (Nat.le_of_succ_le_succ enough)
  exact ⟨first, second, rest, rfl⟩

/-- What has been read lists trees, and the stack holds their values, both the last one first. -/
structure Grown (tokens : List Token) (trees : List Tree) (values : List Binary64) : Prop where
  /-- The trees are listed. -/
  listed : listings trees = tokens
  /-- The trees have the values. -/
  valued : trees.map Tree.value = values.map Except.ok
  /-- The values are on the stack. -/
  ran : run [] tokens = .ok values

namespace Grown

variable {tokens : List Token} {trees : List Tree} {values : List Binary64}

/-- There are as many values as the height tells. -/
theorem length_values (grown : Grown tokens trees values) :
    (values.length : Int) = height tokens := by
  have lengths := congrArg List.length grown.valued
  rw [List.length_map, List.length_map] at lengths
  rw [← grown.listed, height_listings, lengths]

/-- The reading of one more token is its step. -/
theorem run_append_cons (grown : Grown tokens trees values) (token : Token) (back : List Token) :
    run [] (tokens ++ token :: back) = step values token >>= fun stack => run stack back := by
  rw [run_append, grown.ran]
  exact run_cons values token back

/-- A height of two or more leaves operands. -/
theorem exists_operands (grown : Grown tokens trees values) (enough : 2 ≤ height tokens) :
    ∃ right left below second first others, trees = right :: left :: below ∧
      values = second :: first :: others := by
  have counted := height_listings trees
  rw [grown.listed] at counted
  have length := grown.length_values
  obtain ⟨right, left, below, shown⟩ := exists_firstTwo (by omega : 2 ≤ trees.length)
  obtain ⟨second, first, others, held⟩ := exists_firstTwo (by omega : 2 ≤ values.length)
  exact ⟨right, left, below, second, first, others, shown, held⟩

/-- A token that offends ends the reading with its fault. -/
theorem step_of_offends (grown : Grown tokens trees values) {token : Token} {error : EvalError}
    (offends : Offends tokens token error) : step values token = .error (.fault error) := by
  cases offends with
  | number kind unread =>
    simp only [step, kind, readNumber_eq, unread]
    rfl
  | operands kind few =>
    rw [← grown.length_values] at few
    cases values with
    | nil => simp only [step, kind]
    | cons second rest =>
      cases rest with
      | nil => simp only [step, kind]
      | cons first others =>
        simp only [List.length_cons] at few
        omega
  | @divisor rest right value kind slash enough last valued zero =>
    obtain ⟨final, left, below, second, first, others, rfl, rfl⟩ := grown.exists_operands enough
    -- The tree at the end of the tokens is the one on top of the stack.
    obtain ⟨-, rfl⟩ := Tree.listing_append_inj (grown.listed.trans last)
    have top := (List.cons.inj grown.valued).1
    rw [valued, Except.ok.injEq] at top
    simp only [step, kind, slash, applySymbol, ← top, zero, and_self, ↓reduceIte]
    rfl

/-- A number that can be read is a tree of its own. -/
theorem number (grown : Grown tokens trees values) {token : Token} (kind : token.kind = .number)
    {value : Binary64} (read : numberOf? token.text = some value) :
    Grown (tokens ++ [token]) (.leaf token.text token.unary :: trees) (value :: values) := by
  obtain ⟨sort, text, unary⟩ := token
  cases kind
  refine ⟨?_, ?_, ?_⟩
  · rw [listings, grown.listed, Tree.listing]
  · simp only [List.map_cons, grown.valued, Tree.value, read]
  · rw [grown.run_append_cons]
    simp only [step, readNumber_eq, read]
    rfl

/-- An operator makes one tree of the last two. -/
theorem operator {left right : Tree} {first second value : Binary64} {operator : Operator}
    (grown : Grown tokens (right :: left :: trees) (second :: first :: values)) (unary : Bool)
    (valued : operator.result first second = .ok value) :
    Grown (tokens ++ [⟨.operator, operator.symbol, unary⟩])
      (.node left operator unary right :: trees) (value :: values) := by
  have valuedTrees := grown.valued
  simp only [List.map_cons, List.cons.injEq] at valuedTrees
  obtain ⟨valuedRight, valuedLeft, valuedRest⟩ := valuedTrees
  refine ⟨?_, ?_, ?_⟩
  · rw [listings, ← grown.listed, listings, listings, Tree.listing]
    simp only [List.append_assoc]
  · rw [List.map_cons, List.map_cons, valuedRest, Tree.value, valuedLeft, valuedRight]
    exact congrArg (· :: _) valued
  · rw [grown.run_append_cons]
    simp only [step, applySymbol_symbol, valued]
    rfl

/-- A known token that does not offend is read. -/
theorem append (grown : Grown tokens trees values) {token : Token} (known : Known token)
    (kind : token.kind = .number ∨ token.kind = .operator)
    (fine : ∀ error, ¬ Offends tokens token error) :
    ∃ trees values, Grown (tokens ++ [token]) trees values := by
  rcases kind with number | operator
  · cases read : numberOf? token.text with
    | none => exact absurd (.number number read) (fine _)
    | some value => exact ⟨_, _, grown.number number read⟩
  · have enough : 2 ≤ height tokens := by
      refine Int.not_lt.mp fun few => fine _ (.operands operator few)
    obtain ⟨sort, text, unary⟩ := token
    obtain ⟨found, symbol⟩ := known operator
    have written := symbol_of_ofSymbol? symbol
    cases operator
    cases written
    obtain ⟨right, left, below, second, first, others, rfl, rfl⟩ := grown.exists_operands enough
    cases result : found.result first second with
    | ok value => exact ⟨_, _, grown.operator unary result⟩
    | error error =>
      have valued := (List.cons.inj grown.valued).1
      cases found with
      | div =>
        rw [Operator.result] at result
        split at result
        · rename_i zero
          exact absurd (Offends.divisor rfl rfl enough grown.listed.symm valued zero) (fine _)
        · cases result
      | _ => cases result

end Grown

/-- Known tokens of which none offends are read to the end. -/
theorem Spotless.grown {tokens : List Token} (spotless : Spotless tokens)
    (kinds : ∀ token ∈ tokens, token.kind = .number ∨ token.kind = .operator)
    (known : ∀ token ∈ tokens, Known token) : ∃ trees values, Grown tokens trees values := by
  induction tokens using List.reverseRecOn with
  | nil => exact ⟨[], [], rfl, rfl, rfl⟩
  | append_singleton front token ih =>
    obtain ⟨frontKinds, lastKind⟩ := List.forall_mem_append.mp kinds
    obtain ⟨frontKnown, lastKnown⟩ := List.forall_mem_append.mp known
    obtain ⟨trees, values, grown⟩ := ih spotless.front frontKinds frontKnown
    have member : token ∈ [token] := List.mem_singleton.mpr rfl
    exact grown.append (lastKnown token member) (lastKind token member) fun error =>
      spotless front token [] error rfl

/-- A tree of which tokens are the listing is the only one that they have grown to. -/
theorem Grown.eq_singleton {tokens : List Token} {trees : List Tree} {values : List Binary64}
    (grown : Grown tokens trees values) {tree : Tree} (listed : tree.listing = tokens) :
    trees = [tree] := by
  have single : listings trees = [] ++ tree.listing := grown.listed.trans listed.symm
  match trees with
  | [] => exact absurd (congrArg height single) (by rw [height_append, tree.height_listing]; decide)
  | last :: others =>
    obtain ⟨none, rfl⟩ := Tree.listing_append_inj single
    have heights := height_listings others
    rw [none] at heights
    rw [List.eq_nil_of_length_eq_zero (Int.ofNat.inj heights).symm]

/-- Values are left over at the end when they are not exactly one. -/
theorem conclude_eq_malformed {values : List Binary64} {remaining : Nat} :
    conclude values = .error (.fault (.malformedExpression remaining)) ↔
      values.length ≠ 1 ∧ remaining = values.length := by
  match values with
  | [] => simp [conclude, eq_comm]
  | [value] =>
    rw [conclude]
    split <;> simp
  | first :: second :: rest => simp [conclude, eq_comm]

/-- The reading of known tokens ends at the first of them that offends. -/
theorem FirstOffence.run_eq {tokens : List Token} {error : EvalError}
    (offence : FirstOffence tokens error)
    (kinds : ∀ token ∈ tokens, token.kind = .number ∨ token.kind = .operator)
    (known : ∀ token ∈ tokens, Known token) : run [] tokens = .error (.fault error) := by
  obtain ⟨front, token, back, rfl, spotless, offends⟩ := offence
  obtain ⟨trees, values, grown⟩ := spotless.grown (List.forall_mem_append.mp kinds).1
    (List.forall_mem_append.mp known).1
  rw [grown.run_append_cons, grown.step_of_offends offends]
  rfl

/-- No token offends when all are read. -/
theorem spotless_of_run {tokens : List Token}
    (kinds : ∀ token ∈ tokens, token.kind = .number ∨ token.kind = .operator)
    (known : ∀ token ∈ tokens, Known token) (read : (run [] tokens).toOption.isSome = true) :
    Spotless tokens := by
  rcases spotless_or_firstOffence tokens with spotless | ⟨error, offence⟩
  · exact spotless
  · rw [offence.run_eq kinds known] at read
    cases read

/-- Numbers and known operators are read until one of them offends, and the first that does tells
the fault. If none does, values are left over exactly when the numbers are not one more than the
operators, and as many as they are more. Otherwise the tokens list exactly one tree in post-order,
the tree has a value, and this is the outcome if it is finite. -/
theorem evaluatePostfix_listing (tokens : List Token)
    (kinds : ∀ token ∈ tokens, token.kind = .number ∨ token.kind = .operator)
    (known : ∀ token ∈ tokens, Known token) :
    (Spotless tokens ∨ ∃ error, FirstOffence tokens error) ∧
    (∀ error, FirstOffence tokens error → evaluatePostfix tokens = .error (.fault error)) ∧
    (Spotless tokens →
      0 ≤ height tokens ∧
      (∀ remaining : Nat,
        evaluatePostfix tokens = .error (.fault (.malformedExpression remaining)) ↔
          height tokens ≠ 1 ∧ remaining = height tokens) ∧
      (height tokens = 1 → ∃ tree : Tree, tree.listing = tokens ∧
        (∀ other : Tree, other.listing = tokens → other = tree) ∧
        ∃ value, tree.value = .ok value ∧
          evaluatePostfix tokens =
            if value.isFinite then .ok value else .error (.fault (.invalidResult value)))) := by
  refine ⟨spotless_or_firstOffence tokens, ?_, fun spotless => ?_⟩
  · intro error offence
    rw [evaluatePostfix, offence.run_eq kinds known]
    rfl
  · obtain ⟨trees, values, grown⟩ := spotless.grown kinds known
    have length := grown.length_values
    have concluded : evaluatePostfix tokens = conclude values := by
      rw [evaluatePostfix, grown.ran]
      rfl
    refine ⟨by omega, fun remaining => ?_, fun single => ?_⟩
    · rw [concluded, conclude_eq_malformed, ← length]
      omega
    · obtain ⟨value, rfl⟩ := List.length_eq_one_iff.mp (by omega : values.length = 1)
      obtain ⟨tree, rfl⟩ := List.length_eq_one_iff.mp
        ((List.length_map Tree.value).symm.trans (congrArg List.length grown.valued))
      exact ⟨tree, grown.listed, fun other listed => (List.singleton_inj.mp
        (grown.eq_singleton listed)).symm, value, List.singleton_inj.mp grown.valued, concluded⟩

/-- Numbers of which the last two make a difference, and the first is left over. -/
def lopsidedTokens : List Token :=
  [.number "5", .number "2", .number "2", ⟨.operator, "-", false⟩]

/-- The numbers with a sum, which takes the one that is left over. -/
def summedTokens : List Token := lopsidedTokens ++ [⟨.operator, "+", true⟩]

/-- The numbers with a division by their difference, in front of a text that is no number. -/
def dividedTokens : List Token :=
  lopsidedTokens ++ [⟨.operator, "/", false⟩, .number "1.2.3"]

/-- Without more tokens two values are left over. With the sum one tree is listed, and it has the
value of the first number. With the division the difference is a divisor of zero. -/
theorem evaluatePostfix_listing_lopsided :
    evaluatePostfix lopsidedTokens = .error (.fault (.malformedExpression 2)) ∧
    (evaluatePostfix summedTokens).toOption = numberOf? "5" ∧
    evaluatePostfix dividedTokens = .error (.fault .divisionByZero) := by
  let difference := Tree.node (.leaf "2" false) .sub false (.leaf "2" false)
  have kinds : ∀ token ∈ lopsidedTokens, token.kind = .number ∨ token.kind = .operator := by
    decide
  have known : ∀ token ∈ lopsidedTokens, Known token := known_of_all (by decide)
  have spotless : Spotless lopsidedTokens := spotless_of_run kinds known (by decide +kernel)
  refine ⟨?_, ?_, ?_⟩
  · obtain ⟨-, -, accepted⟩ := evaluatePostfix_listing lopsidedTokens kinds known
    exact ((accepted spotless).2.1 2).mpr ⟨by decide, by decide⟩
  · have kinds : ∀ token ∈ summedTokens, token.kind = .number ∨ token.kind = .operator := by
      decide
    have known : ∀ token ∈ summedTokens, Known token := known_of_all (by decide)
    have whole : Spotless summedTokens := spotless_of_run kinds known (by decide +kernel)
    obtain ⟨-, -, accepted⟩ := evaluatePostfix_listing summedTokens kinds known
    obtain ⟨tree, -, only, value, valued, outcome⟩ := (accepted whole).2.2 (by decide)
    have sum := only (.node (.leaf "5" false) .add true difference) rfl
    have finite : (numberOf? "5").map Binary64.isFinite = some true := by decide +kernel
    have five : (Tree.node (.leaf "5" false) .add true difference).value.toOption =
        numberOf? "5" := by decide +kernel
    rw [sum, valued] at five
    rw [← five] at finite
    rw [outcome, Option.some.inj finite]
    exact five
  · have kinds : ∀ token ∈ dividedTokens, token.kind = .number ∨ token.kind = .operator := by
      decide
    have known : ∀ token ∈ dividedTokens, Known token := known_of_all (by decide)
    obtain ⟨-, first, -⟩ := evaluatePostfix_listing dividedTokens kinds known
    have valued : difference.value = .ok Binary64.zero := eq_ok_of_toOption (by decide +kernel)
    have last : lopsidedTokens = [.number "5"] ++ difference.listing := rfl
    exact first _ ⟨lopsidedTokens, _, _, rfl, spotless, .divisor rfl rfl (by decide) last valued rfl⟩

end Expression

end Reckoner
