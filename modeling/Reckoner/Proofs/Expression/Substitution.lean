import Reckoner.Proofs.Expression.Hole
import Reckoner.Proofs.Expression.Printed

/-!
# Substitution of results

An expression in parentheses may be replaced by its printed result, in any text around it, sentence
of the grammar or not: the outcome is the same. The result has lost at most the sign of zero, which
nothing sees.
-/

namespace Reckoner.Expression

open Binary64 (unsignZero)

/-! ## Texts in sequence -/

/-- The visible characters of a sequence. -/
theorem visible_append (left right : String) :
    visible (left ++ right) = visible left ++ visible right := by
  rw [visible, String.toList_append, List.filter_append]
  rfl

/-- Texts in sequence spell what they spell in sequence. -/
theorem Spells.append {left right : String} {front back : List Lexeme} (first : Spells left front)
    (second : Spells right back) : Spells (left ++ right) (front ++ back) := by
  rw [Spells, visible_append, first, second, spelling, spelling, spelling, List.flatMap_append]

/-- Lexemes in sequence are separated when no numeral begins the second part. -/
theorem Separated.append {left right : List Lexeme} (first : Separated left)
    (second : Separated right) (symbol : beginsNumeral right = false) :
    Separated (left ++ right) := by
  induction left with
  | nil => exact second
  | cons head tail ih =>
    refine ⟨fun numerals => first.1 ⟨numerals.1, ?_⟩, ih first.2⟩
    cases tail with
    | nil => exact absurd (symbol.symm.trans numerals.2) Bool.false_ne_true
    | cons next others => exact numerals.2

/-- A text holds nothing but blanks and characters of expressions. -/
def isArithmeticText (text : String) : Bool :=
  text.toList.all fun char => Text.isBlank char || isArithmetic char

/-- A text of blanks and characters of expressions spells lexemes. -/
theorem exists_spells {text : String} (alphabet : isArithmeticText text = true) :
    ∃ lexemes, Separated lexemes ∧ Spells text lexemes := by
  have arithmetic : ∀ char ∈ visible text, isArithmetic char = true := by
    intro char member
    obtain ⟨inside, shown⟩ := List.mem_filter.mp member
    cases Bool.or_eq_true_iff.mp (List.all_eq_true.mp alphabet char inside) with
    | inl blank =>
      rw [blank] at shown
      cases shown
    | inr admitted => exact admitted
  obtain ⟨lexemes, separated, spelled⟩ := exists_spelling (visible text) arithmetic
  exact ⟨lexemes, separated, spelled.symm⟩

/-! ## The value of a group -/

/-- Tokens in postfix order that push a value. -/
def Pushes (output : List Token) (value : Binary64) : Prop := run [] output = .ok [value]

/-- A text with a value is converted to tokens that push the value. -/
theorem pushes_of_compute {text : String} {value : Binary64} (computed : compute text = .ok value) :
    ∃ lexemes output, Separated lexemes ∧ Spells text lexemes ∧
      toPostfix (expand true lexemes) = .ok output ∧ Pushes output value := by
  obtain ⟨lexemes, output, separated, spelled, -, converted, evaluated⟩ :=
    stages_of_compute computed
  exact ⟨lexemes, output, separated, spelled, converted, (run_of_evaluatePostfix evaluated).1⟩

/-- The printed end of an evaluation does not see the signs of zeros. -/
theorem conclude_unsigned (stack : List Binary64) :
    conclude stack >>= format = conclude (unsigned stack) >>= format := by
  match stack with
  | [] => rfl
  | [value] =>
    rw [unsigned, List.map_singleton, conclude, conclude, Binary64.isFinite_unsignZero]
    cases finite : value.isFinite with
    | false => rw [Binary64.unsignZero_of_not_finite finite]
    | true => exact (format_unsignZero value).symm
  | first :: second :: rest =>
    rw [unsigned, List.map_cons, List.map_cons, conclude, conclude]
    · simp only [List.length_cons, List.length_map]
    · simp
    · simp

/-- A run of tokens that push a value, in a context, is one of the context with the value. -/
theorem run_of_pushes {tokens : List Token} {value : Binary64} (pushes : Pushes tokens value)
    (front back : List Token) :
    run [] (front ++ (tokens ++ back)) =
      run [] front >>= fun stack => run (value :: stack) back := by
  rw [run_append]
  congr 1
  funext stack
  have above : run stack tokens = .ok (value :: stack) := run_append_stack stack pushes
  rw [run_append, above]
  rfl

/-- Tokens that push values which agree but for the sign of zero have the same printed outcome in
every context. -/
theorem evaluatePostfix_alike {first second : List Token} {left right : Binary64}
    (firstPushes : Pushes first left) (secondPushes : Pushes second right)
    (alike : left.unsignZero = right.unsignZero) (front back : List Token) :
    evaluatePostfix (front ++ (first ++ back)) >>= format =
      evaluatePostfix (front ++ (second ++ back)) >>= format := by
  rw [evaluatePostfix, evaluatePostfix, run_of_pushes firstPushes, run_of_pushes secondPushes]
  cases run [] front with
  | error failure => rfl
  | ok stack =>
    have operands : unsigned (left :: stack) = unsigned (right :: stack) := by
      rw [unsigned, unsigned, List.map_cons, List.map_cons, alike]
    show (run (left :: stack) back >>= conclude) >>= format =
      (run (right :: stack) back >>= conclude) >>= format
    rw [bind_assoc, bind_assoc]
    refine bind_alike (run_alike operands back) fun after other same => ?_
    rw [conclude_unsigned, same, ← conclude_unsigned]

/-! ## The law -/

/-- The tokens of a text around a group. -/
theorem tokenize_around {before inner after : String} {front inside back : List Lexeme}
    (frontSpelled : Spells before front) (frontSeparated : Separated front)
    (insideSpelled : Spells inner inside) (insideSeparated : Separated inside)
    (backSpelled : Spells after back) (backSeparated : Separated back) :
    tokenize (before ++ "(" ++ inner ++ ")" ++ after) =
      .ok (expand true front ++
        Token.lparen :: (expand true inside ++ Token.rparen :: expand false back)) := by
  have opens : Spells "(" [.opening] := rfl
  have closes : Spells ")" [.closing] := rfl
  have spelled := (((frontSpelled.append opens).append insideSpelled).append closes).append
    backSpelled
  have tail : Separated (.closing :: back) := ⟨by simp [Lexeme.isNumeral], backSeparated⟩
  have group : Separated (.opening :: (inside ++ .closing :: back)) :=
    ⟨by simp [Lexeme.isNumeral], insideSeparated.append tail rfl⟩
  have separated := frontSeparated.append group rfl
  simp only [List.append_assoc, List.cons_append, List.nil_append] at spelled
  rw [tokenize_of_spells spelled separated (by simp), expand_append,
    expand_cons_of_not_minus _ rfl, expand_append, expand_cons_of_not_minus _ rfl]
  rfl

/-- An expression in parentheses and its printed result in parentheses have the same outcome, in
every text of blanks and characters of expressions around them. -/
theorem evaluate_substitution (before inner after result : String)
    (beforeAlphabet : isArithmeticText before = true)
    (afterAlphabet : isArithmeticText after = true)
    (evaluated : evaluate inner = .ok result) :
    evaluate (before ++ "(" ++ inner ++ ")" ++ after) =
      evaluate (before ++ "(" ++ result ++ ")" ++ after) := by
  obtain ⟨value, computed, written⟩ := bind_eq_ok evaluated
  obtain ⟨front, frontSeparated, frontSpelled⟩ := exists_spells beforeAlphabet
  obtain ⟨back, backSeparated, backSpelled⟩ := exists_spells afterAlphabet
  obtain ⟨first, firstOutput, firstSeparated, firstSpelled, firstConverted, firstPushes⟩ :=
    pushes_of_compute computed
  obtain ⟨second, secondOutput, secondSeparated, secondSpelled, secondConverted, secondPushes⟩ :=
    pushes_of_compute (compute_format written)
  obtain ⟨hole, filled⟩ := postfixFrom_hole (expand true front) [] (expand false back)
  rw [evaluate, compute, evaluate, compute,
    tokenize_around frontSpelled frontSeparated firstSpelled firstSeparated backSpelled
      backSeparated,
    tokenize_around frontSpelled frontSeparated secondSpelled secondSeparated backSpelled
      backSeparated]
  show (postfixFrom [] _ >>= evaluatePostfix) >>= format =
    (postfixFrom [] _ >>= evaluatePostfix) >>= format
  rw [filled _ _ firstConverted, filled _ _ secondConverted]
  cases hole with
  | error failure => rfl
  | ok parts =>
    exact evaluatePostfix_alike firstPushes secondPushes
      (Binary64.unsignZero_unsignZero value).symm parts.1 parts.2

/-- A negative zero is replaced by the printed zero. -/
theorem evaluate_substitution_zero :
    evaluate "0*-1" = .ok "0" ∧
      evaluate ("2 - " ++ "(" ++ "0*-1" ++ ")" ++ "*3") =
        evaluate ("2 - " ++ "(" ++ "0" ++ ")" ++ "*3") := by
  have evaluated : evaluate "0*-1" = .ok "0" := eq_ok_of_toOption (by decide +kernel)
  exact ⟨evaluated, evaluate_substitution "2 - " "0*-1" "*3" "0" rfl rfl evaluated⟩

end Reckoner.Expression
