import Reckoner.Proofs.Expression.Conversion

/-!
# Agreement with the direct value

A phrase in postfix order pushes its value, on every stack and whatever follows. A text that spells
a phrase therefore has the outcome of the phrase.
-/

namespace Reckoner.Expression

/-! ## One token -/

/-- Running a sequence runs its first token and then the others. -/
theorem run_cons (stack : List Binary64) (token : Token) (rest : List Token) :
    run stack (token :: rest) = step stack token >>= fun stack => run stack rest := by
  rw [run, List.foldlM_cons]
  rfl

/-- The token of a numeral has the value of the numeral. -/
theorem readNumber_text (word : Numeral) :
    readNumber word.text = word.value.mapError Failure.fault := by
  rw [readNumber, Numeral.value, Numeral.text, String.toList_ofList]
  cases Literal.parse? word.chars with
  | none => rfl
  | some value =>
    dsimp only
    split <;> rfl

/-- The zero in front of a unary minus is zero. -/
theorem readNumber_zero : readNumber "0" = .ok Binary64.zero := by
  have parsed : Literal.parse? "0".toList = some Binary64.zero := by decide +kernel
  rw [readNumber, parsed]
  rfl

/-- An operator of a sum on two numbers. -/
theorem applySymbol_sumOperator (operator : SumOperator) (left right : Binary64) :
    applySymbol operator.operator.symbol left right = .ok (operator.apply left right) := by
  cases operator <;> rfl

/-- An operator of a product on two numbers. -/
theorem applySymbol_productOperator (operator : ProductOperator) (left right : Binary64) :
    applySymbol operator.operator.symbol left right =
      (operator.apply left right).mapError Failure.fault := by
  cases operator with
  | times => rfl
  | divided =>
    rw [ProductOperator.apply, applySymbol]
    cases zero : right.isZero with
    | false =>
      rw [if_neg (by simp), if_neg Bool.false_ne_true]
      show (if right.isZero then _ else _) = _
      rw [zero]
      rfl
    | true => rfl

/-! ## Every text -/

/-- Tokens have a value when it is all that their run leaves and it is finite. -/
theorem run_of_evaluatePostfix {tokens : List Token} {value : Binary64}
    (evaluated : evaluatePostfix tokens = .ok value) :
    run [] tokens = .ok [value] ∧ value.isFinite = true := by
  obtain ⟨after, ran, concluded⟩ := bind_eq_ok evaluated
  rw [conclude.eq_def] at concluded
  split at concluded
  · split at concluded
    · rename_i finite
      cases concluded
      exact ⟨ran, finite⟩
    · cases concluded
  · cases concluded

/-- A text with a value spells lexemes, and their tokens convert to tokens with the value. -/
theorem stages_of_compute {text : String} {value : Binary64} (computed : compute text = .ok value) :
    ∃ lexemes output, Separated lexemes ∧ Spells text lexemes ∧
      scan text = .ok (lexemes.map Lexeme.token) ∧
      toPostfix (expand true lexemes) = .ok output ∧ evaluatePostfix output = .ok value := by
  rcases scan_cases text with ⟨error, refused⟩ | ⟨lexemes, nonempty, separated, spelled, scanned⟩
  · rw [compute, tokenize, refused] at computed
    cases computed
  rw [compute, tokenize_of_spells spelled separated nonempty] at computed
  obtain ⟨output, converted, evaluated⟩ := bind_eq_ok
    (show toPostfix (expand true lexemes) >>= evaluatePostfix = _ from computed)
  exact ⟨lexemes, output, separated, spelled, scanned, converted, evaluated⟩

/-! ## A phrase -/

namespace Phrase

/-- An operator in postfix order applies to the values of the two phrases in front of it. -/
theorem run_between {leftLevel rightLevel : Level} (left : Phrase leftLevel) (operator : Operator)
    (right : Phrase rightLevel) (stack : List Binary64) (rest : List Token)
    (leftRun : ∀ rest, run stack (left.postorder ++ rest) =
      left.value.mapError Failure.fault >>= fun value => run (value :: stack) rest)
    (rightRun : ∀ stack rest, run stack (right.postorder ++ rest) =
      right.value.mapError Failure.fault >>= fun value => run (value :: stack) rest) :
    run stack (left.postorder ++ (right.postorder ++ [binaryToken operator]) ++ rest) =
      left.value.mapError Failure.fault >>= fun first =>
        right.value.mapError Failure.fault >>= fun second =>
          applySymbol operator.symbol first second >>= fun value => run (value :: stack) rest := by
  rw [List.append_assoc, leftRun]
  congr 1
  funext first
  rw [List.append_assoc, rightRun]
  congr 1
  funext second
  rw [List.singleton_append, run_cons]
  show (applySymbol operator.symbol first second).map (· :: stack) >>= _ = _
  cases applySymbol operator.symbol first second with
  | error failure => rfl
  | ok value => rfl

/-- A phrase in postfix order pushes its value. -/
theorem run_postorder {level : Level} (phrase : Phrase level) (stack : List Binary64)
    (rest : List Token) :
    run stack (phrase.postorder ++ rest) =
      phrase.value.mapError Failure.fault >>= fun value => run (value :: stack) rest := by
  induction phrase generalizing stack rest with
  | numeral word =>
    rw [postorder, List.singleton_append, run_cons, value, ← readNumber_text]
    show (readNumber word.text).map (· :: stack) >>= _ = _
    cases readNumber word.text with
    | error failure => rfl
    | ok value => rfl
  | group inner ih => exact ih stack rest
  | atom inner ih => exact ih stack rest
  | negation operand ih =>
    have pushed : step stack (Token.number "0") = .ok (Binary64.zero :: stack) := by
      show (readNumber "0").map (· :: stack) = _
      rw [readNumber_zero]
      rfl
    rw [postorder, List.cons_append, run_cons, pushed, List.append_assoc]
    show run (Binary64.zero :: stack) _ = _
    rw [ih, value]
    cases operand.value with
    | error error => rfl
    | ok value =>
      show run (value :: Binary64.zero :: stack) (unaryMinus :: rest) = _
      rw [run_cons]
      rfl
  | sign inner ih => exact ih stack rest
  | product left operator right leftIh rightIh =>
    rw [postorder, run_between left operator.operator right stack rest (leftIh stack) rightIh,
      value]
    cases left.value with
    | error error => rfl
    | ok first =>
      cases right.value with
      | error error => rfl
      | ok second =>
        show applySymbol _ first second >>= _ = _
        rw [applySymbol_productOperator]
        rfl
  | term inner ih => exact ih stack rest
  | sum left operator right leftIh rightIh =>
    rw [postorder, run_between left operator.operator right stack rest (leftIh stack) rightIh,
      value]
    cases left.value with
    | error error => rfl
    | ok first =>
      cases right.value with
      | error error => rfl
      | ok second =>
        show applySymbol _ first second >>= _ = _
        rw [applySymbol_sumOperator]
        rfl

/-- A phrase in postfix order has the outcome of the phrase. -/
theorem evaluatePostfix_postorder {level : Level} (phrase : Phrase level) :
    evaluatePostfix phrase.postorder = phrase.outcome.mapError Failure.fault := by
  have pushed := phrase.run_postorder [] []
  rw [List.append_nil] at pushed
  rw [evaluatePostfix, pushed, outcome]
  cases phrase.value with
  | error error => rfl
  | ok value =>
    show conclude [value] = _
    rw [conclude]
    show _ = Except.mapError Failure.fault (if value.isFinite then _ else _)
    cases value.isFinite <;> rfl

end Phrase

/-- A text that spells a phrase is evaluated to the outcome of the phrase. -/
theorem compute_of_spells {text : String} {phrase : Phrase .sum}
    (spelled : Spells text phrase.lexemes) :
    compute text = phrase.outcome.mapError Failure.fault := by
  rw [compute, tokenize_of_spells spelled phrase.separated phrase.lexemes_ne_nil]
  show toPostfix (expand true phrase.lexemes) >>= _ = _
  rw [phrase.toPostfix_phrase]
  exact phrase.evaluatePostfix_postorder

/-- A text that spells a phrase, with blanks anywhere, is evaluated to the direct value of the
phrase or to its first fault. Nothing can be at fault but a numeral, a divisor or a value that is
not finite. -/
theorem compute_agrees (phrase : Phrase .sum) (text : String)
    (spelled : Spells text phrase.lexemes) :
    compute text = phrase.outcome.mapError Failure.fault ∧
      ∀ failure, compute text = .error failure →
        ∃ error, failure = .fault error ∧
          (error.kind = .invalidNumber ∨ error.kind = .divisionByZero ∨
            error.kind = .invalidResult) := by
  refine ⟨compute_of_spells spelled, fun failure failed => ?_⟩
  rw [compute_of_spells spelled] at failed
  cases outcome : phrase.outcome with
  | ok value =>
    rw [outcome] at failed
    cases failed
  | error error =>
    rw [outcome] at failed
    cases failed
    exact ⟨error, rfl, phrase.outcome_error error outcome⟩

/-- A product of a numeral that denotes no number and a quotient by zero. -/
def twoFaults : Phrase .sum :=
  let first : Numeral := ⟨['1', '.', '2', '.', '3'], by decide, List.all_eq_true.mp rfl⟩
  let second : Numeral := ⟨['5'], by decide, List.all_eq_true.mp rfl⟩
  let third : Numeral := ⟨['0'], by decide, List.all_eq_true.mp rfl⟩
  .term (.product (.sign (.negation (.atom (.numeral first)))) .times
    (.atom (.group (.term (.product (.sign (.atom (.numeral second))) .divided
      (.atom (.numeral third)))))))

/-- Of two faults the left one is raised. -/
theorem compute_agrees_twoFaults :
    Spells "- 1.2 .3*(5\t/ 0)" twoFaults.lexemes ∧
      compute "- 1.2 .3*(5\t/ 0)" = .error (.fault (.invalidNumber "1.2.3")) := by
  have spelled : Spells "- 1.2 .3*(5\t/ 0)" twoFaults.lexemes := rfl
  have faulty : twoFaults.outcome = .error (.invalidNumber "1.2.3") := rfl
  have agrees := (compute_agrees twoFaults _ spelled).1
  rw [faulty] at agrees
  exact ⟨spelled, agrees⟩

end Reckoner.Expression
