import Reckoner.Proofs.Expression.Faults
import Reckoner.Proofs.Expression.Marking

/-!
# What faults name

A fault that names a number names a run of digits and points, and one that names an operator names
one of the four (`evaluate_wellNamed`): a stage names nothing but the text of a token, and every
token of a text is well written. A text that has tokens holds no foreign character
(`not_foreign_of_tokenize`).
-/

namespace Reckoner

/-- A fault names a text of its kind: a number that consists of digits and points, or one of the
four operators. -/
def EvalError.WellNamed : EvalError → Prop
  | .invalidNumber text => ∀ char ∈ text.toList, Expression.isNumeric char = true
  | .insufficientOperands symbol => ∃ operator : Operator, symbol = operator.symbol
  | _ => True

/-- A fault that names neither a number nor an operator is well named. -/
theorem EvalError.wellNamed_of_kind {error : EvalError} (number : error.kind ≠ .invalidNumber)
    (operator : error.kind ≠ .insufficientOperands) : error.WellNamed := by
  cases error with
  | invalidNumber text => exact absurd rfl number
  | insufficientOperands symbol => exact absurd rfl operator
  | _ => trivial

namespace Expression

/-! ## Well-written tokens -/

/-- The tokens of a text are well written. -/
theorem wellWritten_of_tokenize {text : String} {tokens : List Token}
    (scanned : tokenize text = .ok tokens) : ∀ token ∈ tokens, WellWritten token := by
  obtain ⟨lexemes, some, apart, spelled⟩ := exists_lexemes_of_tokenize scanned
  rw [tokenize_mark spelled apart some] at scanned
  cases scanned
  intro token member
  obtain ⟨marked, listed, inside⟩ := List.mem_flatMap.mp member
  have sort := (marks_of_spells spelled apart).sorts marked listed
  rw [writtenOut] at inside
  split at inside
  · rcases List.mem_cons.mp inside with rfl | alone
    · exact ⟨List.cons_ne_nil '0' [], List.all_eq_true.mp (by decide)⟩
    · exact List.mem_singleton.mp alone ▸ sort
  · exact List.mem_singleton.mp inside ▸ sort

/-- A text with tokens holds no foreign character. -/
theorem not_foreign_of_tokenize {text : String} {tokens : List Token}
    (scanned : tokenize text = .ok tokens) : ∀ char ∈ text.toList, isForeign char = false := by
  intro char member
  rw [Bool.eq_false_iff]
  intro foreign
  cases found : text.toList.find? isForeign with
  | none => exact List.find?_eq_none.mp found char member foreign
  | some first =>
    obtain ⟨position, leading⟩ := exists_firstForeign found
    rw [leading.tokenize_eq] at scanned
    cases scanned

/-! ## Faults of the run -/

/-- A number that cannot be read is named by its text. -/
theorem readNumber_eq_error {text : String} {failure : Failure}
    (failed : readNumber text = .error failure) : failure = .fault (.invalidNumber text) := by
  rw [readNumber] at failed
  split at failed
  · split at failed <;> cases failed
    rfl
  · cases failed
    rfl

/-- A fault that is found at a well-written token is well named. -/
theorem step_wellNamed {stack : List Binary64} {token : Token} {error : EvalError}
    (sort : WellWritten token) (failed : step stack token = .error (.fault error)) :
    error.WellNamed := by
  rw [WellWritten] at sort
  cases kind : token.kind with
  | number =>
    simp only [kind] at sort
    simp only [step, kind] at failed
    cases readNumber_eq_error (map_eq_error failed)
    exact sort.2
  | operator =>
    simp only [kind] at sort
    simp only [step, kind] at failed
    obtain ⟨operator, symbol⟩ := sort
    split at failed
    · have known : Operator.ofSymbol? token.text = some operator := by
        rw [symbol]
        cases operator <;> rfl
      obtain ⟨other, same, divided⟩ := applySymbol_faults known _ _ _ (map_eq_error failed)
      cases same
      have kind := List.mem_singleton.mp divided
      exact EvalError.wellNamed_of_kind (by rw [kind]; decide) (by rw [kind]; decide)
    · cases failed
      exact ⟨operator, symbol⟩
  | lparen =>
    simp only [step, kind] at failed
    cases failed
    trivial
  | rparen =>
    simp only [step, kind] at failed
    cases failed
    trivial

/-- A fault that is found in a run of well-written tokens is well named. -/
theorem run_wellNamed {stack : List Binary64} {tokens : List Token} {error : EvalError}
    (sorts : ∀ token ∈ tokens, WellWritten token)
    (failed : run stack tokens = .error (.fault error)) : error.WellNamed := by
  induction tokens generalizing stack with
  | nil => cases failed
  | cons token rest ih =>
    obtain ⟨sort, others⟩ := List.forall_mem_cons.mp sorts
    rw [run_cons] at failed
    rcases bind_eq_error failed with here | ⟨after, -, later⟩
    · exact step_wellNamed sort here
    · exact ih others later

/-! ## A text -/

/-- The fault of a text is well named. -/
theorem evaluate_wellNamed {text : String} {error : EvalError}
    (failed : evaluate text = .error (.fault error)) : error.WellNamed := by
  -- Neither the scan nor the conversion nor the end of the run names a number or an operator.
  have other {α : Type} {kinds : List EvalError.Kind} {outcome : Except Failure α}
      (faults : FaultsOf kinds outcome) (ended : outcome = .error (.fault error))
      (number : EvalError.Kind.invalidNumber ∉ kinds)
      (operator : EvalError.Kind.insufficientOperands ∉ kinds) : error.WellNamed := by
    obtain ⟨found, same, kind⟩ := faults _ ended
    cases same
    exact EvalError.wellNamed_of_kind (fun same => number (same ▸ kind))
      fun same => operator (same ▸ kind)
  rcases bind_eq_error failed with first | ⟨value, computed, unwritten⟩
  · rcases bind_eq_error first with scan | ⟨tokens, scanned, rest⟩
    · exact other (tokenize_faults text) scan (by decide) (by decide)
    rcases bind_eq_error rest with conversion | ⟨output, converted, evaluation⟩
    · exact other (toPostfix_faults scanned) conversion (by decide) (by decide)
    rcases bind_eq_error evaluation with ran | ⟨after, -, ended⟩
    · refine run_wellNamed (fun token member => ?_) ran
      exact wellWritten_of_tokenize scanned token (mem_of_toPostfix converted token member).1
    · exact other (conclude_faults after) ended (by decide) (by decide)
  · obtain ⟨result, written⟩ := exists_format (isFinite_of_compute computed)
    rw [written] at unwritten
    cases unwritten

end Expression

end Reckoner
