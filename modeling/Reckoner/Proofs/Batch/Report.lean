import Reckoner.Batch.Server
import Reckoner.Proofs.Batch.Outcome
import Reckoner.Proofs.Expression.Faults
import Reckoner.Proofs.Number.Plain
import Reckoner.Proofs.Text.Lines

/-!
# What workers report

A worker is reported with the value or the fault of its expression, or as silent. The reader of its
pipe finds exactly that (`Worker.receive_reported`), and the line that shows it is one line
(`Worker.unbroken_reported`).
-/

namespace Reckoner

open Text

/-! ## Values and faults in one line -/

namespace Expression

/-- The digits and the point of a numeral break no line. -/
theorem isLineBreak_of_isNumeric {char : Char} (numeric : isNumeric char = true) :
    isLineBreak char = false := by
  have known : (48 ≤ char.toNat ∧ char.toNat ≤ 57) ∨ char = '.' := by
    rw [isNumeric, Bool.or_eq_true, isDigit_iff, beq_iff_eq] at numeric
    exact numeric
  rcases known with digit | rfl
  · rw [Bool.eq_false_iff]
    intro broken
    simp only [isLineBreak, Bool.or_eq_true, Bool.and_eq_true, decide_eq_true_eq, beq_iff_eq]
      at broken
    omega
  · rfl

/-- A decimal with or without a sign is unbroken. -/
theorem unbroken_signed (negative : Bool) (decimal : Decimal) :
    Unbroken ((if negative then ['-'] else []) ++ decimal.plain) := by
  have digits : Unbroken decimal.plain := fun char member =>
    isLineBreak_of_isNumeric (Decimal.plain_numeric decimal char member)
  have sign : Unbroken (if negative then ['-'] else []) := by
    cases negative with
    | false => exact unbroken_of_all (by decide +kernel)
    | true => exact unbroken_of_all (by decide +kernel)
  exact unbroken_append.mpr ⟨sign, digits⟩

/-- A value that was written down is unbroken. -/
theorem unbroken_evaluate {text result : String} (evaluated : evaluate text = .ok result) :
    Unbroken result.toList := by
  obtain ⟨value, -, written⟩ := bind_eq_ok evaluated
  rw [format.eq_def] at written
  split at written
  · split at written
    · cases written
      exact unbroken_of_all (by decide +kernel)
    · cases written
      rw [String.toList_ofList]
      exact unbroken_signed _ _
  · cases written

end Expression

/-- The words for a number are unbroken. -/
theorem EvalError.unbroken_valueText (value : Binary64) : Unbroken (valueText value).toList := by
  cases value with
  | finite negative rank =>
    rw [valueText, String.toList_ofList]
    exact Expression.unbroken_signed negative _
  | infinite negative =>
    cases negative with
    | false => exact unbroken_of_all (by decide +kernel)
    | true => exact unbroken_of_all (by decide +kernel)
  | nan => exact unbroken_of_all (by decide +kernel)

/-- The words for a fault are unbroken: what they hold of the expression is in quotes. -/
theorem EvalError.unbroken_message (error : EvalError) : Unbroken error.message.toList := by
  cases error with
  | emptyExpression => exact unbroken_of_all (by decide +kernel)
  | unexpectedCharacter char position =>
    have before : Unbroken "unexpected character ".toList := unbroken_of_all (by decide +kernel)
    have between : Unbroken " at position ".toList := unbroken_of_all (by decide +kernel)
    have quoted := unbroken_toList_append.mpr ⟨before, unbroken_quote (String.singleton char)⟩
    have placed := unbroken_toList_append.mpr ⟨quoted, between⟩
    exact unbroken_toList_append.mpr ⟨placed, unbroken_toString position⟩
  | mismatchedParentheses => exact unbroken_of_all (by decide +kernel)
  | invalidNumber text =>
    have before : Unbroken "invalid number ".toList := unbroken_of_all (by decide +kernel)
    exact unbroken_toList_append.mpr ⟨before, unbroken_quote text⟩
  | insufficientOperands operator =>
    have before : Unbroken "not enough operands for ".toList := unbroken_of_all (by decide +kernel)
    exact unbroken_toList_append.mpr ⟨before, unbroken_quote operator⟩
  | divisionByZero => exact unbroken_of_all (by decide +kernel)
  | malformedExpression remaining =>
    have before : Unbroken "malformed expression (".toList := unbroken_of_all (by decide +kernel)
    have behind : Unbroken " values left after evaluation)".toList :=
      unbroken_of_all (by decide +kernel)
    have counted := unbroken_toList_append.mpr ⟨before, unbroken_toString remaining⟩
    exact unbroken_toList_append.mpr ⟨counted, behind⟩
  | invalidResult value =>
    have before : Unbroken "result is not a finite number (".toList :=
      unbroken_of_all (by decide +kernel)
    have behind : Unbroken ")".toList := unbroken_of_all (by decide +kernel)
    have worded := unbroken_toList_append.mpr ⟨before, unbroken_valueText value⟩
    exact unbroken_toList_append.mpr ⟨worded, behind⟩

/-! ## Reports -/

namespace Worker

/-- What is told of a worker that was silent, and of one that was not: the value or the fault of
its expression. -/
def reported (worker : Worker) (silent : Bool) : Outcome :=
  if silent then ⟨worker.line, worker.line_pos, worker.expression, .error silenceText, none⟩
  else
    match Expression.evaluate worker.expression with
    | .ok result => ⟨worker.line, worker.line_pos, worker.expression, .result result, none⟩
    | .error (.fault fault) =>
      ⟨worker.line, worker.line_pos, worker.expression, .error fault.message, some fault.kind⟩
    | .error failure =>
      ⟨worker.line, worker.line_pos, worker.expression, .error failure.message, none⟩

/-- A worker comes to what is told of it. -/
theorem conclude_reported (worker : Worker) :
    ∃ records, worker.conclude = .ok (worker.reported false, records) := by
  have faults := Expression.evaluate_onlyFaults worker.expression
  unfold conclude reported
  rw [if_neg Bool.false_ne_true]
  cases evaluated : Expression.evaluate worker.expression with
  | ok result => exact ⟨_, rfl⟩
  | error failure =>
    obtain ⟨fault, rfl⟩ := faults failure evaluated
    exact ⟨_, rfl⟩

/-- A worker sends what is told of it. -/
theorem sent_eq (worker : Worker) : worker.run.sent = some (worker.reported false).toJson := by
  obtain ⟨records, concluded⟩ := worker.conclude_reported
  rw [run, concluded]

/-- The reader of a pipe that was closed without a word takes the worker for silent. -/
theorem silence_reported (worker : Worker) :
    silence (.int worker.line) worker.expression = .ok (worker.reported true) := by
  apply Outcome.Described.ofJson_eq
  exact {
    line := ⟨.int worker.line, rfl, rfl⟩
    expression := rfl
    result := rfl
    error := rfl
    kind := rfl }

/-- The reader of a pipe finds what is told of the worker, whether the worker has sent its outcome
or ended without a word. -/
theorem receive_reported (worker : Worker) {pipe : Option Json}
    (honest : pipe = worker.run.sent ∨ pipe = none) :
    ∃ records, receive pipe worker.line worker.expression =
      .ok (worker.reported pipe.isNone, records) := by
  rcases honest with sent | silent
  · rw [sent, sent_eq, receive, Outcome.ofJson_toJson]
    exact ⟨[], rfl⟩
  · rw [silent, receive, silence_reported]
    exact ⟨_, rfl⟩

/-- What is told of a worker with an unbroken expression is shown in one line. -/
theorem unbroken_reported {worker : Worker} (unbroken : Unbroken worker.expression.toList)
    (silent : Bool) : Unbroken (worker.reported silent).render.toList := by
  have valued : Unbroken " = ".toList := unbroken_of_all (by decide +kernel)
  have failed : Unbroken " -> ERROR: ".toList := unbroken_of_all (by decide +kernel)
  have before := unbroken_toList_append.mpr ⟨unbroken, failed⟩
  cases silent with
  | true =>
    have silenced : Unbroken silenceText.toList := unbroken_of_all (by decide +kernel)
    exact unbroken_toList_append.mpr ⟨before, silenced⟩
  | false =>
    have faults := Expression.evaluate_onlyFaults worker.expression
    rw [reported, if_neg Bool.false_ne_true]
    cases evaluated : Expression.evaluate worker.expression with
    | ok result =>
      have front := unbroken_toList_append.mpr ⟨unbroken, valued⟩
      exact unbroken_toList_append.mpr ⟨front, Expression.unbroken_evaluate evaluated⟩
    | error failure =>
      obtain ⟨fault, rfl⟩ := faults failure evaluated
      exact unbroken_toList_append.mpr ⟨before, fault.unbroken_message⟩

end Worker

/-- The expressions of a text are unbroken. -/
theorem Server.unbroken_expressionsOf (chars : List Char) :
    ∀ expression ∈ expressionsOf chars, Unbroken expression.toList := by
  intro expression member
  obtain ⟨kept, listed, rfl⟩ := List.mem_map.mp member
  obtain ⟨line, below, rfl⟩ := List.mem_map.mp (List.mem_filter.mp listed).1
  rw [String.toList_ofList]
  exact (unbroken_of_mem_lines chars line below).trim

end Reckoner
