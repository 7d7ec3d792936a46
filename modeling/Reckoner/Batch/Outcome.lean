import Reckoner.Expression.Evaluate
import Reckoner.Validation.Field

/-!
# Outcomes

What became of one expression of a batch: a result or the words for an error, never both. An
outcome travels as a JSON object and is shown as one line of the results.
-/

namespace Reckoner

/-- What an evaluation came to. -/
inductive Verdict where
  /-- The value, as a plain decimal. -/
  | result (text : String)
  /-- The words for what went wrong. -/
  | error (text : String)
  deriving DecidableEq, Repr

/-- What became of one expression. -/
structure Outcome where
  /-- The number of the expression, from one on. -/
  line : Nat
  /-- Numbers begin at one. -/
  line_pos : 0 < line
  /-- The expression. -/
  expression : String
  /-- What its evaluation came to. -/
  verdict : Verdict
  /-- The kind of the error, where it is known. -/
  kind? : Option EvalError.Kind
  deriving DecidableEq, Repr

namespace Outcome

/-- The result, if there is one. -/
def result? (outcome : Outcome) : Option String :=
  match outcome.verdict with
  | .result text => some text
  | .error _ => none

/-- The words for the error, if there is one. -/
def error? (outcome : Outcome) : Option String :=
  match outcome.verdict with
  | .result _ => none
  | .error text => some text

/-- There is a result. -/
def isResult (outcome : Outcome) : Bool := outcome.error?.isNone

/-- The line of the results that shows an outcome. -/
def render (outcome : Outcome) : String :=
  match outcome.verdict with
  | .result text => outcome.expression ++ " = " ++ text
  | .error text => outcome.expression ++ " -> ERROR: " ++ text

/-- An outcome as it travels. -/
def toJson (outcome : Outcome) : Json :=
  .object [("line", .int outcome.line), ("expression", .string outcome.expression),
    ("result", Json.ofString? outcome.result?), ("error", Json.ofString? outcome.error?),
    ("error_kind", Json.ofString? (outcome.kind?.map EvalError.Kind.name))]

/-- The verdict of a result and an error of which exactly one must be there. -/
def verdictOf (result error : Option String) : Checked Verdict :=
  match result, error with
  | some text, none => .ok (.result text)
  | none, some text => .ok (.error text)
  | _, _ => .error [⟨[], .broken "Exactly one of 'result' and 'error' must be set"⟩]

/-- The reading of the kind of an error. -/
def kindReading : Reading EvalError.Kind :=
  Reading.choice EvalError.Kind.ofName? (EvalError.Kind.all.map EvalError.Kind.name)

/-- The outcome that a value describes. -/
def ofJson (value : Json) : Checked Outcome := do
  let members ← Checked.members (.notRecord "OperationResult") value
  let ((line, expression), (result, error), kind) ←
    ((Checked.required "line" .positive members).both
      (Checked.required "expression" .string members)).both
    (((Checked.optional "result" .string members).both
      (Checked.optional "error" .string members)).both
      (Checked.optional "error_kind" kindReading members))
  let verdict ← verdictOf result error
  return ⟨line.val, line.property, expression, verdict, kind⟩

/-- The outcome of an expression with a fault. -/
def ofFault (line : Json) (expression : String) (fault : EvalError) : Checked Outcome :=
  ofJson (.object [("line", line), ("expression", .string expression),
    ("error", .string fault.message), ("error_kind", .string fault.kind.name)])

end Outcome

/-- A request to evaluate one expression. -/
structure Request where
  /-- The expression. -/
  expression : String
  deriving DecidableEq, Repr

/-- The request that a value describes. -/
def Request.ofJson (value : Json) : Checked Request := do
  let members ← Checked.members (.notRecord "OperationRequest") value
  let expression ← Checked.required "expression" .string members
  return ⟨expression⟩

end Reckoner
