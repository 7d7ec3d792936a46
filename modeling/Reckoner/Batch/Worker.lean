import Reckoner.Batch.Outcome
import Reckoner.Log

/-!
# Workers

A worker evaluates one expression, sends the outcome through a pipe and ends. Whoever holds the
other end of the pipe reads the outcome, or finds the pipe closed without one.
-/

namespace Reckoner

/-- A worker and the expression it is given. -/
structure Worker where
  /-- The expression. -/
  expression : String
  /-- The number of the expression, from one on. -/
  line : Nat
  /-- Numbers begin at one. -/
  line_pos : 0 < line
  deriving Repr

namespace Worker

/-- The worker for an expression and a number, both from outside. -/
def ofJson (expression line : Json) : Checked Worker := do
  let (expression, ⟨line, positive⟩) ← (Checked.atField "expression" (Reading.string expression)).both
    (Checked.atField "line_number" (Reading.positive line))
  return ⟨expression, line, positive⟩

/-- What a run of a worker leaves. -/
structure Run where
  /-- What was sent through the pipe before it was closed. -/
  sent : Option Json
  /-- What the worker told. -/
  records : List Log.Record
  /-- The failure that ended the worker before it sent anything. -/
  raised : Option Failure

/-- The outcome that a worker comes to and what it tells of it, or the failure that is no fault of
the expression. -/
def conclude (worker : Worker) : Except Failure (Outcome × List Log.Record) :=
  match Expression.evaluate worker.expression with
  | .ok result =>
    .ok (⟨worker.line, worker.line_pos, worker.expression, .result result, none⟩,
      [Log.info ("👷✅ Worker finished on line " ++ toString worker.line ++ ": " ++ result)])
  | .error (.fault fault) =>
    .ok (⟨worker.line, worker.line_pos, worker.expression, .error fault.message, some fault.kind⟩,
      [Log.error ("👷❌ Worker failed on line " ++ toString worker.line ++ ": " ++ fault.message ++
        "\nInvalid arithmetic expression, could not evaluate: " ++ Text.quote worker.expression)])
  | .error failure => .error failure

/-- The run of a worker. -/
def run (worker : Worker) : Run :=
  let started := Log.info
    ("👷🏁 Worker started on line " ++ toString worker.line ++ ": " ++ worker.expression)
  match worker.conclude with
  | .ok (outcome, records) => ⟨some outcome.toJson, started :: records, none⟩
  | .error failure => ⟨none, [started], some failure⟩

/-- What a worker does with its end of the pipe. -/
inductive PipeCall where
  /-- A message was sent. -/
  | sent (message : Json)
  /-- The end was closed. -/
  | closed

/-- What a worker does with its end of the pipe: it sends the outcome that it comes to, if it comes
to one, and closes the end in any case. -/
def pipeCalls (worker : Worker) : List PipeCall :=
  match worker.conclude with
  | .ok (outcome, _) => [.sent outcome.toJson, .closed]
  | .error _ => [.closed]

/-- What the other end of a pipe finds first: a message, or that no more will come. -/
def arriving : List PipeCall → Option Json
  | .sent message :: _ => some message
  | _ => none

/-- The words for an expression whose worker sent nothing. -/
def silenceText : String := "worker exited without a result"

/-- The outcome of a worker that sent nothing. -/
def silence (line : Json) (expression : String) : Checked Outcome :=
  Outcome.ofJson (.object [("line", line), ("expression", .string expression),
    ("error", .string silenceText)])

/-- The outcome in a pipe that the worker has closed, and what its reader tells. -/
def receive (pipe : Option Json) (line : Int) (expression : String) :
    Checked (Outcome × List Log.Record) :=
  match pipe with
  | some sent => (Outcome.ofJson sent).map fun outcome => (outcome, [])
  | none =>
    (silence (.int line) expression).map fun outcome =>
      (outcome, [Log.error ("👷💥 Worker for line " ++ toString line ++ " exited without a result")])

end Worker

end Reckoner
