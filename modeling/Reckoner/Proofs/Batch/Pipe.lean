import Reckoner.Proofs.Batch.Report

/-!
# Across the pipe

A worker sends one message and closes its end of the pipe, and the message is read as the outcome
that the worker came to (`Worker.agrees_across_pipe`).
-/

namespace Reckoner

namespace Worker

/-! ## Messages -/

/-- A worker sends the outcome that is told of it, once, and closes its end. -/
theorem pipeCalls_eq (worker : Worker) :
    worker.pipeCalls = [.sent (worker.reported false).toJson, .closed] := by
  obtain ⟨records, concluded⟩ := worker.conclude_reported
  rw [pipeCalls, concluded]

/-- A worker never ends with a failure. -/
theorem run_raised (worker : Worker) : worker.run.raised = none := by
  obtain ⟨records, concluded⟩ := worker.conclude_reported
  rw [run, concluded]

/-- The worker of an expression and of a positive number is made. -/
theorem ofJson_eq_ok {line : Nat} (positive : 0 < line) (expression : String) :
    ofJson (.string expression) (.int line) = .ok ⟨expression, line, positive⟩ := by
  have read : Reading.positive (.int line) = .ok ⟨line, positive⟩ :=
    Reading.positive_eq_ok_iff.mpr rfl
  rw [ofJson, read]
  rfl

/-- What is told of a worker carries its number. -/
theorem line_reported (worker : Worker) (silent : Bool) :
    (worker.reported silent).line = worker.line := by
  rw [reported]
  split
  · rfl
  · split <;> rfl

/-- What is told of a worker carries its expression. -/
theorem expression_reported (worker : Worker) (silent : Bool) :
    (worker.reported silent).expression = worker.expression := by
  rw [reported]
  split
  · rfl
  · split <;> rfl

/-- What is told of a worker whose expression has a value is the value. -/
theorem reported_of_result (worker : Worker) {result : String}
    (evaluated : Expression.evaluate worker.expression = .ok result) :
    worker.reported false =
      ⟨worker.line, worker.line_pos, worker.expression, .result result, none⟩ := by
  rw [reported, if_neg Bool.false_ne_true, evaluated]

/-- What is told of a worker whose expression has a fault is the fault. -/
theorem reported_of_fault (worker : Worker) {fault : EvalError}
    (evaluated : Expression.evaluate worker.expression = .error (.fault fault)) :
    worker.reported false =
      ⟨worker.line, worker.line_pos, worker.expression, .error fault.message,
        some fault.kind⟩ := by
  rw [reported, if_neg Bool.false_ne_true, evaluated]

/-- An outcome that is read from outside is the one that the members of an object describe: it has a
number from one on and either a result or an error, and it is read as it was when it travels. So
every worker sends one outcome and closes its end, and whoever reads the other end finds the
outcome: the number and the expression of the worker, and the value of the expression or what is
wrong with it and of which kind that is. -/
theorem agrees_across_pipe :
    (∀ value outcome, Outcome.ofJson value = .ok outcome →
      (∃ members, value = .object members ∧ outcome.Described members) ∧
      1 ≤ outcome.line ∧ (outcome.result? = none ↔ outcome.error? ≠ none) ∧
      Outcome.ofJson outcome.toJson = .ok outcome) ∧
    ∀ (line : Nat) (expression : String), 1 ≤ line → ∃ worker outcome,
      Worker.ofJson (.string expression) (.int line) = .ok worker ∧
      worker.pipeCalls = [.sent outcome.toJson, .closed] ∧
      worker.run.sent = some outcome.toJson ∧ worker.run.raised = none ∧
      receive (arriving worker.pipeCalls) line expression = .ok (outcome, []) ∧
      outcome.line = line ∧ outcome.expression = expression ∧
      (∀ result, Expression.evaluate expression = .ok result →
        outcome.result? = some result ∧ outcome.error? = none ∧ outcome.kind? = none ∧
        outcome.render = expression ++ " = " ++ result) ∧
      ∀ failure, Expression.evaluate expression = .error failure →
        ∃ fault, failure = .fault fault ∧ outcome.result? = none ∧
          outcome.error? = some fault.message ∧ outcome.kind? = some fault.kind ∧
          outcome.render = expression ++ " -> ERROR: " ++ fault.message := by
  constructor
  · intro value outcome read
    exact ⟨Outcome.ofJson_eq_ok_iff.mp read, outcome.line_pos, outcome.result?_eq_none_iff,
      outcome.ofJson_toJson⟩
  · intro line expression positive
    let worker : Worker := ⟨expression, line, positive⟩
    have calls := worker.pipeCalls_eq
    have received : receive (arriving worker.pipeCalls) line expression =
        .ok (worker.reported false, []) := by
      rw [calls, arriving, receive, Outcome.ofJson_toJson]
      rfl
    refine ⟨worker, worker.reported false, ofJson_eq_ok positive expression, calls,
      worker.sent_eq, worker.run_raised, received, worker.line_reported false,
      worker.expression_reported false, ?_, ?_⟩
    · intro result evaluated
      rw [reported_of_result worker evaluated]
      exact ⟨rfl, rfl, rfl, rfl⟩
    · intro failure evaluated
      obtain ⟨fault, rfl⟩ := Expression.evaluate_onlyFaults expression failure evaluated
      rw [reported_of_fault worker evaluated]
      exact ⟨fault, rfl, rfl, rfl, rfl, rfl⟩

/-- The fields of an outcome as they may come from outside: the number is a text, one field is null
and one is missing. -/
def loosely : Json :=
  .object [("error", .string "division by zero"), ("expression", .string "1/0"), ("result", .null),
    ("line", .string " 07")]

/-- The outcome that the fields describe. -/
def strictly : Outcome := ⟨7, Nat.succ_pos 6, "1/0", .error "division by zero", none⟩

/-- The outcome is read from its fields and comes back as it was; and a worker for a sum and one for
a quotient by zero are each read as what they came to. -/
theorem agrees_across_pipe_quotient :
    Outcome.ofJson loosely = .ok strictly ∧ Outcome.ofJson strictly.toJson = .ok strictly ∧
      (∃ worker outcome, Worker.ofJson (.string "1+1") (.int 3) = .ok worker ∧
        receive (arriving worker.pipeCalls) 3 "1+1" = .ok (outcome, []) ∧
        outcome.render = "1+1" ++ " = " ++ "2") ∧
      ∃ worker outcome, Worker.ofJson (.string "1/0") (.int 4) = .ok worker ∧
        receive (arriving worker.pipeCalls) 4 "1/0" = .ok (outcome, []) ∧
        outcome.kind? = some .divisionByZero := by
  obtain ⟨described, agree⟩ := agrees_across_pipe
  have read : Outcome.ofJson loosely = .ok strictly := eq_ok_of_toOption (by decide +kernel)
  have sum : Expression.evaluate "1+1" = .ok "2" := eq_ok_of_toOption (by decide +kernel)
  have quotient : Expression.evaluate "1/0" = .error (.fault .divisionByZero) := by decide +kernel
  refine ⟨read, (described loosely strictly read).2.2.2, ?_, ?_⟩
  · obtain ⟨worker, outcome, made, -, -, -, received, -, -, valued, -⟩ := agree 3 "1+1" (by decide)
    exact ⟨worker, outcome, made, received, (valued "2" sum).2.2.2⟩
  · obtain ⟨worker, outcome, made, -, -, -, received, -, -, -, faulty⟩ := agree 4 "1/0" (by decide)
    obtain ⟨fault, same, -, -, kind, -⟩ := faulty _ quotient
    cases same
    exact ⟨worker, outcome, made, received, kind⟩

end Worker

end Reckoner
