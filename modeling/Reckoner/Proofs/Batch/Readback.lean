import Mathlib.Data.List.Basic
import Reckoner.Proofs.Batch.Pipe
import Reckoner.Proofs.Batch.Results
import Reckoner.Proofs.Expression.Naming
import Reckoner.Proofs.Expression.Printed

/-!
# Results that are read back

The lines of a results file carry no number and come in any order, and an expression may hold
whatever separates it from its result. Still a line tells which expression it is of and what became
of it (`Outcome.eq_of_render_eq`): the expression of a value holds no character but those of the
arithmetic, and the words for a fault hold the letter that `ERROR` holds three times once at most
(`EvalError.count_message`). So the file as a whole is read back line by line
(`Server.results_read_back`).
-/

namespace Reckoner

open Text

/-! ## A letter in quotes -/

namespace Text

/-- A character in quotes holds the letter no more often than the character does. -/
theorem count_quoteChar (mark char : Char) :
    (quoteChar mark char).count 'R' ≤ [char].count 'R' := by
  have hex (width value : Nat) : 'R' ∉ hexPadded width value := by
    intro member
    rcases List.mem_append.mp member with padding | digits
    · exact absurd (List.eq_of_mem_replicate padding) (by decide)
    · exact absurd (mem_toDigits digits) (by decide)
  have escape : 'R' ∉ numericEscape char := by
    simp only [numericEscape]
    split
    · simp [hex]
    split
    · simp [hex]
    · simp [hex]
  unfold quoteChar
  split
  · rw [List.count_cons_of_ne (by decide)]
  iterate 3
    split
    · exact Nat.zero_le _
  split
  · exact Nat.le_refl _
  · rw [List.count_eq_zero_of_not_mem escape]
    exact Nat.zero_le _

/-- A text in quotes holds the letter no more often than the text does. -/
theorem count_quote (text : String) : (quote text).toList.count 'R' ≤ text.toList.count 'R' := by
  rw [quote, String.toList_ofList, quoteChars]
  have apart : quoteMark text.toList ≠ 'R' := by
    unfold quoteMark
    split
    · decide
    · decide
  have inner (chars : List Char) :
      (chars.flatMap (quoteChar (quoteMark text.toList))).count 'R' ≤ chars.count 'R' := by
    induction chars with
    | nil => exact Nat.le_refl 0
    | cons first rest ih =>
      have here := count_quoteChar (quoteMark text.toList) first
      have parts : (first :: rest).count 'R' = [first].count 'R' + rest.count 'R' := by
        rw [← List.singleton_append, List.count_append]
      rw [List.flatMap_cons, List.count_append, parts]
      exact Nat.add_le_add here ih
  rw [List.count_cons_of_ne apart, List.count_append, List.count_singleton, if_neg (by simpa)]
  exact inner text.toList

end Text

/-! ## The words for a fault -/

/-- Digits and points with or without a sign hold no letter. -/
theorem Expression.not_mem_signed (negative : Bool) (decimal : Decimal) :
    'R' ∉ (if negative then ['-'] else []) ++ decimal.plain := by
  intro member
  rcases List.mem_append.mp member with sign | digits
  · cases negative with
    | false => exact absurd sign (by decide)
    | true => exact absurd sign (by decide)
  · have numeric := Decimal.plain_numeric decimal 'R' digits
    exact absurd numeric (by decide)

/-- The words for a number do not hold the letter. -/
theorem EvalError.not_mem_valueText (value : Binary64) : 'R' ∉ (valueText value).toList := by
  cases value with
  | finite negative rank =>
    rw [valueText, String.toList_ofList]
    exact Expression.not_mem_signed negative _
  | infinite negative =>
    cases negative with
    | false => decide +kernel
    | true => decide +kernel
  | nan => decide +kernel

/-- Strings in a row hold the letter as often as all of them together. -/
theorem Text.count_toList_append (left right : String) :
    (left ++ right).toList.count 'R' = left.toList.count 'R' + right.toList.count 'R' := by
  rw [String.toList_append, List.count_append]

/-- A number as a text does not hold the letter. -/
theorem Text.not_mem_toString (value : Nat) : 'R' ∉ (toString value).toList := by
  have digits : (toString value).toList = Nat.toDigits 10 value := String.toList_ofList
  rw [digits]
  intro member
  exact absurd (mem_toDigits member) (by decide)

/-- The words for a fault that is well named hold the letter once at most: nothing but an unexpected
character can bring it in. -/
theorem EvalError.count_message {error : EvalError} (named : error.WellNamed) :
    error.message.toList.count 'R' ≤ 1 := by
  cases error with
  | emptyExpression => decide +kernel
  | unexpectedCharacter char position =>
    have before : "unexpected character ".toList.count 'R' = 0 := by decide +kernel
    have between : " at position ".toList.count 'R' = 0 := by decide +kernel
    have placed := List.count_eq_zero_of_not_mem (not_mem_toString position)
    have quoted := count_quote (String.singleton char)
    have single : (String.singleton char).toList.count 'R' ≤ 1 := by
      rw [String.toList_singleton]
      exact List.count_le_length
    show ("unexpected character " ++ quote (String.singleton char) ++ " at position " ++
      toString position).toList.count 'R' ≤ 1
    rw [count_toList_append, count_toList_append, count_toList_append]
    omega
  | mismatchedParentheses => decide +kernel
  | invalidNumber text =>
    have before : "invalid number ".toList.count 'R' = 0 := by decide +kernel
    have quoted := count_quote text
    have digits : text.toList.count 'R' = 0 := by
      refine List.count_eq_zero_of_not_mem fun member => ?_
      exact absurd (named 'R' member) (by decide)
    show ("invalid number " ++ quote text).toList.count 'R' ≤ 1
    rw [count_toList_append]
    omega
  | insufficientOperands symbol =>
    have before : "not enough operands for ".toList.count 'R' = 0 := by decide +kernel
    have quoted := count_quote symbol
    have sign : symbol.toList.count 'R' = 0 := by
      obtain ⟨operator, rfl⟩ := named
      cases operator <;> decide +kernel
    show ("not enough operands for " ++ quote symbol).toList.count 'R' ≤ 1
    rw [count_toList_append]
    omega
  | divisionByZero => decide +kernel
  | malformedExpression remaining =>
    have before : "malformed expression (".toList.count 'R' = 0 := by decide +kernel
    have behind : " values left after evaluation)".toList.count 'R' = 0 := by decide +kernel
    have counted := List.count_eq_zero_of_not_mem (not_mem_toString remaining)
    show ("malformed expression (" ++ toString remaining ++
      " values left after evaluation)").toList.count 'R' ≤ 1
    rw [count_toList_append, count_toList_append]
    omega
  | invalidResult value =>
    have before : "result is not a finite number (".toList.count 'R' = 0 := by decide +kernel
    have behind : ")".toList.count 'R' = 0 := by decide +kernel
    have worded := List.count_eq_zero_of_not_mem (not_mem_valueText value)
    show ("result is not a finite number (" ++ valueText value ++ ")").toList.count 'R' ≤ 1
    rw [count_toList_append, count_toList_append]
    omega

/-! ## Lines taken apart -/

/-- What stands between an expression and the words for its fault ends with these characters. -/
def errorMark : List Char := ['R', 'R', 'O', 'R', ':', ' ']

/-- Two marks with words behind them begin at the same place when the words hold the letter once at
most. -/
theorem between_eq_nil {between words others : List Char} (few : words.count 'R' ≤ 1)
    (same : errorMark ++ words = between ++ (errorMark ++ others)) : between = [] := by
  have counts := congrArg (List.count 'R') same
  have marked : errorMark.count 'R' = 3 := rfl
  rw [List.count_append, List.count_append, List.count_append] at counts
  -- The first two characters of a mark are the letter, and what stands between holds one at most.
  match between with
  | [] => rfl
  | [first] =>
    simp only [errorMark, List.cons_append, List.nil_append, List.cons.injEq] at same
    exact absurd same.2.2.1 (by decide)
  | first :: second :: rest =>
    simp only [errorMark, List.cons_append, List.nil_append, List.cons.injEq] at same
    obtain ⟨rfl, rfl, -⟩ := same
    rw [List.count_cons_self, List.count_cons_self] at counts
    omega

/-- A line of a fault is taken apart in one way. -/
theorem append_errorMark_inj {left right words others : List Char} (few : words.count 'R' ≤ 1)
    (fewer : others.count 'R' ≤ 1)
    (same : left ++ (errorMark ++ words) = right ++ (errorMark ++ others)) :
    left = right ∧ words = others := by
  rcases List.append_eq_append_iff.mp same with ⟨between, lefts, rights⟩ | ⟨between, lefts, rights⟩
  · obtain rfl := between_eq_nil few rights
    rw [List.append_nil] at lefts
    exact ⟨lefts.symm, List.append_cancel_left rights⟩
  · obtain rfl := between_eq_nil fewer rights
    rw [List.append_nil] at lefts
    exact ⟨lefts, (List.append_cancel_left rights).symm⟩

/-! ## Outcomes that are told -/

/-- What is told of a worker: the outcome that it came to, or that it sent nothing. -/
inductive Worker.Tells (worker : Worker) : Outcome → Prop where
  /-- The worker came to the outcome. -/
  | concluded {outcome : Outcome} {records : List Log.Record}
    (concluded : worker.conclude = .ok (outcome, records)) : Tells worker outcome
  /-- The worker sent nothing. -/
  | silent {outcome : Outcome}
    (silent : Worker.silence (.int worker.line) worker.expression = .ok outcome) :
    Tells worker outcome

/-- What is told of a worker is what is reported of it, silent or not. -/
theorem Worker.tells_iff {worker : Worker} {outcome : Outcome} :
    worker.Tells outcome ↔ ∃ silent, outcome = worker.reported silent := by
  constructor
  · intro tells
    cases tells with
    | concluded concluded =>
      obtain ⟨records, known⟩ := worker.conclude_reported
      rw [known] at concluded
      cases concluded
      exact ⟨false, rfl⟩
    | silent silent =>
      rw [worker.silence_reported] at silent
      cases silent
      exact ⟨true, rfl⟩
  · rintro ⟨silent, rfl⟩
    cases silent with
    | false =>
      obtain ⟨records, known⟩ := worker.conclude_reported
      exact .concluded known
    | true => exact .silent worker.silence_reported

namespace Outcome

/-- A verdict can be told from the line that shows it: with a result, nothing foreign to the
arithmetic is in the expression or the result, and the words for an error hold the letter once at
most. -/
def Clear (outcome : Outcome) : Prop :=
  match outcome.verdict with
  | .result text => (∀ char ∈ outcome.expression.toList, Expression.isForeign char = false) ∧
      ∀ char ∈ text.toList, Expression.isForeign char = false
  | .error text => text.toList.count 'R' ≤ 1

/-- A text that evaluates holds nothing foreign, and neither does its value. -/
theorem not_foreign_of_evaluate {text result : String}
    (evaluated : Expression.evaluate text = .ok result) :
    (∀ char ∈ text.toList, Expression.isForeign char = false) ∧
      ∀ char ∈ result.toList, Expression.isForeign char = false := by
  have scanned {other : String} {value : Binary64}
      (computed : Expression.compute other = .ok value) :
      ∀ char ∈ other.toList, Expression.isForeign char = false := by
    obtain ⟨tokens, tokenized, -⟩ := bind_eq_ok computed
    exact Expression.not_foreign_of_tokenize tokenized
  obtain ⟨value, computed, written⟩ := bind_eq_ok evaluated
  -- A printed value is itself an expression.
  exact ⟨scanned computed, scanned (Expression.compute_format written)⟩

/-- What is reported of a worker is clear. -/
theorem clear_reported (worker : Worker) (silent : Bool) : (worker.reported silent).Clear := by
  cases silent with
  | true =>
    show Worker.silenceText.toList.count 'R' ≤ 1
    decide +kernel
  | false =>
    cases evaluated : Expression.evaluate worker.expression with
    | ok result =>
      rw [worker.reported_of_result evaluated]
      exact not_foreign_of_evaluate evaluated
    | error failure =>
      obtain ⟨fault, rfl⟩ := Expression.evaluate_onlyFaults _ failure evaluated
      rw [worker.reported_of_fault evaluated]
      exact EvalError.count_message (Expression.evaluate_wellNamed evaluated)

/-- The line of a result. -/
theorem render_result {outcome : Outcome} {text : String}
    (result : outcome.verdict = .result text) :
    outcome.render.toList = (outcome.expression.toList ++ [' ']) ++ '=' :: ' ' :: text.toList := by
  have sign : " = ".toList = [' ', '=', ' '] := by decide +kernel
  rw [render, result, String.toList_append, String.toList_append, sign]
  simp only [List.append_assoc, List.cons_append, List.nil_append]

/-- The line of an error. -/
theorem render_error {outcome : Outcome} {text : String} (error : outcome.verdict = .error text) :
    outcome.render.toList =
      (outcome.expression.toList ++ [' ', '-', '>', ' ', 'E']) ++ (errorMark ++ text.toList) := by
  have mark : " -> ERROR: ".toList = [' ', '-', '>', ' ', 'E'] ++ errorMark := by decide +kernel
  rw [render, error, String.toList_append, String.toList_append, mark]
  simp only [List.append_assoc]

/-- The line of a clear result does not hold the letter. -/
theorem not_mem_render {outcome : Outcome} {text : String} (clear : outcome.Clear)
    (result : outcome.verdict = .result text) : 'R' ∉ outcome.render.toList := by
  rw [Clear, result] at clear
  rw [render_result result]
  have foreign : Expression.isForeign 'R' = true := by decide
  intro member
  simp only [List.mem_append, List.mem_cons, List.not_mem_nil, or_false] at member
  rcases member with (inside | blank) | sign | blank | inside
  · exact absurd foreign (ne_true_of_eq_false (clear.1 'R' inside))
  · cases blank
  · cases sign
  · cases blank
  · exact absurd foreign (ne_true_of_eq_false (clear.2 'R' inside))

/-- The line of an error holds the letter. -/
theorem mem_render {outcome : Outcome} {text : String} (error : outcome.verdict = .error text) :
    'R' ∈ outcome.render.toList := by
  rw [render_error error]
  exact List.mem_append_right _ List.mem_cons_self

/-- Clear outcomes that are shown by one line are of one expression and have one verdict. -/
theorem eq_of_render_eq {left right : Outcome} (clear : left.Clear) (other : right.Clear)
    (same : left.render = right.render) :
    left.expression = right.expression ∧ left.verdict = right.verdict := by
  have lines := congrArg String.toList same
  cases first : left.verdict with
  | result text =>
    cases second : right.verdict with
    | error words =>
      exact absurd (lines ▸ mem_render second) (not_mem_render clear first)
    | result text' =>
      rw [render_result first, render_result second] at lines
      rw [Clear, first] at clear
      rw [Clear, second] at other
      have foreign : Expression.isForeign '=' = true := by decide
      have front : '=' ∉ left.expression.toList ++ [' '] := by
        intro member
        rcases List.mem_append.mp member with inside | blank
        · exact absurd foreign (ne_true_of_eq_false (clear.1 '=' inside))
        · exact absurd (List.mem_singleton.mp blank) (by decide)
      have behind : '=' ∉ ' ' :: text.toList := by
        intro member
        rcases List.mem_cons.mp member with blank | inside
        · exact absurd blank (by decide)
        · exact absurd foreign (ne_true_of_eq_false (clear.2 '=' inside))
      obtain ⟨expressions, -, texts⟩ := (List.append_cons_inj_of_notMem front behind).mp lines
      refine ⟨String.toList_inj.mp (List.append_cancel_right expressions), ?_⟩
      rw [String.toList_inj.mp (List.cons.inj texts).2]
  | error words =>
    cases second : right.verdict with
    | result text => exact absurd (lines ▸ mem_render first) (not_mem_render other second)
    | error words' =>
      rw [render_error first, render_error second] at lines
      rw [Clear, first] at clear
      rw [Clear, second] at other
      obtain ⟨expressions, texts⟩ := append_errorMark_inj clear other lines
      refine ⟨String.toList_inj.mp (List.append_cancel_right expressions), ?_⟩
      rw [String.toList_inj.mp texts]

/-- What a line tells: the expression and what became of it. -/
def told (outcome : Outcome) : String × Verdict := (outcome.expression, outcome.verdict)

/-- Clear outcomes that are shown by the same lines tell the same. -/
theorem map_told_of_render_eq {lefts rights : List Outcome}
    (clear : ∀ outcome ∈ lefts, outcome.Clear) (others : ∀ outcome ∈ rights, outcome.Clear)
    (same : (lefts.map fun outcome => outcome.render.toList) =
      rights.map fun outcome => outcome.render.toList) :
    lefts.map told = rights.map told := by
  induction lefts generalizing rights with
  | nil => rw [List.map_eq_nil_iff.mp same.symm]
  | cons left lefts ih =>
    cases rights with
    | nil => cases same
    | cons right rights =>
      obtain ⟨here, later⟩ := List.cons.inj same
      obtain ⟨first, clear⟩ := List.forall_mem_cons.mp clear
      obtain ⟨second, others⟩ := List.forall_mem_cons.mp others
      obtain ⟨expression, verdict⟩ := eq_of_render_eq first second (String.toList_inj.mp here)
      rw [List.map_cons, List.map_cons, told, told, expression, verdict, ih clear others later]

end Outcome

/-! ## The file of the results -/

/-- An expression arrives when it is among those that are received of some chunks. -/
def Server.Arrives (expression : String) : Prop :=
  ∃ chunks expressions, receive chunks = .ok expressions ∧ expression ∈ expressions

/-- An outcome that is told of a worker with an expression that arrived. -/
def Outcome.Arrived (outcome : Outcome) : Prop :=
  ∃ worker : Worker, Server.Arrives worker.expression ∧ worker.Tells outcome

namespace Outcome

/-- What is told of an expression that arrived is clear. -/
theorem Arrived.clear {outcome : Outcome} (arrived : outcome.Arrived) : outcome.Clear := by
  obtain ⟨worker, -, tells⟩ := arrived
  obtain ⟨silent, rfl⟩ := Worker.tells_iff.mp tells
  exact clear_reported worker silent

/-- What is told of an expression that arrived is shown in one line. -/
theorem Arrived.unbroken {outcome : Outcome} (arrived : outcome.Arrived) :
    Unbroken outcome.render.toList := by
  obtain ⟨worker, ⟨chunks, expressions, received, member⟩, tells⟩ := arrived
  obtain ⟨chars, -, rfl⟩ := map_eq_ok received
  obtain ⟨silent, rfl⟩ := Worker.tells_iff.mp tells
  exact Worker.unbroken_reported (Server.unbroken_expressionsOf chars _ member) silent

/-- Outcomes of expressions that arrived are read from their text, line by line. -/
theorem map_told_of_resultsText_eq {lefts rights : List Outcome}
    (arrived : ∀ outcome ∈ lefts, outcome.Arrived) (others : ∀ outcome ∈ rights, outcome.Arrived)
    (same : Batch.resultsText lefts = Batch.resultsText rights) :
    lefts.map told = rights.map told := by
  have read := congrArg lines same
  rw [Batch.lines_resultsText fun outcome member => (arrived outcome member).unbroken,
    Batch.lines_resultsText fun outcome member => (others outcome member).unbroken] at read
  exact map_told_of_render_eq (fun outcome member => (arrived outcome member).clear)
    (fun outcome member => (others outcome member).clear) read

end Outcome

namespace Server

/-- Every worker comes to an outcome of its expression. What is told of an expression that arrived
is shown in one line. A line tells its expression and what became of it, whatever the expression
holds. So the file that a server leaves breaks into the lines of outcomes, one for each expression,
and whatever outcomes have the same text tell the same, in the same order. -/
theorem results_read_back :
    (∀ worker : Worker, ∃ outcome records, worker.conclude = .ok (outcome, records) ∧
      outcome.expression = worker.expression) ∧
    (∀ outcome : Outcome, outcome.Arrived → ∀ char ∈ outcome.render.toList, [char] ∉ lineEnds) ∧
    (∀ (worker other : Worker) (left right : Outcome), worker.Tells left → other.Tells right →
      left.render = right.render →
        worker.expression = other.expression ∧ left.verdict = right.verdict) ∧
    ∀ (server : Server) (setting : Setting) (folder emptied : Folder) (chunks : List Bytes)
      (expressions : List String),
      (∀ worker ∈ Batch.workers expressions,
        setting.launch worker = worker.run.sent ∨ setting.launch worker = none) →
      folder.write server.output [] = .ok emptied → receive chunks = .ok expressions →
      ∃ outcomes, (outcomes.map Outcome.expression).Perm expressions ∧
        (∀ outcome ∈ outcomes, ∃ worker ∈ Batch.workers expressions, worker.Tells outcome) ∧
        (server.serveConnection setting folder chunks).folder.read server.output =
          .ok (.file (Utf8.encode (Batch.resultsText outcomes))) ∧
        (∀ texts, BreaksInto (Batch.resultsText outcomes) texts ↔
          texts = outcomes.map fun outcome => outcome.render.toList) ∧
        ∀ others : List Outcome, (∀ outcome ∈ others, outcome.Arrived) →
          Batch.resultsText others = Batch.resultsText outcomes →
            others.map Outcome.told = outcomes.map Outcome.told := by
  refine ⟨fun worker => ?_, fun outcome arrived => unbroken_iff.mp arrived.unbroken, ?_, ?_⟩
  · obtain ⟨records, concluded⟩ := worker.conclude_reported
    exact ⟨_, records, concluded, worker.expression_reported false⟩
  · intro worker other left right tells others same
    obtain ⟨silent, rfl⟩ := Worker.tells_iff.mp tells
    obtain ⟨still, rfl⟩ := Worker.tells_iff.mp others
    have agree := Outcome.eq_of_render_eq (Outcome.clear_reported worker silent)
      (Outcome.clear_reported other still) same
    rwa [worker.expression_reported, other.expression_reported] at agree
  · intro server setting folder emptied chunks expressions honest writable received
    obtain ⟨last, -, ended, -, -, -, complete, -⟩ :=
      Batch.run_eq_ok setting.schedule (server.mostWorkers setting).property honest
    obtain ⟨-, stored, -⟩ := serveConnection_of_run writable received ended
    have tells : ∀ outcome ∈ last.outcomes, ∃ worker ∈ Batch.workers expressions,
        worker.Tells outcome := by
      intro outcome member
      obtain ⟨worker, listed, made⟩ := List.mem_map.mp (complete.mem_iff.mp member)
      exact ⟨worker, listed, Worker.tells_iff.mpr ⟨_, made.symm⟩⟩
    have arrived : ∀ outcome ∈ last.outcomes, outcome.Arrived := by
      intro outcome member
      obtain ⟨worker, listed, tells⟩ := tells outcome member
      have expression := Batch.expression_of_mem_workers listed
      exact ⟨worker, ⟨chunks, expressions, received, expression⟩, tells⟩
    have expressed : (Batch.workers expressions).map
        (Outcome.expression ∘ Batch.report setting.launch) = expressions := by
      have each : Outcome.expression ∘ Batch.report setting.launch = Worker.expression :=
        funext fun worker => worker.expression_reported _
      rw [each]
      exact (Batch.map_workers expressions id).trans (List.map_id expressions)
    refine ⟨last.outcomes, ?_, tells, stored, fun texts => ?_, fun others arrive => ?_⟩
    · have moved := complete.map Outcome.expression
      rwa [List.map_map, expressed] at moved
    · rw [breaksInto_iff,
        Batch.lines_resultsText fun outcome member => (arrived outcome member).unbroken]
    · exact Outcome.map_told_of_resultsText_eq arrive arrived

/-- An expression that holds what separates a result and what separates an error. -/
def echoing : String := "x = 1 -> ERROR: 2"

/-- A worker for the expression. -/
def echoingWorker (line : Nat) : Worker := ⟨echoing, line + 1, Nat.succ_pos line⟩

/-- What it comes to. -/
def echoingOutcome (line : Nat) : Outcome :=
  ⟨line + 1, Nat.succ_pos line, echoing, .error "unexpected character 'x' at position 0",
    some .unexpectedCharacter⟩

/-- The expression and a sum, in one chunk. -/
def echoingChunks : List Bytes := [Utf8.encode "x = 1 -> ERROR: 2\n1+1".toList]

/-- The line of the expression is told apart from every other, wherever it stands, and the file that
a server leaves of the expression and the sum is read back. -/
theorem results_read_back_echoing :
    (echoingOutcome 0).Arrived ∧
      (∀ char ∈ (echoingOutcome 0).render.toList, [char] ∉ lineEnds) ∧
      ((echoingWorker 0).Tells (echoingOutcome 0) ∧ (echoingWorker 6).Tells (echoingOutcome 6) ∧
        (echoingOutcome 0).render = (echoingOutcome 6).render ∧
        (echoingOutcome 0).verdict = (echoingOutcome 6).verdict) ∧
      ∃ outcomes, (outcomes.map Outcome.expression).Perm [echoing, "1+1"] ∧
        (pairServer.serveConnection (.orderly ⟨1, by decide⟩ "127.0.0.1") ⟨[]⟩
          echoingChunks).folder.read pairServer.output =
            .ok (.file (Utf8.encode (Batch.resultsText outcomes))) := by
  obtain ⟨-, unbroken, apart, file⟩ := results_read_back
  have faulty : Expression.evaluate echoing = .error (.fault (.unexpectedCharacter 'x' 0)) := by
    decide +kernel
  have words : (EvalError.unexpectedCharacter 'x' 0).message =
      "unexpected character 'x' at position 0" := by decide +kernel
  have tells (line : Nat) : (echoingWorker line).Tells (echoingOutcome line) := by
    refine Worker.tells_iff.mpr ⟨false, ?_⟩
    rw [(echoingWorker line).reported_of_fault faulty, words]
    rfl
  have received : receive echoingChunks = .ok [echoing, "1+1"] :=
    eq_ok_of_toOption (by decide +kernel)
  have arrived : (echoingOutcome 0).Arrived :=
    ⟨echoingWorker 0, ⟨_, _, received, List.mem_cons_self⟩, tells 0⟩
  have created : (Folder.write ⟨[]⟩ pairServer.output []).toOption.isSome = true := by
    decide +kernel
  obtain ⟨emptied, writable⟩ := Option.isSome_iff_exists.mp created
  obtain ⟨outcomes, complete, -, stored, -, -⟩ :=
    file pairServer (.orderly ⟨1, by decide⟩ "127.0.0.1") ⟨[]⟩ emptied echoingChunks _
      (fun _ _ => .inl rfl) (eq_ok_of_toOption writable) received
  have verdict := (apart _ _ _ _ (tells 0) (tells 6) rfl).2
  exact ⟨arrived, unbroken _ arrived, ⟨tells 0, tells 6, rfl, verdict⟩, outcomes, complete, stored⟩

end Server

end Reckoner
