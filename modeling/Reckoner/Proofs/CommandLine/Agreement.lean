import Reckoner.CommandLine.Run
import Reckoner.Proofs.Batch.Readback
import Reckoner.Proofs.Batch.Reception
import Reckoner.Proofs.Expression.Margins

/-!
# One expression on the command line and in a batch

The command that evaluates an expression and the server of a batch come to the same: a value is
printed by the one exactly when it is in the line of the other, and so is a fault, whose position
the command counts from the start of the expression and the server from the first character that is
no blank (`evaluate_agrees`).
-/

namespace Reckoner

open Text

/-! ## Outcomes -/

/-- What is told of a worker for the part of a text between its blanks, against the value or fault
of the text. -/
theorem Worker.reported_strip {worker : Worker} {text : String}
    (given : worker.expression = strip text) :
    (∃ result, Expression.evaluate text = .ok result ∧
      (worker.reported false).verdict = .result result ∧ (worker.reported false).kind? = none) ∨
    ∃ fault : EvalError,
      Expression.evaluate text =
        .error (.fault (fault.moved (text.toList.takeWhile isBlank).length)) ∧
      (worker.reported false).verdict = .error fault.message ∧
      (worker.reported false).kind? = some fault.kind := by
  have margins := Expression.evaluate_strip text
  rw [← given] at margins
  cases evaluated : Expression.evaluate worker.expression with
  | ok result =>
    rw [evaluated] at margins
    rw [worker.reported_of_result evaluated]
    exact .inl ⟨result, margins, rfl, rfl⟩
  | error failure =>
    obtain ⟨fault, rfl⟩ := Expression.evaluate_onlyFaults _ failure evaluated
    rw [evaluated] at margins
    rw [worker.reported_of_fault evaluated]
    exact .inr ⟨fault, margins, rfl, rfl⟩

/-- The line of an outcome is that of a result exactly when the outcome has the result. -/
theorem Outcome.render_eq_result_iff {outcome : Outcome} {result : String} :
    outcome.render = outcome.expression ++ " = " ++ result ↔ outcome.verdict = .result result := by
  cases told : outcome.verdict with
  | result other =>
    rw [render, told, Verdict.result.injEq]
    exact String.append_right_inj _
  | error other =>
    refine iff_of_false ?_ ?_
    · intro same
      have sign : " = ".toList = [' ', '=', ' '] := by decide +kernel
      have letters := congrArg String.toList same
      rw [render_error told, String.toList_append, String.toList_append, sign] at letters
      simp at letters
    · rintro ⟨⟩

namespace Server

variable {server : Server} {setting : Setting} {folder emptied : Folder} {chunks : List Bytes}
  {content : List Char}

/-- The file of a batch has the line of what is told of a worker, and as many others as there are
other expressions. -/
theorem exists_line (honest : ∀ worker, setting.launch worker = worker.run.sent)
    (arrived : received chunks = Utf8.encode content)
    (writable : folder.write server.output [] = .ok emptied) {worker : Worker}
    (member : worker ∈ Batch.workers (expressionsOf content)) :
    ∃ results others, (server.serveConnection setting folder chunks).folder.read server.output =
        .ok (.file (Utf8.encode results)) ∧
      results = (lines results).flatMap (fun line => line ++ ['\n']) ∧
      (lines results).Perm ((worker.reported false).render.toList :: others) ∧
      others.length + 1 = (expressionsOf content).length := by
  obtain ⟨-, last, -, -, -, -, -, -, results, stored, -, terminated, complete, -⟩ :=
    serveConnection_results (fun worker _ => .inl (honest worker)) writable
      (receive_of_received arrived)
  obtain ⟨before, after, parts⟩ := List.append_of_mem member
  have told : Batch.report setting.launch worker = worker.reported false := by
    rw [Batch.report, honest, worker.sent_eq, Option.isNone_some]
  have count : (Batch.workers (expressionsOf content)).length = (expressionsOf content).length :=
    List.length_mapIdx
  rw [linesDue, parts, List.map_append, List.map_cons, told] at complete
  refine ⟨results, _, stored, terminated, complete.trans List.perm_middle, ?_⟩
  rw [← count, parts, List.length_append, List.length_append, List.length_cons, List.length_map,
    List.length_map, Nat.add_assoc]

/-- The part between the blanks of a text is an expression that is received where the text arrives,
alone or as a line, and the only one when it arrives alone. -/
theorem strip_mem_expressionsOf {expression : String}
    (shown : ∃ char ∈ expression.toList, isBlank char = false)
    (unbroken : Unbroken (trim expression.toList))
    (placed : content = expression.toList ∨ expression.toList ∈ lines content) :
    strip expression ∈ expressionsOf content ∧
      (content = expression.toList → (expressionsOf content).length = 1) := by
  obtain ⟨char, member, ink⟩ := shown
  have filled : trim expression.toList ≠ [] := by
    intro empty
    have blank := trimOf_eq_nil_iff.mp empty char member
    rw [ink] at blank
    cases blank
  have alone : expressionsOf expression.toList = [strip expression] :=
    expressionsOf_of_strips (strips_trim expression.toList) filled unbroken
  constructor
  · rcases placed with rfl | listed
    · rw [alone]
      exact List.mem_singleton_self _
    · rw [expressionsOf_eq]
      refine List.mem_map_of_mem (List.mem_filter.mpr ⟨listed, ?_⟩)
      rw [← isEmpty_trim]
      simpa using filled
  · rintro rfl
    rw [alone]
    rfl

end Server

namespace CommandLine

/-- Runs that print results are the same exactly when the results are. -/
theorem printed_result_inj {result other : String} {folder : Folder} :
    Run.printed 0 ("= " ++ result ++ "\n") folder = .printed 0 ("= " ++ other ++ "\n") folder ↔
      result = other := by
  constructor
  · intro same
    have output := congrArg Run.output same
    exact (String.append_right_inj _).mp ((String.append_left_inj _).mp output)
  · rintro rfl
    rfl

/-- Two ways lead to the value or the fault of an expression that is not blank and has no line break
between its blanks: the command prints it, and the server of a batch writes a line for it, whether
the expression arrives alone or as a line among others. The command prints a result and exits with
zero exactly when the line has the result. Otherwise it prints the words for a fault and exits with
one, and the line has the words for the same fault, found farther in front by as many positions as
there are blanks in front of the expression. -/
theorem evaluate_agrees {server : Server} {setting : Server.Setting} {folder emptied : Folder}
    {chunks : List Bytes} {content : List Char} {expression : String}
    (shown : ∃ char ∈ expression.toList, isBlank char = false)
    (unbroken : Unbroken (trim expression.toList))
    (placed : content = expression.toList ∨ expression.toList ∈ lines content)
    (honest : ∀ worker, setting.launch worker = worker.run.sent)
    (arrived : Server.received chunks = Utf8.encode content)
    (writable : folder.write server.output [] = .ok emptied) (home : Folder) :
    let margin := (expression.toList.takeWhile isBlank).length
    let printed := CommandLine.evaluate expression home
    ∃ (outcome : Outcome) (results : List Char) (others : List (List Char)),
      (server.serveConnection setting folder chunks).folder.read server.output =
        .ok (.file (Utf8.encode results)) ∧
      results = (lines results).flatMap (fun line => line ++ ['\n']) ∧
      (lines results).Perm (outcome.render.toList :: others) ∧
      (content = expression.toList → others = []) ∧
      (∃ worker ∈ Batch.workers (Server.expressionsOf content),
        worker.expression = strip expression ∧ setting.launch worker = some outcome.toJson) ∧
      (∀ result, printed = .printed 0 ("= " ++ result ++ "\n") home ↔
        outcome.render = strip expression ++ " = " ++ result) ∧
      ((∃ result, printed = .printed 0 ("= " ++ result ++ "\n") home) ∨
        ∃ error fault : EvalError, printed = .printed 1 ("Error: " ++ error.message ++ "\n") home ∧
          Expression.evaluate expression = .error (.fault error) ∧
          outcome.render = strip expression ++ " -> ERROR: " ++ fault.message ∧
          outcome.kind? = some error.kind ∧ error = fault.moved margin) := by
  intro margin printed
  obtain ⟨listed, single⟩ := Server.strip_mem_expressionsOf shown unbroken placed
  obtain ⟨worker, member, given⟩ : ∃ worker ∈ Batch.workers (Server.expressionsOf content),
      worker.expression = strip expression := by
    rw [← List.map_id (Server.expressionsOf content), ← Batch.map_workers] at listed
    exact List.mem_map.mp listed
  obtain ⟨results, others, stored, terminated, complete, count⟩ :=
    Server.exists_line honest arrived writable member
  have named : (worker.reported false).expression = strip expression :=
    (worker.expression_reported false).trans given
  have sent : setting.launch worker = some (worker.reported false).toJson :=
    (honest worker).trans worker.sent_eq
  have alone (whole : content = expression.toList) : others = [] := by
    rw [single whole] at count
    exact List.length_eq_zero_iff.mp (Nat.succ.inj count)
  refine ⟨worker.reported false, results, others, stored, terminated, complete, alone,
    ⟨worker, member, given, sent⟩, ?_⟩
  rw [← named]
  rcases Worker.reported_strip given with
    ⟨result, evaluated, verdict, -⟩ | ⟨fault, evaluated, verdict, kind⟩
  · have shows : printed = .printed 0 ("= " ++ result ++ "\n") home := by
      show CommandLine.evaluate expression home = _
      rw [CommandLine.evaluate, evaluated]
    refine ⟨fun other => ?_, .inl ⟨result, shows⟩⟩
    rw [Outcome.render_eq_result_iff, verdict, Verdict.result.injEq, shows]
    exact printed_result_inj
  · have shows : printed =
        .printed 1 ("Error: " ++ (fault.moved margin).message ++ "\n") home := by
      show CommandLine.evaluate expression home = _
      rw [CommandLine.evaluate, evaluated]
      rfl
    refine ⟨fun other => ?_, .inr ⟨fault.moved margin, fault, shows, evaluated, ?_, ?_, rfl⟩⟩
    · rw [Outcome.render_eq_result_iff, verdict, shows]
      refine iff_of_false ?_ ?_
      · intro same
        cases congrArg Run.ending same
      · rintro ⟨⟩
    · rw [Outcome.render, verdict]
    · rw [kind, fault.kind_moved]

/-- A product with a letter, between blanks. -/
def blankedProduct : String := "\t 2*x "

/-- The product as the second line of a text. -/
def blankedContent : List Char := "1+1\n\t 2*x \n".toList

/-- The command finds the letter at the fourth position, and the server at the second. -/
theorem evaluate_agrees_blankedProduct :
    (∃ char ∈ blankedProduct.toList, isBlank char = false) ∧
      Unbroken (trim blankedProduct.toList) ∧ blankedProduct.toList ∈ lines blankedContent ∧
      CommandLine.evaluate blankedProduct ⟨[]⟩ =
        .printed 1 "Error: unexpected character 'x' at position 4\n" ⟨[]⟩ ∧
      ∃ results others,
        (Server.pairServer.serveConnection (.orderly ⟨1, by decide⟩ "127.0.0.1") ⟨[]⟩
          [Utf8.encode blankedContent]).folder.read Server.pairServer.output =
            .ok (.file (Utf8.encode results)) ∧
        (lines results).Perm
          ("2*x -> ERROR: unexpected character 'x' at position 2".toList :: others) := by
  have shown : ∃ char ∈ blankedProduct.toList, isBlank char = false :=
    ⟨'x', by decide +kernel, by decide⟩
  have unbroken : Unbroken (trim blankedProduct.toList) := unbroken_of_all (by decide +kernel)
  have placed : blankedProduct.toList ∈ lines blankedContent := by decide +kernel
  have created : (Folder.write ⟨[]⟩ Server.pairServer.output []).toOption.isSome = true := by
    decide +kernel
  obtain ⟨emptied, writable⟩ := Option.isSome_iff_exists.mp created
  have faulty : Expression.evaluate blankedProduct =
      .error (.fault (.unexpectedCharacter 'x' 4)) := by decide +kernel
  have margin : (blankedProduct.toList.takeWhile isBlank).length = 2 := by decide +kernel
  obtain ⟨outcome, results, others, stored, -, complete, -, -, -, printed⟩ :=
    @evaluate_agrees Server.pairServer (.orderly ⟨1, by decide⟩ "127.0.0.1") ⟨[]⟩ emptied
      [Utf8.encode blankedContent] blankedContent blankedProduct shown unbroken (.inr placed)
      (fun _ => rfl) (Server.received_singleton _) (eq_ok_of_toOption writable) ⟨[]⟩
  rcases printed with ⟨result, printed⟩ | ⟨error, fault, printed, evaluated, line, -, moved⟩
  · rw [CommandLine.evaluate, faulty] at printed
    cases congrArg Run.ending printed
  · rw [faulty] at evaluated
    cases evaluated
    rw [margin] at moved
    have nearer : fault = .unexpectedCharacter 'x' 2 := by
      cases fault with
      | unexpectedCharacter char position =>
        rw [EvalError.moved, EvalError.unexpectedCharacter.injEq] at moved
        rw [EvalError.unexpectedCharacter.injEq]
        exact ⟨moved.1.symm, by omega⟩
      | _ => cases moved
    have words : strip blankedProduct ++ " -> ERROR: " ++ fault.message =
        "2*x -> ERROR: unexpected character 'x' at position 2" := by
      rw [nearer]
      decide +kernel
    have message : "Error: " ++ (EvalError.unexpectedCharacter 'x' 4).message ++ "\n" =
        "Error: unexpected character 'x' at position 4\n" := by decide +kernel
    rw [message] at printed
    rw [line, words] at complete
    exact ⟨shown, unbroken, placed, printed, results, others, stored, complete⟩

end CommandLine

end Reckoner
