import Reckoner.Proofs.Batch.Readback
import Reckoner.Proofs.Batch.Reception

/-!
# Numbers of lines

The workers of a batch are numbered after its blank lines were left out. So the number of a worker
is the place of its line among the lines that are not blank (`Server.numbered`), and all that is
told of the worker carries this number. It is the place of the line in the text only if no line in
front is blank.
-/

namespace Reckoner

open Text

/-- A record names the line of a number: no other digit is behind the number. -/
def Log.Record.Names (record : Log.Record) (line : Nat) : Prop :=
  ∃ front back, record.message = front ++ "line " ++ toString line ++ back ∧
    ∀ char, back.toList.head? = some char → char.isDigit = false

/-! ## Places -/

/-- How many of the lines in front of a place are not blank. -/
def Text.shownBefore (texts : List (List Char)) (place : Nat) : Nat :=
  (texts.take place).countP fun line => !line.all isBlank

/-- The lines that are not blank have a line at the place that is the number of such lines in
front of it. -/
theorem Text.getElem?_shown {texts : List (List Char)} {place : Nat} {line : List Char}
    (placed : texts[place]? = some line) (shown : line.all isBlank = false) :
    (texts.filter fun line => !line.all isBlank)[shownBefore texts place]? = some line := by
  have parts : texts = texts.take place ++ line :: texts.drop (place + 1) := by
    obtain ⟨bound, here⟩ := List.getElem?_eq_some_iff.mp placed
    rw [← here, ← List.drop_eq_getElem_cons bound, List.take_append_drop]
  have counted : shownBefore texts place =
      ((texts.take place).filter fun line => !line.all isBlank).length :=
    List.countP_eq_length_filter
  have kept : (texts.filter fun line => !line.all isBlank) =
      ((texts.take place).filter fun line => !line.all isBlank) ++
        line :: (texts.drop (place + 1)).filter fun line => !line.all isBlank := by
    conv_lhs => rw [parts]
    rw [List.filter_append, List.filter_cons_of_pos (by rw [shown]; rfl)]
  rw [kept, counted, List.getElem?_append_right (Nat.le_refl _), Nat.sub_self,
    List.getElem?_cons_zero]

/-- All lines in front of a place are counted exactly when none of them is blank. -/
theorem Text.shownBefore_eq_iff {texts : List (List Char)} {place : Nat} {line : List Char}
    (placed : texts[place]? = some line) :
    shownBefore texts place = place ↔
      ∀ earlier ∈ texts.take place, earlier.all isBlank = false := by
  obtain ⟨bound, -⟩ := List.getElem?_eq_some_iff.mp placed
  have length : (texts.take place).length = place := by
    rw [List.length_take, Nat.min_eq_left (Nat.le_of_lt bound)]
  have counted := List.countP_eq_length (p := fun line : List Char => !line.all isBlank)
    (l := texts.take place)
  rw [length] at counted
  rw [shownBefore, counted]
  simp only [Bool.not_eq_true']

/-- The worker at a place has the expression there and the number of the place, from one on. -/
theorem Batch.getElem?_workers {expressions : List String} {place : Nat} {expression : String}
    (placed : expressions[place]? = some expression) :
    (workers expressions)[place]? = some ⟨expression, place + 1, Nat.succ_pos place⟩ := by
  rw [workers, List.getElem?_mapIdx, placed, Option.map_some]

/-! ## Records -/

section

variable (level : Log.Level) {words : String} (line : Nat)

/-- A record with a number between words that end with that for a line and words that begin with no
digit names the line. -/
theorem Log.Record.names_of_words (front : String) (ends : words = front ++ "line ") {back : String}
    {mark : Char} {rest : List Char} (next : back.toList = mark :: rest)
    (apart : mark.isDigit = false) :
    (Record.mk level (words ++ toString line ++ back)).Names line := by
  refine ⟨front, back, by rw [ends], fun char first => ?_⟩
  rw [next, List.head?_cons, Option.some.injEq] at first
  rw [← first, apart]

/-- A record with a number in front of a colon names the line. -/
theorem Log.Record.names_colon (front : String) (ends : words = front ++ "line ") (rest : String) :
    (Record.mk level (words ++ toString line ++ ": " ++ rest)).Names line := by
  have colon : (": " ++ rest).toList = ':' :: ' ' :: rest.toList := by
    have mark : ": ".toList = [':', ' '] := by decide +kernel
    rw [String.toList_append, mark]
    rfl
  rw [String.append_assoc]
  exact names_of_words level line front ends colon rfl

end

namespace Worker

/-- What a worker tells names its line. -/
theorem names_of_mem_run (worker : Worker) :
    ∀ record ∈ worker.run.records, record.Names worker.line := by
  have started := Log.Record.names_colon .info worker.line "👷🏁 Worker started on "
    (show "👷🏁 Worker started on line " = _ by decide +kernel) worker.expression
  intro record member
  rw [run, conclude] at member
  cases evaluated : Expression.evaluate worker.expression with
  | ok result =>
    have finished := Log.Record.names_colon .info worker.line "👷✅ Worker finished on "
      (show "👷✅ Worker finished on line " = _ by decide +kernel) result
    rw [evaluated] at member
    rcases List.mem_cons.mp member with rfl | later
    · exact started
    · rw [List.mem_singleton.mp later]
      exact finished
  | error failure =>
    obtain ⟨fault, rfl⟩ := Expression.evaluate_onlyFaults _ failure evaluated
    have failed := Log.Record.names_colon .error worker.line "👷❌ Worker failed on "
      (show "👷❌ Worker failed on line " = _ by decide +kernel) (fault.message ++
        "\nInvalid arithmetic expression, could not evaluate: " ++ quote worker.expression)
    rw [← String.append_assoc, ← String.append_assoc] at failed
    rw [evaluated] at member
    rcases List.mem_cons.mp member with rfl | later
    · exact started
    · rw [List.mem_singleton.mp later]
      exact failed

/-- What the reader of a worker's pipe tells names the line of the worker. -/
theorem names_of_receive {worker : Worker} {pipe : Option Json} {outcome : Outcome}
    {records : List Log.Record}
    (received : receive pipe worker.line worker.expression = .ok (outcome, records)) :
    ∀ record ∈ records, record.Names worker.line := by
  cases pipe with
  | some sent =>
    obtain ⟨read, -, same⟩ := map_eq_ok received
    cases same
    exact fun _ none => absurd none List.not_mem_nil
  | none =>
    have exited : " exited without a result".toList = ' ' :: "exited without a result".toList := by
      decide +kernel
    have silent := Log.Record.names_of_words .error worker.line "👷💥 Worker for "
      (show "👷💥 Worker for line " = _ by decide +kernel) exited rfl
    rw [receive, silence_reported] at received
    cases received
    intro record member
    rw [List.mem_singleton.mp member]
    exact silent

end Worker

/-! ## Numbers -/

namespace Server

/-- Every line of a text that is not blank gets a worker, with what stands between its blanks and
with the number of lines up to it that are not blank. This is the place of the line in the text
exactly when no line in front is blank. The number is in all that is told of the worker: in the
outcomes, in what the worker tells and in what the reader of its pipe does. The worker is among
those of every server that receives the text, however it was cut, and the batch ends with an outcome
of it. -/
theorem numbered {content line : List Char} {texts : List (List Char)} {place : Nat}
    (broken : BreaksInto content texts) (placed : texts[place]? = some line)
    (shown : line.all isBlank = false) :
    ∃ worker : Worker, Strips line worker.expression.toList ∧
      worker.line = shownBefore texts place + 1 ∧
      (worker.line = place + 1 ↔ ∀ earlier ∈ texts.take place, earlier.all isBlank = false) ∧
      (∀ outcome, worker.Tells outcome → outcome.line = worker.line) ∧
      (∀ record ∈ worker.run.records, record.Names worker.line) ∧
      (∀ pipe outcome records,
        Worker.receive pipe worker.line worker.expression = .ok (outcome, records) →
          ∀ record ∈ records, record.Names worker.line) ∧
      ∀ (server : Server) (setting : Setting) (chunks : List Bytes) (expressions : List String),
        received chunks = Utf8.encode content → receive chunks = .ok expressions →
        (∀ other ∈ Batch.workers expressions,
          setting.launch other = other.run.sent ∨ setting.launch other = none) →
        (Batch.workers expressions)[shownBefore texts place]? = some worker ∧
        ∃ last, Batch.run setting.schedule (server.mostWorkers setting).val
            (server.mostWorkers setting).property setting.launch expressions = .ok last ∧
          ∃ outcome ∈ last.outcomes, worker.Tells outcome := by
  obtain rfl := breaksInto_iff.mp broken
  let rank := shownBefore (lines content) place
  let worker : Worker := ⟨String.ofList (trim line), rank + 1, Nat.succ_pos rank⟩
  have expression : (expressionsOf content)[rank]? = some (String.ofList (trim line)) := by
    rw [expressionsOf_eq, List.getElem?_map, getElem?_shown placed shown, Option.map_some]
  have started : (Batch.workers (expressionsOf content))[rank]? = some worker :=
    Batch.getElem?_workers expression
  refine ⟨worker, ?_, rfl, ?_, ?_, worker.names_of_mem_run,
    fun _ _ _ => Worker.names_of_receive, ?_⟩
  · show Strips line (String.ofList (trim line)).toList
    rw [String.toList_ofList]
    exact strips_trim line
  · show rank + 1 = place + 1 ↔ _
    rw [Nat.add_right_cancel_iff]
    exact shownBefore_eq_iff placed
  · intro outcome tells
    obtain ⟨silent, rfl⟩ := Worker.tells_iff.mp tells
    exact worker.line_reported silent
  · intro server setting chunks expressions arrived received honest
    obtain rfl := Except.ok.inj ((receive_of_received arrived).symm.trans received)
    obtain ⟨last, -, ended, -, -, -, complete, -⟩ :=
      Batch.run_eq_ok setting.schedule (server.mostWorkers setting).property honest
    have listed : Batch.report setting.launch worker ∈
        (Batch.workers (expressionsOf content)).map (Batch.report setting.launch) :=
      List.mem_map_of_mem (List.mem_of_getElem? started)
    exact ⟨started, last, ended, _, complete.mem_iff.mpr listed, Worker.tells_iff.mpr ⟨_, rfl⟩⟩

/-- A blank line and a quotient by zero. -/
def shiftedContent : List Char := "\n1/0".toList

/-- The worker of the quotient. -/
def shiftedWorker : Worker := ⟨"1/0", 1, Nat.one_pos⟩

/-- The quotient is in the second line, its worker has the number one, and so has the outcome of
it. -/
theorem numbered_shifted :
    BreaksInto shiftedContent [[], "1/0".toList] ∧ "1/0".toList.all isBlank = false ∧
      ∃ worker : Worker, Strips "1/0".toList worker.expression.toList ∧ worker.line = 1 ∧
        (∀ record ∈ worker.run.records, record.Names 1) ∧
        ∃ last outcome,
          Batch.run .prompt 2 Nat.two_pos (fun other => other.run.sent) ["1/0"] = .ok last ∧
          outcome ∈ last.outcomes ∧ worker.Tells outcome ∧ outcome.line = 1 := by
  have broken : BreaksInto shiftedContent [[], "1/0".toList] :=
    breaksInto_iff.mpr (by decide +kernel)
  have placed : [[], "1/0".toList][1]? = some "1/0".toList := rfl
  have shown : "1/0".toList.all isBlank = false := by decide +kernel
  have counted : shownBefore [[], "1/0".toList] 1 = 0 := by decide +kernel
  obtain ⟨worker, stripped, number, -, carried, named, -, runs⟩ := numbered broken placed shown
  rw [counted] at number
  have received : receive [Utf8.encode shiftedContent] = .ok ["1/0"] :=
    eq_ok_of_toOption (by decide +kernel)
  obtain ⟨-, last, ended, outcome, member, tells⟩ :=
    runs pairServer (.orderly ⟨2, Nat.two_pos⟩ "127.0.0.1") [Utf8.encode shiftedContent] ["1/0"]
      (received_singleton _) received fun _ _ => .inl rfl
  have line := carried outcome tells
  rw [number] at line named
  exact ⟨broken, shown, worker, stripped, number, named, last, outcome, ended, member, tells, line⟩

/-- The only worker of a quotient in the second line has the number one, sends it and tells of the
first line. -/
theorem shifted_line :
    lines shiftedContent = [[], "1/0".toList] ∧
      receive [Utf8.encode shiftedContent] = .ok ["1/0"] ∧
      Batch.workers ["1/0"] = [shiftedWorker] ∧ shiftedWorker.line = 1 ∧
      (∃ outcome records, shiftedWorker.conclude = .ok (outcome, records) ∧ outcome.line = 1 ∧
        shiftedWorker.run.sent = some outcome.toJson) ∧
      shiftedWorker.run.records =
        [Log.info "👷🏁 Worker started on line 1: 1/0",
          Log.error ("👷❌ Worker failed on line 1: division by zero\n" ++
            "Invalid arithmetic expression, could not evaluate: '1/0'")] := by
  obtain ⟨records, concluded⟩ := shiftedWorker.conclude_reported
  refine ⟨by decide +kernel, eq_ok_of_toOption (by decide +kernel), rfl, rfl,
    ⟨_, records, concluded, shiftedWorker.line_reported false, shiftedWorker.sent_eq⟩,
    by decide +kernel⟩

end Server

end Reckoner
