import Reckoner.Proofs.Batch.Accounts
import Reckoner.Proofs.Files.Folder

/-!
# The results of a batch

A server that is sent expressions writes one line for each of them, whatever its workers do and
whenever they report, and sends back the file that it wrote.
-/

namespace Reckoner

open Text

namespace Batch

/-- The worker of an expression has that expression. -/
theorem expression_of_mem_workers {expressions : List String} {worker : Worker}
    (member : worker ∈ workers expressions) : worker.expression ∈ expressions := by
  obtain ⟨index, bound, made⟩ := List.mem_mapIdx.mp member
  rw [← made]
  exact List.getElem_mem bound

/-- What the expressions of workers come to is what the expressions do. -/
theorem map_workers {α : Type} (expressions : List String) (change : String → α) :
    (workers expressions).map (fun worker => change worker.expression) =
      expressions.map change := by
  rw [workers]
  exact List.ext_getElem (by simp) (by simp)

/-- The lines of the text of results are the outcomes, when each is shown in one line. -/
theorem lines_resultsText {outcomes : List Outcome}
    (unbroken : ∀ outcome ∈ outcomes, Unbroken outcome.render.toList) :
    lines (resultsText outcomes) = outcomes.map fun outcome => outcome.render.toList := by
  have texts : ∀ text ∈ outcomes.map fun outcome => outcome.render.toList, Unbroken text := by
    intro text member
    obtain ⟨outcome, listed, rfl⟩ := List.mem_map.mp member
    exact unbroken outcome listed
  have shown := lines_terminated texts
  rw [List.flatMap_map] at shown
  exact shown

end Batch

namespace Server

/-- The most workers that a server keeps active in a setting. -/
def mostWorkers (server : Server) (setting : Setting) : { value : Nat // 0 < value } :=
  server.limit.getD setting.limit

/-- The lines that are due for expressions, in their order: for each what its worker sent, or that
the worker was silent. -/
def linesDue (launch : Worker → Option Json) (expressions : List String) : List (List Char) :=
  (Batch.workers expressions).map fun worker => (Batch.report launch worker).render.toList

section

variable {server : Server} {setting : Setting} {folder emptied : Folder} {chunks : List Bytes}
  {expressions : List String} {last : Batch.State}

/-- A server whose batch ends leaves and sends the text of its outcomes. -/
theorem serveConnection_of_run (writable : folder.write server.output [] = .ok emptied)
    (arrived : receive chunks = .ok expressions)
    (ended : Batch.run setting.schedule (server.mostWorkers setting).val
      (server.mostWorkers setting).property setting.launch expressions = .ok last) :
    let run := server.serveConnection setting folder chunks
    let results := Utf8.encode (Batch.resultsText last.outcomes)
    run.raised = none ∧ run.folder.read server.output = .ok (.file results) ∧
      run.sent = if setting.clientGone then [] else results := by
  obtain ⟨after, written⟩ :=
    Folder.write_of_write writable (Utf8.encode (Batch.resultsText last.outcomes))
  have stored := Folder.read_of_write written
  unfold mostWorkers at ended
  simp only [serveConnection, writable, arrived, ended, written]
  cases setting.clientGone with
  | true => exact ⟨rfl, stored, rfl⟩
  | false => exact ⟨rfl, stored, rfl⟩

/-- The outcomes of expressions that were received are each shown in one line. -/
theorem unbroken_of_received (arrived : receive chunks = .ok expressions)
    (launch : Worker → Option Json) :
    ∀ outcome ∈ (Batch.workers expressions).map (Batch.report launch),
      Unbroken outcome.render.toList := by
  intro outcome member
  obtain ⟨worker, listed, rfl⟩ := List.mem_map.mp member
  obtain ⟨chars, -, rfl⟩ := map_eq_ok arrived
  have expression := Batch.expression_of_mem_workers listed
  exact Worker.unbroken_reported (unbroken_expressionsOf chars _ expression) _

/-- A server that receives expressions never keeps more workers active than its limit, whatever the
schedule, and comes to an end: no worker is left, no more rounds have passed than there are
expressions, the file of the results has the lines that are due for the expressions, each once,
and the client is sent exactly this file. One worker at a time keeps the lines in their order. -/
theorem serveConnection_results
    (honest : ∀ worker ∈ Batch.workers expressions,
      setting.launch worker = worker.run.sent ∨ setting.launch worker = none)
    (writable : folder.write server.output [] = .ok emptied)
    (arrived : receive chunks = .ok expressions) :
    let limit := (server.mostWorkers setting).val
    let reaches := Batch.Reaches setting.schedule limit setting.launch
      (Batch.State.start (Batch.workers expressions))
    let run := server.serveConnection setting folder chunks
    (∀ state, reaches state → state.active.length ≤ limit) ∧
    ∃ last, reaches last ∧
      Batch.run setting.schedule limit (server.mostWorkers setting).property setting.launch
        expressions = .ok last ∧
      last.active = [] ∧ last.pending = [] ∧ last.rounds ≤ expressions.length ∧
      run.raised = none ∧
      ∃ results, run.folder.read server.output = .ok (.file (Utf8.encode results)) ∧
        run.sent = (if setting.clientGone then [] else Utf8.encode results) ∧
        results = (lines results).flatMap (fun line => line ++ ['\n']) ∧
        (lines results).Perm (linesDue setting.launch expressions) ∧
        (limit = 1 → lines results = linesDue setting.launch expressions) := by
  intro limit reaches run
  obtain ⟨last, reached, ended, idle, none, counted, complete, ordered⟩ :=
    Batch.run_eq_ok setting.schedule (server.mostWorkers setting).property honest
  obtain ⟨raised, stored, sent⟩ := serveConnection_of_run writable arrived ended
  have unbroken : ∀ outcome ∈ last.outcomes, Unbroken outcome.render.toList :=
    fun outcome member =>
      unbroken_of_received arrived setting.launch outcome (complete.mem_iff.mp member)
  have shown := Batch.lines_resultsText unbroken
  have due : linesDue setting.launch expressions =
      ((Batch.workers expressions).map (Batch.report setting.launch)).map
        fun outcome => outcome.render.toList := by
    rw [linesDue, List.map_map]
    rfl
  refine ⟨fun state => Batch.active_length_le setting.schedule honest, last, reached, ended, idle,
    none, counted, raised, Batch.resultsText last.outcomes, stored, sent, ?_, ?_, ?_⟩
  · rw [shown, List.flatMap_map]
    rfl
  · rw [shown, due]
    exact complete.map _
  · intro one
    rw [shown, due, ordered one]

end

/-! ## A batch with a silent worker -/

/-- A server that keeps at most two workers active. -/
def pairServer : Server :=
  ⟨⟨.loopback, Endpoint.defaultPort⟩, ⟨.here, ["out.txt".toList]⟩, some ⟨2, by decide⟩⟩

/-- A setting in which the second worker ends without a word. -/
def pairSetting : Setting where
  schedule := .prompt
  launch worker := if worker.line = 2 then none else worker.run.sent
  limit := ⟨1, by decide⟩
  peer := "127.0.0.1"
  clientGone := false

/-- Three expressions, cut inside the second. -/
def pairChunks : List Bytes := ["1+1\n\n 2*".toList, "3\n7/0".toList].map Utf8.encode

/-- The three expressions. -/
def pairExpressions : List String := ["1+1", "2*3", "7/0"]

/-- What is left of the three expressions: a value, a silence and a fault. -/
def pairLines : List (List Char) :=
  ["1+1 = 2", "2*3 -> ERROR: worker exited without a result",
    "7/0 -> ERROR: division by zero"].map String.toList

/-- The server leaves the three lines and sends them to the client. -/
theorem serveConnection_results_pair :
    (∀ worker ∈ Batch.workers pairExpressions,
        pairSetting.launch worker = worker.run.sent ∨ pairSetting.launch worker = none) ∧
      (∃ emptied, Folder.write ⟨[]⟩ pairServer.output [] = .ok emptied) ∧
      receive pairChunks = .ok pairExpressions ∧
      ∃ results,
        (pairServer.serveConnection pairSetting ⟨[]⟩ pairChunks).folder.read pairServer.output =
          .ok (.file (Utf8.encode results)) ∧
        (pairServer.serveConnection pairSetting ⟨[]⟩ pairChunks).sent = Utf8.encode results ∧
        (lines results).Perm pairLines := by
  have honest : ∀ worker ∈ Batch.workers pairExpressions,
      pairSetting.launch worker = worker.run.sent ∨ pairSetting.launch worker = none := by
    intro worker _
    by_cases second : worker.line = 2
    · exact .inr (if_pos second)
    · exact .inl (if_neg second)
  have created : (Folder.write ⟨[]⟩ pairServer.output []).toOption.isSome = true := by
    decide +kernel
  have arrived : receive pairChunks = .ok pairExpressions := eq_ok_of_toOption (by decide +kernel)
  have due : linesDue pairSetting.launch pairExpressions = pairLines := by decide +kernel
  obtain ⟨emptied, writable⟩ := Option.isSome_iff_exists.mp created
  have written := eq_ok_of_toOption writable
  obtain ⟨-, last, -, -, -, -, -, -, results, stored, sent, -, complete, -⟩ :=
    serveConnection_results honest written arrived
  exact ⟨honest, ⟨emptied, written⟩, arrived, results, stored, sent, due ▸ complete⟩

end Server

end Reckoner
