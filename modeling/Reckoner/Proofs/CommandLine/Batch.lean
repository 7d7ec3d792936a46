import Reckoner.CommandLine.Run
import Reckoner.Proofs.Batch.Reception
import Reckoner.Proofs.Batch.Reply
import Reckoner.Proofs.Batch.Results
import Reckoner.Proofs.Batch.ResultsPath

/-!
# A batch from its input to its results

The client sends the text of the input, the server writes the results to a file and sends the file
back, and the client writes what comes back to the same file. Whenever the command comes to an exit,
that file holds one line for each line of the input that is not blank, and the input is as it was.
-/

namespace Reckoner

open Text

/-! ## The lines of the results -/

namespace Batch

/-- The line that is due for an expression: its value, or what is wrong with it. -/
def dueLine (expression : String) : String :=
  match Expression.evaluate expression with
  | .ok result => expression ++ " = " ++ result
  | .error failure => expression ++ " -> ERROR: " ++ failure.message

/-- The lines that are due for a text: one for each of its lines that is not blank, which is
evaluated without the blanks at its ends. -/
def dueLines (content : List Char) : List (List Char) :=
  ((lines content).filter fun line => !line.all isBlank).map fun line =>
    (dueLine (String.ofList (trim line))).toList

/-- A worker that was not silent is shown by the line that is due for its expression. -/
theorem render_reported (worker : Worker) :
    (worker.reported false).render = dueLine worker.expression := by
  rw [Worker.reported, if_neg Bool.false_ne_true, dueLine]
  cases Expression.evaluate worker.expression with
  | ok result => rfl
  | error failure => cases failure <;> rfl

/-- Workers that send what they come to are due the lines of their expressions. -/
theorem linesDue_expressionsOf {launch : Worker → Option Json}
    (honest : ∀ worker, launch worker = worker.run.sent) (content : List Char) :
    Server.linesDue launch (Server.expressionsOf content) = dueLines content := by
  have shown (worker : Worker) :
      (report launch worker).render.toList = (dueLine worker.expression).toList := by
    rw [report, honest, Worker.sent_eq, Option.isNone_some, render_reported]
  rw [Server.linesDue, List.map_congr_left fun worker _ => shown worker,
    map_workers _ fun expression => (dueLine expression).toList, Server.expressionsOf_eq,
    List.map_map]
  rfl

end Batch

/-! ## The server behind its connection -/

namespace Server

/-- A peer stands for a server in a setting when all that the client sends reaches the server and
all that the server sends reaches the client, in chunks of whatever sizes. -/
def Relays (peer : Client.Peer) (server : Server) (setting : Setting) : Prop :=
  ∀ folder content, ∃ chunks, received chunks = content ∧
    (peer folder content).1 = (server.serveConnection setting folder chunks).folder ∧
    received (peer folder content).2 = (server.serveConnection setting folder chunks).sent

/-- A peer that hands everything on at once stands for the server. -/
theorem relays_asPeer (server : Server) (setting : Setting) :
    Relays (server.asPeer setting) server setting :=
  fun _ content => ⟨[content], received_singleton content, rfl, received_singleton _⟩

section

variable (server : Server) {setting : Setting} {folder : Folder} {chunks : List Bytes}
  {content : List Char}

/-- A server whose file cannot be written leaves the files alone. -/
theorem serveConnection_unwritable (setting : Setting) (chunks : List Bytes) {error : FileError}
    (unwritable : folder.write server.output [] = .error error) :
    (server.serveConnection setting folder chunks).folder = folder := by
  rw [serveConnection, unwritable]

/-- A batch of a text comes to an end with the lines that are due for its expressions, in their order
if workers come one at a time. -/
theorem run_due (honest : ∀ worker ∈ Batch.workers (expressionsOf content),
      setting.launch worker = worker.run.sent ∨ setting.launch worker = none) :
    ∃ last, Batch.run setting.schedule (server.mostWorkers setting).val
        (server.mostWorkers setting).property setting.launch (expressionsOf content) = .ok last ∧
      (∀ outcome ∈ last.outcomes, Unbroken outcome.render.toList) ∧
      (last.outcomes.map fun outcome => outcome.render.toList).Perm
        (linesDue setting.launch (expressionsOf content)) ∧
      ((server.mostWorkers setting).val = 1 →
        (last.outcomes.map fun outcome => outcome.render.toList) =
          linesDue setting.launch (expressionsOf content)) := by
  have expressions := receive_of_received (received_singleton (Utf8.encode content))
  obtain ⟨last, -, ended, -, -, -, complete, ordered⟩ :=
    Batch.run_eq_ok setting.schedule (server.mostWorkers setting).property honest
  have due : linesDue setting.launch (expressionsOf content) =
      ((Batch.workers (expressionsOf content)).map (Batch.report setting.launch)).map
        fun outcome => outcome.render.toList := by
    rw [linesDue, List.map_map]
    rfl
  refine ⟨last, ended, fun outcome member => ?_, ?_, fun one => ?_⟩
  · exact unbroken_of_received expressions setting.launch outcome (complete.mem_iff.mp member)
  · rw [due]
    exact complete.map _
  · rw [due, ordered one]

/-- A server that receives a text empties its file, writes the results to it and sends them. They
are the lines that are due for the text, in their order if workers come one at a time. -/
theorem serveConnection_received {emptied : Folder}
    (honest : ∀ worker, setting.launch worker = worker.run.sent)
    (present : setting.clientGone = false) (arrived : received chunks = Utf8.encode content)
    (writable : folder.write server.output [] = .ok emptied) :
    ∃ results after, emptied.write server.output (Utf8.encode results) = .ok after ∧
      (server.serveConnection setting folder chunks).folder = after ∧
      (server.serveConnection setting folder chunks).sent = Utf8.encode results ∧
      results = (lines results).flatMap (fun line => line ++ ['\n']) ∧
      (lines results).Perm (Batch.dueLines content) ∧
      ((server.mostWorkers setting).val = 1 → lines results = Batch.dueLines content) := by
  have expressions := receive_of_received arrived
  have reported : ∀ worker ∈ Batch.workers (expressionsOf content),
      setting.launch worker = worker.run.sent ∨ setting.launch worker = none :=
    fun worker _ => .inl (honest worker)
  obtain ⟨last, ended, unbroken, complete, ordered⟩ := server.run_due reported
  rw [Batch.linesDue_expressionsOf honest] at complete ordered
  obtain ⟨after, written⟩ :=
    Folder.write_of_write writable (Utf8.encode (Batch.resultsText last.outcomes))
  have shown := Batch.lines_resultsText unbroken
  obtain ⟨records, served⟩ : ∃ records, server.serveConnection setting folder chunks =
      ⟨after, Utf8.encode (Batch.resultsText last.outcomes), records, none⟩ := by
    unfold mostWorkers at ended
    simp only [serveConnection, writable, expressions, ended, written, present]
    exact ⟨_, rfl⟩
  rw [served]
  refine ⟨Batch.resultsText last.outcomes, after, written, rfl, rfl, ?_, ?_, ?_⟩
  · rw [shown, List.flatMap_map]
    rfl
  · rw [shown]
    exact complete
  · rw [shown]
    exact ordered

end

end Server

/-! ## The client -/

/-- What was loaded can be read. -/
theorem Input.exists_read {folder : Folder} {path : Path} {content : List Char}
    (loaded : Input.load folder path = .ok content) : ∃ entry, folder.read path = .ok entry := by
  cases shown : folder.read path with
  | ok entry => exact ⟨entry, rfl⟩
  | error error =>
    rw [load] at loaded
    split at loaded
    · rw [readText, shown] at loaded
      cases loaded
    · rw [readArchive, shown] at loaded
      split at loaded
      · cases loaded
      · cases loaded

/-- An exchange in which nothing is raised writes down all that comes back. -/
theorem Client.written_of_send {client : Client} {peer : Client.Peer} {folder left : Folder}
    {chunks : List Bytes} {input output : Path} {content : List Char}
    (loaded : Input.load folder input = .ok content)
    (answered : peer folder (Utf8.encode content) = (left, chunks))
    (fine : (client.send peer folder input output).raised = none) :
    left.write output (Server.received chunks) =
      .ok (client.send peer folder input output).folder := by
  rw [send, loaded] at fine ⊢
  simp only [answered] at fine ⊢
  split at fine
  · cases fine
  · rename_i last kept
    split at fine
    · cases fine
    · rename_i accepted
      have whole := writeDown_of_none accepted
      rw [Exchange.flatten_deliveries, ← Server.received] at whole
      rw [whole] at kept
      simp only [kept]

namespace CommandLine

/-- A batch whose input can be loaded comes to an exit only when its client comes to an end. -/
theorem exchange_of_exit {reach : Server → Client.Peer} {settings : Settings} {logger : Log.Logger}
    {folder : Folder} {path : Path} {content : List Char} {code : Nat}
    (loaded : Input.load folder path = .ok content)
    (exited : (batchThrough reach settings logger folder path).ending = .exit code) :
    ∃ output, ResultsPath.ofInput path = .ok output ∧ code = 0 ∧
      let run := Client.send ⟨settings.endpoint⟩ (reach (settings.server output)) folder path output
      run.raised = none ∧ (batchThrough reach settings logger folder path).folder = run.folder := by
  obtain ⟨entry, shown⟩ := Input.exists_read loaded
  have isFile : folder.isFile path = .ok true := by rw [Folder.isFile, shown]
  simp only [batchThrough, isFile] at exited ⊢
  cases known : ResultsPath.ofInput path with
  | error error =>
    rw [known] at exited
    cases exited
  | ok output =>
    simp only [known] at exited ⊢
    refine ⟨output, rfl, ?_⟩
    split at exited
    · cases exited
    · rename_i fine
      cases exited
      simp only [fine]
      exact ⟨trivial, trivial, trivial⟩

/-- Whenever a batch of a loaded text comes to an exit, it exits with code zero, the file next to
the input holds one line for each line of the text that is not blank, with its value or what is
wrong with it, in order when workers come one at a time, and the input is as it was. This holds
whichever chunks the connection hands on and whenever the workers report, although server and client
both write that file. -/
theorem batchThrough_results {reach : Server → Client.Peer} {setting : Server.Setting}
    {settings : Settings} {logger : Log.Logger} {folder : Folder} {path : Path}
    {content : List Char} {code : Nat}
    (relays : ∀ server, Server.Relays (reach server) server setting)
    (honest : ∀ worker, setting.launch worker = worker.run.sent)
    (present : setting.clientGone = false)
    (loaded : Input.load folder path = .ok content)
    (exited : (batchThrough reach settings logger folder path).ending = .exit code) :
    let run := batchThrough reach settings logger folder path
    code = 0 ∧ ∃ output results, ResultsPath.ofInput path = .ok output ∧
      run.folder.read output = .ok (.file (Utf8.encode results)) ∧
      results = (lines results).flatMap (fun line => line ++ ['\n']) ∧
      (lines results).Perm (Batch.dueLines content) ∧
      ((settings.limit.getD setting.limit).val = 1 → lines results = Batch.dueLines content) ∧
      run.folder.read path = folder.read path := by
  intro run
  obtain ⟨entry, shown⟩ := Input.exists_read loaded
  obtain ⟨output, known, success, fine, left⟩ := exchange_of_exit loaded exited
  obtain ⟨chunks, arrived, served, sent⟩ :=
    relays (settings.server output) folder (Utf8.encode content)
  have written := Client.written_of_send loaded rfl fine
  rw [served, sent] at written
  cases writable : folder.write output [] with
  | error error =>
    -- What the server could not write, the client could not write either.
    rw [(settings.server output).serveConnection_unwritable setting chunks writable] at written
    obtain ⟨last, again⟩ := Folder.write_other written []
    rw [writable] at again
    cases again
  | ok emptied =>
    obtain ⟨results, after, kept, stored, replied, terminated, complete, ordered⟩ :=
      (settings.server output).serveConnection_received honest present arrived writable
    rw [stored, replied] at written
    have apart := ResultsPath.apart_of_ofInput known shown writable
    obtain ⟨apartEmptied, first⟩ := apart.of_write writable
    obtain ⟨apartAfter, second⟩ := apartEmptied.of_write kept
    obtain ⟨-, third⟩ := apartAfter.of_write written
    rw [show run.folder = _ from left, third, second, first]
    exact ⟨success, output, results, known, Folder.read_of_write written, terminated, complete,
      ordered, rfl⟩

/-! ## A batch from an archive -/

/-- An archive whose name has two suffixes. -/
def packedInput : Path := ⟨.here, ["data".toList, "ops.v1.zip".toList]⟩

/-- The file of its results. -/
def packedOutput : Path := ⟨.here, ["data".toList, "ops_v1_zip_results.txt".toList]⟩

/-- Three expressions, two of them faulty, and two blank lines. -/
def packedContent : List Char := "1+1\r\n\n \t2*(3 \n  \n7/0".toList

/-- What the program depends on, with the archive as the only file. -/
def packedSurroundings : Surroundings where
  environment := []
  folder := ⟨[(packedInput.parts,
    .archive .zip [⟨"ops.txt", .file (Utf8.encode packedContent)⟩])]⟩
  nonce := Vector.replicate 12 0
  workers := ⟨4, by decide⟩

/-- Settings that grant two workers at one time. -/
def packedSettings : Settings :=
  ⟨⟨.loopback, Endpoint.defaultPort⟩, some ⟨2, Nat.two_pos⟩, "INFO", none⟩

/-- Workers that report promptly. -/
def packedSetting : Server.Setting :=
  .orderly packedSurroundings.workers Address.loopback.text

/-- What the program leaves of the archive. -/
def packedRun : Run := batch packedSettings .initial packedSurroundings packedInput

/-- The lines that are due for the archive. -/
def packedLines : List (List Char) :=
  ["1+1 = 2", "2*(3 -> ERROR: mismatched parentheses",
    "7/0 -> ERROR: division by zero"].map String.toList

/-- The lines are written next to the archive, and the archive is as it was. -/
theorem batchThrough_results_packed :
    Input.load packedSurroundings.folder packedInput = .ok packedContent ∧
      packedRun.ending = .exit 0 ∧
      ∃ results, packedRun.folder.read packedOutput = .ok (.file (Utf8.encode results)) ∧
        (lines results).Perm packedLines ∧
        packedRun.folder.read packedInput = packedSurroundings.folder.read packedInput := by
  have loaded : Input.load packedSurroundings.folder packedInput = .ok packedContent :=
    eq_ok_of_toOption (by decide +kernel)
  have exited : packedRun.ending = .exit 0 := by decide +kernel
  have beside : ResultsPath.ofInput packedInput = .ok packedOutput := by decide +kernel
  have due : Batch.dueLines packedContent = packedLines := by decide +kernel
  have through : packedRun = batchThrough (fun server => server.asPeer packedSetting)
      packedSettings .initial packedSurroundings.folder packedInput := rfl
  have relays (server : Server) :
      Server.Relays (server.asPeer packedSetting) server packedSetting :=
    server.relays_asPeer packedSetting
  rw [through] at exited ⊢
  obtain ⟨-, output, results, known, stored, -, complete, -, unchanged⟩ :=
    batchThrough_results relays (fun _ => rfl) rfl loaded exited
  rw [beside, Except.ok.injEq] at known
  rw [← known] at stored
  rw [due] at complete
  exact ⟨loaded, exited, results, stored, complete, unchanged⟩

end CommandLine

end Reckoner
