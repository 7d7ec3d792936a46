import Reckoner.Proofs.Batch.Sharing
import Reckoner.Proofs.CommandLine.Batch

/-!
# Lines that are lost

A batch gives its server and its client one file for the results. The file holds every line that is
due in the end, whenever the client empties it before the server has written a line, or after the
server has read the file back. In between, the lines that are written already are lost, and neither
of the two is told.
-/

namespace Reckoner.Sharing

open Text

/-! ## Files of lines -/

/-- A file holds the lines that are due, each once, and nothing else. -/
def Whole (due : List (List Char)) (file : Bytes) : Prop :=
  ∃ results, file = Utf8.encode results ∧
    results = (lines results).flatMap (fun line => line ++ ['\n']) ∧ (lines results).Perm due

/-- Lines that are written are lost when the client empties the file: some are written, and the
file was not read back. -/
def ServerPhase.Exposed : ServerPhase → Prop
  | .writing place _ => 0 < place
  | .written => True
  | .waiting | .receiving | .replying _ | .gone => False

/-- Lines of text are whole when they are those that are due. -/
theorem whole_encode_iff {due texts : List (List Char)}
    (unbroken : ∀ text ∈ texts, Unbroken text) :
    Whole due (Utf8.encode (texts.flatMap fun text => text ++ ['\n'])) ↔ texts.Perm due := by
  constructor
  · rintro ⟨results, same, -, complete⟩
    have decoded := congrArg Utf8.decode same
    rw [Utf8.decode_encode, Utf8.decode_encode, Except.ok.injEq] at decoded
    rw [← decoded, lines_terminated unbroken] at complete
    exact complete
  · intro complete
    refine ⟨_, rfl, ?_, ?_⟩
    · rw [lines_terminated unbroken]
    · rw [lines_terminated unbroken]
      exact complete

/-- An empty file is whole when no line is due. -/
theorem whole_nil_iff {due : List (List Char)} : Whole due [] ↔ due = [] := by
  have unbroken : ∀ text ∈ ([] : List (List Char)), Unbroken text :=
    fun _ none => absurd none List.not_mem_nil
  exact (whole_encode_iff unbroken).trans List.nil_perm

/-- The bytes of lines are the encoding of their text. -/
theorem flatten_written (outcomes : List Outcome) :
    (written outcomes).flatten = Utf8.encode (Batch.resultsText outcomes) := by
  rw [written, ← List.flatMap_def, Batch.resultsText, Utf8.encode, List.flatMap_assoc]
  rfl

/-- The text of results is that of their lines. -/
theorem resultsText_eq (outcomes : List Outcome) :
    Batch.resultsText outcomes =
      (outcomes.map fun outcome => outcome.render.toList).flatMap fun text => text ++ ['\n'] := by
  rw [List.flatMap_map]
  rfl

/-- The parts of the lines are the lines of parts. -/
theorem written_eq_append {outcomes : List Outcome} {before rest : List Bytes}
    (parts : written outcomes = before ++ rest) :
    ∃ earlier later, outcomes = earlier ++ later ∧ written earlier = before ∧
      written later = rest := List.map_eq_append_iff.mp parts

/-- A line is not empty. -/
theorem lineOf_ne_nil (outcome : Outcome) : lineOf outcome ≠ [] := by
  rw [lineOf, Utf8.encode_append]
  exact List.append_ne_nil_of_right_ne_nil _ (by decide)

/-- No line is empty. -/
theorem written_ne_nil (outcomes : List Outcome) : ∀ line ∈ written outcomes, line ≠ [] :=
  List.forall_mem_map.mpr fun outcome _ => lineOf_ne_nil outcome

/-- Zeros are the encoding of as many null characters. -/
theorem encode_zeros (count : Nat) :
    Utf8.encode (List.replicate count '\x00') = List.replicate count 0 := by
  induction count with
  | zero => rfl
  | succ count ih =>
    rw [List.replicate_succ, List.replicate_succ, ← ih]
    rfl

/-- The lines that are left of outcomes when zeros stand in front of the first. -/
def remains (zeros : Nat) : List Outcome → List (List Char)
  | [] => []
  | first :: rest =>
    (List.replicate zeros '\x00' ++ first.render.toList) ::
      rest.map fun outcome => outcome.render.toList

/-- Without zeros, the lines remain as they are. -/
theorem remains_zero (outcomes : List Outcome) :
    remains 0 outcomes = outcomes.map fun outcome => outcome.render.toList := by
  cases outcomes <;> rfl

/-- As many lines remain as there are outcomes. -/
theorem length_remains (zeros : Nat) (outcomes : List Outcome) :
    (remains zeros outcomes).length = outcomes.length := by
  cases outcomes with
  | nil => rfl
  | cons first rest => rw [remains, List.length_cons, List.length_map, List.length_cons]

/-- A server that is not done writing leaves what remains. -/
theorem left_writing (lines : List Bytes) (place : Nat) (outcomes : List Outcome) :
    (ServerPhase.writing place (written outcomes)).left lines =
      Utf8.encode ((remains place outcomes).flatMap fun text => text ++ ['\n']) := by
  cases outcomes with
  | nil => rfl
  | cons first rest =>
    have others := flatten_written (first :: rest)
    rw [resultsText_eq, List.map_cons, List.flatMap_cons] at others
    show List.replicate place 0 ++ (written (first :: rest)).flatten = _
    rw [others, remains, List.flatMap_cons, ← encode_zeros, ← Utf8.encode_append]
    simp only [List.append_assoc]

/-- Lines that remain are unbroken. -/
theorem unbroken_remains {outcomes : List Outcome}
    (unbroken : ∀ outcome ∈ outcomes, Unbroken outcome.render.toList) (zeros : Nat) :
    ∀ text ∈ remains zeros outcomes, Unbroken text := by
  cases outcomes with
  | nil => exact fun _ none => absurd none List.not_mem_nil
  | cons first rest =>
    obtain ⟨here, others⟩ := List.forall_mem_cons.mp unbroken
    refine List.forall_mem_cons.mpr ⟨unbroken_append.mpr ⟨fun char member => ?_, here⟩, ?_⟩
    · rw [(List.mem_replicate.mp member).2]
      rfl
    · exact List.forall_mem_map.mpr others

section

variable {due : List (List Char)} {outcomes : List Outcome}
  (unbroken : ∀ outcome ∈ outcomes, Unbroken outcome.render.toList)
  (complete : (outcomes.map fun outcome => outcome.render.toList).Perm due)

include unbroken complete

/-- All lines together are whole. -/
theorem whole_flatten : Whole due (written outcomes).flatten := by
  rw [flatten_written, resultsText_eq, whole_encode_iff (List.forall_mem_map.mpr unbroken)]
  exact complete

/-- What is left is whole unless lines are lost. -/
theorem whole_left_iff {phase : ServerPhase} (placed : Placed (written outcomes) phase) :
    Whole due (phase.left (written outcomes)) ↔ (phase.Exposed → due = []) := by
  have all := whole_flatten unbroken complete
  cases phase with
  | waiting => exact iff_of_true all nofun
  | receiving => exact iff_of_true all nofun
  | replying unsent => exact iff_of_true all nofun
  | gone => exact iff_of_true all nofun
  | written => exact whole_nil_iff.trans ⟨fun none _ => none, fun none => none trivial⟩
  | writing place rest =>
    obtain ⟨before, parts, rfl⟩ := placed
    obtain ⟨earlier, later, rfl, rfl, rfl⟩ := written_eq_append parts
    obtain ⟨-, unbrokenLater⟩ := List.forall_mem_append.mp unbroken
    have counted := complete.length_eq
    rw [List.length_map, List.length_append] at counted
    rw [left_writing, whole_encode_iff (unbroken_remains unbrokenLater _)]
    cases earlier with
    | nil =>
      rw [List.nil_append] at complete
      exact iff_of_true (remains_zero later ▸ complete) (fun lost => absurd lost (Nat.lt_irrefl 0))
    | cons first others =>
      -- Too few lines remain, whatever stands in front of them.
      have positive := List.length_pos_iff.mpr (lineOf_ne_nil first)
      have exposed : 0 < (written (first :: others)).flatten.length := by
        rw [written, List.map_cons, List.flatten_cons, List.length_append]
        omega
      rw [List.length_cons] at counted
      refine iff_of_false (fun same => ?_) fun none => ?_
      · have fewer := same.length_eq
        rw [length_remains] at fewer
        omega
      · rw [none exposed, List.length_nil] at counted
        omega

end

/-! ## Runs that exist -/

section

variable {server : Server} {setting : Server.Setting} {content : List Char} {file flight : Bytes}
  {client : ClientPhase}

/-- A server has the lines that are due for a text. -/
theorem exists_due (server : Server)
    (honest : ∀ worker ∈ Batch.workers (Server.expressionsOf content),
      setting.launch worker = worker.run.sent ∨ setting.launch worker = none) :
    ∃ outcomes, Runs server setting content (written outcomes) ∧
      (∀ outcome ∈ outcomes, Unbroken outcome.render.toList) ∧
      (outcomes.map fun outcome => outcome.render.toList).Perm
        (Server.linesDue setting.launch (Server.expressionsOf content)) := by
  obtain ⟨last, ran, unbroken, complete, -⟩ := server.run_due honest
  exact ⟨last.outcomes, ⟨last, ran, rfl⟩, unbroken, complete⟩

/-- Lines are written one after the other. -/
theorem reaches_lines (place : Nat) (first second : List Bytes) :
    Reaches server setting content ⟨file, .writing place (first ++ second), client, flight⟩
      ⟨writeOn file place first, .writing (place + first.flatten.length) second, client,
        flight⟩ := by
  induction first generalizing file place with
  | nil => exact .refl
  | cons line rest ih =>
    rw [List.flatten_cons, List.length_append, ← Nat.add_assoc]
    exact .head (.server .writes) (ih (place + line.length))

/-- A file is read back and sent. -/
theorem reaches_gone (file : Bytes) (client : ClientPhase) :
    Reaches server setting content ⟨file, .written, client, []⟩ ⟨file, .gone, client, file⟩ := by
  by_cases empty : file = []
  · rw [empty]
    exact .tail (.single (.server .reads)) (.server .leaves)
  · have move : ServerMove server setting content ⟨file, .replying (file ++ []), client, []⟩
        ⟨file, .replying [], client, [] ++ file⟩ := .sends empty
    rw [List.append_nil, List.nil_append] at move
    exact .tail (.tail (.single (.server .reads)) (.server move)) (.server .leaves)

/-- A server writes the rest of its lines, reads the file back and sends it. -/
theorem reaches_reply (file : Bytes) (place : Nat) (client : ClientPhase) (rest : List Bytes) :
    Reaches server setting content ⟨file, .writing place rest, client, []⟩
      ⟨writeOn file place rest, .gone, client, writeOn file place rest⟩ := by
  have wrote : Reaches server setting content ⟨file, .writing place (rest ++ []), client, []⟩
      ⟨writeOn file place rest, .writing (place + rest.flatten.length) [], client, []⟩ :=
    reaches_lines place rest []
  rw [List.append_nil] at wrote
  exact (wrote.tail (.server .closes)).trans (reaches_gone _ client)

/-- A server comes to write each of its lines while the client waits. -/
theorem reaches_writing {earlier later : List Outcome}
    (runs : Runs server setting content (written (earlier ++ later))) (file : Bytes) :
    Reaches server setting content (start file)
      ⟨(written earlier).flatten, .writing (written earlier).flatten.length (written later),
        .halfClosed, []⟩ := by
  obtain ⟨last, ran, lines⟩ := runs
  have arrived := Server.received_singleton (Utf8.encode content)
  have move : ServerMove server setting content ⟨[], .receiving, .halfClosed, []⟩
      ⟨[], .writing 0 (written last.outcomes), .halfClosed, []⟩ :=
    .receives nofun arrived (Server.receive_of_received arrived) ran
  rw [lines, written, List.map_append] at move
  have received : Reaches server setting content (start file)
      ⟨[], .writing 0 (written earlier ++ written later), .halfClosed, []⟩ :=
    .tail (.tail (.single (.client .halfCloses)) (.server .opens)) (.server move)
  have wrote := received.trans (reaches_lines 0 (written earlier) (written later))
  have appended := writeOn_length [] (written earlier)
  rw [List.nil_append, List.length_nil] at appended
  rw [appended, Nat.zero_add] at wrote
  exact wrote

/-- A client that waits for a server that is gone writes down what is on its way, piece by piece. -/
theorem reaches_ended (place : Nat) {pieces : List Bytes}
    (sized : ∀ piece ∈ pieces, piece ≠ [] ∧ piece.length ≤ Exchange.pieceSize) :
    ∃ last, Reaches server setting content ⟨file, .gone, .writing place, pieces.flatten⟩ last ∧
      last.client = .ended (Client.writeDown pieces).2 ∧
      (place = file.length → last.file = file ++ (Client.writeDown pieces).1) := by
  induction pieces generalizing file place with
  | nil => exact ⟨_, .single (.client .ends), rfl, fun _ => (List.append_nil file).symm⟩
  | cons piece rest ih =>
    obtain ⟨⟨filled, fits⟩, others⟩ := List.forall_mem_cons.mp sized
    rw [Client.writeDown, List.flatten_cons]
    cases text : Utf8.decode piece with
    | error error =>
      exact ⟨_, .single (.client (.refuses filled fits text)), rfl,
        fun _ => (List.append_nil file).symm⟩
    | ok chars =>
      obtain ⟨last, reaches, ended, left⟩ := ih (place + (Utf8.encode chars).length) others
      refine ⟨last, .head (.client (.takes filled fits text)) reaches, ended, fun same => ?_⟩
      subst same
      rw [left (by rw [writeAt_length, List.length_append]), writeAt_length, List.append_assoc]

/-- A text that is on its way can arrive character by character. -/
theorem reaches_text (place : Nat) (text : List Char) :
    ∃ last, Reaches server setting content ⟨file, .gone, .writing place, Utf8.encode text⟩ last ∧
      last.client = .ended none := by
  let pieces := (text.map fun char => [char]).map Utf8.encode
  have sized : ∀ piece ∈ pieces, piece ≠ [] ∧ piece.length ≤ Exchange.pieceSize := by
    intro piece member
    obtain ⟨chars, listed, rfl⟩ := List.mem_map.mp member
    obtain ⟨char, -, rfl⟩ := List.mem_map.mp listed
    obtain ⟨filled, short⟩ := Utf8.length_encodeChar char
    rw [Utf8.encode, List.flatMap_singleton]
    exact ⟨List.ne_nil_of_length_pos filled, short.trans (by decide)⟩
  have whole : pieces.flatten = Utf8.encode text := by
    rw [show pieces = _ from List.map_map, Utf8.encode, List.flatMap_def]
    exact congrArg List.flatten (List.map_congr_left fun char _ => List.append_nil _)
  have accepted : (Client.writeDown pieces).2 = none := by
    have all := Client.writeDown_texts (text.map fun char => [char]) []
    rw [List.append_nil] at all
    rw [all, Client.writeDown]
  obtain ⟨last, reaches, ended, -⟩ := reaches_ended place sized
  rw [whole] at reaches
  rw [accepted] at ended
  exact ⟨last, reaches, ended⟩

/-- The client can empty the file behind any of the lines, and what is left then is left in the
end. -/
theorem exists_reaches_left {earlier later : List Outcome}
    (runs : Runs server setting content (written (earlier ++ later))) (file : Bytes) :
    ∃ last, Reaches server setting content (start file) last ∧ last.client = .ended none ∧
      last.file = (ServerPhase.writing (written earlier).flatten.length (written later)).left
        (written (earlier ++ later)) := by
  let place := (written earlier).flatten.length
  let before : State := ⟨(written earlier).flatten, .writing place (written later), .halfClosed, []⟩
  have reached : Reaches server setting content (start file) before := reaches_writing runs file
  have parts : written (earlier ++ later) = written earlier ++ written later := List.map_append
  have unopened : Unopened (written (earlier ++ later)) before := by
    refine ⟨.inr rfl, ⟨_, parts, rfl⟩, ?_, rfl, rfl⟩
    rw [parts, List.flatten_append]
    exact (writeOn_length _ _).symm
  have replied : Reaches server setting content before.emptied
      ⟨writeOn [] place (written later), .gone, .writing 0, writeOn [] place (written later)⟩ :=
    reaches_reply [] place (.writing 0) (written later)
  have left : writeOn [] place (written later) = Utf8.encode _ :=
    (writeOn_nil place (written_ne_nil later)).trans (left_writing [] place later)
  rw [left] at replied
  obtain ⟨last, arrived, ended⟩ := reaches_text 0 _
  have second := replied.trans arrived
  have after := Reaches.after second runs (unopened.emptied (written_ne_nil _))
  rw [After, ended] at after
  exact ⟨last, (reached.tail (.client .opens)).trans second, ended, after.2.2 (.inl rfl)⟩

/-- An exchange in which the server is done before the client opens the file is one of the runs. -/
theorem exists_reaches_send (chosen : Client) {folder emptied : Folder} {input : Path}
    (honest : ∀ worker, setting.launch worker = worker.run.sent)
    (present : setting.clientGone = false) (loaded : Input.load folder input = .ok content)
    (writable : folder.write server.output [] = .ok emptied) (file : Bytes) :
    ∃ last refusal, Reaches server setting content (start file) last ∧
      last.client = .ended refusal ∧
      (chosen.send (server.asPeer setting) folder input server.output).raised =
        refusal.map .undecodable ∧
      (chosen.send (server.asPeer setting) folder input server.output).folder.read server.output =
        .ok (.file last.file) := by
  have arrived := Server.received_singleton (Utf8.encode content)
  have reported : ∀ worker ∈ Batch.workers (Server.expressionsOf content),
      setting.launch worker = worker.run.sent ∨ setting.launch worker = none :=
    fun worker _ => .inl (honest worker)
  obtain ⟨done, ran, -, -, -⟩ := server.run_due reported
  obtain ⟨results, after, kept, stored, -⟩ :=
    server.serveConnection_received honest present arrived writable
  obtain ⟨-, -, sent⟩ :=
    Server.serveConnection_of_run writable (Server.receive_of_received arrived) ran
  rw [present, ← flatten_written] at sent
  let reply := (written done.outcomes).flatten
  have answered : server.asPeer setting folder (Utf8.encode content) = (after, [reply]) :=
    Prod.ext stored (congrArg (fun bytes => [bytes]) sent)
  obtain ⟨left, again⟩ :=
    Folder.write_of_write kept (Client.writeDown (Exchange.deliveries [reply])).1
  obtain ⟨raised, read⟩ := Client.send_of_deliveries chosen loaded answered rfl again
  -- The server writes every line and leaves, and then the client opens the file.
  have runs : Runs server setting content (written (done.outcomes ++ [])) :=
    ⟨done, ran, by rw [List.append_nil]⟩
  have replied : Reaches server setting content (start file) ⟨reply, .gone, .halfClosed, reply⟩ :=
    (reaches_writing runs file).trans (reaches_reply reply _ .halfClosed [])
  obtain ⟨last, reaches, ended, wrote⟩ : ∃ last,
      Reaches server setting content
        ⟨[], .gone, .writing 0, (Exchange.deliveries [reply]).flatten⟩ last ∧
      last.client = .ended (Client.writeDown (Exchange.deliveries [reply])).2 ∧
      (0 = [].length → last.file = [] ++ (Client.writeDown (Exchange.deliveries [reply])).1) :=
    reaches_ended 0 (Exchange.sized_deliveries [reply])
  rw [Exchange.flatten_deliveries, ← Server.received, Server.received_singleton] at reaches
  rw [← (wrote rfl).trans (List.nil_append _)] at read
  exact ⟨last, _, (replied.tail (.client .opens)).trans reaches, ended, raised, read⟩

end

/-! ## The moment -/

section

variable {server : Server} {setting : Server.Setting} {content : List Char} {file : Bytes}
  {last : State}

/-- Whatever the server and the client do in whatever order, the moment at which the client empties
the file tells what is left when the client is done. Lines that the server has written by then and
not read back are lost, with zeros in their place if other lines follow. So the file holds every
line that is due, each once, exactly when the client empties it at a moment at which none can be
lost. A client that empties the file after it was read back and then ends with a piece that is no
text leaves a part. -/
theorem whole_iff_unexposed {refusal : Option Utf8.DecodeError}
    (honest : ∀ worker ∈ Batch.workers (Server.expressionsOf content),
      setting.launch worker = worker.run.sent ∨ setting.launch worker = none)
    (reaches : Reaches server setting content (start file) last)
    (ended : last.client = .ended refusal) :
    let due := Server.linesDue setting.launch (Server.expressionsOf content)
    ∃ lines before, Runs server setting content lines ∧ Whole due lines.flatten ∧
      Reaches server setting content (start file) before ∧ before.client = .halfClosed ∧
      Reaches server setting content before.emptied last ∧
      last.file <+: before.server.left lines ∧
      (refusal = none ∨ before.server.replied = false →
        last.file = before.server.left lines ∧
          (Whole due last.file ↔ (before.server.Exposed → due = []))) := by
  intro due
  obtain ⟨outcomes, runs, unbroken, complete⟩ := exists_due server honest
  rcases reaches.cases runs (written_ne_nil outcomes) with early |
    ⟨before, first, halfClosed, unopened, second, after⟩
  · rcases early.early with sending | halfClosed
    · rw [sending] at ended
      cases ended
    · rw [halfClosed] at ended
      cases ended
  · rw [After, ended] at after
    obtain ⟨-, part, whole⟩ := after
    have all := whole_flatten unbroken complete
    refine ⟨_, before, runs, all, first, halfClosed, second, part, fun accepted => ?_⟩
    rw [whole accepted]
    exact ⟨rfl, whole_left_iff unbroken complete unopened.placed⟩

end

/-! ## A line that is lost -/

/-- One expression. -/
def sumContent : List Char := "1+1\n".toList

/-- A server of one worker at a time. -/
def sumServer : Server :=
  ⟨⟨.loopback, Endpoint.defaultPort⟩, ⟨.here, ["sum.txt".toList]⟩, some ⟨1, Nat.one_pos⟩⟩

/-- A setting in which its worker reports. -/
def sumSetting : Server.Setting := .orderly ⟨1, Nat.one_pos⟩ "127.0.0.1"

/-- The line that is due for the expression. -/
def sumLines : List (List Char) := ["1+1 = 2".toList]

/-- The worker reports what it comes to. -/
theorem honest_sum : ∀ worker ∈ Batch.workers (Server.expressionsOf sumContent),
    sumSetting.launch worker = worker.run.sent ∨ sumSetting.launch worker = none :=
  fun _ _ => .inl rfl

/-- One line is due. -/
theorem linesDue_sum :
    Server.linesDue sumSetting.launch (Server.expressionsOf sumContent) = sumLines := by
  decide +kernel

/-- A file without the line is not whole. -/
theorem not_whole_sum : ¬ Whole sumLines [] := by
  rw [whole_nil_iff]
  exact List.cons_ne_nil _ _

/-- The client can empty the file when the line is written and not read back. -/
theorem reaches_sum : ∃ last, Reaches sumServer sumSetting sumContent (start []) last ∧
    last.client = .ended none ∧ last.file = [] := by
  obtain ⟨outcomes, runs, -, -⟩ := exists_due sumServer honest_sum
  rw [← List.append_nil outcomes] at runs
  exact exists_reaches_left runs []

/-- When the line was lost, the client had emptied the file at such a moment. -/
theorem whole_iff_unexposed_sum :
    ∃ last before : State, Reaches sumServer sumSetting sumContent (start []) last ∧
      last.client = .ended none ∧ last.file = [] ∧
      Reaches sumServer sumSetting sumContent before.emptied last ∧ before.server.Exposed := by
  obtain ⟨last, reaches, ended, empty⟩ := reaches_sum
  obtain ⟨lines, before, -, -, -, -, emptied, -, settled⟩ :=
    whole_iff_unexposed honest_sum reaches ended
  refine ⟨last, before, reaches, ended, empty, emptied, ?_⟩
  by_cases exposed : before.server.Exposed
  · exact exposed
  · have whole := (settled (.inl rfl)).2.mpr fun lost => absurd lost exposed
    rw [linesDue_sum, empty] at whole
    exact absurd whole not_whole_sum

/-- The client comes to its end in order, one line is due, and the file holds nothing. -/
theorem sum_lost :
    Server.linesDue sumSetting.launch (Server.expressionsOf sumContent) = sumLines ∧
      (∀ worker, sumSetting.launch worker = worker.run.sent) ∧
      ∃ last, Reaches sumServer sumSetting sumContent (start []) last ∧
        last.client = .ended none ∧ last.file = [] ∧ ¬ Whole sumLines last.file := by
  obtain ⟨last, reaches, ended, empty⟩ := reaches_sum
  exact ⟨linesDue_sum, fun _ => rfl, last, reaches, ended, empty, empty ▸ not_whole_sum⟩

end Reckoner.Sharing
