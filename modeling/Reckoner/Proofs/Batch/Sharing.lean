import Reckoner.Proofs.Batch.Results
import Reckoner.Proofs.Text.Utf8

/-!
# One file with two writers

The server writes its lines to a file, reads the file back and sends what it read, and the client
writes what arrives to the same file. Each of them empties the file first, at a moment of its own,
and each writes at a place of its own. The moves of the two can come in any order, but for one
thing: the server has received nothing before the client is done sending.

The client empties the file once, so a run is cut there in two. Up to that moment the server owes
the client all lines (`Unopened`). Behind it the server owes what the file will hold when it is read
back, and the file comes to hold that and nothing else (`After`). So the moment tells what is left
in the end (`Reaches.cases`).
-/

namespace Reckoner.Sharing

open Text

/-! ## Writes at a place -/

/-- A file after bytes were written at a place of it. Zeros fill the gap in front of the place, and
to write nothing changes nothing. -/
def writeAt (file : Bytes) (place : Nat) (bytes : Bytes) : Bytes :=
  if bytes.isEmpty then file
  else file.take place ++ List.replicate (place - file.length) 0 ++ bytes ++
    file.drop (place + bytes.length)

/-- A file after lines were written one behind the other, the first at a place. -/
def writeOn (file : Bytes) (place : Nat) : List Bytes → Bytes
  | [] => file
  | line :: rest => writeOn (writeAt file place line) (place + line.length) rest

/-- What is written at the end is appended. -/
theorem writeAt_length (file bytes : Bytes) : writeAt file file.length bytes = file ++ bytes := by
  rw [writeAt]
  split
  · rename_i none
    rw [List.isEmpty_iff.mp none, List.append_nil]
  · simp

/-- What is there already can be written again. -/
theorem writeAt_same (front bytes back : Bytes) :
    writeAt (front ++ (bytes ++ back)) front.length bytes = front ++ (bytes ++ back) := by
  rw [writeAt]
  split
  · rfl
  · simp

/-- In an empty file, zeros stand in front of what is written. -/
theorem writeAt_nil (place : Nat) {bytes : Bytes} (filled : bytes ≠ []) :
    writeAt [] place bytes = List.replicate place 0 ++ bytes := by
  rw [writeAt, if_neg (by simpa using filled)]
  simp

/-- Lines from the end on are appended. -/
theorem writeOn_length (file : Bytes) (lines : List Bytes) :
    writeOn file file.length lines = file ++ lines.flatten := by
  induction lines generalizing file with
  | nil => exact (List.append_nil file).symm
  | cons line rest ih =>
    have tail := ih (file ++ line)
    rw [List.length_append] at tail
    rw [writeOn, writeAt_length, tail, List.flatten_cons, List.append_assoc]

/-! ## The two parties -/

/-- Where the server stands. -/
inductive ServerPhase where
  /-- The file is not open yet. -/
  | waiting
  /-- The file was emptied, and the expressions are awaited. -/
  | receiving
  /-- The next line goes to a place, and lines are left. -/
  | writing (place : Nat) (rest : List Bytes)
  /-- All lines are written, and the file is closed. -/
  | written
  /-- The file was read back, and bytes of it are left to be sent. -/
  | replying (unsent : Bytes)
  /-- The connection is closed. -/
  | gone

/-- Where the client stands. -/
inductive ClientPhase where
  /-- The expressions are on their way. -/
  | sending
  /-- The expressions are sent, and the file is not open yet. -/
  | halfClosed
  /-- The file was emptied, and the next piece goes to a place. -/
  | writing (place : Nat)
  /-- The exchange is over: the server has gone, or a piece was no text. -/
  | ended (refusal : Option Utf8.DecodeError)

/-- Where both stand, and what they share. -/
structure State where
  /-- What the file holds. -/
  file : Bytes
  /-- The server. -/
  server : ServerPhase
  /-- The client. -/
  client : ClientPhase
  /-- The bytes that were sent to the client and have not been received. -/
  flight : Bytes

/-- Both at the start, with a file that was there before. -/
def start (file : Bytes) : State := ⟨file, .waiting, .sending, []⟩

/-- The line that a server writes to its file for an outcome. -/
def lineOf (outcome : Outcome) : Bytes := Utf8.encode (outcome.render.toList ++ ['\n'])

/-- What a server writes to its file for outcomes. -/
def written (outcomes : List Outcome) : List Bytes := outcomes.map lineOf

/-- A move of a server. -/
inductive ServerMove (server : Server) (setting : Server.Setting) (content : List Char) :
    State → State → Prop
  /-- The file is opened and emptied. -/
  | opens {file : Bytes} {client : ClientPhase} {flight : Bytes} :
    ServerMove server setting content ⟨file, .waiting, client, flight⟩
      ⟨[], .receiving, client, flight⟩
  /-- All expressions have arrived, and the batch is run. -/
  | receives {file : Bytes} {client : ClientPhase} {flight : Bytes} {chunks : List Bytes}
    {expressions : List String} {last : Batch.State} (sent : client ≠ .sending)
    (arrived : Server.received chunks = Utf8.encode content)
    (read : Server.receive chunks = .ok expressions)
    (ran : Batch.run setting.schedule (server.mostWorkers setting).val
      (server.mostWorkers setting).property setting.launch expressions = .ok last) :
    ServerMove server setting content ⟨file, .receiving, client, flight⟩
      ⟨file, .writing 0 (written last.outcomes), client, flight⟩
  /-- A line is written. -/
  | writes {file : Bytes} {client : ClientPhase} {flight : Bytes} {place : Nat} {line : Bytes}
    {rest : List Bytes} :
    ServerMove server setting content ⟨file, .writing place (line :: rest), client, flight⟩
      ⟨writeAt file place line, .writing (place + line.length) rest, client, flight⟩
  /-- The file is closed behind the last line. -/
  | closes {file : Bytes} {client : ClientPhase} {flight : Bytes} {place : Nat} :
    ServerMove server setting content ⟨file, .writing place [], client, flight⟩
      ⟨file, .written, client, flight⟩
  /-- The file is read back. -/
  | reads {file : Bytes} {client : ClientPhase} {flight : Bytes} :
    ServerMove server setting content ⟨file, .written, client, flight⟩
      ⟨file, .replying file, client, flight⟩
  /-- A part of what was read is sent. -/
  | sends {file : Bytes} {client : ClientPhase} {flight part rest : Bytes} (filled : part ≠ []) :
    ServerMove server setting content ⟨file, .replying (part ++ rest), client, flight⟩
      ⟨file, .replying rest, client, flight ++ part⟩
  /-- The connection is closed. -/
  | leaves {file : Bytes} {client : ClientPhase} {flight : Bytes} :
    ServerMove server setting content ⟨file, .replying [], client, flight⟩
      ⟨file, .gone, client, flight⟩

/-- A move of a client. -/
inductive ClientMove : State → State → Prop
  /-- All expressions are sent. -/
  | halfCloses {file : Bytes} {server : ServerPhase} {flight : Bytes} :
    ClientMove ⟨file, server, .sending, flight⟩ ⟨file, server, .halfClosed, flight⟩
  /-- The file is opened and emptied. -/
  | opens {file : Bytes} {server : ServerPhase} {flight : Bytes} :
    ClientMove ⟨file, server, .halfClosed, flight⟩ ⟨[], server, .writing 0, flight⟩
  /-- A piece arrives and is written. -/
  | takes {file : Bytes} {server : ServerPhase} {place : Nat} {piece rest : Bytes}
    {chars : List Char} (filled : piece ≠ []) (fits : piece.length ≤ Exchange.pieceSize)
    (text : Utf8.decode piece = .ok chars) :
    ClientMove ⟨file, server, .writing place, piece ++ rest⟩
      ⟨writeAt file place (Utf8.encode chars), server,
        .writing (place + (Utf8.encode chars).length), rest⟩
  /-- A piece arrives that is no text. -/
  | refuses {file : Bytes} {server : ServerPhase} {place : Nat} {piece rest : Bytes}
    {error : Utf8.DecodeError} (filled : piece ≠ []) (fits : piece.length ≤ Exchange.pieceSize)
    (refused : Utf8.decode piece = .error error) :
    ClientMove ⟨file, server, .writing place, piece ++ rest⟩
      ⟨file, server, .ended (some error), rest⟩
  /-- Nothing more arrives. -/
  | ends {file : Bytes} {place : Nat} :
    ClientMove ⟨file, .gone, .writing place, []⟩ ⟨file, .gone, .ended none, []⟩

/-- A move of either. -/
inductive Step (server : Server) (setting : Server.Setting) (content : List Char) :
    State → State → Prop
  /-- The server moves. -/
  | server {before next : State} (move : ServerMove server setting content before next) :
    Step server setting content before next
  /-- The client moves. -/
  | client {before next : State} (move : ClientMove before next) :
    Step server setting content before next

/-- The states that a server and its client pass through from one state on, in whatever order they
move. -/
abbrev Reaches (server : Server) (setting : Server.Setting) (content : List Char) :
    State → State → Prop :=
  Relation.ReflTransGen (Step server setting content)

/-! ## What is owed to the client -/

/-- The file was read back. -/
def ServerPhase.replied : ServerPhase → Bool
  | .replying _ | .gone => true
  | .waiting | .receiving | .writing _ _ | .written => false

/-- A server that will have sent a reply when it is gone, of which the client took some bytes. -/
def Outlook (lines : List Bytes) (reply taken : Bytes) (state : State) : Prop :=
  match state.server with
  | .waiting => reply = lines.flatten ∧ taken = [] ∧ state.flight = []
  | .receiving => reply = lines.flatten ∧ taken = [] ∧ state.flight = [] ∧ state.file = []
  | .writing place rest =>
    reply = writeOn state.file place rest ∧ taken = [] ∧ state.flight = []
  | .written => reply = state.file ∧ taken = [] ∧ state.flight = []
  | .replying unsent => reply = taken ++ (state.flight ++ unsent)
  | .gone => reply = taken ++ state.flight

/-- The place of the next line is behind the lines that were written. -/
def Placed (lines : List Bytes) : ServerPhase → Prop
  | .writing place rest => ∃ before, lines = before ++ rest ∧ place = before.flatten.length
  | .waiting | .receiving | .written | .replying _ | .gone => True

/-- The lines are those that the server has for a text. -/
def Runs (server : Server) (setting : Server.Setting) (content : List Char) (lines : List Bytes) :
    Prop :=
  ∃ last, Batch.run setting.schedule (server.mostWorkers setting).val
    (server.mostWorkers setting).property setting.launch (Server.expressionsOf content) =
      .ok last ∧ written last.outcomes = lines

section

variable {server : Server} {setting : Server.Setting} {content : List Char} {lines : List Bytes}
  {reply taken : Bytes} {before next : State}

/-- A server that receives a text has its lines. -/
theorem written_of_receive {chunks : List Bytes} {expressions : List String} {last : Batch.State}
    (runs : Runs server setting content lines)
    (arrived : Server.received chunks = Utf8.encode content)
    (read : Server.receive chunks = .ok expressions)
    (ran : Batch.run setting.schedule (server.mostWorkers setting).val
      (server.mostWorkers setting).property setting.launch expressions = .ok last) :
    written last.outcomes = lines := by
  obtain ⟨other, found, rfl⟩ := runs
  rw [Server.receive, arrived, Utf8.decode_encode] at read
  cases read
  rw [ran, Except.ok.injEq] at found
  rw [found]

/-- A server leaves its client alone. -/
theorem ServerMove.client_eq (move : ServerMove server setting content before next) :
    next.client = before.client := by
  cases move <;> rfl

/-- A server that has read its file leaves it alone. -/
theorem ServerMove.file_eq (move : ServerMove server setting content before next)
    (replied : before.server.replied = true) :
    next.server.replied = true ∧ next.file = before.file := by
  cases move with
  | sends _ => exact ⟨rfl, rfl⟩
  | leaves => exact ⟨rfl, rfl⟩
  | _ => cases replied

/-- A server owes the same reply after each of its moves. -/
theorem ServerMove.outlook (move : ServerMove server setting content before next)
    (runs : Runs server setting content lines) (outlook : Outlook lines reply taken before) :
    Outlook lines reply taken next := by
  cases move with
  | opens =>
    obtain ⟨all, none, idle⟩ := outlook
    exact ⟨all, none, idle, rfl⟩
  | receives sent arrived read ran =>
    obtain ⟨all, none, idle, rfl⟩ := outlook
    have same := written_of_receive runs arrived read ran
    refine ⟨?_, none, idle⟩
    rw [all, ← same]
    exact (writeOn_length [] _).symm
  | writes => exact outlook
  | closes => exact outlook
  | reads =>
    obtain ⟨all, rfl, rfl⟩ := outlook
    exact all
  | sends filled =>
    have whole : reply = _ := outlook
    show reply = _
    rw [whole, List.append_assoc]
  | leaves =>
    have whole : reply = _ := outlook
    show reply = _
    rw [whole, List.append_nil]

/-- The places stay behind the lines that were written. -/
theorem ServerMove.placed (move : ServerMove server setting content before next)
    (runs : Runs server setting content lines) (placed : Placed lines before.server) :
    Placed lines next.server := by
  cases move with
  | receives sent arrived read ran =>
    exact ⟨[], (written_of_receive runs arrived read ran).symm, rfl⟩
  | @writes file client flight place line rest =>
    obtain ⟨earlier, parts, behind⟩ := placed
    refine ⟨earlier ++ [line], by rw [parts, List.append_assoc]; rfl, ?_⟩
    rw [List.flatten_append, List.length_append, behind]
    simp
  | _ => trivial

end

/-! ## Before the client empties the file -/

/-- Both before the client empties the file: all lines are owed to it. -/
structure Unopened (lines : List Bytes) (state : State) : Prop where
  /-- The client has not opened the file. -/
  early : state.client = .sending ∨ state.client = .halfClosed
  /-- The lines go behind each other. -/
  placed : Placed lines state.server
  /-- All lines are owed. -/
  outlook : Outlook lines lines.flatten [] state

/-- Both behind the emptying of the file by the client. -/
def State.emptied (state : State) : State :=
  { state with file := [], client := .writing 0 }

/-- What is left of the lines when the client empties the file. Lines that are written already are
lost, unless the file was read back, and zeros stand for them in front of the others. -/
def ServerPhase.left (lines : List Bytes) : ServerPhase → Bytes
  | .writing place rest => if rest.isEmpty then [] else List.replicate place 0 ++ rest.flatten
  | .written => []
  | .waiting | .receiving | .replying _ | .gone => lines.flatten

/-- In an empty file, zeros stand in front of the first of the lines. -/
theorem writeOn_nil (place : Nat) {lines : List Bytes} (filled : ∀ line ∈ lines, line ≠ []) :
    writeOn [] place lines =
      if lines.isEmpty then [] else List.replicate place 0 ++ lines.flatten := by
  cases lines with
  | nil => rfl
  | cons line rest =>
    have tail := writeOn_length (List.replicate place 0 ++ line) rest
    rw [List.length_append, List.length_replicate] at tail
    rw [writeOn, writeAt_nil place (filled line List.mem_cons_self), tail, List.append_assoc]
    rfl

/-! ## Behind that -/

/-- What the file holds behind the emptying. If the reply was read before, the file holds what the
client took; otherwise it holds the whole reply once that is read. -/
def Kept (late : Bool) (reply taken : Bytes) (state : State) : Prop :=
  if late then state.server.replied = true ∧ state.file = taken
  else state.server.replied = true → state.file = reply

/-- Both after the client emptied the file, early or late, with what is owed to it from then on. -/
def After (lines : List Bytes) (late : Bool) (reply : Bytes) (state : State) : Prop :=
  match state.client with
  | .sending | .halfClosed => False
  | .writing place =>
    ∃ taken, place = taken.length ∧ Outlook lines reply taken state ∧ Kept late reply taken state
  | .ended refusal =>
    state.server.replied = true ∧ state.file <+: reply ∧
      (refusal = none ∨ late = false → state.file = reply)

section

variable {server : Server} {setting : Server.Setting} {content : List Char} {lines : List Bytes}
  {late : Bool} {reply taken : Bytes} {before next last : State}

/-- The reply stays in the file. -/
theorem ServerMove.kept (move : ServerMove server setting content before next)
    (outlook : Outlook lines reply taken before) (kept : Kept late reply taken before) :
    Kept late reply taken next := by
  cases late with
  | true =>
    obtain ⟨replied, same⟩ := kept
    obtain ⟨still, unchanged⟩ := move.file_eq replied
    exact ⟨still, unchanged.trans same⟩
  | false =>
    intro replied
    cases move with
    | reads => exact outlook.1.symm
    | sends _ => exact kept rfl
    | leaves => exact kept rfl
    | _ => cases replied

/-- What was owed and kept is owed and kept after a move of the server. -/
theorem ServerMove.after (move : ServerMove server setting content before next)
    (runs : Runs server setting content lines) (after : After lines late reply before) :
    After lines late reply next := by
  rw [After, move.client_eq]
  rw [After] at after
  split at after
  · exact after
  · exact after
  · obtain ⟨taken, place, outlook, kept⟩ := after
    exact ⟨taken, place, move.outlook runs outlook, move.kept outlook kept⟩
  · obtain ⟨replied, part, whole⟩ := after
    obtain ⟨still, unchanged⟩ := move.file_eq replied
    rw [unchanged]
    exact ⟨still, part, whole⟩

/-- Only what was read back is on its way. -/
theorem Outlook.of_flight {file piece rest : Bytes} {phase : ServerPhase} {client : ClientPhase}
    (outlook : Outlook lines reply taken ⟨file, phase, client, piece ++ rest⟩)
    (filled : piece ≠ []) : phase.replied = true ∧ (taken ++ piece) <+: reply ∧
      ∀ (other : Bytes) (place : Nat),
        Outlook lines reply (taken ++ piece) ⟨other, phase, .writing place, rest⟩ := by
  have busy : piece ++ rest ≠ [] := List.append_ne_nil_of_left_ne_nil filled rest
  cases phase with
  | waiting => exact absurd outlook.2.2 busy
  | receiving => exact absurd outlook.2.2.1 busy
  | writing place rest => exact absurd outlook.2.2 busy
  | written => exact absurd outlook.2.2 busy
  | replying unsent =>
    have whole : reply = taken ++ piece ++ (rest ++ unsent) := by
      rw [show reply = _ from outlook]
      simp only [List.append_assoc]
    exact ⟨rfl, ⟨_, whole.symm⟩, fun _ _ => whole⟩
  | gone =>
    have whole : reply = taken ++ piece ++ rest := by
      rw [show reply = _ from outlook]
      simp only [List.append_assoc]
    exact ⟨rfl, ⟨_, whole.symm⟩, fun _ _ => whole⟩

/-- A piece that is written is appended to what the client took, or written over itself. -/
theorem Kept.writeAt {file piece rest : Bytes} {phase : ServerPhase} {client other : ClientPhase}
    {flight : Bytes} (kept : Kept late reply taken ⟨file, phase, client, flight⟩)
    (replied : phase.replied = true) (whole : (taken ++ piece) <+: reply) :
    Kept late reply (taken ++ piece)
      ⟨Sharing.writeAt file taken.length piece, phase, other, rest⟩ := by
  cases late with
  | true =>
    obtain ⟨-, same⟩ := kept
    have same : file = taken := same
    refine ⟨replied, ?_⟩
    show Sharing.writeAt file taken.length piece = taken ++ piece
    rw [same, writeAt_length]
  | false =>
    obtain ⟨back, rfl⟩ := whole
    intro _
    have same : file = taken ++ piece ++ back := kept replied
    show Sharing.writeAt file taken.length piece = taken ++ piece ++ back
    rw [same, List.append_assoc, writeAt_same]

/-- What was owed and kept is owed and kept after a move of the client. -/
theorem ClientMove.after (move : ClientMove before next) (after : After lines late reply before) :
    After lines late reply next := by
  cases move with
  | halfCloses => exact after
  | opens => exact absurd after id
  | takes filled fits text =>
    obtain rfl := Utf8.decode_eq_ok_iff.mp text
    obtain ⟨taken, rfl, outlook, kept⟩ := after
    obtain ⟨replied, part, following⟩ := outlook.of_flight filled
    exact ⟨_, List.length_append.symm, following _ _, kept.writeAt replied part⟩
  | refuses filled fits refused =>
    obtain ⟨taken, rfl, outlook, kept⟩ := after
    obtain ⟨replied, part, -⟩ := outlook.of_flight filled
    cases late with
    | true =>
      obtain ⟨-, same⟩ := kept
      have same : _ = taken := same
      refine ⟨replied, ?_, fun cases => ?_⟩
      · rw [same]
        exact (List.prefix_append taken _).trans part
      · rcases cases with none | early
        · cases none
        · cases early
    | false =>
      have same : _ = reply := kept replied
      exact ⟨replied, same ▸ List.prefix_refl reply, fun _ => same⟩
  | @ends file place =>
    obtain ⟨taken, rfl, outlook, kept⟩ := after
    have whole : reply = taken := (show reply = _ from outlook).trans (List.append_nil taken)
    have same : file = reply := by
      cases late with
      | true => exact (show _ = taken from kept.2).trans whole.symm
      | false => exact kept rfl
    exact ⟨rfl, same ▸ List.prefix_refl reply, fun _ => same⟩

/-- What was owed and kept is owed and kept after every move. -/
theorem Step.after (step : Step server setting content before next)
    (runs : Runs server setting content lines) (after : After lines late reply before) :
    After lines late reply next := by
  cases step with
  | server move => exact move.after runs after
  | client move => exact move.after after

/-- What was owed and kept is owed and kept in every state that follows. -/
theorem Reaches.after (reaches : Reaches server setting content before last)
    (runs : Runs server setting content lines) (after : After lines late reply before) :
    After lines late reply last := by
  induction reaches with
  | refl => exact after
  | tail _ step ih => exact step.after runs ih

/-! ## The moment -/

/-- The emptying of the file settles what is owed. -/
theorem Unopened.emptied (unopened : Unopened lines before) (filled : ∀ line ∈ lines, line ≠ []) :
    After lines before.server.replied (before.server.left lines) before.emptied := by
  obtain ⟨file, phase, client, flight⟩ := before
  obtain ⟨-, placed, outlook⟩ := unopened
  refine ⟨[], rfl, ?_⟩
  cases phase with
  | waiting => exact ⟨⟨rfl, rfl, outlook.2.2⟩, nofun⟩
  | receiving => exact ⟨⟨rfl, rfl, outlook.2.2.1, rfl⟩, nofun⟩
  | writing place rest =>
    -- The next line goes to its old place, behind a gap.
    obtain ⟨earlier, parts, -⟩ := placed
    have others : ∀ line ∈ rest, line ≠ [] := fun line member =>
      filled line (parts ▸ List.mem_append_right earlier member)
    exact ⟨⟨(writeOn_nil place others).symm, rfl, outlook.2.2⟩, nofun⟩
  | written => exact ⟨⟨rfl, rfl, outlook.2.2⟩, nofun⟩
  | replying unsent => exact ⟨outlook, rfl, rfl⟩
  | gone => exact ⟨outlook, rfl, rfl⟩

/-- Before the file is emptied by the client, every move but that leaves it so. -/
theorem Step.unopened (step : Step server setting content before next)
    (runs : Runs server setting content lines) (unopened : Unopened lines before) :
    Unopened lines next ∨ before.client = .halfClosed ∧ next = before.emptied := by
  obtain ⟨early, placed, outlook⟩ := unopened
  cases step with
  | server move =>
    refine .inl ⟨?_, move.placed runs placed, move.outlook runs outlook⟩
    rw [move.client_eq]
    exact early
  | client move =>
    cases move with
    | halfCloses => exact .inl ⟨.inr rfl, placed, outlook⟩
    | opens => exact .inr ⟨rfl, rfl⟩
    | _ => exact early.elim nofun nofun

/-- At the start, all lines are owed. -/
theorem unopened_start (lines : List Bytes) (file : Bytes) : Unopened lines (start file) :=
  ⟨.inl rfl, trivial, rfl, rfl, rfl⟩

/-- A run stands before the moment at which the client empties the file, or it passed it and what is
left was settled there. -/
theorem Reaches.cases {file : Bytes} (reaches : Reaches server setting content (start file) last)
    (runs : Runs server setting content lines) (filled : ∀ line ∈ lines, line ≠ []) :
    Unopened lines last ∨ ∃ before, Reaches server setting content (start file) before ∧
      before.client = .halfClosed ∧ Unopened lines before ∧
      Reaches server setting content before.emptied last ∧
      After lines before.server.replied (before.server.left lines) last := by
  -- The induction is on the moves made so far: one of them is the moment, or none is yet.
  induction reaches with
  | refl => exact .inl (unopened_start lines file)
  | tail reached step ih =>
    rcases ih with unopened | ⟨before, first, halfClosed, unopened, second, after⟩
    · rcases step.unopened runs unopened with still | ⟨halfClosed, rfl⟩
      · exact .inl still
      · exact .inr ⟨_, reached, halfClosed, unopened, .refl, unopened.emptied filled⟩
    · exact .inr ⟨before, first, halfClosed, unopened, second.tail step, step.after runs after⟩

end

end Reckoner.Sharing
