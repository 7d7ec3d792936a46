import Reckoner.Batch.Client
import Reckoner.Proofs.Files.Folder
import Reckoner.Proofs.Text.Utf8

/-!
# The reply as it is written down

A client takes every piece of a reply for a text of its own (`send_of_writeDown`). So the reply is
written down as it was sent exactly when no piece ends inside a character; a reply that is cut
inside one is lost from that piece on, although it is a text as a whole.
-/

namespace Reckoner

open Text

/-! ## Deliveries -/

/-- A chunk that fits arrives in one piece. -/
theorem Exchange.cut_of_length_le {size : Nat} {chunk : Bytes} (filled : chunk ≠ [])
    (fits : chunk.length ≤ size) : cut size chunk = [chunk] := by
  have positive : 0 < chunk.length := List.length_pos_iff.mpr filled
  have one : (chunk.length + size - 1) / size = 1 :=
    Nat.div_eq_of_lt_le (by omega) (by omega)
  rw [cut, one]
  simp [List.take_of_length_le fits]

/-- The first pieces of bytes are the bytes that they have room for. -/
theorem Exchange.flatten_pieces (size count : Nat) (bytes : Bytes) :
    ((List.range count).map fun index => (bytes.drop (index * size)).take size).flatten =
      bytes.take (count * size) := by
  induction count with
  | zero => rw [Nat.zero_mul, List.take_zero, List.range_zero, List.map_nil, List.flatten_nil]
  | succ count ih =>
    rw [List.range_succ, List.map_append, List.flatten_append, ih, Nat.succ_mul, List.take_add,
      List.map_singleton, List.flatten_singleton]

/-- Bytes that are cut into pieces are in the pieces. -/
theorem Exchange.flatten_cut {size : Nat} (positive : 0 < size) (bytes : Bytes) :
    (cut size bytes).flatten = bytes := by
  have room : bytes.length ≤ (bytes.length + size - 1) / size * size := by
    have parts := Nat.div_add_mod' (bytes.length + size - 1) size
    have remainder := Nat.mod_lt (bytes.length + size - 1) positive
    omega
  rw [cut, flatten_pieces, List.take_of_length_le room]

/-- No piece is empty or longer than the size. -/
theorem Exchange.sized_cut {size : Nat} (positive : 0 < size) (bytes : Bytes) :
    ∀ piece ∈ cut size bytes, piece ≠ [] ∧ piece.length ≤ size := by
  intro piece member
  obtain ⟨index, within, rfl⟩ := List.mem_map.mp member
  rw [List.mem_range, Nat.lt_div_iff_mul_lt positive] at within
  refine ⟨List.ne_nil_of_length_pos ?_, List.length_take_le size _⟩
  rw [List.length_take, List.length_drop]
  omega

/-- No piece that arrives is empty or too long. -/
theorem Exchange.sized_deliveries (chunks : List Bytes) :
    ∀ piece ∈ deliveries chunks, piece ≠ [] ∧ piece.length ≤ pieceSize := by
  intro piece member
  obtain ⟨chunk, -, inside⟩ := List.mem_flatMap.mp member
  exact sized_cut (by decide) chunk piece inside

/-- What arrives of chunks is what they hold up to the first empty one. -/
theorem Exchange.flatten_deliveries (chunks : List Bytes) :
    (deliveries chunks).flatten = (chunks.takeWhile fun chunk => !chunk.isEmpty).flatten := by
  rw [deliveries]
  induction chunks.takeWhile fun chunk => !chunk.isEmpty with
  | nil => rfl
  | cons first rest ih =>
    rw [List.flatMap_cons, List.flatten_append, ih, flatten_cut (by decide), List.flatten_cons]

/-- Chunks that fit arrive as they were sent. -/
theorem Exchange.deliveries_of_length_le {chunks : List Bytes}
    (sized : ∀ chunk ∈ chunks, chunk ≠ [] ∧ chunk.length ≤ pieceSize) :
    deliveries chunks = chunks := by
  induction chunks with
  | nil => rfl
  | cons first rest ih =>
    obtain ⟨filled, fits⟩ := sized first List.mem_cons_self
    have tail := ih fun chunk member => sized chunk (List.mem_cons_of_mem first member)
    rw [deliveries] at tail ⊢
    rw [List.takeWhile_cons_of_pos (by simpa using filled), List.flatMap_cons,
      cut_of_length_le filled fits, tail]
    rfl

namespace Client

/-! ## Pieces -/

/-- Encoded texts are written down as they are. -/
theorem writeDown_texts (texts : List (List Char)) (rest : List Bytes) :
    writeDown (texts.map Utf8.encode ++ rest) =
      ((texts.map Utf8.encode).flatten ++ (writeDown rest).1, (writeDown rest).2) := by
  induction texts with
  | nil => rfl
  | cons first others ih =>
    rw [List.map_cons, List.cons_append, writeDown, Utf8.decode_encode]
    simp only [ih, List.flatten_cons, List.append_assoc]

/-- A piece that is no text ends what is written down. -/
theorem writeDown_refused {piece : Bytes} {refusal : Utf8.DecodeError}
    (refused : Utf8.decode piece = .error refusal) (rest : List Bytes) :
    writeDown (piece :: rest) = ([], some refusal) := by
  rw [writeDown, refused]

/-- Pieces are texts, or there is a first one that is none. -/
theorem texts_or_refused (pieces : List Bytes) :
    (∃ texts : List (List Char), pieces = texts.map Utf8.encode) ∨
      ∃ (texts : List (List Char)) (piece : Bytes) (later : List Bytes)
        (refusal : Utf8.DecodeError), pieces = texts.map Utf8.encode ++ piece :: later ∧
          Utf8.decode piece = .error refusal := by
  induction pieces with
  | nil => exact .inl ⟨[], rfl⟩
  | cons piece rest ih =>
    cases read : Utf8.decode piece with
    | error refusal => exact .inr ⟨[], piece, rest, refusal, rfl, read⟩
    | ok chars =>
      rw [Utf8.decode_eq_ok_iff] at read
      rcases ih with ⟨texts, rfl⟩ | ⟨texts, other, later, refusal, rfl, refused⟩
      · exact .inl ⟨chars :: texts, by rw [read, List.map_cons]⟩
      · exact .inr ⟨chars :: texts, other, later, refusal, by rw [read]; rfl, refused⟩

/-- Pieces of which none is refused are written down as they are. -/
theorem writeDown_of_none {pieces : List Bytes} (accepted : (writeDown pieces).2 = none) :
    (writeDown pieces).1 = pieces.flatten := by
  rcases texts_or_refused pieces with ⟨texts, rfl⟩ | ⟨texts, piece, later, refusal, rfl, refused⟩
  · have all := writeDown_texts texts []
    rw [List.append_nil] at all
    rw [all, writeDown, List.append_nil]
  · rw [writeDown_texts, writeDown_refused refused] at accepted
    cases accepted

/-- Pieces of which one is no text are no texts. -/
theorem not_texts_of_refused {pieces : List Bytes} {piece : Bytes} {refusal : Utf8.DecodeError}
    (member : piece ∈ pieces) (refused : Utf8.decode piece = .error refusal) :
    ¬ ∃ texts : List (List Char), pieces = texts.map Utf8.encode := by
  rintro ⟨texts, rfl⟩
  obtain ⟨chars, -, encoded⟩ := List.mem_map.mp member
  rw [← encoded, Utf8.decode_encode] at refused
  cases refused

/-! ## An exchange -/

section

variable (client : Client) {peer : Peer} {folder left : Folder} {input output : Path}
  {content : List Char} {chunks : List Bytes}

/-- What an exchange leaves is what was written down of the pieces that arrive, and their
refusal. -/
theorem send_of_deliveries {written : Bytes} {refusal : Option Utf8.DecodeError} {last : Folder}
    (loaded : Input.load folder input = .ok content)
    (answered : peer folder (Utf8.encode content) = (left, chunks))
    (noted : writeDown (Exchange.deliveries chunks) = (written, refusal))
    (kept : left.write output written = .ok last) :
    (client.send peer folder input output).raised = refusal.map .undecodable ∧
      (client.send peer folder input output).folder.read output = .ok (.file written) := by
  have stored := Folder.read_of_write kept
  rw [send, loaded]
  simp only [answered, noted, kept]
  cases refusal with
  | none => exact ⟨rfl, stored⟩
  | some error => exact ⟨rfl, stored⟩

/-- What an exchange leaves of chunks that fit is what was written down of them. -/
theorem send_of_writeDown {written : Bytes} {refusal : Option Utf8.DecodeError} {last : Folder}
    (loaded : Input.load folder input = .ok content)
    (answered : peer folder (Utf8.encode content) = (left, chunks))
    (sized : ∀ chunk ∈ chunks, chunk ≠ [] ∧ chunk.length ≤ Exchange.pieceSize)
    (noted : writeDown chunks = (written, refusal)) (kept : left.write output written = .ok last) :
    (client.send peer folder input output).raised = refusal.map .undecodable ∧
      (client.send peer folder input output).folder.read output = .ok (.file written) :=
  send_of_deliveries client loaded answered
    ((Exchange.deliveries_of_length_le sized).symm ▸ noted) kept

/-- A reply that arrives in chunks is written down unchanged, and nothing is raised, exactly when
every chunk is a text of its own. Otherwise the first chunk that is none is refused, and the output
holds the chunks in front of it. -/
theorem send_written_iff {reply : List Char} {emptied : Folder}
    (loaded : Input.load folder input = .ok content)
    (answered : peer folder (Utf8.encode content) = (left, chunks))
    (sized : ∀ chunk ∈ chunks, chunk ≠ [] ∧ chunk.length ≤ Exchange.pieceSize)
    (whole : chunks.flatten = Utf8.encode reply)
    (writable : left.write output [] = .ok emptied) :
    ((client.send peer folder input output).raised = none ↔
      ∃ texts : List (List Char), chunks = texts.map Utf8.encode) ∧
    ((client.send peer folder input output).raised = none →
      (client.send peer folder input output).folder.read output =
        .ok (.file (Utf8.encode reply))) ∧
    ∀ error, (client.send peer folder input output).raised = some error →
      ∃ (texts : List (List Char)) (piece : Bytes) (later : List Bytes)
        (refusal : Utf8.DecodeError), chunks = texts.map Utf8.encode ++ piece :: later ∧
          Utf8.decode piece = .error refusal ∧ error = .undecodable refusal ∧
          (client.send peer folder input output).folder.read output =
            .ok (.file (texts.map Utf8.encode).flatten) := by
  rcases texts_or_refused chunks with ⟨texts, cut⟩ | ⟨texts, piece, later, refusal, cut, refused⟩
  · have noted : writeDown chunks = (chunks.flatten, none) := by
      have all := writeDown_texts texts []
      rwa [List.append_nil, ← cut, writeDown, List.append_nil] at all
    obtain ⟨last, kept⟩ := Folder.write_other writable chunks.flatten
    obtain ⟨raised, stored⟩ := send_of_writeDown client loaded answered sized noted kept
    rw [whole] at stored
    rw [raised]
    refine ⟨iff_of_true rfl ⟨texts, cut⟩, fun _ => stored, fun error failed => ?_⟩
    cases failed
  · have noted : writeDown chunks = ((texts.map Utf8.encode).flatten, some refusal) := by
      rw [cut, writeDown_texts, writeDown_refused refused, List.append_nil]
    obtain ⟨last, kept⟩ := Folder.write_other writable (texts.map Utf8.encode).flatten
    obtain ⟨raised, stored⟩ := send_of_writeDown client loaded answered sized noted kept
    have broken : ¬ ∃ others : List (List Char), chunks = others.map Utf8.encode :=
      not_texts_of_refused (by simp [cut]) refused
    rw [raised]
    refine ⟨iff_of_false (by simp) broken, fun fine => by simp at fine, fun error failed => ?_⟩
    cases failed
    exact ⟨texts, piece, later, refusal, cut, refused, rfl, stored⟩

end

/-! ## A cut inside a character -/

/-- A reply that echoes a character of two bytes. -/
def echo : List Char := "é -> ERROR: unexpected character 'é' at position 0\n".toList

/-- The reply, cut between the two bytes. -/
def echoChunks : List Bytes := [(Utf8.encode echo).take 1, (Utf8.encode echo).drop 1]

/-- The server that sends the reply so cut. -/
def echoPeer : Peer := fun folder _ => (folder, echoChunks)

/-- The file of expressions. -/
def echoInput : Path := ⟨.here, ["in.txt".toList]⟩

/-- The file of the results. -/
def echoOutput : Path := ⟨.here, ["out.txt".toList]⟩

/-- The files of the client. -/
def echoFolder : Folder := ⟨[(echoInput.parts, .file (Utf8.encode ['é', '\n']))]⟩

/-- The exchange in which the reply arrives so cut. -/
def echoRun : Run :=
  Client.send ⟨⟨.loopback, Endpoint.defaultPort⟩⟩ echoPeer echoFolder echoInput echoOutput

/-- The expressions are read. -/
theorem load_echo : Input.load echoFolder echoInput = .ok ['é', '\n'] :=
  eq_ok_of_toOption (by decide +kernel)

/-- The chunks are neither empty nor too long. -/
theorem echo_sized : ∀ chunk ∈ echoChunks, chunk ≠ [] ∧ chunk.length ≤ Exchange.pieceSize := by
  intro chunk member
  have lengths : echoChunks.map List.length = [1, 52] := by decide +kernel
  have length : chunk.length ∈ [1, 52] := lengths ▸ List.mem_map_of_mem member
  have filled : chunk.length ≠ 0 ∧ chunk.length ≤ 4096 := by
    simp only [List.mem_cons, List.not_mem_nil, or_false] at length
    omega
  exact ⟨fun empty => filled.1 (by rw [empty]; rfl), filled.2⟩

/-- The chunks make the reply. -/
theorem echo_whole : echoChunks.flatten = Utf8.encode echo := by
  decide +kernel

/-- The file of the results can be written. -/
theorem echo_writable : ∃ last, echoFolder.write echoOutput [] = .ok last := by
  have written : (echoFolder.write echoOutput []).toOption.isSome := by decide +kernel
  obtain ⟨last, kept⟩ := Option.isSome_iff_exists.mp written
  exact ⟨last, eq_ok_of_toOption kept⟩

/-- The first chunk is no text. -/
theorem decode_echo_first :
    Utf8.decode ((Utf8.encode echo).take 1) = .error ⟨0, 0xc3, 1, .endOfData⟩ := by
  have first : (Utf8.encode echo).take 1 = [0xc3] := by decide +kernel
  rw [first]
  rfl

/-- Of a reply so cut nothing is written down, and that is what was to be expected of it. -/
theorem send_written_iff_echo :
    echoRun.raised ≠ none ∧ ¬ ∃ texts : List (List Char), echoChunks = texts.map Utf8.encode := by
  obtain ⟨last, kept⟩ := echo_writable
  obtain ⟨unchanged, -, -⟩ := send_written_iff ⟨⟨.loopback, Endpoint.defaultPort⟩⟩ load_echo
    (show echoPeer echoFolder _ = (echoFolder, echoChunks) from rfl) echo_sized echo_whole kept
  have broken : ¬ ∃ texts : List (List Char), echoChunks = texts.map Utf8.encode :=
    not_texts_of_refused List.mem_cons_self decode_echo_first
  exact ⟨fun fine => broken (unchanged.mp fine), broken⟩

/-- A reply that is a text is refused, and nothing of it is written down, when it is cut inside its
first character. -/
theorem send_cut_inside_character :
    echoChunks.flatten = Utf8.encode echo ∧
      (∀ chunk ∈ echoChunks, chunk ≠ [] ∧ chunk.length ≤ Exchange.pieceSize) ∧
      echoRun.raised = some (.undecodable ⟨0, 0xc3, 1, .endOfData⟩) ∧
      echoRun.folder.read echoOutput = .ok (.file []) := by
  obtain ⟨last, kept⟩ := echo_writable
  obtain ⟨raised, stored⟩ := send_of_writeDown ⟨⟨.loopback, Endpoint.defaultPort⟩⟩ load_echo
    (show echoPeer echoFolder _ = (echoFolder, echoChunks) from rfl) echo_sized
    (writeDown_refused decode_echo_first _) kept
  exact ⟨echo_whole, echo_sized, raised, stored⟩

end Client

end Reckoner
