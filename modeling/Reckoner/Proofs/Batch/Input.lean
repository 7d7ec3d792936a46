import Reckoner.Batch.Client
import Reckoner.Proofs.Batch.Reception
import Reckoner.Proofs.Files.Archive

/-!
# Plain and packed batches

What is read of an archive is what its format finds under the first name of a text file
(`Input.readArchive_found`), which is not always the first text file. Where there is one such name
only, it makes no difference whether a batch is in a text file or in an archive
(`Client.send_packed`): the bytes that are sent may differ in their newlines, but not the
expressions that a server receives.
-/

namespace Reckoner

open Text

namespace Input

/-- The text of what was read of an archive. -/
def unpacked : Except Archive.ReadError Bytes → Except InputError (List Char)
  | .ok bytes => decode bytes
  | .error error => .error (.archive error)

section

variable {folder : Folder} {path : Path} {format : Archive.Format} {members : List Archive.Member}

/-- The text of an archive is that of what its format reads of the members. -/
theorem readArchive_of_archive
    (suffixed : Archive.Format.ofSuffix? (Archive.suffix path) = some format)
    (stored : folder.read path = .ok (.archive format members)) :
    readArchive folder path = unpacked (Archive.read format members) := by
  rw [readArchive, suffixed]
  simp only [stored, if_true]
  cases Archive.read format members with
  | ok bytes => rfl
  | error error => rfl

/-- Only what was not read of an archive is refused as such. -/
theorem unpacked_eq_archive_iff {result : Except Archive.ReadError Bytes}
    {error : Archive.ReadError} :
    unpacked result = .error (.archive error) ↔ result = .error error := by
  cases result with
  | ok bytes =>
    rw [unpacked, decode]
    cases Utf8.decode bytes <;> simp
  | error other => simp [unpacked]

/-- An archive of regular files and directories is refused for having no text file exactly when none
of its members is listed under the name of one. Otherwise the first such name is looked up. One
format finds the member that it picked, which it cannot read if it is a directory; the others find
the last file of the name. What is read is what the rule gives, which is the same for all formats,
exactly when what is found has the content of what was picked. -/
theorem readArchive_found
    (suffixed : Archive.Format.ofSuffix? (Archive.suffix path) = some format)
    (stored : folder.read path = .ok (.archive format members)) (plain : Archive.Plain members) :
    (readArchive folder path = .error (.archive (.noText format)) ↔ format.named members = []) ∧
    (∀ first rest, format.named members = first :: rest →
      (format = .sevenZip → first.content = .directory →
        readArchive folder path = .error (.archive (.unreadable first.name))) ∧
      (format = .sevenZip → ∀ bytes, first.content = .file bytes →
        readArchive folder path = decode bytes) ∧
      (format ≠ .sevenZip → ∃ front last back bytes, first :: rest = front ++ last :: back ∧
        last.name = first.name ∧ (∀ later ∈ back, later.name ≠ first.name) ∧
        last.content = .file bytes ∧ readArchive folder path = decode bytes)) ∧
    readArchive folder path = unpacked (Archive.read format members) ∧
    (Archive.read format members = format.due members ↔ format.Straight members) ∧
    ((format = .sevenZip → ∀ member ∈ members, (Path.ofText member.name).text = member.name) →
      Archive.firstText (format.listing members) = Archive.firstText members) := by
  rw [readArchive_of_archive suffixed stored]
  refine ⟨?_, fun first rest named => ⟨?_, ?_, ?_⟩, rfl, Archive.read_eq_due_iff plain,
    Archive.firstText_listing⟩
  · rw [unpacked_eq_archive_iff, Archive.read_eq_noText_iff plain]
  · rintro rfl directory
    rw [Archive.read_of_directory named (Archive.lookUp?_sevenZip first rest) directory]
    rfl
  · rintro rfl bytes file
    rw [Archive.read_of_file named (Archive.lookUp?_sevenZip first rest) file]
    rfl
  · intro apart
    obtain ⟨last, bytes, looked, file, answer⟩ := Archive.read_of_ne plain apart named
    rw [Archive.lookUp?_of_ne apart] at looked
    obtain ⟨same, front, back, parted, others⟩ := Archive.find?_reverse_eq_some_iff.mp looked
    rw [answer]
    exact ⟨front, last, back, bytes, parted, same, others, file, rfl⟩

end

/-- A directory with the name of a text file, and two files of one name. -/
def repeatedMembers : List Archive.Member :=
  [⟨"notes.txt", .directory⟩, ⟨"ops.txt", .file (Utf8.encode ['1'])⟩,
    ⟨"ops.txt", .file (Utf8.encode ['2'])⟩]

/-- The archive of a format. -/
def repeatedInput (format : Archive.Format) : Path := ⟨.here, ["ops".toList ++ format.suffix]⟩

/-- A folder with the members in an archive of a format. -/
def repeatedFolder (format : Archive.Format) : Folder :=
  ⟨[((repeatedInput format).parts, .archive format repeatedMembers)]⟩

/-- The archive is read as it is stored. -/
theorem read_repeatedFolder (format : Archive.Format) :
    (repeatedFolder format).read (repeatedInput format) =
      .ok (.archive format repeatedMembers) := by
  cases format <;> rfl

/-- The members are regular files and directories. -/
theorem plain_repeatedMembers : Archive.Plain repeatedMembers := by
  simp [Archive.Plain, repeatedMembers]

/-- Of two files of one name in an archive the last is read, which is not what the rule gives. -/
theorem readArchive_found_repeated :
    Archive.Format.ofSuffix? (Archive.suffix (repeatedInput .zip)) = some .zip ∧
      (repeatedFolder .zip).read (repeatedInput .zip) = .ok (.archive .zip repeatedMembers) ∧
      Archive.Plain repeatedMembers ∧
      readArchive (repeatedFolder .zip) (repeatedInput .zip) = .ok ['2'] ∧
      ¬ Archive.Format.Straight .zip repeatedMembers := by
  have suffixed : Archive.Format.ofSuffix? (Archive.suffix (repeatedInput .zip)) = some .zip := by
    decide +kernel
  have stored := read_repeatedFolder .zip
  obtain ⟨-, -, read, straight, -⟩ := readArchive_found suffixed stored plain_repeatedMembers
  have found : Archive.read .zip repeatedMembers = .ok (Utf8.encode ['2']) :=
    eq_ok_of_toOption (by decide +kernel)
  have due : Archive.Format.due .zip repeatedMembers = .ok (Utf8.encode ['1']) :=
    eq_ok_of_toOption (by decide +kernel)
  refine ⟨suffixed, stored, plain_repeatedMembers, ?_, ?_⟩
  · rw [read, found]
    rfl
  · rw [← straight, found, due]
    intro same
    cases same

/-- The first text file of the members is the first of its name. No format reads it: two read the
last of its name, and one cannot read the directory in front. -/
theorem readArchive_repeated :
    Archive.Plain repeatedMembers ∧
      Archive.firstText repeatedMembers = some (Utf8.encode ['1']) ∧
      readArchive (repeatedFolder .zip) (repeatedInput .zip) = .ok ['2'] ∧
      readArchive (repeatedFolder .tarXz) (repeatedInput .tarXz) = .ok ['2'] ∧
      readArchive (repeatedFolder .sevenZip) (repeatedInput .sevenZip) =
        .error (.archive (.unreadable "notes.txt")) := by
  have refused : Archive.read .sevenZip repeatedMembers = .error (.unreadable "notes.txt") := rfl
  refine ⟨plain_repeatedMembers, by decide +kernel, eq_ok_of_toOption (by decide +kernel),
    eq_ok_of_toOption (by decide +kernel), ?_⟩
  rw [readArchive_of_archive (by decide +kernel) (read_repeatedFolder .sevenZip), refused]
  rfl

/-! ## Texts in files and in archives -/

section

variable {folder : Folder} {path : Path} {format : Archive.Format} {members : List Archive.Member}
  {name : String} {bytes : Bytes}

/-- The text of a text file is that of its bytes, with line feeds for newlines. -/
theorem load_text (suffixed : path.suffix = Archive.textSuffix)
    (stored : folder.read path = .ok (.file bytes)) :
    load folder path = (decode bytes).map unifyNewlines := by
  rw [load, if_pos suffixed, readText, stored]

/-- The text of an archive with one text file is that of the bytes of this file. -/
theorem load_packed (suffixed : Archive.Format.ofSuffix? (Archive.suffix path) = some format)
    (stored : folder.read path = .ok (.archive format members))
    (only : format.named members = [⟨name, .file bytes⟩]) : load folder path = decode bytes := by
  have found : format.lookUp? name [⟨name, .file bytes⟩] = some ⟨name, .file bytes⟩ := by
    cases format <;> simp [Archive.Format.lookUp?]
  rw [load, if_neg (Archive.suffix_ne_textSuffix suffixed), readArchive_of_archive suffixed stored,
    Archive.read_of_file only found rfl]
  rfl

end

end Input

namespace Client

/-- The bytes that an exchange sent. -/
def Run.outgoing (run : Run) : List Bytes :=
  run.calls.filterMap fun call =>
    match call with
    | .sent bytes => some bytes
    | _ => none

section

variable (client : Client) (peer : Peer) {folder : Folder} {input : Path} (output : Path)

/-- An exchange sends the text of the input, whatever is answered. -/
theorem outgoing_send {content : List Char} (loaded : Input.load folder input = .ok content) :
    (client.send peer folder input output).outgoing = [Utf8.encode content] := by
  rw [send, loaded]
  simp only
  split
  · rfl
  · split
    · rfl
    · rfl

/-- An input without a text ends an exchange before anything is opened. -/
theorem send_of_error {error : InputError} (refused : Input.load folder input = .error error) :
    client.send peer folder input output = ⟨[], folder, [], some error⟩ := by
  rw [send, refused]

end

/-- A batch that is text is sent with line feeds for newlines from a text file and unchanged from an
archive with no other text file, and however either is cut on its way, the same expressions are
received. A batch that is no text is refused with the same error in both, and no socket is
opened. -/
theorem send_packed {client other : Client} {peer reader : Peer} {folder archives : Folder}
    {input packed output results : Path} {format : Archive.Format} {members : List Archive.Member}
    {name : String} {bytes : Bytes} (plain : input.suffix = Archive.textSuffix)
    (written : folder.read input = .ok (.file bytes))
    (suffixed : Archive.Format.ofSuffix? (Archive.suffix packed) = some format)
    (stored : archives.read packed = .ok (.archive format members))
    (only : format.named members = [⟨name, .file bytes⟩]) :
    (∀ content, bytes = Utf8.encode content →
      (client.send peer folder input output).outgoing = [Utf8.encode (unifyNewlines content)] ∧
      (other.send reader archives packed results).outgoing = [bytes] ∧
      ∀ chunks : List Bytes, (∀ chunk ∈ chunks, chunk ≠ []) →
        chunks.flatten = Utf8.encode (unifyNewlines content) ∨ chunks.flatten = bytes →
          Server.receive chunks = .ok (Server.expressionsOf content)) ∧
    ((∀ content, bytes ≠ Utf8.encode content) →
      ∃ error, Utf8.decode bytes = .error error ∧
        Input.load folder input = .error (.undecodable error) ∧
        Input.load archives packed = .error (.undecodable error) ∧
        client.send peer folder input output = ⟨[], folder, [], some (.undecodable error)⟩ ∧
        other.send reader archives packed results =
          ⟨[], archives, [], some (.undecodable error)⟩) := by
  have loaded := Input.load_text plain written
  have unpacked := Input.load_packed suffixed stored only
  constructor
  · rintro content rfl
    rw [Input.decode, Utf8.decode_encode] at loaded unpacked
    refine ⟨outgoing_send client peer output loaded,
      outgoing_send other reader results unpacked, ?_⟩
    rintro chunks filled (unified | unchanged)
    · rw [← Server.received_of_filled filled] at unified
      rw [Server.receive_of_received unified, Server.expressionsOf_unifyNewlines]
    · rw [← Server.received_of_filled filled] at unchanged
      exact Server.receive_of_received unchanged
  · intro noText
    cases decoded : Utf8.decode bytes with
    | ok content => exact absurd (Utf8.decode_eq_ok_iff.mp decoded) (noText content)
    | error error =>
      rw [Input.decode, decoded] at loaded unpacked
      exact ⟨error, rfl, loaded, unpacked, send_of_error client peer output loaded,
        send_of_error other reader results unpacked⟩

/-- A text file. -/
def mixedInput : Path := ⟨.here, ["in.txt".toList]⟩

/-- An archive. -/
def mixedArchive : Path := ⟨.here, ["in.tar.xz".toList]⟩

/-- The members of the archive: a directory with the name of a text file, and a file with bytes. -/
def mixedMembers (bytes : Bytes) : List Archive.Member :=
  [⟨"old.txt", .directory⟩, ⟨"in.txt", .file bytes⟩]

/-- A folder with the bytes in the text file and in the archive. -/
def mixedFolder (bytes : Bytes) : Folder :=
  ⟨[(mixedInput.parts, .file bytes), (mixedArchive.parts, .archive .tarXz (mixedMembers bytes))]⟩

/-- Four expressions with different newlines behind them. -/
def mixedContent : List Char := "1\r2\n\r3\r\n\r\r\u2028 4".toList

/-- The other end of an exchange that answers nothing. -/
def mixedPeer : Peer := fun folder _ => (folder, [])

/-- The exchange over a path in a folder with bytes. -/
def mixedRun (bytes : Bytes) (input : Path) : Run :=
  Client.send ⟨⟨.loopback, Endpoint.defaultPort⟩⟩ mixedPeer (mixedFolder bytes) input
    ⟨.here, ["out.txt".toList]⟩

/-- The expressions with different newlines are sent in different bytes from the file and from the
archive, and received alike; a byte that is no character is refused alike, with no socket opened. -/
theorem send_packed_mixed :
    mixedInput.suffix = Archive.textSuffix ∧
      Archive.Format.ofSuffix? (Archive.suffix mixedArchive) = some .tarXz ∧
      (∀ bytes, (mixedFolder bytes).read mixedInput = .ok (.file bytes) ∧
        (mixedFolder bytes).read mixedArchive = .ok (.archive .tarXz (mixedMembers bytes)) ∧
        Archive.Format.named .tarXz (mixedMembers bytes) = [⟨"in.txt", .file bytes⟩]) ∧
      (mixedRun (Utf8.encode mixedContent) mixedInput).outgoing =
        [Utf8.encode "1\n2\n\n3\n\n\n\u2028 4".toList] ∧
      (mixedRun (Utf8.encode mixedContent) mixedArchive).outgoing = [Utf8.encode mixedContent] ∧
      Server.receive [Utf8.encode "1\n2\n\n3\n\n\n\u2028 4".toList] = .ok ["1", "2", "3", "4"] ∧
      Server.receive [Utf8.encode mixedContent] = .ok ["1", "2", "3", "4"] ∧
      (mixedRun [0x31, 0xff] mixedInput).calls = [] ∧
      (mixedRun [0x31, 0xff] mixedArchive).calls = [] := by
  have plain : mixedInput.suffix = Archive.textSuffix := by decide +kernel
  have suffixed : Archive.Format.ofSuffix? (Archive.suffix mixedArchive) = some .tarXz := by
    decide +kernel
  have written (bytes : Bytes) : (mixedFolder bytes).read mixedInput = .ok (.file bytes) := rfl
  have stored (bytes : Bytes) :
      (mixedFolder bytes).read mixedArchive = .ok (.archive .tarXz (mixedMembers bytes)) := rfl
  have only (bytes : Bytes) :
      Archive.Format.named .tarXz (mixedMembers bytes) = [⟨"in.txt", .file bytes⟩] := by
    have text : Archive.isText "in.txt" = true := by decide +kernel
    simp [Archive.Format.named, Archive.Format.listing, mixedMembers, Archive.Content.isFile, text]
  have unified : unifyNewlines mixedContent = "1\n2\n\n3\n\n\n\u2028 4".toList := by decide +kernel
  have expressions : Server.expressionsOf mixedContent = ["1", "2", "3", "4"] := by decide +kernel
  obtain ⟨texts, -⟩ := send_packed plain (written (Utf8.encode mixedContent)) suffixed (stored _)
    (only _)
  obtain ⟨sent, packed, received⟩ := texts mixedContent rfl
  rw [unified] at sent received
  rw [expressions] at received
  have noText : ∀ content, [0x31, 0xff] ≠ Utf8.encode content := by
    intro content encoded
    have decoded := Utf8.decode_eq_ok_iff.mpr encoded
    cases decoded
  obtain ⟨-, refused⟩ := send_packed plain (written [0x31, 0xff]) suffixed (stored _) (only _)
  obtain ⟨error, -, -, -, first, second⟩ := refused noText
  refine ⟨plain, suffixed, fun bytes => ⟨written bytes, stored bytes, only bytes⟩, sent, packed, ?_,
    ?_, congrArg Run.calls first, congrArg Run.calls second⟩
  · exact received _ (by decide +kernel) (.inl (by simp))
  · exact received _ (by decide +kernel) (.inr (by simp))

end Client

end Reckoner
