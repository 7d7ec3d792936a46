import Reckoner.CommandLine.Run
import Reckoner.Proofs.Files.Folder
import Reckoner.Proofs.Notes.Opening
import Reckoner.Proofs.Settings.Key

/-!
# Notes on the command line

A key that the settings have is one that a vault takes, so nothing later fails for its length
(`key_fits`). A note is sealed unless something is missing, which leaves the files alone; the file
of a sealed note opens to the text, and any other file to what a vault with the key finds in it
(`openNote_sealNote`).
-/

namespace Reckoner

/-- A file that can be read is one. -/
theorem Folder.isFile_of_read {folder : Folder} {path : Path} {entry : Entry}
    (held : folder.read path = .ok entry) : folder.isFile path = .ok true := by
  rw [isFile, held]

/-- The fields of a text are a payload exactly when the text is not blank. -/
theorem Payload.ofFields_text (text : String) :
    (∃ payload, ofFields .text (some text) none none = .ok payload ∧ payload.shown = text) ∧
        (∃ char ∈ text.toList, Text.isBlank char = false) ∨
      (∃ issues, ofFields .text (some text) none none = .error issues) ∧
        ¬ ∃ char ∈ text.toList, Text.isBlank char = false := by
  have worded : NoteKind.text.isComplete (some text) none = true ↔
      ∃ char ∈ text.toList, Text.isBlank char = false := by
    rw [NoteKind.isComplete_iff]
    simp only [NoteKind.Fulfilled, Option.some.injEq, exists_eq_left']
  rw [← worded, ofFields]
  split
  · rename_i complete
    exact .inl ⟨⟨_, rfl, rfl⟩, complete⟩
  · rename_i incomplete
    exact .inr ⟨⟨_, rfl⟩, incomplete⟩

namespace CommandLine

section

variable {settings : Settings} {key : Key} {vault : Vault} {folder : Folder} {path : Path}
  {entry : Entry}

/-! ## Keys -/

/-- The settings' key makes a vault. -/
theorem vaultOf_of_key (found : settings.key = .ok key) : vaultOf settings = .ok ⟨key⟩ := by
  rw [vaultOf, found]
  simp only [Vault.ofBytes_eq_ok key.length_mem]
  rfl

/-- Without a key there is no vault, for the same reason. -/
theorem vaultOf_of_error {error : Settings.KeyError} (missing : settings.key = .error error) :
    vaultOf settings = .error error.message := by
  rw [vaultOf, missing]

/-- Settings with a key seal with the vault of the key. -/
theorem sealNote_of_key (found : settings.key = .ok key) (logger : Log.Logger)
    (surroundings : Surroundings) (text : String) (output : Path) :
    sealNote settings logger surroundings text output =
      sealWith ⟨key⟩ logger surroundings text output := by
  rw [sealNote, vaultOf_of_key found]

/-- Settings with a key open files with the vault of the key. -/
theorem openNote_of_key (found : settings.key = .ok key) (logger : Log.Logger)
    (held : folder.isFile path = .ok true) (report? : Option IssueReport) :
    openNote settings logger folder path report? = openWith ⟨key⟩ logger folder path report? := by
  rw [openNote, held, vaultOf_of_key found]

/-- A vault shows what it finds in a file. -/
theorem openWith_of_unlock (logger : Log.Logger) (held : folder.read path = .ok entry)
    {payload : Payload} (found : vault.unlock entry.bytes = .ok payload)
    (report? : Option IssueReport) :
    openWith vault logger folder path report? = .printed 0 (payload.shown ++ "\n") folder := by
  rw [openWith, held]
  simp only [found]

/-- A file that a vault cannot open is told about in the log alone. -/
theorem openWith_of_error (logger : Log.Logger) (held : folder.read path = .ok entry)
    {error : OpenError} (closed : vault.unlock entry.bytes = .error error)
    (report? : Option IssueReport) :
    openWith vault logger folder path report? =
      ⟨.exit 1, "", none, folder, logger.lines
        [Log.error ("🔐❌ Could not open " ++ path.text ++ ": " ++ error.message report?)]⟩ := by
  rw [openWith, held]
  simp only [closed]

end

/-- The text that writes the bytes of a key gives the key back, with whatever blanks around it and
wherever it comes from. Settings have a key that a vault takes and that sealing and opening use as
it is, or they have none. -/
theorem key_fits :
    (∀ (bytes : Bytes) (front back : List Char) (settings : Settings),
      bytes.length = 16 ∨ bytes.length = 24 ∨ bytes.length = 32 →
      (∀ char ∈ front ++ back, Text.isBlank char = true) →
      let text := String.ofList (front ++ Text.Base64.encode bytes ++ back)
      (settings.keyText? = some text ∨ ∃ environment file,
        Settings.ofSources [("enc_key_b64", .string text)] environment file = .ok settings) →
      ∃ key, settings.key = .ok key ∧ key.bytes = bytes) ∧
    ∀ settings : Settings,
      (∃ error : Settings.KeyError, settings.key = .error error) ∨
      ∃ key, settings.key = .ok key ∧
        (key.bytes.length = 16 ∨ key.bytes.length = 24 ∨ key.bytes.length = 32) ∧
        Key.ofBytes? key.bytes = some key ∧ Vault.ofBytes key.bytes = .ok ⟨key⟩ ∧
        (∀ logger surroundings text output,
          sealNote settings logger surroundings text output =
            sealWith ⟨key⟩ logger surroundings text output) ∧
        ∀ logger (folder : Folder) path report?, folder.isFile path = .ok true →
          openNote settings logger folder path report? =
            openWith ⟨key⟩ logger folder path report? := by
  have listed (bytes : Bytes) : bytes.length ∈ Key.lengths ↔
      bytes.length = 16 ∨ bytes.length = 24 ∨ bytes.length = 32 := by
    simp only [Key.lengths, List.mem_cons, List.not_mem_nil, or_false]
  constructor
  · intro bytes front back settings length blank text source
    have kept : settings.keyText? = some text := by
      rcases source with kept | ⟨environment, file, made⟩
      · exact kept
      · exact Settings.keyText?_of_given made
    refine ⟨⟨bytes, (listed bytes).mpr length⟩, ?_, rfl⟩
    rw [Settings.key_eq_ok_iff]
    refine ⟨text, kept, ?_⟩
    rw [String.toList_ofList, (Text.Base64.strips_encode bytes blank).trim_eq,
      Text.Base64.decode_encode]
  · intro settings
    cases found : settings.key with
    | error error => exact .inl ⟨error, rfl⟩
    | ok key =>
      exact .inr ⟨key, rfl, (listed key.bytes).mp key.length_mem,
        Key.ofBytes?_eq_some_iff.mpr rfl, Vault.ofBytes_eq_ok key.length_mem,
        sealNote_of_key found, fun logger _ _ report? held =>
          openNote_of_key found logger held report?⟩

/-- Settings with a key of sixteen bytes and blanks around it. -/
def noteSettings : Settings :=
  ⟨⟨.loopback, Endpoint.defaultPort⟩, none, "INFO", some " \tAAECAwQFBgcICQoLDA0ODw==\n"⟩

/-- The bytes of the key. -/
def noteKey : Key := ⟨(List.range 16).map UInt8.ofNat, by decide⟩

/-- The key comes back without the blanks. -/
theorem key_fits_noteSettings :
    noteKey.bytes.length = 16 ∧ ∃ key, noteSettings.key = .ok key ∧ key.bytes = noteKey.bytes := by
  have written : noteSettings.keyText? =
      some (String.ofList ([' ', '\t'] ++ Text.Base64.encode noteKey.bytes ++ ['\n'])) := by
    decide +kernel
  have length : noteKey.bytes.length = 16 := by decide
  have blank : ∀ char ∈ [' ', '\t'] ++ ['\n'], Text.isBlank char = true :=
    List.all_eq_true.mp (by decide)
  exact ⟨length, key_fits.1 noteKey.bytes [' ', '\t'] ['\n'] noteSettings (.inl length) blank
    (.inl written)⟩

/-! ## Sealing and opening -/

/-- What a note needs to be sealed into a file. -/
structure Sealable (settings : Settings) (folder : Folder) (text : String) (output : Path) :
    Prop where
  /-- The settings have a key. -/
  keyed : ∃ key, settings.key = .ok key
  /-- The text is not blank. -/
  worded : ∃ char ∈ text.toList, Text.isBlank char = false
  /-- The file can be written. -/
  writable : ∃ bytes after, folder.write output bytes = .ok after

section

variable {settings : Settings} {surroundings : Surroundings} {text : String} {output : Path}

/-- A note that nothing is missing for is sealed: the file holds what the vault of the key
locked. -/
theorem sealNote_of_sealable (ready : Sealable settings surroundings.folder text output)
    (logger : Log.Logger) :
    ∃ key payload after, settings.key = .ok key ∧ payload.shown = text ∧
      surroundings.folder.write output (Vault.lock ⟨key⟩ surroundings.nonce payload) = .ok after ∧
      sealNote settings logger surroundings text output = ⟨.exit 0, "", none, after,
        logger.lines [Log.info ("🔐 Note sealed into " ++ output.text)]⟩ := by
  obtain ⟨⟨key, found⟩, worded, bytes, other, written⟩ := ready
  rcases Payload.ofFields_text text with ⟨⟨payload, passed, shown⟩, -⟩ | ⟨-, blank⟩
  · obtain ⟨after, stored⟩ :=
      Folder.write_other written (Vault.lock ⟨key⟩ surroundings.nonce payload)
    refine ⟨key, payload, after, found, shown, stored, ?_⟩
    rw [sealNote_of_key found, sealWith, passed]
    simp only [stored]
  · exact absurd worded blank

/-- A note that something is missing for is refused or ends with a fault of the file, and the files
are as they were. -/
theorem sealNote_of_not_sealable (missing : ¬ Sealable settings surroundings.folder text output)
    (logger : Log.Logger) :
    (∃ message, sealNote settings logger surroundings text output =
        .refused message surroundings.folder) ∨
      ∃ error, sealNote settings logger surroundings text output =
        .quiet (.fault (.file error)) surroundings.folder := by
  cases found : settings.key with
  | error error =>
    rw [sealNote, vaultOf_of_error found]
    exact .inl ⟨error.message, rfl⟩
  | ok key =>
    rw [sealNote_of_key found, sealWith]
    rcases Payload.ofFields_text text with ⟨⟨payload, passed, -⟩, worded⟩ | ⟨⟨issues, failed⟩, -⟩
    · rw [passed]
      dsimp only
      cases written : surroundings.folder.write output _ with
      | ok after => exact absurd ⟨⟨key, found⟩, worded, _, after, written⟩ missing
      | error error =>
        -- A name that holds the null character is refused; every other fault is not caught.
        cases error with
        | nullCharacter => exact .inl ⟨_, rfl⟩
        | notFound path => exact .inr ⟨_, rfl⟩
        | isDirectory path => exact .inr ⟨_, rfl⟩
        | notDirectory path => exact .inr ⟨_, rfl⟩
        | tooLong path => exact .inr ⟨_, rfl⟩
    · rw [failed]
      exact .inl ⟨_, rfl⟩

end

/-- A note is sealed when nothing is missing, and the file then opens to exactly the text. Otherwise
the run is refused or ends with a fault, and the files are as they were. Settings with a key open a
file of any bytes exactly when their vault does; what keeps the vault from it is told in the log
alone, with the report of what is wrong with the plaintext. -/
theorem openNote_sealNote (settings : Settings) (logger : Log.Logger)
    (surroundings : Surroundings) (text : String) (output : Path) :
    (Sealable settings surroundings.folder text output →
      ∃ bytes after, surroundings.folder.write output bytes = .ok after ∧
        sealNote settings logger surroundings text output = ⟨.exit 0, "", none, after,
          logger.lines [Log.info ("🔐 Note sealed into " ++ output.text)]⟩ ∧
        ∀ viewer report?, openNote settings viewer after output report? =
          .printed 0 (text ++ "\n") after) ∧
    (¬ Sealable settings surroundings.folder text output →
      (∃ message, sealNote settings logger surroundings text output =
        .refused message surroundings.folder) ∨
      ∃ error, sealNote settings logger surroundings text output =
        .quiet (.fault (.file error)) surroundings.folder) ∧
    ∀ (key : Key) (folder : Folder) (path : Path) (bytes : Bytes) (report? : Option IssueReport),
      settings.key = .ok key → folder.read path = .ok (.file bytes) →
      let run := openNote settings logger folder path report?
      (run.ending = .exit 0 ↔ ∃ payload, Vault.unlock ⟨key⟩ bytes = .ok payload) ∧
      (∀ payload, Vault.unlock ⟨key⟩ bytes = .ok payload →
        run = .printed 0 (payload.shown ++ "\n") folder) ∧
      ∀ error, Vault.unlock ⟨key⟩ bytes = .error error →
        run = ⟨.exit 1, "", none, folder, logger.lines
          [Log.error ("🔐❌ Could not open " ++ path.text ++ ": " ++ error.message report?)]⟩ := by
  refine ⟨?_, fun missing => sealNote_of_not_sealable missing logger, ?_⟩
  · intro ready
    obtain ⟨key, payload, after, found, shown, stored, sealed⟩ := sealNote_of_sealable ready logger
    have held := Folder.read_of_write stored
    refine ⟨_, after, stored, sealed, fun viewer report? => ?_⟩
    rw [openNote_of_key found viewer (Folder.isFile_of_read held) report?,
      openWith_of_unlock viewer held (Vault.unlock_lock ⟨key⟩ surroundings.nonce payload) report?,
      shown]
  · intro key folder path bytes report? found held run
    have opened : run = openWith ⟨key⟩ logger folder path report? :=
      openNote_of_key found logger (Folder.isFile_of_read held) report?
    cases outcome : Vault.unlock ⟨key⟩ bytes with
    | ok payload =>
      have shown : run = _ := opened.trans (openWith_of_unlock logger held outcome report?)
      refine ⟨iff_of_true ?_ ⟨payload, rfl⟩, ?_, ?_⟩
      · rw [shown]
        rfl
      · rintro _ ⟨⟩
        exact shown
      · rintro error ⟨⟩
    | error error =>
      have told : run = _ := opened.trans (openWith_of_error logger held outcome report?)
      refine ⟨iff_of_false ?_ ?_, ?_, ?_⟩
      · rw [told]
        rintro ⟨⟩
      · rintro ⟨payload, ⟨⟩⟩
      · rintro payload ⟨⟩
      · rintro _ ⟨⟩
        exact told

/-- A file of three bytes in the place of a note. -/
def noteSurroundings : Surroundings where
  environment := []
  folder := ⟨[(["note.bin".toList], .file [1, 2, 3])]⟩
  nonce := Vector.replicate 12 7
  workers := ⟨1, Nat.one_pos⟩

/-- The path of the note. -/
def notePath : Path := ⟨.here, ["note.bin".toList]⟩

/-- The file is no note, and it is one after a text was sealed into it. -/
theorem openNote_sealNote_over :
    Sealable noteSettings noteSurroundings.folder " a\nb " notePath ∧
      (openNote noteSettings .initial noteSurroundings.folder notePath none).ending ≠ .exit 0 ∧
      ∃ after,
        (sealNote noteSettings .initial noteSurroundings " a\nb " notePath).folder = after ∧
        openNote noteSettings .initial after notePath none =
          .printed 0 (" a\nb " ++ "\n") after := by
  have found : noteSettings.key = .ok noteKey := eq_ok_of_toOption (by decide +kernel)
  have held : noteSurroundings.folder.read notePath = .ok (.file [1, 2, 3]) := by rfl
  have ready : Sealable noteSettings noteSurroundings.folder " a\nb " notePath :=
    ⟨⟨noteKey, found⟩, ⟨'a', by decide, by decide⟩, [], _, rfl⟩
  obtain ⟨opens, -, other⟩ :=
    openNote_sealNote noteSettings .initial noteSurroundings " a\nb " notePath
  obtain ⟨bytes, after, -, sealed, shown⟩ := opens ready
  obtain ⟨-, -, told⟩ := other noteKey noteSurroundings.folder notePath [1, 2, 3] none found held
  refine ⟨ready, ?_, after, ?_, shown .initial none⟩
  · rw [told (.sealed .tooShort) rfl]
    rintro ⟨⟩
  · rw [sealed]

end CommandLine

end Reckoner
