import Reckoner.Notes.Vault
import Reckoner.Proofs.Cipher.Sealed
import Reckoner.Proofs.Json.Strings
import Reckoner.Proofs.Text.Utf8

/-!
# Notes come back as they were locked

A payload is read from its document as it was, whichever of its fields are set
(`Payload.ofDocument_document`), so a vault opens what it locked (`Vault.unlock_lock`).
-/

namespace Reckoner

namespace Payload

/-! ## The fields of a document -/

/-- A kind is read from its name. -/
theorem kindReading_name (kind : NoteKind) : kindReading (.string kind.name) = .ok kind := by
  cases kind <;> rfl

section

variable (kind : NoteKind) (text fileId caption : Option String)
  (complete : kind.isComplete text fileId = true)

/-- The members of a payload with these fields, as they are read. -/
def readMembers : List (String × Json) :=
  (Payload.mk kind text fileId caption complete).members.map Json.stringMember

/-- The kind is read as it was. -/
theorem required_kind :
    Checked.required "kind" kindReading (readMembers kind text fileId caption complete) =
      .ok kind := by
  have found : Json.member? "kind" (readMembers kind text fileId caption complete) =
      some (.string kind.name) := by
    cases text <;> cases fileId <;> cases caption <;> rfl
  rw [Checked.required, found]
  simp only [kindReading_name]
  rfl

/-- The text is read as it was, set or not. -/
theorem optional_text :
    Checked.optional "text" .string (readMembers kind text fileId caption complete) =
      .ok text := by
  cases text <;> cases fileId <;> cases caption <;> rfl

/-- What identifies the file is read as it was, set or not. -/
theorem optional_fileId :
    Checked.optional "file_id" .string (readMembers kind text fileId caption complete) =
      .ok fileId := by
  cases text <;> cases fileId <;> cases caption <;> rfl

/-- The caption is read as it was, set or not. -/
theorem optional_caption :
    Checked.optional "caption" .string (readMembers kind text fileId caption complete) =
      .ok caption := by
  cases text <;> cases fileId <;> cases caption <;> rfl

end

/-- A payload is read from its members as it was. -/
theorem ofMembers_members (payload : Payload) :
    ofMembers (payload.members.map Json.stringMember) = .ok payload := by
  obtain ⟨kind, text, fileId, caption, complete⟩ := payload
  show ofMembers (readMembers kind text fileId caption complete) = _
  rw [ofMembers, required_kind, optional_text, optional_fileId, optional_caption]
  show ofFields kind text fileId caption = _
  rw [ofFields, dif_pos complete]

/-- A payload is read from its document as it was. -/
theorem ofDocument_document (payload : Payload) :
    ofDocument (Text.Utf8.encode payload.document) = .ok payload := by
  rw [ofDocument, Json.ofBytes?, Text.Utf8.decode_encode]
  simp only [document, Json.parse?_writeStrings]
  exact ofMembers_members payload

end Payload

namespace Vault

/-- A vault opens what it locked. -/
theorem unlock_lock (vault : Vault) (nonce : Nonce) (payload : Payload) :
    vault.unlock (vault.lock nonce payload) = .ok payload := by
  rw [unlock, lock, Key.unlock_lock]
  simp only [Payload.ofDocument_document]

/-- Every key of one of the three lengths makes a vault. -/
theorem ofBytes_eq_ok {bytes : Bytes} (length : bytes.length ∈ Key.lengths) :
    ofBytes bytes = .ok ⟨⟨bytes, length⟩⟩ := by
  rw [ofBytes, Key.ofBytes?, dif_pos length]

/-- Every key of 16, 24 or 32 bytes makes a vault, and that vault locks no payload without being
able to open it: whatever the nonce is and whichever fields are set, the payload comes back with
every field as it was, and the locked bytes are the nonce and sixteen bytes more than the
document. -/
theorem locks_without_loss (key : Bytes)
    (length : key.length = 16 ∨ key.length = 24 ∨ key.length = 32) (nonce : Nonce)
    (payload : Payload) :
    ∃ vault, ofBytes key = .ok vault ∧ vault.key.bytes = key ∧
      vault.unlock (vault.lock nonce payload) = .ok payload ∧
      ∃ ciphertext, vault.lock nonce payload = nonce.toList ++ ciphertext ∧
        ciphertext.length = (Text.Utf8.encode payload.document).length + 16 := by
  have listed : key.length ∈ Key.lengths := by simpa [Key.lengths] using length
  refine ⟨⟨⟨key, listed⟩⟩, ofBytes_eq_ok listed, rfl, unlock_lock _ nonce payload, ?_⟩
  exact ⟨_, rfl, Gcm.encryptWith_length _ nonce _⟩

/-- A photo whose file and caption hold what a document has to escape or to encode. -/
def escapedPhoto : Payload where
  kind := .photo
  text? := none
  fileId? := some "a\"b\\c\x01\n😀"
  caption? := some "é"
  complete := rfl

/-- A key of sixteen bytes and a nonce of zeros lock the photo without loss. -/
theorem locks_without_loss_escapedPhoto :
    (List.replicate 16 (7 : UInt8)).length = 16 ∧
      ∃ vault, ofBytes (List.replicate 16 7) = .ok vault ∧
        vault.key.bytes = List.replicate 16 7 ∧
        vault.unlock (vault.lock (Vector.replicate 12 0) escapedPhoto) = .ok escapedPhoto ∧
        ∃ ciphertext,
          vault.lock (Vector.replicate 12 0) escapedPhoto =
            (Vector.replicate 12 (0 : UInt8)).toList ++ ciphertext ∧
          ciphertext.length = (Text.Utf8.encode escapedPhoto.document).length + 16 :=
  ⟨by decide, locks_without_loss (List.replicate 16 7) (.inl (by decide))
    (Vector.replicate 12 0) escapedPhoto⟩

end Vault

end Reckoner
