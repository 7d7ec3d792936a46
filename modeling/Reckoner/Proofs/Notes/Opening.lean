import Reckoner.Proofs.Notes.Vault
import Reckoner.Proofs.Validation.Field

/-!
# What a vault opens

A vault opens nothing but bytes that were sealed under its key, and of these only those whose
plaintext is the document of a note. Everything else is refused, and the refusal tells which of the
two is missing (`Vault.unlock_accepts`).
-/

namespace Reckoner

/-! ## Notes that have what they must -/

/-- What a note of a kind has: a text with a character that is no blank, or a reference to a
file. -/
def NoteKind.Fulfilled (text? fileId? : Option String) : NoteKind → Prop
  | .text => ∃ text, text? = some text ∧ ∃ char ∈ text.toList, Text.isBlank char = false
  | .photo | .voice => ∃ fileId, fileId? = some fileId ∧ fileId ≠ ""

/-- The check of a note finds whether it has what its kind must have. -/
theorem NoteKind.isComplete_iff {kind : NoteKind} {text? fileId? : Option String} :
    kind.isComplete text? fileId? = true ↔ kind.Fulfilled text? fileId? := by
  have worded (text : String) : (!Text.isBlankText text) = true ↔
      ∃ char ∈ text.toList, Text.isBlank char = false := by
    simp [Text.isBlankText]
  have named (fileId : String) : (!fileId.isEmpty) = true ↔ fileId ≠ "" := by
    simp
  cases kind with
  | text => simp only [isComplete, Fulfilled, Option.any_eq_true, worded]
  | photo => simp only [isComplete, Fulfilled, Option.any_eq_true, named]
  | voice => simp only [isComplete, Fulfilled, Option.any_eq_true, named]

/-- A payload is read from bytes exactly when they encode a document whose value is an object, and
its members describe the payload. -/
theorem Payload.ofDocument_eq_ok_iff {plaintext : Bytes} {payload : Payload} :
    ofDocument plaintext = .ok payload ↔
      ∃ chars members, plaintext = Text.Utf8.encode chars ∧
        Json.parse? chars = some (.object members) ∧ ofMembers members = .ok payload := by
  constructor
  · intro read
    rw [ofDocument, Json.ofBytes?] at read
    cases decoded : Text.Utf8.decode plaintext with
    | error error =>
      rw [decoded] at read
      cases read
    | ok chars =>
      rw [decoded] at read
      cases parsed : Json.parse? chars with
      | none =>
        simp only [parsed] at read
        cases read
      | some value =>
        simp only [parsed] at read
        obtain ⟨members, found, described⟩ := bind_eq_ok read
        rw [Checked.members_eq_ok_iff.mp found] at parsed
        exact ⟨chars, members, Text.Utf8.decode_eq_ok_iff.mp decoded, parsed, described⟩
  · rintro ⟨chars, members, rfl, parsed, described⟩
    rw [ofDocument, Json.ofBytes?, Text.Utf8.decode_encode]
    simp only [parsed]
    exact described

/-! ## Refusals -/

namespace Vault

section

variable {vault : Vault} {sealed plaintext : Bytes}

/-- Bytes that were sealed under the key open to what their plaintext describes. -/
theorem unlock_of_authentic (authentic : vault.key.unlock sealed = .ok plaintext) :
    vault.unlock sealed = (Payload.ofDocument plaintext).mapError .noNote := by
  rw [unlock, authentic]
  cases described : Payload.ofDocument plaintext with
  | ok payload =>
    simp only [described]
    rfl
  | error issues =>
    simp only [described]
    rfl

/-- Bytes are refused for how they were sealed exactly when they do not open under the key. -/
theorem unlock_eq_sealed_iff {error : SealError} :
    vault.unlock sealed = .error (.sealed error) ↔ vault.key.unlock sealed = .error error := by
  cases opened : vault.key.unlock sealed with
  | error other =>
    rw [unlock, opened, Except.error.injEq, Except.error.injEq, OpenError.sealed.injEq]
  | ok plaintext =>
    rw [unlock_of_authentic opened]
    -- What the plaintext describes decides here, and no answer of it tells how it was sealed.
    cases Payload.ofDocument plaintext with
    | ok payload => constructor <;> intro refused <;> cases refused
    | error issues => constructor <;> intro refused <;> cases refused

/-- A payload that bytes hold is described by a document that was sealed under the key. -/
theorem sealed_of_unlock {payload : Payload} (opened : vault.unlock sealed = .ok payload) :
    ∃ chars members,
      sealed = vault.key.lock (Key.nonceOf sealed) (Text.Utf8.encode chars) ∧
      Json.parse? chars = some (.object members) ∧ Payload.ofMembers members = .ok payload := by
  cases unlocked : vault.key.unlock sealed with
  | error error =>
    rw [unlock_eq_sealed_iff.mpr unlocked] at opened
    cases opened
  | ok plaintext =>
    rw [unlock_of_authentic unlocked] at opened
    cases described : Payload.ofDocument plaintext with
    | error issues =>
      rw [described] at opened
      cases opened
    | ok found =>
      rw [described] at opened
      cases opened
      obtain ⟨chars, members, rfl, parsed, read⟩ := Payload.ofDocument_eq_ok_iff.mp described
      exact ⟨chars, members, Key.unlock_eq_ok_iff.mp unlocked, parsed, read⟩

/-- The bytes that get past the key are those that were sealed under it. -/
theorem authentic_iff (enough : 12 ≤ sealed.length) :
    vault.unlock sealed ≠ .error (.sealed .notAuthentic) ↔
      ∃ plaintext, sealed = vault.key.lock (Key.nonceOf sealed) plaintext := by
  have long : ¬ sealed.length < Key.nonceLength := Nat.not_lt.mpr enough
  rw [Ne, unlock_eq_sealed_iff]
  constructor
  · intro passed
    cases opened : vault.key.unlock sealed with
    | ok plaintext => exact ⟨plaintext, Key.unlock_eq_ok_iff.mp opened⟩
    | error error =>
      cases error with
      | tooShort => exact absurd (Key.unlock_eq_tooShort_iff.mp opened) long
      | notAuthentic => exact absurd opened passed
  · rintro ⟨plaintext, same⟩ refused
    rw [Key.unlock_eq_ok_iff.mpr same] at refused
    cases refused

/-- The words for a refusal, of which the last go on with what is told of the plaintext. -/
def refusals (told : String) : List String :=
  ["ciphertext too short", "message authentication failed",
    "sealed data is not a valid note: " ++ told]

/-- Every refusal has its words. -/
theorem message_mem_refusals (error : OpenError) (report : IssueReport) :
    error.message (some report) ∈ refusals (report error.issues) := by
  cases error with
  | «sealed» error =>
    cases error with
    | tooShort => exact List.mem_cons_self
    | notAuthentic => exact List.mem_cons_of_mem _ List.mem_cons_self
  | noNote issues => exact List.mem_cons_of_mem _ (List.mem_cons_of_mem _ List.mem_cons_self)

end

/-- A vault refuses bytes or gives a payload that has what its kind must have, from a document that
was sealed under the key. Bytes are too short exactly when they are shorter than a nonce. Any others
get past the key exactly when they are their own nonce and an encryption under it; the plaintext is
then one and decides alone what is answered. So what is left of a locked payload before its first 28
bytes are complete is refused, and so is a locked payload with any other tag. -/
theorem unlock_accepts (vault : Vault) (sealed : Bytes) :
    let nonce := Key.nonceOf sealed
    (∀ error, vault.unlock sealed = .error error → ∀ report : IssueReport,
      error.message (some report) ∈ refusals (report error.issues)) ∧
    (∀ payload, vault.unlock sealed = .ok payload →
      payload.kind.Fulfilled payload.text? payload.fileId? ∧
      ∃ chars members, sealed = vault.key.lock nonce (Text.Utf8.encode chars) ∧
        Json.parse? chars = some (.object members) ∧ Payload.ofMembers members = .ok payload) ∧
    (vault.unlock sealed = .error (.sealed .tooShort) ↔ sealed.length < 12) ∧
    (12 ≤ sealed.length → nonce.toList = sealed.take 12 ∧
      (vault.unlock sealed ≠ .error (.sealed .notAuthentic) ↔
        ∃ plaintext, sealed = nonce.toList ++ Gcm.encrypt vault.key nonce plaintext)) ∧
    (∀ plaintext, sealed = nonce.toList ++ Gcm.encrypt vault.key nonce plaintext →
      vault.unlock sealed = (Payload.ofDocument plaintext).mapError .noNote ∧
      ∀ other, sealed = nonce.toList ++ Gcm.encrypt vault.key nonce other → other = plaintext) ∧
    ∀ drawn payload,
      (∀ front, front <+: vault.lock drawn payload → front.length < 28 →
        ∃ error, vault.unlock front = .error (.sealed error)) ∧
      ∀ front tag other, vault.lock drawn payload = front ++ tag → tag.length = 16 →
        other.length = 16 → other ≠ tag →
          vault.unlock (front ++ other) = .error (.sealed .notAuthentic) := by
  intro nonce
  refine ⟨fun error _ => message_mem_refusals error, ?_, ?_, ?_, ?_, ?_⟩
  · intro payload opened
    exact ⟨NoteKind.isComplete_iff.mp payload.complete, sealed_of_unlock opened⟩
  · rw [unlock_eq_sealed_iff]
    exact Key.unlock_eq_tooShort_iff
  · intro enough
    exact ⟨Key.toList_nonceOf enough, authentic_iff enough⟩
  · intro plaintext same
    have authentic : vault.key.unlock sealed = .ok plaintext := Key.unlock_eq_ok_iff.mpr same
    refine ⟨unlock_of_authentic authentic, fun other again => ?_⟩
    have opened : vault.key.unlock sealed = .ok other := Key.unlock_eq_ok_iff.mpr again
    exact Except.ok.inj (opened.symm.trans authentic)
  · intro drawn payload
    constructor
    · intro front _ short
      obtain ⟨error, refused⟩ := Key.exists_unlock_error short
      exact ⟨error, unlock_eq_sealed_iff.mpr refused⟩
    · intro front tag other locked length otherLength changed
      rw [lock, Key.lock_eq] at locked
      have lengths : (vault.key.tagOf drawn (Text.Utf8.encode payload.document)).length =
          tag.length := by
        rw [Key.tagOf_length, length]
        rfl
      obtain ⟨bodies, tags⟩ := List.append_inj' locked lengths
      rw [← bodies]
      exact unlock_eq_sealed_iff.mpr (Key.unlock_of_other_tag otherLength (tags ▸ changed))

/-- A vault with a key of 24 bytes. -/
def photoVault : Vault := ⟨⟨List.replicate 24 5, by decide⟩⟩

/-- The photo, locked with a nonce of zeros. -/
def photoLocked : Bytes := photoVault.lock (Vector.replicate 12 0) escapedPhoto

/-- What stands in front of the tag of the locked photo. -/
def photoBody : Bytes :=
  photoVault.key.body (Vector.replicate 12 0) (Text.Utf8.encode escapedPhoto.document)

/-- The tag of the locked photo. -/
def photoTag : Bytes :=
  photoVault.key.tagOf (Vector.replicate 12 0) (Text.Utf8.encode escapedPhoto.document)

/-- Every byte of the tag with one added. -/
def photoTagMoved : Bytes := photoTag.map (· + 1)

/-- The locked photo is long enough, gets past the key and has a file; its first 27 bytes do not,
and neither does it with another tag. -/
theorem unlock_accepts_photo :
    12 ≤ photoLocked.length ∧
      photoVault.unlock photoLocked ≠ .error (.sealed .notAuthentic) ∧
      photoVault.unlock photoLocked =
        (Payload.ofDocument (Text.Utf8.encode escapedPhoto.document)).mapError .noNote ∧
      photoVault.unlock photoLocked = .ok escapedPhoto ∧
      escapedPhoto.kind.Fulfilled escapedPhoto.text? escapedPhoto.fileId? ∧
      (∃ error, photoVault.unlock (photoLocked.take 27) = .error error ∧
        error.message (some (Checked.summary "NotePayload")) ∈
          refusals (Checked.summary "NotePayload" error.issues)) ∧
      photoTagMoved ≠ photoTag ∧
      photoVault.unlock (photoBody ++ photoTagMoved) = .error (.sealed .notAuthentic) := by
  have opened : photoVault.unlock photoLocked = .ok escapedPhoto := unlock_lock _ _ _
  have long : photoLocked.length = 12 + (Text.Utf8.encode escapedPhoto.document).length + 16 :=
    Key.lock_length _ _ _
  have tagLength : photoTag.length = 16 := Key.tagOf_length _ _ _
  have movedLength : photoTagMoved.length = 16 := by rw [photoTagMoved, List.length_map, tagLength]
  have moved : photoTagMoved ≠ photoTag := by
    intro same
    obtain ⟨byte, rest, listed⟩ := List.exists_cons_of_length_eq_add_one tagLength
    rw [photoTagMoved, listed, List.map_cons, List.cons.injEq] at same
    have number := congrArg UInt8.toNat same.1
    rw [UInt8.toNat_add] at number
    have bound := byte.toNat_lt
    have one : (1 : UInt8).toNat = 1 := rfl
    omega
  obtain ⟨-, fulfilled, -, passed, authentic, refused⟩ := unlock_accepts photoVault photoLocked
  obtain ⟨worded, -⟩ := unlock_accepts photoVault (photoLocked.take 27)
  obtain ⟨cut, tampered⟩ := refused (Vector.replicate 12 0) escapedPhoto
  have short : (photoLocked.take 27).length < 28 := by
    rw [List.length_take]
    omega
  obtain ⟨error, failed⟩ := cut (photoLocked.take 27) (List.take_prefix 27 _) short
  have enough : 12 ≤ photoLocked.length := by omega
  have own := Key.unlock_eq_ok_iff.mp (Key.unlock_lock photoVault.key (Vector.replicate 12 0)
    (Text.Utf8.encode escapedPhoto.document))
  exact ⟨enough, (passed enough).2.mpr ⟨_, own⟩, (authentic _ own).1, opened,
    (fulfilled _ opened).1, ⟨_, failed, worded _ failed _⟩, moved,
    tampered photoBody photoTag photoTagMoved (Key.lock_eq _ _ _) tagLength movedLength moved⟩

end Vault

end Reckoner
