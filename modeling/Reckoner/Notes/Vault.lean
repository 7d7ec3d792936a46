import Reckoner.Cipher.Sealed
import Reckoner.Notes.Payload

/-!
# Vaults

A vault keeps one key. It locks a payload into sealed bytes and opens sealed bytes that hold a
payload; everything else is refused.
-/

namespace Reckoner

/-- A vault and its key. -/
structure Vault where
  /-- The key. -/
  key : Key
  deriving DecidableEq, Repr

/-- Why sealed bytes hold no payload for a vault. -/
inductive OpenError where
  /-- The bytes do not open under the key. -/
  | sealed (error : SealError)
  /-- The plaintext is no note. -/
  | noNote (issues : List Issue)
  deriving DecidableEq, Repr

/-- The words for issues, as those who found them word them. -/
abbrev IssueReport := List Issue → String

/-- What was found wrong with the plaintext. -/
def OpenError.issues : OpenError → List Issue
  | .sealed _ => []
  | .noNote issues => issues

/-- The words for sealed bytes that hold no payload. They go on with a report of what is wrong with
the plaintext, if there is one. -/
def OpenError.message (error : OpenError) (report? : Option IssueReport := none) : String :=
  match error, report? with
  | .sealed error, _ => error.message
  | .noNote _, none => "sealed data is not a valid note"
  | .noNote issues, some report => "sealed data is not a valid note: " ++ report issues

namespace Vault

/-- The vault with the key of bytes, if their number is that of a key. -/
def ofBytes (bytes : Bytes) : Checked Vault :=
  match Key.ofBytes? bytes with
  | some key => .ok ⟨key⟩
  | none =>
    .error [⟨["key"],
      .broken ("AES key must be 16, 24 or 32 bytes, got " ++ toString bytes.length)⟩]

/-- A payload locked with a nonce. -/
def lock (vault : Vault) (nonce : Nonce) (payload : Payload) : Bytes :=
  vault.key.lock nonce (Text.Utf8.encode payload.document)

/-- The payload that sealed bytes hold. -/
def unlock (vault : Vault) (sealed : Bytes) : Except OpenError Payload :=
  match vault.key.unlock sealed with
  | .error error => .error (.sealed error)
  | .ok plaintext =>
    match Payload.ofDocument plaintext with
    | .ok payload => .ok payload
    | .error issues => .error (.noNote issues)

end Vault

end Reckoner
