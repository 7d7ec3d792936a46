import Reckoner.Cipher.Gcm

/-!
# Sealed bytes

Sealed bytes are a nonce followed by what the authenticated encryption makes of the plaintext under
it. Whoever opens them learns the plaintext or that they were not sealed under the key.
-/

namespace Reckoner

/-- Why bytes do not open. -/
inductive SealError where
  /-- They are too short to hold a nonce. -/
  | tooShort
  /-- They were not sealed under the key. -/
  | notAuthentic
  deriving DecidableEq, Repr

/-- The words for bytes that do not open. -/
def SealError.message : SealError → String
  | .tooShort => "ciphertext too short"
  | .notAuthentic => "message authentication failed"

/-- The words for bytes that are not as many as those of a key. -/
def Key.lengthMessage : String := "AESGCM key must be 128, 192, or 256 bits."

namespace Key

/-- The length of a nonce. -/
def nonceLength : Nat := 12

/-- A plaintext sealed under a key with a nonce. -/
def lock (key : Key) (nonce : Nonce) (plaintext : Bytes) : Bytes :=
  nonce.toList ++ Gcm.encrypt key nonce plaintext

/-- The nonce in front of sealed bytes. -/
def nonceOf (sealed : Bytes) : Nonce := Vector.ofFn fun index => sealed.getD index.val 0

/-- The plaintext of sealed bytes. -/
def unlock (key : Key) (sealed : Bytes) : Except SealError Bytes :=
  if sealed.length < nonceLength then .error .tooShort
  else
    match Gcm.decrypt? key (nonceOf sealed) (sealed.drop nonceLength) with
    | some plaintext => .ok plaintext
    | none => .error .notAuthentic

end Key

end Reckoner
