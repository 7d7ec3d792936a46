import Reckoner.Cipher.Sealed

/-!
# Opening what was sealed

Adding the keystream twice changes nothing, so bytes decrypt to a plaintext exactly when they are
its encryption (`Gcm.decrypt?_eq_some_iff`), and sealed bytes open to what was sealed
(`Key.unlock_lock`). No other bytes open (`Key.unlock_eq_ok_iff`): not the front of sealed bytes
that is too short for a nonce and a tag, and not sealed bytes with another tag.
-/

namespace Reckoner

namespace Gcm

/-! ## The keystream -/

section

variable (cipher : Block → Block) (nonce : Nonce)

/-- Every block of the keystream has sixteen bytes. -/
theorem keystream_length (counter count : Nat) :
    (keystream cipher nonce counter count).length = 16 * count := by
  induction count generalizing counter with
  | zero => rfl
  | succ count ih =>
    rw [keystream, List.length_append, Vector.length_toList, ih]
    omega

/-- The keystream is long enough for the bytes it is added to. -/
theorem length_le_keystream (bytes : Bytes) (counter : Nat) :
    bytes.length ≤ (keystream cipher nonce counter (blockCount bytes.length)).length := by
  rw [keystream_length, blockCount]
  omega

/-- Adding the keystream keeps the length. -/
theorem addKeystream_length (bytes : Bytes) :
    (addKeystream cipher nonce bytes).length = bytes.length := by
  rw [addKeystream, List.length_zipWith]
  exact Nat.min_eq_left (length_le_keystream cipher nonce bytes 2)

/-- Adding a stream that is long enough twice changes nothing. -/
theorem zipWith_xor_zipWith_xor {bytes stream : Bytes} (covered : bytes.length ≤ stream.length) :
    List.zipWith (· ^^^ ·) (List.zipWith (· ^^^ ·) bytes stream) stream = bytes := by
  induction bytes generalizing stream with
  | nil => rfl
  | cons byte bytes ih =>
    cases stream with
    | nil => simp at covered
    | cons mask stream =>
      have tail := ih (Nat.le_of_succ_le_succ covered)
      rw [List.zipWith_cons_cons, List.zipWith_cons_cons, tail, UInt8.xor_assoc, UInt8.xor_self,
        UInt8.xor_zero]

/-- Adding the keystream undoes itself. -/
theorem addKeystream_addKeystream (bytes : Bytes) :
    addKeystream cipher nonce (addKeystream cipher nonce bytes) = bytes := by
  rw [addKeystream, addKeystream_length]
  exact zipWith_xor_zipWith_xor (length_le_keystream cipher nonce bytes 2)

/-! ## The tag -/

/-- A number is written with as many bytes as were asked for. -/
theorem ofNumber_length (count value : Nat) : (ofNumber count value).length = count := by
  induction count generalizing value with
  | zero => rfl
  | succ count ih => rw [ofNumber, List.length_append, ih, List.length_singleton]

/-- A tag has sixteen bytes. -/
theorem tag_length (ciphertext : Bytes) : (tag cipher nonce ciphertext).length = tagLength :=
  ofNumber_length 16 _

/-- An encryption is as long as the plaintext and a tag. -/
theorem encryptWith_length (plaintext : Bytes) :
    (encryptWith cipher nonce plaintext).length = plaintext.length + tagLength := by
  rw [encryptWith, List.length_append, addKeystream_length, tag_length]

/-! ## Decryption -/

/-- Bytes decrypt to a plaintext exactly when they are its encryption. -/
theorem decryptWith?_eq_some_iff {sealed plaintext : Bytes} :
    decryptWith? cipher nonce sealed = some plaintext ↔
      sealed = encryptWith cipher nonce plaintext := by
  constructor
  · intro opened
    rw [decryptWith?] at opened
    split at opened
    · rename_i authentic
      cases opened
      rw [encryptWith, addKeystream_addKeystream, ← authentic, List.take_append_drop]
    · cases opened
  · rintro rfl
    have bound : (encryptWith cipher nonce plaintext).length - tagLength =
        (addKeystream cipher nonce plaintext).length := by
      rw [encryptWith_length, addKeystream_length, Nat.add_sub_cancel]
    rw [decryptWith?, bound, encryptWith, List.take_left, List.drop_left, if_pos rfl,
      addKeystream_addKeystream]

end

/-- Bytes decrypt to a plaintext under a key exactly when they are its encryption under the key. -/
theorem decrypt?_eq_some_iff {key : Key} {nonce : Nonce} {sealed plaintext : Bytes} :
    decrypt? key nonce sealed = some plaintext ↔ sealed = encrypt key nonce plaintext :=
  decryptWith?_eq_some_iff _ nonce

end Gcm

namespace Key

/-- A nonce is read from in front of the bytes that follow it. -/
theorem nonceOf_append (nonce : Nonce) (rest : Bytes) : nonceOf (nonce.toList ++ rest) = nonce := by
  apply Vector.ext
  intro index inside
  have listed : index < nonce.toList.length := by rwa [Vector.length_toList]
  rw [nonceOf, Vector.getElem_ofFn, List.getD_eq_getElem?_getD, List.getElem?_append_left listed]
  simp [inside]

/-- Sealed bytes are a nonce, a ciphertext as long as the plaintext, and a tag. -/
theorem lock_length (key : Key) (nonce : Nonce) (plaintext : Bytes) :
    (key.lock nonce plaintext).length = nonceLength + plaintext.length + Gcm.tagLength := by
  rw [lock, List.length_append, Vector.length_toList, Gcm.encrypt, Gcm.encryptWith_length,
    Nat.add_assoc]
  rfl

/-- Sealed bytes open to what was sealed. -/
theorem unlock_lock (key : Key) (nonce : Nonce) (plaintext : Bytes) :
    key.unlock (key.lock nonce plaintext) = .ok plaintext := by
  have enough : ¬ (key.lock nonce plaintext).length < nonceLength := by
    rw [lock_length]
    omega
  have behind : (key.lock nonce plaintext).drop nonceLength = Gcm.encrypt key nonce plaintext :=
    List.drop_left' Vector.length_toList
  rw [unlock, if_neg enough, behind, lock, nonceOf_append, Gcm.decrypt?_eq_some_iff.mpr rfl]

/-! ## What opens -/

section

variable {key : Key} {sealed plaintext : Bytes}

/-- The nonce of bytes that are long enough is their front. -/
theorem toList_nonceOf (enough : nonceLength ≤ sealed.length) :
    (nonceOf sealed).toList = sealed.take nonceLength := by
  have size : (sealed.take nonceLength).toArray.size = 12 := by
    rw [List.size_toArray, List.length_take]
    exact Nat.min_eq_left enough
  have front := nonceOf_append ⟨(sealed.take nonceLength).toArray, size⟩ (sealed.drop nonceLength)
  rw [Vector.toList_mk, List.take_append_drop] at front
  rw [front, Vector.toList_mk]

/-- Bytes are too short exactly when they are shorter than a nonce. -/
theorem unlock_eq_tooShort_iff :
    key.unlock sealed = .error .tooShort ↔ sealed.length < nonceLength := by
  rw [unlock]
  split
  · rename_i short
    exact ⟨fun _ => short, fun _ => rfl⟩
  · rename_i enough
    refine ⟨fun refused => ?_, fun short => absurd short enough⟩
    split at refused <;> cases refused

/-- Bytes open to a plaintext exactly when they are the plaintext sealed with their own nonce. -/
theorem unlock_eq_ok_iff :
    key.unlock sealed = .ok plaintext ↔ sealed = key.lock (nonceOf sealed) plaintext := by
  constructor
  · intro opened
    rw [unlock] at opened
    split at opened
    · cases opened
    · rename_i enough
      split at opened
      · rename_i found decrypted
        cases opened
        rw [lock, toList_nonceOf (Nat.le_of_not_lt enough),
          ← Gcm.decrypt?_eq_some_iff.mp decrypted, List.take_append_drop]
      · cases opened
  · intro same
    rw [same, unlock_lock]

/-- Bytes that are too short for a nonce and a tag do not open. -/
theorem exists_unlock_error (short : sealed.length < nonceLength + Gcm.tagLength) :
    ∃ error, key.unlock sealed = .error error := by
  cases opened : key.unlock sealed with
  | error error => exact ⟨error, rfl⟩
  | ok plaintext =>
    have length := congrArg List.length (unlock_eq_ok_iff.mp opened)
    rw [lock_length] at length
    omega

/-- Sealed bytes in front of their tag. -/
def body (key : Key) (nonce : Nonce) (plaintext : Bytes) : Bytes :=
  nonce.toList ++ Gcm.addKeystream (Aes.encryptWith (Aes.roundKeys key)) nonce plaintext

/-- The tag of sealed bytes. -/
def tagOf (key : Key) (nonce : Nonce) (plaintext : Bytes) : Bytes :=
  let cipher := Aes.encryptWith (Aes.roundKeys key)
  Gcm.tag cipher nonce (Gcm.addKeystream cipher nonce plaintext)

/-- Sealed bytes are what is in front of the tag, and the tag. -/
theorem lock_eq (key : Key) (nonce : Nonce) (plaintext : Bytes) :
    key.lock nonce plaintext = key.body nonce plaintext ++ key.tagOf nonce plaintext :=
  (List.append_assoc _ _ _).symm

/-- A tag has sixteen bytes. -/
theorem tagOf_length (key : Key) (nonce : Nonce) (plaintext : Bytes) :
    (key.tagOf nonce plaintext).length = Gcm.tagLength :=
  Gcm.tag_length _ nonce _

/-- What is in front of the tag determines it. -/
theorem tagOf_eq_of_body_eq {nonce other : Nonce} {plaintext different : Bytes}
    (same : key.body nonce plaintext = key.body other different) :
    key.tagOf nonce plaintext = key.tagOf other different := by
  have lengths : nonce.toList.length = other.toList.length := by
    rw [Vector.length_toList, Vector.length_toList]
  obtain ⟨nonces, ciphertexts⟩ := List.append_inj same lengths
  have equal : nonce = other := Vector.toList_inj.mp nonces
  rw [tagOf, ciphertexts, equal]
  rfl

/-- Sealed bytes with another tag are not authentic. -/
theorem unlock_of_other_tag {nonce : Nonce} {tag : Bytes} (length : tag.length = Gcm.tagLength)
    (other : tag ≠ key.tagOf nonce plaintext) :
    key.unlock (key.body nonce plaintext ++ tag) = .error .notAuthentic := by
  cases opened : key.unlock (key.body nonce plaintext ++ tag) with
  | ok different =>
    -- What opens has the tag that its body determines.
    have sealed := unlock_eq_ok_iff.mp opened
    rw [lock_eq] at sealed
    obtain ⟨bodies, tags⟩ := List.append_inj' sealed (by rw [length, tagOf_length])
    exact absurd (tags.trans (tagOf_eq_of_body_eq bodies).symm) other
  | error error =>
    cases error with
    | notAuthentic => rfl
    | tooShort =>
      have short := unlock_eq_tooShort_iff.mp opened
      rw [body, List.length_append, List.length_append, Vector.length_toList] at short
      exact absurd short (by rw [nonceLength]; omega)

end

end Key

end Reckoner
