import Reckoner.Proofs.Result
import Reckoner.Text.Utf8

/-!
# Encoding and decoding

Decoding undoes encoding, and only encodings are decoded: `decode_eq_ok_iff`. So bytes that are a
text are one in exactly one way.
-/

namespace Reckoner.Text.Utf8

/-! ## Bytes and characters by their numbers -/

/-- The byte of a number that a byte holds has that number. -/
theorem toNat_ofNat {value : Nat} (held : value < 256) : (UInt8.ofNat value).toNat = value :=
  UInt8.toNat_ofNat_of_lt' held

/-- The character of a number that is one has that number. -/
theorem toNat_char {code : Nat} (valid : code.isValidChar) : (Char.ofNat code).toNat = code := by
  rw [Char.ofNat, dif_pos valid]
  rfl

/-- A continuation byte holds from 128 up to 191. -/
theorem isContinuation_iff (byte : UInt8) :
    isContinuation byte = true ↔ 0x80 ≤ byte.toNat ∧ byte.toNat < 0xc0 := by
  simp only [isContinuation, Bool.and_eq_true, decide_eq_true_eq, UInt8.le_iff_toNat_le]
  exact and_congr_right fun _ => Nat.lt_succ_iff.symm

/-- A second byte continues a character and rules out what its first byte does. -/
theorem isSecond_iff (lead byte : UInt8) :
    isSecond lead byte = true ↔ isContinuation byte = true ∧
      (lead.toNat = 0xe0 → 0xa0 ≤ byte.toNat) ∧ (lead.toNat = 0xed → byte.toNat < 0xa0) ∧
      (lead.toNat = 0xf0 → 0x90 ≤ byte.toNat) ∧ (lead.toNat = 0xf4 → byte.toNat < 0x90) := by
  simp only [isSecond, Bool.and_eq_true, ← UInt8.toNat_inj, UInt8.le_iff_toNat_le]
  refine and_congr_right fun _ => ?_
  repeat' split
  all_goals simp_all
  all_goals omega

/-- The byte that continues a character holds its next six bits. -/
theorem toNat_continuation (code : Nat) : (continuation code).toNat = 0x80 + code % 0x40 := by
  have held : 0x80 + code % 0x40 < 256 := by omega
  rw [continuation]
  exact toNat_ofNat held

/-- The byte that continues a character continues one. -/
theorem isContinuation_continuation (code : Nat) : isContinuation (continuation code) = true := by
  have number := toNat_continuation code
  rw [isContinuation_iff]
  omega

/-- The byte that continues a character carries its next six bits. -/
theorem payload_continuation (code : Nat) : payload (continuation code) = code % 0x40 := by
  have number := toNat_continuation code
  unfold payload
  omega

/-! ## One character in front -/

section

variable (position : Nat) {lead second third fourth : UInt8} (rest : Bytes)

/-- A byte below 128 is a character. -/
theorem decodeFrom_one (low : lead.toNat < 0x80) :
    decodeFrom position (lead :: rest) =
      (decodeFrom (position + 1) rest).map (Char.ofNat lead.toNat :: ·) := by
  rw [decodeFrom.eq_def]
  simp [UInt8.lt_iff_toNat_lt, low]

/-- Two bytes that make a character. -/
theorem decodeFrom_two (low : 0xc2 ≤ lead.toNat) (high : lead.toNat < 0xe0)
    (continued : isContinuation second = true) :
    decodeFrom position (lead :: second :: rest) =
      (decodeFrom (position + 2) rest).map
        (Char.ofNat ((lead.toNat - 0xc0) * 0x40 + payload second) :: ·) := by
  have notOne : ¬ lead.toNat < 0x80 := by omega
  have noStart : ¬ lead.toNat < 0xc2 := by omega
  rw [decodeFrom.eq_def]
  simp [UInt8.lt_iff_toNat_lt, notOne, noStart, high, continued]

/-- Three bytes that make a character. -/
theorem decodeFrom_three (low : 0xe0 ≤ lead.toNat) (high : lead.toNat < 0xf0)
    (follows : isSecond lead second = true) (continued : isContinuation third = true) :
    decodeFrom position (lead :: second :: third :: rest) =
      (decodeFrom (position + 3) rest).map
        (Char.ofNat ((lead.toNat - 0xe0) * 0x1000 + payload second * 0x40 + payload third) ::
          ·) := by
  have notOne : ¬ lead.toNat < 0x80 := by omega
  have noStart : ¬ lead.toNat < 0xc2 := by omega
  have notTwo : ¬ lead.toNat < 0xe0 := by omega
  rw [decodeFrom.eq_def]
  simp [UInt8.lt_iff_toNat_lt, notOne, noStart, notTwo, high, follows, continued]

/-- Four bytes that make a character. -/
theorem decodeFrom_four (low : 0xf0 ≤ lead.toNat) (high : lead.toNat < 0xf5)
    (follows : isSecond lead second = true) (continued : isContinuation third = true)
    (ended : isContinuation fourth = true) :
    decodeFrom position (lead :: second :: third :: fourth :: rest) =
      (decodeFrom (position + 4) rest).map
        (Char.ofNat ((lead.toNat - 0xf0) * 0x40000 + payload second * 0x1000 +
          payload third * 0x40 + payload fourth) :: ·) := by
  have notOne : ¬ lead.toNat < 0x80 := by omega
  have noStart : ¬ lead.toNat < 0xc2 := by omega
  have notTwo : ¬ lead.toNat < 0xe0 := by omega
  have notThree : ¬ lead.toNat < 0xf0 := by omega
  rw [decodeFrom.eq_def]
  simp [UInt8.lt_iff_toNat_lt, notOne, noStart, notTwo, notThree, high, follows, continued, ended]

end

/-- A character is no surrogate and below the end of the characters. -/
theorem char_bounds (char : Char) :
    char.toNat < 0xd800 ∨ 0xdfff < char.toNat ∧ char.toNat < 0x110000 := char.valid

/-- The bytes of a character are read as that character, whatever follows them. -/
theorem decodeFrom_encodeChar (position : Nat) (char : Char) (rest : Bytes) :
    decodeFrom position (encodeChar char ++ rest) =
      (decodeFrom (position + (encodeChar char).length) rest).map (char :: ·) := by
  have bounds := char_bounds char
  have itself := Char.ofNat_toNat char
  rw [encodeChar]
  generalize char.toNat = code at bounds itself
  subst itself
  split
  · have lead : (UInt8.ofNat code).toNat = code := toNat_ofNat (by omega)
    have low : (UInt8.ofNat code).toNat < 0x80 := by omega
    have read := decodeFrom_one position rest low
    rw [lead] at read
    exact read
  · split
    · have lead : (UInt8.ofNat (0xc0 + code / 0x40)).toNat = 0xc0 + code / 0x40 :=
        toNat_ofNat (by omega)
      have low : 0xc2 ≤ (UInt8.ofNat (0xc0 + code / 0x40)).toNat := by omega
      have read := decodeFrom_two position rest low (by omega) (isContinuation_continuation code)
      rw [lead, payload_continuation,
        show (0xc0 + code / 0x40 - 0xc0) * 0x40 + code % 0x40 = code by omega] at read
      exact read
    · split
      · have lead : (UInt8.ofNat (0xe0 + code / 0x1000)).toNat = 0xe0 + code / 0x1000 :=
          toNat_ofNat (by omega)
        have follows : isSecond (UInt8.ofNat (0xe0 + code / 0x1000))
            (continuation (code / 0x40)) = true := by
          rw [isSecond_iff, lead, toNat_continuation]
          refine ⟨isContinuation_continuation _, ?_⟩
          omega
        have read := decodeFrom_three position rest (by omega) (by omega) follows
          (isContinuation_continuation code)
        rw [lead, payload_continuation, payload_continuation,
          show (0xe0 + code / 0x1000 - 0xe0) * 0x1000 + code / 0x40 % 0x40 * 0x40 + code % 0x40 =
            code by omega] at read
        exact read
      · have lead : (UInt8.ofNat (0xf0 + code / 0x40000)).toNat = 0xf0 + code / 0x40000 :=
          toNat_ofNat (by omega)
        have follows : isSecond (UInt8.ofNat (0xf0 + code / 0x40000))
            (continuation (code / 0x1000)) = true := by
          rw [isSecond_iff, lead, toNat_continuation]
          refine ⟨isContinuation_continuation _, ?_⟩
          omega
        have read := decodeFrom_four position rest (by omega) (by omega) follows
          (isContinuation_continuation (code / 0x40)) (isContinuation_continuation code)
        rw [lead, payload_continuation, payload_continuation, payload_continuation,
          show (0xf0 + code / 0x40000 - 0xf0) * 0x40000 + code / 0x1000 % 0x40 * 0x1000 +
            code / 0x40 % 0x40 * 0x40 + code % 0x40 = code by omega] at read
        exact read

/-- Encoded characters are read as they were, whatever follows them. -/
theorem decodeFrom_encode (position : Nat) (chars : List Char) (rest : Bytes) :
    decodeFrom position (encode chars ++ rest) =
      (decodeFrom (position + (encode chars).length) rest).map (chars ++ ·) := by
  induction chars generalizing position with
  | nil =>
    show decodeFrom position rest = (decodeFrom position rest).map id
    cases decodeFrom position rest <;> rfl
  | cons first others ih =>
    rw [encode, List.flatMap_cons, List.append_assoc, decodeFrom_encodeChar, ← encode, ih, map_map,
      List.length_append, Nat.add_assoc]
    rfl

/-- Texts in a row are encoded one after the other. -/
theorem encode_append (left right : List Char) :
    encode (left ++ right) = encode left ++ encode right := List.flatMap_append

/-- A character has one to four bytes. -/
theorem length_encodeChar (char : Char) :
    0 < (encodeChar char).length ∧ (encodeChar char).length ≤ 4 := by
  simp only [encodeChar]
  repeat' split
  all_goals
    simp only [List.length_cons, List.length_nil]
    omega

/-- Encoded characters are a text. -/
theorem decode_encode (chars : List Char) : decode (encode chars) = .ok chars := by
  have read := decodeFrom_encode 0 chars []
  rw [List.append_nil] at read
  rw [decode, read]
  simp [decodeFrom, Except.map]

/-! ## A character from its bytes -/

/-- The continuation of a number is the byte that carries its low six bits. -/
theorem continuation_eq {byte : UInt8} {code : Nat} (continued : isContinuation byte = true)
    (carried : payload byte = code % 0x40) : continuation code = byte := by
  have number := toNat_continuation code
  rw [isContinuation_iff] at continued
  unfold payload at carried
  apply UInt8.toNat_inj.mp
  omega

/-- The byte of the number of a byte is that byte. -/
theorem ofNat_eq {byte : UInt8} {value : Nat} (same : value = byte.toNat) :
    UInt8.ofNat value = byte := by
  rw [same, UInt8.ofNat_toNat]

/-- What a continuation byte carries has six bits. -/
theorem payload_lt {byte : UInt8} (continued : isContinuation byte = true) :
    payload byte < 0x40 := by
  rw [isContinuation_iff] at continued
  unfold payload
  omega

/-- A byte below 128 is the encoding of its character. -/
theorem encodeChar_one {lead : UInt8} (low : lead.toNat < 0x80) :
    encodeChar (Char.ofNat lead.toNat) = [lead] := by
  rw [encodeChar, toNat_char (.inl (by omega)), if_pos low, UInt8.ofNat_toNat]

section

variable {lead second third fourth : UInt8}

/-- Two bytes that make a character are its encoding. -/
theorem encodeChar_two (low : 0xc2 ≤ lead.toNat) (high : lead.toNat < 0xe0)
    (continued : isContinuation second = true) :
    encodeChar (Char.ofNat ((lead.toNat - 0xc0) * 0x40 + payload second)) = [lead, second] := by
  have carried := payload_lt continued
  have begins : UInt8.ofNat (0xc0 + ((lead.toNat - 0xc0) * 0x40 + payload second) / 0x40) = lead :=
    ofNat_eq (by omega)
  rw [encodeChar, toNat_char (.inl (by omega)), if_neg (by omega), if_pos (by omega),
    continuation_eq continued (by omega), begins]

/-- Three bytes that make a character are its encoding. -/
theorem encodeChar_three (low : 0xe0 ≤ lead.toNat) (high : lead.toNat < 0xf0)
    (follows : isSecond lead second = true) (continued : isContinuation third = true) :
    encodeChar (Char.ofNat ((lead.toNat - 0xe0) * 0x1000 + payload second * 0x40 +
      payload third)) = [lead, second, third] := by
  obtain ⟨begun, shortest, noSurrogate, -, -⟩ := (isSecond_iff lead second).mp follows
  have carried := payload_lt begun
  have carriedLast := payload_lt continued
  have number : second.toNat = 0x80 + payload second := by
    have range := (isContinuation_iff second).mp begun
    unfold payload
    omega
  have valid : ((lead.toNat - 0xe0) * 0x1000 + payload second * 0x40 +
      payload third).isValidChar := by
    unfold Nat.isValidChar
    omega
  have begins : UInt8.ofNat (0xe0 + ((lead.toNat - 0xe0) * 0x1000 + payload second * 0x40 +
      payload third) / 0x1000) = lead := ofNat_eq (by omega)
  rw [encodeChar, toNat_char valid, if_neg (by omega), if_neg (by omega), if_pos (by omega),
    continuation_eq begun (by omega), continuation_eq continued (by omega), begins]

/-- Four bytes that make a character are its encoding. -/
theorem encodeChar_four (low : 0xf0 ≤ lead.toNat) (high : lead.toNat < 0xf5)
    (follows : isSecond lead second = true) (continued : isContinuation third = true)
    (ended : isContinuation fourth = true) :
    encodeChar (Char.ofNat ((lead.toNat - 0xf0) * 0x40000 + payload second * 0x1000 +
      payload third * 0x40 + payload fourth)) = [lead, second, third, fourth] := by
  obtain ⟨begun, -, -, shortest, below⟩ := (isSecond_iff lead second).mp follows
  have carried := payload_lt begun
  have carriedNext := payload_lt continued
  have carriedLast := payload_lt ended
  have number : second.toNat = 0x80 + payload second := by
    have range := (isContinuation_iff second).mp begun
    unfold payload
    omega
  have valid : ((lead.toNat - 0xf0) * 0x40000 + payload second * 0x1000 + payload third * 0x40 +
      payload fourth).isValidChar := by
    unfold Nat.isValidChar
    omega
  have begins : UInt8.ofNat (0xf0 + ((lead.toNat - 0xf0) * 0x40000 + payload second * 0x1000 +
      payload third * 0x40 + payload fourth) / 0x40000) = lead := ofNat_eq (by omega)
  rw [encodeChar, toNat_char valid, if_neg (by omega), if_neg (by omega), if_neg (by omega),
    continuation_eq begun (by omega), continuation_eq continued (by omega),
    continuation_eq ended (by omega), begins]

end

/-- Bytes that are read are the encoding of what is read. -/
theorem encode_decodeFrom {position : Nat} {bytes : Bytes} {chars : List Char}
    (read : decodeFrom position bytes = .ok chars) : encode chars = bytes := by
  fun_induction decodeFrom position bytes generalizing chars
  case case1 position =>
    cases read
    rfl
  case case2 position lead tail one ih =>
    obtain ⟨others, later, rfl⟩ := map_eq_ok read
    rw [encode, List.flatMap_cons, encodeChar_one (UInt8.lt_iff_toNat_lt.mp one), ← encode,
      ih later]
    rfl
  case case5 position lead notOne start two second rest continued ih =>
    obtain ⟨others, later, rfl⟩ := map_eq_ok read
    rw [UInt8.lt_iff_toNat_lt] at start two
    rw [encode, List.flatMap_cons, encodeChar_two (Nat.not_lt.mp start) two continued, ← encode,
      ih later]
    rfl
  case case9 position lead notOne start notTwo three second follows third rest continued ih =>
    obtain ⟨others, later, rfl⟩ := map_eq_ok read
    rw [UInt8.lt_iff_toNat_lt] at notTwo three
    rw [encode, List.flatMap_cons,
      encodeChar_three (Nat.not_lt.mp notTwo) three follows continued, ← encode, ih later]
    rfl
  case case15 position lead notOne start notTwo notThree four second follows third continued fourth
      rest ended ih =>
    obtain ⟨others, later, rfl⟩ := map_eq_ok read
    rw [UInt8.lt_iff_toNat_lt] at notThree four
    rw [encode, List.flatMap_cons,
      encodeChar_four (Nat.not_lt.mp notThree) four follows continued ended, ← encode, ih later]
    rfl
  all_goals cases read

/-- The bytes that are a text are its encoding. -/
theorem decode_eq_ok_iff {bytes : Bytes} {chars : List Char} :
    decode bytes = .ok chars ↔ bytes = encode chars := by
  constructor
  · intro read
    exact (encode_decodeFrom read).symm
  · intro encoded
    rw [encoded, decode_encode]

end Reckoner.Text.Utf8
