/-!
# UTF-8

Texts as bytes. Encoding is total; decoding refuses the first sequence that encodes no character
and says where it stands and what is wrong with it.
-/

namespace Reckoner

/-- A sequence of bytes. -/
abbrev Bytes := List UInt8

namespace Text.Utf8

/-- A continuation byte that carries the low six bits of `code`. -/
def continuation (code : Nat) : UInt8 := UInt8.ofNat (0x80 + code % 0x40)

/-- The bytes of one character. -/
def encodeChar (char : Char) : Bytes :=
  let code := char.toNat
  if code < 0x80 then [UInt8.ofNat code]
  else if code < 0x800 then [UInt8.ofNat (0xc0 + code / 0x40), continuation code]
  else if code < 0x10000 then
    [UInt8.ofNat (0xe0 + code / 0x1000), continuation (code / 0x40), continuation code]
  else
    [UInt8.ofNat (0xf0 + code / 0x40000), continuation (code / 0x1000),
      continuation (code / 0x40), continuation code]

/-- The bytes of a sequence of characters. -/
def encode (chars : List Char) : Bytes := chars.flatMap encodeChar

/-- What is wrong with a sequence that encodes no character. -/
inductive Flaw where
  /-- No character begins with its first byte. -/
  | startByte
  /-- A byte that should continue the character does not. -/
  | continuationByte
  /-- The bytes end before the character does. -/
  | endOfData
  deriving DecidableEq, Repr

/-- The words for a flaw. -/
def Flaw.text : Flaw → String
  | .startByte => "invalid start byte"
  | .continuationByte => "invalid continuation byte"
  | .endOfData => "unexpected end of data"

/-- A refused sequence of bytes. -/
structure DecodeError where
  /-- The position of its first byte. -/
  position : Nat
  /-- Its first byte. -/
  lead : UInt8
  /-- How many bytes it spans. -/
  span : Nat
  /-- What is wrong with it. -/
  flaw : Flaw
  deriving DecidableEq, Repr

/-- Two lower-case hexadecimal digits of a byte. -/
def hexByte (byte : UInt8) : String :=
  String.ofList [Nat.digitChar (byte.toNat / 16), Nat.digitChar (byte.toNat % 16)]

/-- The text of a refusal: one byte is shown, several are given by their positions. -/
def DecodeError.message (error : DecodeError) : String :=
  if error.span = 1 then
    "'utf-8' codec can't decode byte 0x" ++ hexByte error.lead ++ " in position " ++
      toString error.position ++ ": " ++ error.flaw.text
  else
    "'utf-8' codec can't decode bytes in position " ++ toString error.position ++ "-" ++
      toString (error.position + error.span - 1) ++ ": " ++ error.flaw.text

/-- A byte that may continue a character. -/
def isContinuation (byte : UInt8) : Bool := 0x80 ≤ byte && byte ≤ 0xbf

/-- The second bytes that may follow a first byte of three or four: they rule out longer forms
than needed, surrogates and numbers beyond the last character. -/
def isSecond (lead byte : UInt8) : Bool :=
  isContinuation byte &&
    (if lead = 0xe0 then 0xa0 ≤ byte
    else if lead = 0xed then byte ≤ 0x9f
    else if lead = 0xf0 then 0x90 ≤ byte
    else if lead = 0xf4 then byte ≤ 0x8f
    else true)

/-- The low six bits of a continuation byte. -/
def payload (byte : UInt8) : Nat := byte.toNat - 0x80

/-- The characters that the bytes from a position on encode, or the first refusal. -/
def decodeFrom (position : Nat) : Bytes → Except DecodeError (List Char)
  | [] => .ok []
  | lead :: tail =>
    if lead < 0x80 then
      (decodeFrom (position + 1) tail).map (Char.ofNat lead.toNat :: ·)
    else if lead < 0xc2 then .error ⟨position, lead, 1, .startByte⟩
    else if lead < 0xe0 then
      match tail with
      | [] => .error ⟨position, lead, 1, .endOfData⟩
      | second :: rest =>
        if isContinuation second then
          (decodeFrom (position + 2) rest).map
            (Char.ofNat ((lead.toNat - 0xc0) * 0x40 + payload second) :: ·)
        else .error ⟨position, lead, 1, .continuationByte⟩
    else if lead < 0xf0 then
      match tail with
      | [] => .error ⟨position, lead, 1, .endOfData⟩
      | second :: tail =>
        if isSecond lead second then
          match tail with
          | [] => .error ⟨position, lead, 2, .endOfData⟩
          | third :: rest =>
            if isContinuation third then
              (decodeFrom (position + 3) rest).map
                (Char.ofNat ((lead.toNat - 0xe0) * 0x1000 + payload second * 0x40 +
                  payload third) :: ·)
            else .error ⟨position, lead, 2, .continuationByte⟩
        else .error ⟨position, lead, 1, .continuationByte⟩
    else if lead < 0xf5 then
      match tail with
      | [] => .error ⟨position, lead, 1, .endOfData⟩
      | second :: tail =>
        if isSecond lead second then
          match tail with
          | [] => .error ⟨position, lead, 2, .endOfData⟩
          | third :: tail =>
            if isContinuation third then
              match tail with
              | [] => .error ⟨position, lead, 3, .endOfData⟩
              | fourth :: rest =>
                if isContinuation fourth then
                  (decodeFrom (position + 4) rest).map
                    (Char.ofNat ((lead.toNat - 0xf0) * 0x40000 + payload second * 0x1000 +
                      payload third * 0x40 + payload fourth) :: ·)
                else .error ⟨position, lead, 3, .continuationByte⟩
            else .error ⟨position, lead, 2, .continuationByte⟩
        else .error ⟨position, lead, 1, .continuationByte⟩
    else .error ⟨position, lead, 1, .startByte⟩

/-- The characters that bytes encode, or the first refusal. -/
def decode (bytes : Bytes) : Except DecodeError (List Char) := decodeFrom 0 bytes

end Text.Utf8

end Reckoner
