import Reckoner.Cipher.Aes

/-!
# Authenticated encryption

Galois/counter mode of the block cipher, with nonces of twelve bytes, tags of sixteen and no
associated data. Encryption adds a keystream, so it undoes itself; the tag is a polynomial hash of
the ciphertext, masked with the first block of the keystream.
-/

namespace Reckoner

/-- A nonce of twelve bytes. -/
abbrev Nonce := Vector UInt8 12

namespace Gcm

/-- The number that bytes write in base 256, first byte first. -/
def toNumber (bytes : Bytes) : Nat := bytes.foldl (fun value byte => 256 * value + byte.toNat) 0

/-- The bytes of a number in base 256, first byte first. -/
def ofNumber : Nat → Nat → Bytes
  | 0, _ => []
  | count + 1, value => ofNumber count (value / 256) ++ [UInt8.ofNat (value % 256)]

/-- The counter block of a nonce and a number. -/
def counterBlock (nonce : Nonce) (counter : Nat) : Block :=
  Aes.blockOf (nonce.toList ++ ofNumber 4 (counter % 0x100000000))

/-- So many blocks of the keystream from a counter on. -/
def keystream (cipher : Block → Block) (nonce : Nonce) (counter : Nat) : Nat → Bytes
  | 0 => []
  | count + 1 =>
    (cipher (counterBlock nonce counter)).toList ++ keystream cipher nonce (counter + 1) count

/-- How many blocks hold so many bytes. -/
def blockCount (length : Nat) : Nat := (length + 15) / 16

/-- Bytes with the keystream added. -/
def addKeystream (cipher : Block → Block) (nonce : Nonce) (bytes : Bytes) : Bytes :=
  List.zipWith (· ^^^ ·) bytes (keystream cipher nonce 2 (blockCount bytes.length))

/-- A field element of the hash times the generator: bits go from the highest down. -/
def halve (value : Nat) : Nat :=
  if value % 2 = 1 then value / 2 ^^^ 0xe1 * 0x1000000000000000000000000000000 else value / 2

/-- The product of two field elements of the hash, by the highest bits of the first. -/
def multiplyBits (left right : Nat) : Nat → Nat → Nat
  | 0, product => product
  | bits + 1, product =>
    multiplyBits left (halve right) bits
      (if left.testBit bits then product ^^^ right else product)

/-- The product of two field elements of the hash. -/
def multiply (left right : Nat) : Nat := multiplyBits left right 128 0

/-- Bytes in so many blocks of sixteen; the last is filled up with zeros. -/
def blocks (bytes : Bytes) : Nat → List Block
  | 0 => []
  | count + 1 => Aes.blockOf (bytes.take 16) :: blocks (bytes.drop 16) count

/-- The polynomial hash of blocks at a point. -/
def hash (point : Nat) (blocks : List Block) : Nat :=
  blocks.foldl (fun value block => multiply (value ^^^ toNumber block.toList) point) 0

/-- The block that tells the lengths of the associated data, none, and of the ciphertext in
bits. -/
def lengthBlock (length : Nat) : Block := Aes.blockOf (ofNumber 16 (8 * length))

/-- The tag of a ciphertext. -/
def tag (cipher : Block → Block) (nonce : Nonce) (ciphertext : Bytes) : Bytes :=
  let point := toNumber (cipher (Vector.replicate 16 0)).toList
  let value := hash point
    (blocks ciphertext (blockCount ciphertext.length) ++ [lengthBlock ciphertext.length])
  ofNumber 16 (value ^^^ toNumber (cipher (counterBlock nonce 1)).toList)

/-- The length of a tag. -/
def tagLength : Nat := 16

/-- A plaintext encrypted, followed by the tag. -/
def encryptWith (cipher : Block → Block) (nonce : Nonce) (plaintext : Bytes) : Bytes :=
  let ciphertext := addKeystream cipher nonce plaintext
  ciphertext ++ tag cipher nonce ciphertext

/-- The plaintext of a ciphertext followed by its tag, if the tag is right. -/
def decryptWith? (cipher : Block → Block) (nonce : Nonce) (sealed : Bytes) : Option Bytes :=
  let ciphertext := sealed.take (sealed.length - tagLength)
  if sealed.drop (sealed.length - tagLength) = tag cipher nonce ciphertext then
    some (addKeystream cipher nonce ciphertext)
  else none

/-- A plaintext encrypted under a key, followed by the tag. -/
def encrypt (key : Key) (nonce : Nonce) (plaintext : Bytes) : Bytes :=
  encryptWith (Aes.encryptWith (Aes.roundKeys key)) nonce plaintext

/-- The plaintext of a ciphertext followed by its tag, if the tag is right under the key. -/
def decrypt? (key : Key) (nonce : Nonce) (sealed : Bytes) : Option Bytes :=
  decryptWith? (Aes.encryptWith (Aes.roundKeys key)) nonce sealed

end Gcm

end Reckoner
