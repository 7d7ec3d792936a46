import Reckoner.Text.Utf8

/-!
# The block cipher

AES encrypts blocks of sixteen bytes under keys of sixteen, twenty-four or thirty-two. The state is
a square of bytes, column after column; the substitution is computed from inversion in the field
of 256 elements.
-/

namespace Reckoner

/-- A block of sixteen bytes. -/
abbrev Block := Vector UInt8 16

/-- The lengths of keys. -/
def Key.lengths : List Nat := [16, 24, 32]

/-- A key of one of the three lengths. -/
structure Key where
  /-- The bytes. -/
  bytes : Bytes
  /-- Their number is one of the three. -/
  length_mem : bytes.length ∈ Key.lengths
  deriving DecidableEq, Repr

/-- The key of bytes, if their number is that of a key. -/
def Key.ofBytes? (bytes : Bytes) : Option Key :=
  if length : bytes.length ∈ Key.lengths then some ⟨bytes, length⟩ else none

namespace Aes

/-- A field element times the generator `x`. -/
def double (byte : UInt8) : UInt8 :=
  let shifted := byte <<< 1
  if byte < 0x80 then shifted else shifted ^^^ 0x1b

/-- The product of two field elements, by the low bits of the first. -/
def multiply : Nat → UInt8 → UInt8 → UInt8
  | 0, _, _ => 0
  | bits + 1, left, right =>
    (if left &&& 1 = 1 then right else 0) ^^^ multiply bits (left >>> 1) (double right)

/-- The product of two field elements. -/
def product (left right : UInt8) : UInt8 := multiply 8 left right

/-- The inverse of a field element, which is its 254th power; zero stays zero. -/
def inverse (byte : UInt8) : UInt8 :=
  let power2 := product byte byte
  let power3 := product power2 byte
  let power6 := product power3 power3
  let power7 := product power6 byte
  let power14 := product power7 power7
  let power15 := product power14 byte
  let power30 := product power15 power15
  let power31 := product power30 byte
  let power62 := product power31 power31
  let power63 := product power62 byte
  let power126 := product power63 power63
  let power127 := product power126 byte
  product power127 power127

/-- A byte turned left. -/
def turnLeft (byte : UInt8) (count : UInt8) : UInt8 := (byte <<< count) ||| (byte >>> (8 - count))

/-- The substitution of a byte: its inverse, mixed with four of its turns. -/
def substituteByte (byte : UInt8) : UInt8 :=
  let inverse := inverse byte
  inverse ^^^ turnLeft inverse 1 ^^^ turnLeft inverse 2 ^^^ turnLeft inverse 3 ^^^
    turnLeft inverse 4 ^^^ 0x63

/-- The substitutions of all bytes. -/
def substitutions : Vector UInt8 256 := Vector.ofFn fun index => substituteByte (UInt8.ofNat index)

/-- The substitution of a byte, looked up. -/
def substitute (byte : UInt8) : UInt8 := substitutions.get byte.toFin

/-- The bytewise exclusive or of two blocks. -/
def xorBlock (left right : Block) : Block := left.zipWith (· ^^^ ·) right

/-- Every byte substituted. -/
def substituteBlock (state : Block) : Block := state.map substitute

/-- Every row turned by its number. -/
def shiftRows (state : Block) : Block :=
  Vector.ofFn fun index => state.get (Fin.ofNat 16 (index.val + 4 * (index.val % 4)))

/-- Every column multiplied by the fixed polynomial. -/
def mixColumns (state : Block) : Block :=
  Vector.ofFn fun index =>
    let at? (row : Nat) : UInt8 :=
      state.get (Fin.ofNat 16 (4 * (index.val / 4) + (index.val + row) % 4))
    double (at? 0) ^^^ (double (at? 1) ^^^ at? 1) ^^^ at? 2 ^^^ at? 3

/-- A word of four bytes of the key schedule. -/
abbrev Word := List UInt8

/-- The bytewise exclusive or of two words. -/
def xorWord (left right : Word) : Word := List.zipWith (· ^^^ ·) left right

/-- The word of the key schedule that follows an earlier one, given the word before it. -/
def nextWord (keyWords index : Nat) (constant : UInt8) (previous earlier : Word) : Word :=
  if index % keyWords = 0 then
    let turned := (previous.drop 1 ++ previous.take 1).map substitute
    xorWord earlier (xorWord turned [constant, 0, 0, 0])
  else if 6 < keyWords ∧ index % keyWords = 4 then xorWord earlier (previous.map substitute)
  else xorWord earlier previous

/-- The words of the key schedule, last first, extended by so many. -/
def extend (keyWords : Nat) (constant : UInt8) (words : List Word) : Nat → List Word
  | 0 => words
  | count + 1 =>
    let index := words.length
    let word :=
      nextWord keyWords index constant (words.headD []) ((words.drop (keyWords - 1)).headD [])
    extend keyWords (if index % keyWords = 0 then double constant else constant) (word :: words)
      count

/-- The words of a key. -/
def keyWords (key : Key) : List Word :=
  (List.range (key.bytes.length / 4)).map fun index => (key.bytes.drop (4 * index)).take 4

/-- How many rounds follow the first addition of the key. -/
def rounds (key : Key) : Nat := key.bytes.length / 4 + 6

/-- The block of bytes, filled up with zeros at the end. -/
def blockOf (bytes : Bytes) : Block := Vector.ofFn fun index => bytes.getD index.val 0

/-- The keys of the rounds. -/
def roundKeys (key : Key) : List Block :=
  let words := keyWords key
  let count := 4 * (rounds key + 1)
  let all := (extend words.length 1 words.reverse (count - words.length)).reverse.flatten
  (List.range (rounds key + 1)).map fun index => blockOf ((all.drop (16 * index)).take 16)

/-- A state after its remaining rounds. The last one mixes no columns. -/
def finish (state : Block) : List Block → Block
  | [] => state
  | [last] => xorBlock (shiftRows (substituteBlock state)) last
  | roundKey :: rest =>
    finish (xorBlock (mixColumns (shiftRows (substituteBlock state))) roundKey) rest

/-- A block encrypted under the keys of the rounds. -/
def encryptWith (keys : List Block) (block : Block) : Block :=
  match keys with
  | [] => block
  | first :: rest => finish (xorBlock block first) rest

end Aes

end Reckoner
