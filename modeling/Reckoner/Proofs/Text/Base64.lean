import Reckoner.Proofs.Result
import Reckoner.Proofs.Text.Lines
import Reckoner.Text.Base64

/-!
# Base64 texts come back as the bytes that they write

Bytes are written in groups of three as four letters of an alphabet of sixty-four; of an incomplete
group only the letters with bits of a byte are written, and equals signs stand for the others. The
bytes are read back from this text, whichever of the three shapes its end has (`decode_encode`).
Whatever text bytes are read from, it has no characters but letters and equals signs
(`isCode_of_decode`).
-/

namespace Reckoner.Text.Base64

/-! ## The writer -/

/-- The letters in the order of their values. -/
def alphabet : List Char :=
  "ABCDEFGHIJKLMNOPQRSTUVWXYZabcdefghijklmnopqrstuvwxyz0123456789+/".toList

/-- The letter of a value. -/
def letter (value : Nat) : Char := alphabet.getD value 'A'

/-- The values of six bits that bytes are cut into; the last is filled up with zeros. -/
def sextetsOf : Bytes → List Nat
  | first :: second :: third :: rest =>
    first.toNat / 4 :: (16 * (first.toNat % 4) + second.toNat / 16) ::
      (4 * (second.toNat % 16) + third.toNat / 64) :: third.toNat % 64 :: sextetsOf rest
  | [first, second] =>
    [first.toNat / 4, 16 * (first.toNat % 4) + second.toNat / 16, 4 * (second.toNat % 16)]
  | [first] => [first.toNat / 4, 16 * (first.toNat % 4)]
  | [] => []

/-- The equals signs that complete a last group of four. -/
def padding (count : Nat) : List Char := List.replicate ((3 - count % 3) % 3) '='

/-- The text that writes bytes. -/
def encode (bytes : Bytes) : List Char := (sextetsOf bytes).map letter ++ padding bytes.length

/-! ## Letters -/

/-- A letter is read as its value. -/
theorem sextet?_letter : ∀ value < 64, sextet? (letter value) = some value := by
  decide +kernel

/-- An equals sign is no letter. -/
theorem sextet?_equals : sextet? '=' = none := by decide

/-- A character of a text that writes bytes. -/
def IsCode (char : Char) : Prop := char = '=' ∨ ∃ value, sextet? char = some value

/-- A letter is no equals sign. -/
theorem letter_ne_equals {value : Nat} (small : value < 64) : letter value ≠ '=' := by
  intro same
  have read := sextet?_letter value small
  rw [same, sextet?_equals] at read
  cases read

/-- A character of a text that writes bytes is one of ASCII and no blank. -/
theorem IsCode.plain {char : Char} (code : IsCode char) :
    char.toNat ≤ 0x7f ∧ isBlank char = false := by
  have bounds : 43 ≤ char.toNat ∧ char.toNat ≤ 122 := by
    rcases code with rfl | ⟨value, read⟩
    · decide
    by_contra outside
    have beyond (low high : Char) (least : 43 ≤ low.toNat) (most : high.toNat ≤ 122) :
        (low ≤ char && char ≤ high) = false := by
      refine Bool.eq_false_iff.mpr fun inside => outside ?_
      rw [Bool.and_eq_true, decide_eq_true_eq, decide_eq_true_eq] at inside
      exact ⟨Nat.le_trans least inside.1, Nat.le_trans inside.2 most⟩
    have other (mark : Char) (least : 43 ≤ mark.toNat) (most : mark.toNat ≤ 122) : char ≠ mark :=
      fun same => outside (same ▸ ⟨least, most⟩)
    rw [sextet?, beyond 'A' 'Z' (by decide) (by decide), beyond 'a' 'z' (by decide) (by decide),
      beyond '0' '9' (by decide) (by decide), if_neg (other '+' (by decide) (by decide)),
      if_neg (other '/' (by decide) (by decide))] at read
    cases read
  refine ⟨by omega, ?_⟩
  simp only [isBlank, Bool.or_eq_false_iff, Bool.and_eq_false_iff, decide_eq_false_iff_not,
    beq_eq_false_iff_ne]
  omega

/-- Texts that bytes are read from have no characters but those that write bytes. -/
theorem isCode_of_sextets {chars : List Char} {count missing : Nat} {padded : Bool}
    {values : List Nat} (read : sextets count missing padded chars = .ok values) :
    ∀ char ∈ chars, IsCode char := by
  induction chars generalizing count missing padded values with
  | nil => exact fun _ none => absurd none List.not_mem_nil
  | cons first rest ih =>
    rw [sextets] at read
    rw [List.forall_mem_cons]
    split at read
    · rename_i equals
      refine ⟨.inl equals, ?_⟩
      split at read
      · split at read
        · split at read
          · rename_i last
            rw [List.isEmpty_iff.mp last]
            exact fun _ none => absurd none List.not_mem_nil
          · cases read
        · exact ih read
      · exact ih read
    · cases data : sextet? first with
      | none =>
        rw [data] at read
        cases read
      | some value =>
        rw [data] at read
        refine ⟨.inr ⟨value, data⟩, ?_⟩
        dsimp only at read
        split at read
        · cases read
        · obtain ⟨others, later, -⟩ := map_eq_ok read
          exact ih later

/-- Texts that bytes are read from have no characters but those that write bytes. -/
theorem isCode_of_decode {chars : List Char} {bytes : Bytes} (read : decode chars = .ok bytes) :
    ∀ char ∈ chars, IsCode char := by
  rw [decode] at read
  split at read
  · cases read
  · obtain ⟨values, scanned, -⟩ := map_eq_ok read
    exact isCode_of_sextets scanned

/-! ## The round trip -/

/-- The values that bytes are cut into are those of letters. -/
theorem sextetsOf_lt (bytes : Bytes) : ∀ value ∈ sextetsOf bytes, value < 64 := by
  fun_induction sextetsOf bytes with
  | case1 first second third rest ih =>
    have := first.toNat_lt
    have := second.toNat_lt
    have := third.toNat_lt
    simp only [List.forall_mem_cons]
    exact ⟨by omega, by omega, by omega, by omega, ih⟩
  | case2 first second =>
    have := first.toNat_lt
    have := second.toNat_lt
    simp only [List.forall_mem_cons]
    exact ⟨by omega, by omega, by omega, fun _ none => absurd none List.not_mem_nil⟩
  | case3 first =>
    have := first.toNat_lt
    simp only [List.forall_mem_cons]
    exact ⟨by omega, by omega, fun _ none => absurd none List.not_mem_nil⟩
  | case4 => exact fun _ none => absurd none List.not_mem_nil

/-- Three bytes are cut into four values, and two bytes or one that are left over into one value
more. -/
theorem length_sextetsOf (bytes : Bytes) :
    (sextetsOf bytes).length = (4 * bytes.length + 2) / 3 := by
  fun_induction sextetsOf bytes with
  | case1 first second third rest ih =>
    simp only [List.length_cons, ih]
    omega
  | case2 first second => simp only [List.length_cons, List.length_nil]
  | case3 first => simp only [List.length_cons, List.length_nil]
  | case4 => rfl

/-- The values that bytes are cut into make up the bytes. -/
theorem bytesOf_sextetsOf (bytes : Bytes) : bytesOf (sextetsOf bytes) = bytes := by
  have byte {number : Nat} {value : UInt8} (same : number = value.toNat) :
      UInt8.ofNat number = value := by rw [same, UInt8.ofNat_toNat]
  fun_induction sextetsOf bytes with
  | case1 first second third rest ih =>
    have := second.toNat_lt
    have := third.toNat_lt
    rw [bytesOf, ih, @byte _ first (by omega), @byte _ second (by omega), @byte _ third (by omega)]
  | case2 first second =>
    have := second.toNat_lt
    rw [bytesOf, @byte _ first (by omega), @byte _ second (by omega)]
  | case3 first => rw [bytesOf, @byte _ first (by omega)]
  | case4 => rfl

/-- Letters are read as their values, and then what follows them. -/
theorem sextets_letters {values : List Nat} (small : ∀ value ∈ values, value < 64) (count : Nat)
    (rest : List Char) :
    sextets count 0 false (values.map letter ++ rest) =
      (sextets (count + values.length) 0 false rest).map (values ++ ·) := by
  induction values generalizing count with
  | nil =>
    show sextets count 0 false rest = (sextets count 0 false rest).map id
    cases sextets count 0 false rest <;> rfl
  | cons value others ih =>
    obtain ⟨bound, smaller⟩ := List.forall_mem_cons.mp small
    rw [List.map_cons, List.cons_append, sextets, if_neg (letter_ne_equals bound),
      sextet?_letter value bound]
    simp only [Bool.false_eq_true, if_false]
    rw [ih smaller, List.length_cons, Nat.add_right_comm, Nat.add_assoc, map_map]
    rfl

/-- The equals signs that complete the values of bytes end the text. -/
theorem sextets_padding (bytes : Bytes) :
    sextets (sextetsOf bytes).length 0 false (padding bytes.length) = .ok [] := by
  have length := length_sextetsOf bytes
  generalize (sextetsOf bytes).length = count at *
  have shape : bytes.length % 3 = 0 ∨ bytes.length % 3 = 1 ∨ bytes.length % 3 = 2 := by omega
  rcases shape with none | one | two
  · have whole : count % 4 = 0 := by omega
    rw [padding, none]
    show atEnd count = _
    rw [atEnd, if_pos whole]
  · have rest : count % 4 = 2 := by omega
    rw [padding, one]
    show sextets count 0 false ['=', '='] = _
    simp only [sextets, rest]
    rfl
  · have rest : count % 4 = 3 := by omega
    rw [padding, two]
    show sextets count 0 false ['='] = _
    simp only [sextets, rest]
    rfl

/-- A text that writes bytes does not begin with an equals sign. -/
theorem head?_encode (bytes : Bytes) : (encode bytes).head? ≠ some '=' := by
  have letters := sextetsOf_lt bytes
  rw [encode]
  cases values : sextetsOf bytes with
  | nil =>
    have length := length_sextetsOf bytes
    rw [values, List.length_nil] at length
    have none : bytes.length = 0 := by omega
    rw [none]
    decide
  | cons first rest =>
    rw [values] at letters
    have other := letter_ne_equals (letters first List.mem_cons_self)
    simpa using other

/-- The bytes that a text writes are read back from it. -/
theorem decode_encode (bytes : Bytes) : decode (encode bytes) = .ok bytes := by
  have letters := sextets_letters (sextetsOf_lt bytes) 0 (padding bytes.length)
  rw [Nat.zero_add, sextets_padding] at letters
  rw [decode, if_neg (head?_encode bytes), encode, letters]
  show Except.ok (bytesOf (sextetsOf bytes ++ [])) = _
  rw [List.append_nil, bytesOf_sextetsOf]

/-- Blanks around a text that writes bytes are taken from it, and nothing else. -/
theorem strips_encode (bytes : Bytes) {front back : List Char}
    (blank : ∀ char ∈ front ++ back, isBlank char = true) :
    Strips (front ++ encode bytes ++ back) (encode bytes) := by
  have solid : ∀ char ∈ encode bytes, isBlank char = false :=
    fun char member => (isCode_of_decode (decode_encode bytes) char member).plain.2
  exact ⟨⟨front, back, rfl, blank⟩, fun char first => solid char (List.mem_of_head? first),
    fun char last => solid char (List.mem_of_getLast? last)⟩

/-- The text of two bytes ends with one equals sign. -/
example : encode [0x6b, 0xff] = ['a', '/', '8', '='] := by decide +kernel

end Reckoner.Text.Base64
