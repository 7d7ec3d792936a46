import Reckoner.Expression.Scan
import Reckoner.Number.Literal
import Reckoner.Proofs.Number.Numeral

/-!
# Literals of digits and points

A literal of nothing but digits and points has no margin, no underscore, no sign and no word for it
to be read through, so it denotes a number exactly when its characters write an unsigned decimal.
-/

namespace Reckoner.Literal

open Expression (isNumeric)
open Text (isDigit digitsValue)

/-- A number character is a digit or a point. -/
theorem isNumeric_iff (char : Char) : isNumeric char = true ↔ isDigit char = true ∨ char = '.' := by
  rw [isNumeric, Bool.or_eq_true, beq_iff_eq]

/-- The number characters are the code points from the point to the digit nine, without the slash
between them. -/
theorem isNumeric_code {char : Char} (numeric : isNumeric char = true) :
    46 ≤ char.toNat ∧ char.toNat ≤ 57 := by
  cases (isNumeric_iff char).mp numeric with
  | inl digit =>
    have bounds := (Text.isDigit_iff char).mp digit
    omega
  | inr point =>
    rw [point]
    decide

/-- A number character is none that stands before it or behind it in code point order. -/
theorem isNumeric_ne {char other : Char} (numeric : isNumeric char = true)
    (outside : other.toNat < 46 ∨ 57 < other.toNat) : char ≠ other := by
  rintro rfl
  have bounds := isNumeric_code numeric
  omega

/-- A digit stands for itself. -/
theorem latinDigit_of_isDigit {char : Char} (digit : isDigit char = true) :
    latinDigit char = char := by
  have bounds := (Text.isDigit_iff char).mp digit
  have value : Text.digitValue? char = some (char.toNat - 48) := by
    have first : (Text.digitZeros.find? fun start =>
        start ≤ char.toNat && char.toNat < start + 10) = some 48 := by
      rw [Text.digitZeros]
      apply List.find?_cons_of_pos
      rw [Bool.and_eq_true, decide_eq_true_eq, decide_eq_true_eq]
      omega
    rw [Text.digitValue?, first]
    rfl
  have back : Text.digitChar (char.toNat - 48) = char := by
    rw [Text.digitChar, show '0'.toNat + (char.toNat - 48) = char.toNat from by
      change 48 + (char.toNat - 48) = char.toNat
      omega]
    exact Char.ofNat_toNat char
  rw [latinDigit, value]
  exact back

/-- A number character stands for itself. -/
theorem latinDigit_of_isNumeric {char : Char} (numeric : isNumeric char = true) :
    latinDigit char = char := by
  cases (isNumeric_iff char).mp numeric with
  | inl digit => exact latinDigit_of_isDigit digit
  | inr point =>
    rw [point]
    decide

/-- A number character is no blank. -/
theorem isBlank_of_isNumeric {char : Char} (numeric : isNumeric char = true) :
    Text.isBlank char = false := by
  have bounds := isNumeric_code numeric
  simp only [Text.isBlank, Bool.or_eq_false_iff, Bool.and_eq_false_iff, decide_eq_false_iff_not,
    beq_eq_false_iff_ne]
  omega

/-- Number characters have no margin. -/
theorem trimOf_of_isNumeric {chars : List Char} (numeric : ∀ char ∈ chars, isNumeric char = true) :
    Text.trimOf Integer.isMargin chars = chars := by
  have solid : ∀ char ∈ chars, Integer.isMargin char = false := fun char member => by
    rw [Integer.isMargin, isBlank_of_isNumeric (numeric char member), Bool.false_and]
  have front : chars.dropWhile Integer.isMargin = chars := by
    cases chars with
    | nil => rfl
    | cons first rest =>
      rw [List.dropWhile_cons_of_neg (by simp [solid first List.mem_cons_self])]
  have back : chars.reverse.dropWhile Integer.isMargin = chars.reverse := by
    cases reversed : chars.reverse with
    | nil => rfl
    | cons last rest =>
      have member : last ∈ chars := by
        rw [← List.mem_reverse, reversed]
        exact List.mem_cons_self
      rw [List.dropWhile_cons_of_neg (by simp [solid last member])]
  rw [Text.trimOf, Text.trimEndOf, front, back, List.reverse_reverse]

/-- Characters without an underscore lose none. -/
theorem dropUnderscores?_of_ne (previous : Option Char) (chars : List Char)
    (plain : ∀ char ∈ chars, char ≠ '_') : dropUnderscores? previous chars = some chars := by
  induction chars generalizing previous with
  | nil => rfl
  | cons first rest ih =>
    have other : first ≠ '_' := plain first List.mem_cons_self
    have tail := ih (some first) fun char member => plain char (List.mem_cons_of_mem first member)
    rw [dropUnderscores?]
    · rw [tail]
      rfl
    · exact other

/-- Number characters have no sign in front of them. -/
theorem takeSign_of_isNumeric {chars : List Char}
    (numeric : ∀ char ∈ chars, isNumeric char = true) :
    takeSign chars = (false, chars) := by
  cases chars with
  | nil => rfl
  | cons first rest =>
    have minus : first ≠ '-' := isNumeric_ne (numeric first List.mem_cons_self) (by decide)
    have plus : first ≠ '+' := isNumeric_ne (numeric first List.mem_cons_self) (by decide)
    rw [takeSign]
    · exact fun _ same => minus (List.cons.inj same).1
    · exact fun _ same => plus (List.cons.inj same).1

/-- A word that begins with a letter is not made of number characters. -/
theorem lowerLetter_ne_word {chars : List Char} (numeric : ∀ char ∈ chars, isNumeric char = true)
    (letter : Char) (rest : List Char) (high : 57 < letter.toNat) :
    String.ofList (chars.map lowerLetter) ≠ String.ofList (letter :: rest) := by
  intro same
  have word := String.ofList_injective same
  cases chars with
  | nil => cases word
  | cons first tail =>
    have bounds := isNumeric_code (numeric first List.mem_cons_self)
    have kept : lowerLetter first = first := by
      rw [lowerLetter, if_neg]
      rw [Bool.and_eq_true, decide_eq_true_eq, decide_eq_true_eq]
      rintro ⟨upper, -⟩
      have least : 65 ≤ first.toNat := upper
      omega
    have same : first = letter := by
      rw [List.map_cons, kept] at word
      exact (List.cons.inj word).1
    exact isNumeric_ne (numeric first List.mem_cons_self) (.inr high) same

/-- A literal of digits and points denotes the number of the unsigned decimal that it writes. -/
theorem parse?_of_isNumeric {chars : List Char} (numeric : ∀ char ∈ chars, isNumeric char = true) :
    parse? chars = (decimal? chars).map (Decimal.toBinary64 false) := by
  have latin : chars.map latinDigit = chars :=
    calc chars.map latinDigit = chars.map id :=
        List.map_congr_left fun char member => latinDigit_of_isNumeric (numeric char member)
      _ = chars := List.map_id chars
  have joined : dropUnderscores? none chars = some chars :=
    dropUnderscores?_of_ne none chars fun char member =>
      isNumeric_ne (numeric char member) (by decide)
  have inf := lowerLetter_ne_word numeric 'i' ['n', 'f'] (by decide)
  have infinity := lowerLetter_ne_word numeric 'i' ['n', 'f', 'i', 'n', 'i', 't', 'y'] (by decide)
  have nan := lowerLetter_ne_word numeric 'n' ['a', 'n'] (by decide)
  rw [parse?, trimOf_of_isNumeric numeric, latin, joined]
  simp only [takeSign_of_isNumeric numeric]
  rw [if_neg (not_or.mpr ⟨inf, infinity⟩), if_neg nan]

/-- The digits at the front of digits before something else. -/
theorem takeWhile_digits {whole : List Char} (digits : ∀ char ∈ whole, isDigit char = true)
    (rest : List Char) (ends : ∀ char, rest.head? = some char → isDigit char = false) :
    (whole ++ rest).takeWhile isDigit = whole ∧ (whole ++ rest).dropWhile isDigit = rest := by
  rw [List.takeWhile_append_of_pos digits, List.dropWhile_append_of_pos digits]
  cases rest with
  | nil => simp
  | cons first tail =>
    have stop := ends first rfl
    rw [List.takeWhile_cons_of_neg (by simp [stop]), List.dropWhile_cons_of_neg (by simp [stop]),
      List.append_nil]
    exact ⟨rfl, rfl⟩

/-- Digits alone write the number of the digits. -/
theorem decimal?_whole {whole : List Char} (some_digit : whole ≠ [])
    (digits : ∀ char ∈ whole, isDigit char = true) :
    decimal? whole = some ⟨digitsValue whole, 0⟩ := by
  have parts := takeWhile_digits digits [] (by simp)
  rw [List.append_nil] at parts
  have nonempty : whole.isEmpty = false := by simpa using some_digit
  simp only [decimal?, parts.1, parts.2, takeFraction, List.append_nil, nonempty,
    Bool.false_eq_true, ↓reduceIte, exponent?, Option.map_some, List.length_nil]
  rfl

/-- Digits around a point write the number of all digits, shifted by those behind the point. -/
theorem decimal?_pointed {whole fraction : List Char} (some_digit : whole ++ fraction ≠ [])
    (wholeDigits : ∀ char ∈ whole, isDigit char = true)
    (fractionDigits : ∀ char ∈ fraction, isDigit char = true) :
    decimal? (whole ++ '.' :: fraction) =
      some ⟨digitsValue (whole ++ fraction), 0 - (fraction.length : Int)⟩ := by
  have parts := takeWhile_digits wholeDigits ('.' :: fraction) (by
    intro char head
    rw [List.head?_cons, Option.some.injEq] at head
    rw [← head]
    rfl)
  have tail := takeWhile_digits fractionDigits [] (by simp)
  rw [List.append_nil] at tail
  have nonempty : (whole ++ fraction).isEmpty = false := by
    rw [Bool.eq_false_iff, ne_eq, List.isEmpty_iff]
    exact some_digit
  simp only [decimal?, parts.1, parts.2, takeFraction, tail.1, tail.2, nonempty,
    Bool.false_eq_true, ↓reduceIte, exponent?, Option.map_some]

end Reckoner.Literal
