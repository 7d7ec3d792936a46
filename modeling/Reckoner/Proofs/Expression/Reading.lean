import Reckoner.Expression.Evaluate
import Reckoner.Proofs.Number.Literal
import Reckoner.Proofs.Number.Nearest

/-!
# What number tokens denote

A run of digits and points denotes a number exactly when it has a digit, no more than one point and
a value that does not round beyond the greatest finite number. The number is then the nearest to the
value, and a run that denotes none is named in full by the fault (`readNumber_nearest`).
-/

namespace Reckoner

/-! ## Digits and points -/

namespace Literal

open Expression (isNumeric)
open Text (isDigit digitsValue)

/-- The value that digits around at most one point write. -/
def written (chars : List Char) : ℚ :=
  let whole := chars.takeWhile isDigit
  let fraction := (chars.dropWhile isDigit).tail
  digitsValue whole + digitsValue fraction / 10 ^ fraction.length

/-- Digits and points have a digit and no more than one point. -/
def WellFormed (chars : List Char) : Prop :=
  (∃ char ∈ chars, isDigit char = true) ∧ chars.count '.' ≤ 1

/-- Number characters are digits, and behind them nothing or a point with number characters. -/
theorem exists_digits {chars : List Char} (numeric : ∀ char ∈ chars, isNumeric char = true) :
    ∃ digits, (∀ char ∈ digits, isDigit char = true) ∧ (chars = digits ∨
      ∃ rest, chars = digits ++ '.' :: rest ∧ ∀ char ∈ rest, isNumeric char = true) := by
  have parts : chars.takeWhile isDigit ++ chars.dropWhile isDigit = chars :=
    List.takeWhile_append_dropWhile
  refine ⟨chars.takeWhile isDigit, List.all_eq_true.mp List.all_takeWhile, ?_⟩
  cases behind : chars.dropWhile isDigit with
  | nil =>
    rw [behind, List.append_nil] at parts
    exact .inl parts.symm
  | cons first rest =>
    have stop := List.head?_dropWhile_not isDigit chars
    rw [behind] at parts stop
    have inside (char : Char) (member : char ∈ first :: rest) : isNumeric char = true :=
      numeric char (parts ▸ List.mem_append_right _ member)
    have other : isDigit first = false := by simpa using stop
    rcases (isNumeric_iff first).mp (inside first List.mem_cons_self) with digit | rfl
    · rw [digit] at other
      cases other
    · exact .inr ⟨rest, parts.symm, fun char member => inside char (List.mem_cons_of_mem _ member)⟩

/-- Digits hold no point. -/
theorem count_digits {chars : List Char} (digits : ∀ char ∈ chars, isDigit char = true) :
    chars.count '.' = 0 :=
  List.count_eq_zero_of_not_mem fun member => absurd (digits '.' member) (by decide)

section

variable {whole fraction : List Char} (wholeDigits : ∀ char ∈ whole, isDigit char = true)
  (fractionDigits : ∀ char ∈ fraction, isDigit char = true)

include wholeDigits

/-- Digits alone are well formed unless there are none. -/
theorem wellFormed_whole : WellFormed whole ↔ whole ≠ [] := by
  constructor
  · rintro ⟨⟨char, member, -⟩, -⟩
    exact List.ne_nil_of_mem member
  · intro some_digit
    obtain ⟨char, member⟩ := List.exists_mem_of_ne_nil whole some_digit
    exact ⟨⟨char, member, wholeDigits char member⟩, by rw [count_digits wholeDigits]; decide⟩

/-- Digits alone write their number. -/
theorem written_whole : written whole = digitsValue whole := by
  have parts := takeWhile_digits wholeDigits [] (by simp)
  rw [List.append_nil] at parts
  rw [written, parts.1, parts.2]
  simp [digitsValue]

/-- The parts of digits in front of a point. -/
theorem takeWhile_pointed (rest : List Char) :
    (whole ++ '.' :: rest).takeWhile isDigit = whole ∧
      (whole ++ '.' :: rest).dropWhile isDigit = '.' :: rest :=
  takeWhile_digits wholeDigits ('.' :: rest) (by
    intro char head
    rw [List.head?_cons, Option.some.injEq] at head
    rw [← head]
    rfl)

/-- Digits in front of a point and digits behind it write the number of all of them, over the power
of ten of those behind. -/
theorem written_pointed (fraction : List Char) :
    written (whole ++ '.' :: fraction) =
      digitsValue (whole ++ fraction) / 10 ^ fraction.length := by
  have parts := takeWhile_pointed wholeDigits fraction
  have power : (10 : ℚ) ^ fraction.length ≠ 0 := pow_ne_zero _ (by norm_num)
  rw [written, parts.1, parts.2, List.tail_cons, Text.digitsValue_append, Nat.cast_add,
    Nat.cast_mul, Nat.cast_pow, Nat.cast_ofNat, add_div, mul_div_cancel_right₀ _ power]

include fractionDigits

/-- Digits around a point are well formed unless there are none. -/
theorem wellFormed_pointed : WellFormed (whole ++ '.' :: fraction) ↔ whole ++ fraction ≠ [] := by
  have points : (whole ++ '.' :: fraction).count '.' = 1 := by
    rw [List.count_append, List.count_cons_self, count_digits wholeDigits,
      count_digits fractionDigits]
  constructor
  · rintro ⟨⟨char, member, digit⟩, -⟩
    rw [List.mem_append, List.mem_cons] at member
    rcases member with inside | rfl | inside
    · exact List.ne_nil_of_mem (List.mem_append_left _ inside)
    · cases digit
    · exact List.ne_nil_of_mem (List.mem_append_right _ inside)
  · intro some_digit
    obtain ⟨char, member⟩ := List.exists_mem_of_ne_nil _ some_digit
    refine ⟨⟨char, ?_⟩, Nat.le_of_eq points⟩
    rcases List.mem_append.mp member with inside | inside
    · exact ⟨List.mem_append_left _ inside, wholeDigits char inside⟩
    · exact ⟨List.mem_append_right _ (List.mem_cons_of_mem _ inside), fractionDigits char inside⟩

/-- Characters with a second point are not well formed. -/
theorem not_wellFormed_twice (rest : List Char) :
    ¬ WellFormed (whole ++ '.' :: (fraction ++ '.' :: rest)) := by
  rintro ⟨-, points⟩
  rw [List.count_append, List.count_cons_self, List.count_append, List.count_cons_self,
    count_digits wholeDigits, count_digits fractionDigits] at points
  omega

/-- Characters with a second point write no decimal. -/
theorem decimal?_twice (rest : List Char) :
    decimal? (whole ++ '.' :: (fraction ++ '.' :: rest)) = none := by
  have first := takeWhile_pointed wholeDigits (fraction ++ '.' :: rest)
  have second := takeWhile_pointed fractionDigits rest
  have unread (bound : Nat) : exponent? bound ('.' :: rest) = none := by
    rw [exponent?, if_neg (by decide)]
  simp only [decimal?, first.1, first.2, takeFraction, second.1, second.2, unread, Option.map_none,
    ite_self]

end

/-- Number characters write a decimal exactly when they are well formed, and it is that of their
value. -/
theorem decimal?_of_isNumeric {chars : List Char}
    (numeric : ∀ char ∈ chars, isNumeric char = true) :
    (WellFormed chars → ∃ digits places : Nat,
        decimal? chars = some ⟨digits, 0 - (places : Int)⟩ ∧
          written chars = digits / 10 ^ places) ∧
      (¬ WellFormed chars → decimal? chars = none) := by
  obtain ⟨whole, wholeDigits, rfl | ⟨rest, rfl, restNumeric⟩⟩ := exists_digits numeric
  · rw [wellFormed_whole wholeDigits, not_not]
    refine ⟨fun some_digit => ⟨digitsValue chars, 0, decimal?_whole some_digit wholeDigits, ?_⟩, ?_⟩
    · rw [written_whole wholeDigits, pow_zero, div_one]
    · rintro rfl
      rfl
  obtain ⟨fraction, fractionDigits, rfl | ⟨more, rfl, -⟩⟩ := exists_digits restNumeric
  · rw [wellFormed_pointed wholeDigits fractionDigits, not_not]
    refine ⟨fun some_digit => ⟨_, _, decimal?_pointed some_digit wholeDigits fractionDigits,
      written_pointed wholeDigits _⟩, fun none => ?_⟩
    obtain ⟨rfl, rfl⟩ := List.append_eq_nil_iff.mp none
    rfl
  · exact ⟨fun formed => absurd formed (not_wellFormed_twice wholeDigits fractionDigits more),
      fun _ => decimal?_twice wholeDigits fractionDigits more⟩

end Literal

/-! ## Number tokens -/

namespace Expression

section

variable {text : String} (numeric : ∀ char ∈ text.toList, isNumeric char = true)

include numeric

/-- Number characters that are well formed and whose value is not too great are read as the number
nearest to it. -/
theorem readNumber_of_lt (formed : Literal.WellFormed text.toList)
    (less : Literal.written text.toList < 2 ^ 1024 - 2 ^ 970) :
    ∃ number, readNumber text = .ok number ∧ number.IsNearest (Literal.written text.toList) ∧
      (number = .zero ↔ Literal.written text.toList ≤ 1 / 2 ^ 1075) := by
  obtain ⟨digits, places, decimal, value⟩ := (Literal.decimal?_of_isNumeric numeric).1 formed
  have reading := Literal.parse?_of_isNumeric numeric
  rw [decimal, Option.map_some] at reading
  rw [value] at less ⊢
  obtain ⟨finite, nearest⟩ := (Decimal.toBinary64_fraction digits places).1 less
  refine ⟨_, ?_, nearest⟩
  rw [readNumber, reading]
  exact if_neg (Bool.eq_false_iff.mp finite)

/-- Number characters that are not well formed or whose value is too great are named by the
fault. -/
theorem readNumber_of_not_lt (outside : ¬ (Literal.WellFormed text.toList ∧
      Literal.written text.toList < 2 ^ 1024 - 2 ^ 970)) :
    readNumber text = .error (.fault (.invalidNumber text)) := by
  have reading := Literal.parse?_of_isNumeric numeric
  obtain ⟨sound, malformed⟩ := Literal.decimal?_of_isNumeric numeric
  by_cases formed : Literal.WellFormed text.toList
  · obtain ⟨digits, places, decimal, value⟩ := sound formed
    rw [decimal, Option.map_some] at reading
    rw [value] at outside
    have infinite := (Decimal.toBinary64_fraction digits places).2 fun less => outside ⟨formed, less⟩
    rw [readNumber, reading]
    exact if_pos infinite
  · rw [malformed formed, Option.map_none] at reading
    rw [readNumber, reading]

end

/-- Number characters are read exactly when they are well formed and their value is less than half a
step beyond the greatest finite number. The number is then the finite one nearest to the value, and
zero exactly when the value is no more than half of the least positive number. Number characters
that are not read are named by the fault. -/
theorem readNumber_nearest {text : String}
    (numeric : ∀ char ∈ text.toList, isNumeric char = true) :
    let value := Literal.written text.toList
    ((∃ number, readNumber text = .ok number) ↔
        Literal.WellFormed text.toList ∧ value < 2 ^ 1024 - 2 ^ 970) ∧
      (∀ number, readNumber text = .ok number →
        number.IsNearest value ∧ (number = .zero ↔ value ≤ 1 / 2 ^ 1075)) ∧
      ((¬ ∃ number, readNumber text = .ok number) →
        readNumber text = .error (.fault (.invalidNumber text))) := by
  intro value
  have admitted {number : Binary64} (read : readNumber text = .ok number) :
      Literal.WellFormed text.toList ∧ value < 2 ^ 1024 - 2 ^ 970 := by
    by_contra outside
    rw [readNumber_of_not_lt numeric outside] at read
    cases read
  have accepted (formed : Literal.WellFormed text.toList) (less : value < 2 ^ 1024 - 2 ^ 970) :=
    readNumber_of_lt numeric formed less
  refine ⟨⟨?_, ?_⟩, ?_, ?_⟩
  · rintro ⟨number, read⟩
    exact admitted read
  · rintro ⟨formed, less⟩
    obtain ⟨number, read, -⟩ := accepted formed less
    exact ⟨number, read⟩
  · intro number read
    obtain ⟨formed, less⟩ := admitted read
    obtain ⟨other, same, nearest⟩ := accepted formed less
    rw [read] at same
    cases same
    exact nearest
  · intro unread
    refine readNumber_of_not_lt numeric ?_
    rintro ⟨formed, less⟩
    obtain ⟨number, read, -⟩ := accepted formed less
    exact unread ⟨number, read⟩

/-- The natural number half a step beyond the greatest finite number is not read, and the one in
front of it is. -/
theorem readNumber_nearest_limit :
    let text (count : Nat) := String.ofList (Decimal.numeral count)
    let limit : Nat := 2 ^ 1024 - 2 ^ 970
    (∀ count, ∀ char ∈ (text count).toList, isNumeric char = true) ∧
      readNumber (text limit) = .error (.fault (.invalidNumber (text limit))) ∧
      ∃ number, readNumber (text (limit - 1)) = .ok number ∧
        number.IsNearest (Literal.written (text (limit - 1)).toList) := by
  intro text limit
  have digits (count : Nat) : ∀ char ∈ (text count).toList, Text.isDigit char = true := by
    rw [String.toList_ofList]
    exact Decimal.numeral_digits count
  have numeric (count : Nat) : ∀ char ∈ (text count).toList, isNumeric char = true :=
    fun char member => (Literal.isNumeric_iff char).mpr (.inl (digits count char member))
  have formed (count : Nat) : Literal.WellFormed (text count).toList := by
    rw [Literal.wellFormed_whole (digits count), String.toList_ofList]
    exact Decimal.numeral_ne_nil count
  have value (count : Nat) : Literal.written (text count).toList = count := by
    rw [Literal.written_whole (digits count), String.toList_ofList, Decimal.digitsValue_numeral]
  -- The powers stay unevaluated: the exponents are variables until the end.
  have powers {less more : Nat} (order : less < more) : 2 ^ less < 2 ^ more :=
    Nat.pow_lt_pow_right (by decide) order
  have cast {less more : Nat} (order : less < more) :
      ((2 ^ more - 2 ^ less : Nat) : ℚ) = 2 ^ more - 2 ^ less := by
    rw [Nat.cast_sub (Nat.le_of_lt (powers order)), Nat.cast_pow, Nat.cast_pow, Nat.cast_ofNat]
  have order : 970 < 1024 := by decide
  have bound : (limit : ℚ) = 2 ^ 1024 - 2 ^ 970 := cast order
  have before : ((limit - 1 : Nat) : ℚ) < 2 ^ 1024 - 2 ^ 970 := by
    rw [← bound, Nat.cast_lt]
    exact Nat.sub_lt (Nat.sub_pos_of_lt (powers order)) Nat.one_pos
  refine ⟨numeric, ?_, ?_⟩
  · obtain ⟨reads, -, refused⟩ := readNumber_nearest (numeric limit)
    refine refused fun read => ?_
    have less := (reads.mp read).2
    rw [value limit, bound] at less
    exact lt_irrefl _ less
  · obtain ⟨reads, nearest, -⟩ := readNumber_nearest (numeric (limit - 1))
    rw [← value (limit - 1)] at before
    obtain ⟨number, read⟩ := reads.mpr ⟨formed (limit - 1), before⟩
    exact ⟨number, read, (nearest number read).1⟩

end Expression

end Reckoner
