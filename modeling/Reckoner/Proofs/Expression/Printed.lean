import Reckoner.Proofs.Expression.Agreement
import Reckoner.Proofs.Number.Plain
import Reckoner.Proofs.Number.Zero

/-!
# Printed numbers

A finite number is printed as an expression of its own: the shortest decimal of its magnitude,
behind a minus when it is negative. Evaluating that expression gives the number back, so printing
loses nothing but the sign of zero.
-/

namespace Reckoner.Expression

open Decimal (plain shortest IsPlain)

/-! ## Texts of lexemes -/

/-- A character of a lexeme is not blank. -/
theorem isBlank_of_mem_chars {lexeme : Lexeme} :
    ∀ char ∈ lexeme.chars, Text.isBlank char = false := by
  cases lexeme with
  | numeral word => exact fun char member => Literal.isBlank_of_isNumeric (word.numeric char member)
  | operator operator =>
    rw [Lexeme.chars, List.forall_mem_singleton]
    cases operator <;> decide
  | opening =>
    rw [Lexeme.chars, List.forall_mem_singleton]
    decide
  | closing =>
    rw [Lexeme.chars, List.forall_mem_singleton]
    decide

/-- The characters of lexemes spell them. -/
theorem spells_spelling (lexemes : List Lexeme) :
    Spells (String.ofList (spelling lexemes)) lexemes := by
  rw [Spells, visible, String.toList_ofList, List.filter_eq_self]
  intro char member
  obtain ⟨lexeme, -, inside⟩ := List.mem_flatMap.mp member
  rw [isBlank_of_mem_chars char inside]
  rfl

/-! ## The phrase of a number -/

/-- The numeral of a magnitude. -/
def magnitude (rank : Fin Binary64.ceiling) : Numeral where
  chars := plain (shortest rank)
  nonempty := by
    obtain ⟨whole, fraction, parts, isWhole, -⟩ := Decimal.plain_parts (shortest rank)
    rw [parts]
    exact List.append_ne_nil_of_left_ne_nil isWhole.ne_nil fraction
  numeric := Decimal.plain_numeric _

/-- The characters of a magnitude are those of its shortest decimal. -/
theorem magnitude_chars (rank : Fin Binary64.ceiling) :
    (magnitude rank).chars = plain (shortest rank) := by
  rw [magnitude]

/-- The minus of a negative number. -/
def signLexemes (negative : Bool) (rank : Fin Binary64.ceiling) : List Lexeme :=
  if negative && rank.val != 0 then [.operator .sub] else []

/-- The phrase of a finite number. -/
def printed (negative : Bool) (rank : Fin Binary64.ceiling) : Phrase .sum :=
  let word := Phrase.atom (.numeral (magnitude rank))
  .term (.sign (if negative && rank.val != 0 then .negation word else word))

/-- A number is printed with its sign in front of its magnitude. -/
theorem printed_lexemes (negative : Bool) (rank : Fin Binary64.ceiling) :
    (printed negative rank).lexemes = signLexemes negative rank ++ [.numeral (magnitude rank)] := by
  rw [printed, signLexemes, Phrase.lexemes, Phrase.lexemes]
  split <;> rfl

/-- The numeral of a magnitude has the value of the magnitude. -/
theorem magnitude_value (rank : Fin Binary64.ceiling) :
    (magnitude rank).value = .ok (.finite false rank) := by
  rw [Numeral.value, magnitude_chars, Decimal.parse?_plain_shortest]
  rfl

/-- A printed number has the value of the number, but for the sign of zero. -/
theorem printed_outcome (negative : Bool) (rank : Fin Binary64.ceiling) :
    (printed negative rank).outcome = .ok (.unsignZero (.finite negative rank)) := by
  have value : (printed negative rank).value = .ok (.unsignZero (.finite negative rank)) := by
    rw [printed, Phrase.value, Phrase.value]
    cases sign : negative && rank.val != 0 with
    | false =>
      rw [Binary64.unsignZero, sign]
      exact magnitude_value rank
    | true =>
      have minus : negative = true := (Bool.and_eq_true_iff.mp sign).1
      rw [if_pos rfl, Phrase.value, Phrase.value, Phrase.value, magnitude_value, minus,
        ← Binary64.zero_sub]
      rfl
  rw [Phrase.outcome, value]
  rfl

/-! ## Printing -/

/-- Zero is printed as the digit. -/
theorem plain_shortest_zero : plain (shortest 0) = ['0'] := by decide +kernel

/-- A finite number is printed as its phrase is spelled. -/
theorem format_finite (negative : Bool) (rank : Fin Binary64.ceiling) :
    format (.finite negative rank) =
      .ok (String.ofList (spelling (printed negative rank).lexemes)) := by
  rw [format, printed_lexemes, signLexemes]
  by_cases zero : rank.val = 0
  · have digit : (magnitude rank).chars = ['0'] := by
      rw [magnitude_chars, zero, plain_shortest_zero]
    rw [if_pos zero, zero, bne_self_eq_false, Bool.and_false, if_neg Bool.false_ne_true,
      List.nil_append, spelling, List.flatMap_singleton, Lexeme.chars, digit]
  · rw [if_neg zero, bne_iff_ne.mpr zero, Bool.and_true, spelling, List.flatMap_append,
      List.flatMap_singleton, Lexeme.chars, magnitude_chars]
    cases negative <;> rfl

/-- Whatever is printed is a finite number. -/
theorem finite_of_format {value : Binary64} {text : String} (written : format value = .ok text) :
    ∃ negative rank, value = .finite negative rank := by
  cases value with
  | finite negative rank => exact ⟨negative, rank, rfl⟩
  | infinite negative => cases written
  | nan => cases written

/-- A printed number is evaluated to the number, but for the sign of zero. -/
theorem compute_format {value : Binary64} {text : String} (written : format value = .ok text) :
    compute text = .ok value.unsignZero := by
  obtain ⟨negative, rank, rfl⟩ := finite_of_format written
  rw [format_finite, Except.ok.injEq] at written
  rw [← written, compute_of_spells (spells_spelling _), printed_outcome]
  rfl

/-- The sign of zero is not printed. -/
theorem format_unsignZero (value : Binary64) : format value.unsignZero = format value := by
  cases value with
  | infinite negative => rfl
  | nan => rfl
  | finite negative rank =>
    by_cases zero : rank.val = 0
    · rw [Binary64.unsignZero, format, format, if_pos zero, if_pos zero]
    · rw [Binary64.unsignZero_of_ne zero]

/-- A printed number is a plain decimal. -/
theorem isPlain_printed (negative : Bool) (rank : Fin Binary64.ceiling) :
    IsPlain (spelling (printed negative rank).lexemes) := by
  obtain ⟨whole, fraction, parts, isWhole, isFraction⟩ := Decimal.plain_parts (shortest rank)
  rw [← magnitude_chars] at parts
  refine ⟨spelling (signLexemes negative rank), whole, fraction, ?_, ?_, isWhole, isFraction⟩
  · rw [printed_lexemes, spelling, spelling, List.flatMap_append, List.flatMap_singleton,
      Lexeme.chars, parts, List.append_assoc]
  · rw [signLexemes]
    split
    · exact .inr rfl
    · exact .inl rfl

/-- A zero is not printed with a minus. -/
theorem printed_ne_minus_zero (negative : Bool) (rank : Fin Binary64.ceiling) :
    spelling (printed negative rank).lexemes ≠ ['-', '0'] := by
  intro written
  rw [printed_lexemes, signLexemes] at written
  split at written
  · rename_i minus
    have digits : plain (shortest rank) = ['0'] := by
      simpa [spelling, Lexeme.chars, operatorChar, magnitude] using written
    have parsed := Decimal.parse?_plain_shortest rank
    rw [digits, ← plain_shortest_zero] at parsed
    have zero := Decimal.parse?_plain_shortest ⟨0, by decide⟩
    rw [parsed, Option.some.injEq, Binary64.finite.injEq] at zero
    rw [zero.2, Bool.and_eq_true, bne_iff_ne] at minus
    exact minus.2 rfl
  · have first : ∀ char ∈ (magnitude rank).chars, isNumeric char = true := (magnitude rank).numeric
    have digits : (magnitude rank).chars = ['-', '0'] := by
      simpa [spelling, Lexeme.chars] using written
    rw [digits] at first
    exact absurd (first '-' List.mem_cons_self) (by decide)

/-- Printed numbers are canonical and read back. A finite number is printed as a plain decimal
other than a zero with a minus, which is evaluated to the number with zero made positive. So
different numbers that are not both zero are printed differently, and what an evaluation prints is
evaluated to itself. -/
theorem format_canonical :
    (∀ value : Binary64, value.isFinite = true →
      ∃ text, format value = .ok text ∧ IsPlain text.toList ∧ text ≠ "-0" ∧
        compute text = .ok value.unsignZero) ∧
    (∀ left right : Binary64, left.isFinite = true → right.isFinite = true → left ≠ right →
      ¬(left.isZero = true ∧ right.isZero = true) → format left ≠ format right) ∧
    ∀ text result : String, evaluate text = .ok result → evaluate result = .ok result := by
  refine ⟨?_, ?_, ?_⟩
  · intro value finite
    cases value with
    | infinite negative => cases finite
    | nan => cases finite
    | finite negative rank =>
      have written := format_finite negative rank
      refine ⟨_, written, ?_, ?_, compute_format written⟩
      · rw [String.toList_ofList]
        exact isPlain_printed negative rank
      · intro same
        have chars := congrArg String.toList same
        rw [String.toList_ofList] at chars
        exact printed_ne_minus_zero negative rank chars
  · intro left right leftFinite rightFinite different nonzero same
    cases left with
    | infinite negative => cases leftFinite
    | nan => cases leftFinite
    | finite leftSign leftRank =>
      have written := format_finite leftSign leftRank
      have back := compute_format written
      rw [same] at written
      rw [compute_format written, Except.ok.injEq] at back
      cases Binary64.eq_or_isZero_of_unsignZero back with
      | inl equal => exact different equal.symm
      | inr zeros => exact nonzero ⟨zeros.2, zeros.1⟩
  · intro text result evaluated
    obtain ⟨value, -, written⟩ := bind_eq_ok evaluated
    rw [evaluate, compute_format written]
    show format value.unsignZero = _
    rw [format_unsignZero, written]

/-- The unit with a minus is printed as a plain decimal that is evaluated to it, and differently
from the unit without; the printed zero is evaluated to itself. -/
theorem format_canonical_unit :
    (∃ text, format (.finite true ⟨1, by decide⟩) = .ok text ∧ IsPlain text.toList ∧
      text ≠ "-0" ∧ compute text = .ok (.finite true ⟨1, by decide⟩)) ∧
    format (.finite true ⟨1, by decide⟩) ≠ format (.finite false ⟨1, by decide⟩) ∧
    evaluate "0" = .ok "0" := by
  have zero : compute "0" = .ok Binary64.zero := @compute_format .zero "0" rfl
  have evaluated : evaluate "0" = .ok "0" := by
    rw [evaluate, zero]
    rfl
  exact ⟨format_canonical.1 _ rfl, format_canonical.2.1 _ _ rfl rfl (by decide) (by decide),
    format_canonical.2.2 "0" "0" evaluated⟩

end Reckoner.Expression
