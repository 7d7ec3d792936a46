import Mathlib.Data.List.Forall2
import Reckoner.Proofs.Expression.Marking
import Reckoner.Proofs.Expression.Printed

/-!
# Tokens written down again

The tokens of a text, written one after the other, are a text themselves. It has the same tokens but
for the marks of its minuses: the zeros that were put in stand between an operator and a minus, so
they join no other number (`Separated.completed`), and an operand now stands in front of every minus
(`expand_completed`).
-/

namespace Reckoner

/-- A token as it is written, without a mark. -/
def Token.unmarked (token : Token) : Token := { token with unary := false }

/-- Tokens are the same when only their marks differ. -/
theorem Token.same_unmarked (token : Token) : token.unmarked.same token = true :=
  same_iff.mpr ⟨rfl, rfl⟩

namespace Expression

/-- The text of tokens, one after the other. -/
def respelled (tokens : List Token) : String := String.ofList (textOf tokens)

/-! ## Lexemes with their zeros -/

/-- A zero is a word. -/
theorem zero_ne_nil : ['0'] ≠ [] := List.cons_ne_nil '0' []

/-- A zero is a number character. -/
theorem isNumeric_zero : ∀ char ∈ ['0'], isNumeric char = true := List.all_eq_true.mp rfl

/-- The numeral of zero. -/
def zeroNumeral : Numeral := ⟨['0'], zero_ne_nil, isNumeric_zero⟩

/-- A lexeme, behind a zero if it is a minus where an operand is awaited. -/
def Lexeme.completion (awaiting : Bool) (lexeme : Lexeme) : List Lexeme :=
  if lexeme.isMinus && awaiting then [.numeral zeroNumeral, lexeme] else [lexeme]

/-- Lexemes that begin where an operand is awaited or not, with an operand in front of every
minus. -/
def completed (awaiting : Bool) : List Lexeme → List Lexeme
  | [] => []
  | first :: rest => first.completion awaiting ++ completed first.awaitsOperand rest

/-- Only a minus where an operand is awaited is behind a zero. -/
theorem Lexeme.completion_cases (awaiting : Bool) (lexeme : Lexeme) :
    (lexeme = .operator .sub ∧ awaiting = true ∧
      lexeme.completion awaiting = [.numeral zeroNumeral, lexeme]) ∨
    ((lexeme.isMinus && awaiting) = false ∧ lexeme.completion awaiting = [lexeme]) := by
  cases awaited : lexeme.isMinus && awaiting with
  | false => exact .inr ⟨rfl, by rw [completion, awaited, if_neg Bool.false_ne_true]⟩
  | true =>
    obtain ⟨minus, waits⟩ := Bool.and_eq_true_iff.mp awaited
    refine .inl ⟨?_, waits, if_pos awaited⟩
    cases lexeme with
    | operator operator =>
      cases operator with
      | sub => rfl
      | _ => cases minus
    | _ => cases minus

/-- What is written of the tokens of a lexeme is the completed lexeme. -/
theorem map_token_completion (awaiting : Bool) (lexeme : Lexeme) :
    (lexeme.completion awaiting).map Lexeme.token =
      (lexeme.expansion awaiting).map Token.unmarked := by
  have written : lexeme.token.unmarked = lexeme.token := by cases lexeme <;> rfl
  rcases lexeme.completion_cases awaiting with ⟨rfl, rfl, behind⟩ | ⟨other, alone⟩
  · rw [behind]
    rfl
  · rw [alone, Lexeme.expansion, other, if_neg Bool.false_ne_true, List.map_singleton,
      List.map_singleton, written]

/-- What is written of the tokens of lexemes is the completed lexemes. -/
theorem map_token_completed (awaiting : Bool) (lexemes : List Lexeme) :
    (completed awaiting lexemes).map Lexeme.token =
      (expand awaiting lexemes).map Token.unmarked := by
  induction lexemes generalizing awaiting with
  | nil => rfl
  | cons first rest ih =>
    rw [completed, expand, List.map_append, List.map_append, map_token_completion, ih]

/-- The tokens of lexemes are written as the completed lexemes are. -/
theorem textOf_expand (awaiting : Bool) (lexemes : List Lexeme) :
    textOf (expand awaiting lexemes) = spelling (completed awaiting lexemes) := by
  have written : textOf ((expand awaiting lexemes).map Token.unmarked) =
      textOf (expand awaiting lexemes) := List.flatMap_map ..
  rw [← written, ← map_token_completed, textOf, List.flatMap_map, spelling]
  exact List.flatMap_congr fun lexeme _ => text_token lexeme

/-- No zero is put in front of completed lexemes again, and no minus among them is marked. -/
theorem expand_completed (awaiting : Bool) (lexemes : List Lexeme) :
    expand awaiting (completed awaiting lexemes) =
      (completed awaiting lexemes).map Lexeme.token := by
  induction lexemes generalizing awaiting with
  | nil => rfl
  | cons first rest ih =>
    have tail := ih first.awaitsOperand
    rw [completed]
    rcases first.completion_cases awaiting with ⟨rfl, rfl, behind⟩ | ⟨other, alone⟩
    · -- The zero is an operand, so the minus behind it is one on two numbers.
      rw [Lexeme.awaitsOperand] at tail ⊢
      have minus := expand_cons_of_operand (.operator .sub) (completed true rest)
      rw [Lexeme.awaitsOperand, tail] at minus
      rw [behind, List.cons_append, List.singleton_append, expand_cons_of_not_minus true rfl,
        Lexeme.awaitsOperand, minus]
      rfl
    · rw [alone, List.singleton_append, expand, Lexeme.expansion, other,
        if_neg Bool.false_ne_true, tail]
      rfl

/-- Behind an operand no zero is put in, so the first lexeme stays the first. -/
theorem beginsNumeral_completed (lexemes : List Lexeme) :
    beginsNumeral (completed false lexemes) = beginsNumeral lexemes := by
  cases lexemes with
  | nil => rfl
  | cons first rest =>
    rw [completed, Lexeme.completion, Bool.and_false, if_neg Bool.false_ne_true]
    rfl

/-- Completed lexemes are separated: a zero that is put in stands behind no numeral and in front of
a minus. -/
theorem Separated.completed {lexemes : List Lexeme} (separated : Separated lexemes)
    (awaiting : Bool) : Separated (completed awaiting lexemes) := by
  induction lexemes generalizing awaiting with
  | nil => trivial
  | cons first rest ih =>
    have tail := ih separated.2 first.awaitsOperand
    have apart : ¬(first.isNumeral = true ∧
        beginsNumeral (Expression.completed first.awaitsOperand rest) = true) := by
      rintro ⟨numeral, begins⟩
      have operand : first.awaitsOperand = false := by
        cases first with
        | numeral word => rfl
        | _ => cases numeral
      rw [operand, beginsNumeral_completed] at begins
      exact separated.1 ⟨numeral, begins⟩
    rw [Expression.completed]
    rcases first.completion_cases awaiting with ⟨rfl, rfl, behind⟩ | ⟨-, alone⟩
    · rw [behind]
      exact ⟨fun numerals => absurd numerals.2 Bool.false_ne_true, apart, tail⟩
    · rw [alone]
      exact ⟨apart, tail⟩

/-- Nothing is lost when lexemes are completed. -/
theorem completed_ne_nil {lexemes : List Lexeme} (nonempty : lexemes ≠ []) (awaiting : Bool) :
    completed awaiting lexemes ≠ [] := by
  cases lexemes with
  | nil => exact absurd rfl nonempty
  | cons first rest =>
    rw [completed]
    rcases first.completion_cases awaiting with ⟨-, -, behind⟩ | ⟨-, alone⟩
    · rw [behind]
      exact List.cons_ne_nil _ _
    · rw [alone]
      exact List.cons_ne_nil _ _

/-! ## The tokens of what is written -/

/-- The tokens of a text, written one after the other, are scanned as they are written. So the
written text has the same tokens: no zero is put in, and no minus is marked. Writing its tokens down
once more changes nothing. -/
theorem tokenize_respelled {text : String} {tokens : List Token}
    (scanned : tokenize text = .ok tokens) :
    let again := tokens.map Token.unmarked
    scan (respelled tokens) = .ok again ∧ tokenize (respelled tokens) = .ok again ∧
      List.Forall₂ (fun token other => token.same other = true) again tokens ∧
      (∀ token ∈ again, token.unary = false) ∧
      respelled again = respelled tokens ∧ tokenize (respelled again) = .ok again := by
  intro again
  obtain ⟨lexemes, nonempty, separated, spelled⟩ := exists_lexemes_of_tokenize scanned
  rw [tokenize_of_spells spelled separated nonempty, Except.ok.injEq] at scanned
  have spelledAgain : Spells (respelled tokens) (completed true lexemes) := by
    rw [respelled, ← scanned, textOf_expand]
    exact spells_spelling _
  have separatedAgain := separated.completed true
  have words : (completed true lexemes).map Lexeme.token = again := by
    rw [map_token_completed, scanned]
  have some := completed_ne_nil nonempty true
  have scannedAgain : scan (respelled tokens) = .ok again :=
    words ▸ scan_of_spells spelledAgain separatedAgain some
  have tokenizedAgain : tokenize (respelled tokens) = .ok again := by
    rw [tokenize_of_spells spelledAgain separatedAgain some, expand_completed, words]
  have written : respelled again = respelled tokens := congrArg String.ofList (List.flatMap_map ..)
  refine ⟨scannedAgain, tokenizedAgain, ?_, ?_, written, written ▸ tokenizedAgain⟩
  · rw [List.forall₂_map_left_iff]
    exact List.forall₂_same.mpr fun token _ => token.same_unmarked
  · intro token member
    obtain ⟨marked, -, rfl⟩ := List.mem_map.mp member
    rfl

/-- The text of a minus in front of a group with a minus, and a surplus number. -/
def minusesText : String := "- (-1 2).5*-"

/-- Its tokens: three minuses have a zero in front of them and are marked. -/
def minusesTokens : List Token :=
  [.number "0", unaryMinus, .lparen, .number "0", unaryMinus, .number "12", .rparen, .number ".5",
    ⟨.operator, "*", false⟩, .number "0", unaryMinus]

/-- What is written of the tokens has the same tokens without the marks. -/
theorem tokenize_respelled_minuses :
    tokenize minusesText = .ok minusesTokens ∧ respelled minusesTokens = "0-(0-12).5*0-" ∧
      tokenize "0-(0-12).5*0-" = .ok (minusesTokens.map Token.unmarked) ∧
      scan "0-(0-12).5*0-" = .ok (minusesTokens.map Token.unmarked) := by
  have scanned : tokenize minusesText = .ok minusesTokens := eq_ok_of_toOption (by decide +kernel)
  have written : respelled minusesTokens = "0-(0-12).5*0-" := by decide +kernel
  obtain ⟨scannedAgain, tokenizedAgain, -⟩ := tokenize_respelled scanned
  exact ⟨scanned, written, written ▸ tokenizedAgain, written ▸ scannedAgain⟩

end Expression

end Reckoner
