import Reckoner.Expression.Scan
import Reckoner.Proofs.Number.Literal

/-!
# Lexemes

The words of an expression, each with the proof that it is one. A text of the alphabet spells
exactly one sequence of lexemes in which no two numerals stand side by side, and its tokens are the
tokens of those lexemes. Every other text is refused at its first character outside the alphabet.
-/

namespace Reckoner.Expression

/-- A run of digits and points. -/
structure Numeral where
  /-- The characters. -/
  chars : List Char
  /-- There is a character. -/
  nonempty : chars ≠ []
  /-- The characters are digits and points. -/
  numeric : ∀ char ∈ chars, isNumeric char = true

/-- The text of a numeral. -/
def Numeral.text (numeral : Numeral) : String := String.ofList numeral.chars

/-- A word of an expression. -/
inductive Lexeme where
  /-- A numeral. -/
  | numeral (numeral : Numeral)
  /-- An operator. -/
  | operator (operator : Operator)
  /-- An opening parenthesis. -/
  | opening
  /-- A closing parenthesis. -/
  | closing

/-- The character of an operator. -/
def operatorChar : Operator → Char
  | .add => '+'
  | .sub => '-'
  | .mul => '*'
  | .div => '/'

namespace Lexeme

/-- The characters of a lexeme. -/
def chars : Lexeme → List Char
  | .numeral word => word.chars
  | .operator word => [operatorChar word]
  | .opening => ['(']
  | .closing => [')']

/-- The token of a lexeme. -/
def token : Lexeme → Token
  | .numeral word => Token.number word.text
  | .operator word => ⟨.operator, word.symbol, false⟩
  | .opening => Token.lparen
  | .closing => Token.rparen

/-- A lexeme of digits and points. -/
def isNumeral : Lexeme → Bool
  | .numeral _ => true
  | _ => false

/-- The lexemes outside numerals. -/
def symbols : List Lexeme :=
  [.operator .add, .operator .sub, .operator .mul, .operator .div, .opening, .closing]

/-- The lexeme of a character outside numerals. -/
def ofChar? (char : Char) : Option Lexeme := symbols.find? fun lexeme => lexeme.chars == [char]

end Lexeme

/-- The first lexeme is a numeral. -/
def beginsNumeral : List Lexeme → Bool
  | [] => false
  | first :: _ => first.isNumeral

/-- No two numerals stand side by side. -/
def Separated : List Lexeme → Prop
  | [] => True
  | first :: rest => ¬(first.isNumeral = true ∧ beginsNumeral rest = true) ∧ Separated rest

/-- The characters of lexemes. -/
def spelling (lexemes : List Lexeme) : List Char := lexemes.flatMap Lexeme.chars

/-- The characters of a text that are not blank. -/
def visible (text : String) : List Char := text.toList.filter fun char => !Text.isBlank char

/-- A text spells lexemes when it is their characters with blanks anywhere between them. -/
def Spells (text : String) (lexemes : List Lexeme) : Prop := visible text = spelling lexemes

/-- A character that an expression may hold besides blanks. -/
def isArithmetic (char : Char) : Bool := isNumeric char || (Lexeme.ofChar? char).isSome

/-! ## Characters and tokens -/

/-- A lexeme outside numerals is a single character that belongs to no numeral. -/
theorem chars_of_not_numeral {lexeme : Lexeme} (symbol : lexeme.isNumeral = false) :
    ∃ char, lexeme.chars = [char] ∧ isNumeric char = false ∧
      Lexeme.ofChar? char = some lexeme := by
  cases lexeme with
  | numeral numeral => cases symbol
  | operator operator =>
    exact ⟨operatorChar operator, rfl, by cases operator <;> decide, by cases operator <;> rfl⟩
  | opening => exact ⟨'(', rfl, by decide, rfl⟩
  | closing => exact ⟨')', rfl, by decide, rfl⟩

/-- No lexeme outside numerals is one. -/
theorem isNumeral_of_mem_symbols : ∀ lexeme ∈ Lexeme.symbols, lexeme.isNumeral = false := by
  intro lexeme member
  simp only [Lexeme.symbols, List.mem_cons, List.not_mem_nil, or_false] at member
  rcases member with rfl | rfl | rfl | rfl | rfl | rfl <;> rfl

/-- The lexeme of a character is no numeral and is spelled by the character. -/
theorem ofChar?_spec {char : Char} {lexeme : Lexeme} (found : Lexeme.ofChar? char = some lexeme) :
    lexeme.isNumeral = false ∧ lexeme.chars = [char] := by
  rw [Lexeme.ofChar?] at found
  have written := List.find?_some found
  exact ⟨isNumeral_of_mem_symbols lexeme (List.mem_of_find?_eq_some found),
    beq_iff_eq.mp written⟩

/-- The operator of a single character. -/
theorem ofSymbol?_singleton (char : Char) :
    Operator.ofSymbol? (String.singleton char) =
      if char = '+' then some .add
      else if char = '-' then some .sub
      else if char = '*' then some .mul
      else if char = '/' then some .div
      else none := by
  have symbol (other : Char) :
      String.singleton char = String.singleton other ↔ char = other := by
    simp [← String.toList_inj]
  simp only [Operator.ofSymbol?, show "+" = String.singleton '+' from rfl,
    show "-" = String.singleton '-' from rfl, show "*" = String.singleton '*' from rfl,
    show "/" = String.singleton '/' from rfl, symbol]

/-- A character outside numerals gives the token of its lexeme, or a fault that names it. -/
theorem symbolToken_eq (char : Char) (position : Nat) :
    symbolToken char position =
      match Lexeme.ofChar? char with
      | some lexeme => .ok lexeme.token
      | none => .error (.fault (.unexpectedCharacter char position)) := by
  rw [symbolToken, Token.operator, ofSymbol?_singleton, Lexeme.ofChar?]
  by_cases plus : char = '+'
  · rw [plus]; rfl
  by_cases minus : char = '-'
  · rw [minus]; rfl
  by_cases times : char = '*'
  · rw [times]; rfl
  by_cases slash : char = '/'
  · rw [slash]; rfl
  simp only [plus, minus, times, slash, ↓reduceIte, Option.isSome_none, Bool.false_eq_true]
  by_cases opens : char = '('
  · rw [opens]; rfl
  by_cases closes : char = ')'
  · rw [closes]; rfl
  have foreign : Lexeme.symbols.find? (fun lexeme => lexeme.chars == [char]) = none := by
    simp [Lexeme.symbols, Lexeme.chars, operatorChar, Ne.symm plus, Ne.symm minus, Ne.symm times,
      Ne.symm slash, Ne.symm opens, Ne.symm closes]
  simp only [foreign, opens, closes, ↓reduceIte]

/-! ## Scanning what is spelled -/

/-- The visible characters of a text, without their positions. -/
theorem significant_chars (text : String) :
    (significant text.toList).map Prod.fst = visible text := by
  have positions := List.filter_map (f := Prod.fst) (p := fun char => !Text.isBlank char)
    (l := text.toList.zipIdx)
  rw [List.zipIdx_map_fst] at positions
  exact positions.symm

/-- Number characters extend the run. -/
theorem scanFrom_numeric (run : List Char) (front back : List (Char × Nat))
    (numeric : ∀ char ∈ front.map Prod.fst, isNumeric char = true) :
    scanFrom run (front ++ back) = scanFrom ((front.map Prod.fst).reverse ++ run) back := by
  induction front generalizing run with
  | nil => rfl
  | cons entry rest ih =>
    obtain ⟨char, position⟩ := entry
    have digit : isNumeric char = true := numeric char List.mem_cons_self
    rw [List.cons_append, scanFrom, if_pos digit,
      ih (char :: run) fun other member => numeric other (List.mem_cons_of_mem char member),
      List.map_cons, List.reverse_cons, List.append_assoc, List.singleton_append]

/-- A run ends where no number character follows. -/
theorem scanFrom_closed (run : List Char) (entries : List (Char × Nat))
    (stops : ∀ char, (entries.map Prod.fst).head? = some char → isNumeric char = false) :
    scanFrom run entries = (scanFrom [] entries).map (closeRun run) := by
  cases entries with
  | nil => rfl
  | cons entry rest =>
    obtain ⟨char, position⟩ := entry
    have stop : isNumeric char = false := stops char rfl
    simp only [scanFrom, stop, Bool.false_eq_true, ↓reduceIte]
    cases symbolToken char position with
    | error failure => rfl
    | ok token =>
      cases scanFrom [] rest with
      | error failure => rfl
      | ok tokens => rfl

/-- A character outside numerals is its token in front of those of the rest. -/
theorem scanFrom_symbol {char : Char} {lexeme : Lexeme}
    (found : Lexeme.ofChar? char = some lexeme) (other : isNumeric char = false) (position : Nat)
    (rest : List (Char × Nat)) :
    scanFrom [] ((char, position) :: rest) = (scanFrom [] rest).map (lexeme.token :: ·) := by
  simp only [scanFrom, other, Bool.false_eq_true, ↓reduceIte, symbolToken_eq, found]
  cases scanFrom [] rest with
  | error failure => rfl
  | ok tokens => rfl

/-- What follows a numeral does not begin with a number character. -/
theorem spelling_head_of_separated {lexemes : List Lexeme}
    (begins : beginsNumeral lexemes = false) :
    ∀ char, (spelling lexemes).head? = some char → isNumeric char = false := by
  intro char head
  cases lexemes with
  | nil => cases head
  | cons first rest =>
    obtain ⟨symbol, written, other, -⟩ := chars_of_not_numeral begins
    rw [spelling, List.flatMap_cons, written, List.singleton_append, List.head?_cons,
      Option.some.injEq] at head
    rw [← head]
    exact other

/-- Characters that spell separated lexemes are scanned into the tokens of the lexemes. -/
theorem scanFrom_spelling (lexemes : List Lexeme) (separated : Separated lexemes)
    (entries : List (Char × Nat)) (spelled : entries.map Prod.fst = spelling lexemes) :
    scanFrom [] entries = .ok (lexemes.map Lexeme.token) := by
  induction lexemes generalizing entries with
  | nil =>
    rw [List.map_eq_nil_iff.mp spelled]
    rfl
  | cons first rest ih =>
    rw [spelling, List.flatMap_cons, ← spelling] at spelled
    obtain ⟨front, back, rfl, written, remaining⟩ := List.map_eq_append_iff.mp spelled
    have tail := ih separated.2 back remaining
    cases kind : first.isNumeral with
    | false =>
      obtain ⟨char, single, other, found⟩ := chars_of_not_numeral kind
      rw [single] at written
      obtain ⟨⟨entryChar, position⟩, rfl, same⟩ := List.map_eq_singleton_iff.mp written
      cases same
      rw [List.singleton_append, scanFrom_symbol found other, tail]
      rfl
    | true =>
      cases first with
      | operator operator => cases kind
      | opening => cases kind
      | closing => cases kind
      | numeral numeral =>
        have written : front.map Prod.fst = numeral.chars := written
        have begins : beginsNumeral rest = false := by
          cases next : beginsNumeral rest with
          | false => rfl
          | true => exact absurd ⟨rfl, next⟩ separated.1
        have stops : ∀ char, (back.map Prod.fst).head? = some char → isNumeric char = false := by
          rw [remaining]
          exact spelling_head_of_separated begins
        have some_char : numeral.chars.reverse.isEmpty = false := by
          simpa using numeral.nonempty
        rw [scanFrom_numeric [] front back (written ▸ numeral.numeric), written, List.append_nil,
          scanFrom_closed _ back stops, tail]
        simp only [Except.map, closeRun, some_char, Bool.false_eq_true, ↓reduceIte,
          List.reverse_reverse]
        rfl

/-- A text that spells separated lexemes has their tokens. -/
theorem scan_of_spells {text : String} {lexemes : List Lexeme} (spelled : Spells text lexemes)
    (separated : Separated lexemes) (nonempty : lexemes ≠ []) :
    scan text = .ok (lexemes.map Lexeme.token) := by
  have chars : (significant text.toList).map Prod.fst = spelling lexemes := by
    rw [significant_chars]
    exact spelled
  have some_char : (significant text.toList).isEmpty = false := by
    cases empty : (significant text.toList).isEmpty with
    | false => rfl
    | true =>
      rw [List.isEmpty_iff.mp empty] at chars
      cases lexemes with
      | nil => exact absurd rfl nonempty
      | cons first rest =>
        cases first with
        | numeral numeral =>
          exact absurd (List.append_eq_nil_iff.mp chars.symm).1 numeral.nonempty
        | operator operator => cases chars
        | opening => cases chars
        | closing => cases chars
  simp only [scan, some_char, Bool.false_eq_true, ↓reduceIte]
  exact scanFrom_spelling lexemes separated _ chars

/-! ## Every text -/

/-- Characters of the alphabet spell separated lexemes. -/
theorem exists_spelling (chars : List Char)
    (arithmetic : ∀ char ∈ chars, isArithmetic char = true) :
    ∃ lexemes, Separated lexemes ∧ spelling lexemes = chars := by
  induction chars with
  | nil => exact ⟨[], trivial, rfl⟩
  | cons char rest ih =>
    obtain ⟨lexemes, separated, spelled⟩ :=
      ih fun other member => arithmetic other (List.mem_cons_of_mem char member)
    have admitted := arithmetic char List.mem_cons_self
    cases digit : isNumeric char with
    | false =>
      rw [isArithmetic, digit, Bool.false_or, Option.isSome_iff_exists] at admitted
      obtain ⟨lexeme, found⟩ := admitted
      obtain ⟨symbol, written⟩ := ofChar?_spec found
      refine ⟨lexeme :: lexemes, ⟨by simp [symbol], separated⟩, ?_⟩
      rw [spelling, List.flatMap_cons, ← spelling, written, spelled, List.singleton_append]
    | true =>
      have single : ∀ other ∈ [char], isNumeric other = true := by
        simpa using digit
      cases lexemes with
      | nil =>
        refine ⟨[.numeral ⟨[char], List.cons_ne_nil char [], single⟩], ⟨by simp [beginsNumeral],
          trivial⟩, ?_⟩
        rw [← spelled]
        rfl
      | cons first others =>
        cases first with
        | numeral numeral =>
          -- The character joins the numeral that it stands in front of.
          refine ⟨.numeral ⟨char :: numeral.chars, List.cons_ne_nil char _, ?_⟩ :: others,
            separated, ?_⟩
          · intro other member
            rw [List.mem_cons] at member
            cases member with
            | inl same => rw [same]; exact digit
            | inr old => exact numeral.numeric other old
          · rw [← spelled]
            rfl
        | operator operator =>
          exact ⟨.numeral ⟨[char], List.cons_ne_nil char [], single⟩ :: _,
            ⟨by simp [beginsNumeral, Lexeme.isNumeral], separated⟩, by rw [← spelled]; rfl⟩
        | opening =>
          exact ⟨.numeral ⟨[char], List.cons_ne_nil char [], single⟩ :: _,
            ⟨by simp [beginsNumeral, Lexeme.isNumeral], separated⟩, by rw [← spelled]; rfl⟩
        | closing =>
          exact ⟨.numeral ⟨[char], List.cons_ne_nil char [], single⟩ :: _,
            ⟨by simp [beginsNumeral, Lexeme.isNumeral], separated⟩, by rw [← spelled]; rfl⟩

/-- The first character outside the alphabet is refused by name and position. -/
theorem scanFrom_unexpected (run : List Char) (front back : List (Char × Nat)) (char : Char)
    (position : Nat) (arithmetic : ∀ entry ∈ front, isArithmetic entry.1 = true)
    (foreign : isArithmetic char = false) :
    scanFrom run (front ++ (char, position) :: back) =
      .error (.fault (.unexpectedCharacter char position)) := by
  rw [isArithmetic, Bool.or_eq_false_iff, Option.isSome_eq_false_iff, Option.isNone_iff_eq_none]
    at foreign
  induction front generalizing run with
  | nil =>
    simp only [List.nil_append, scanFrom, foreign.1, Bool.false_eq_true, ↓reduceIte,
      symbolToken_eq, foreign.2]
    rfl
  | cons entry rest ih =>
    obtain ⟨other, place⟩ := entry
    have admitted := arithmetic (other, place) List.mem_cons_self
    have tail := fun run =>
      ih run fun entry member => arithmetic entry (List.mem_cons_of_mem _ member)
    cases digit : isNumeric other with
    | true => rw [List.cons_append, scanFrom, if_pos digit, tail]
    | false =>
      rw [isArithmetic, digit, Bool.false_or, Option.isSome_iff_exists] at admitted
      obtain ⟨lexeme, found⟩ := admitted
      simp only [List.cons_append, scanFrom, digit, Bool.false_eq_true, ↓reduceIte,
        symbolToken_eq, found, tail]
      rfl

/-- A text is refused, or spells separated lexemes whose tokens it has. -/
theorem scan_cases (text : String) :
    (∃ error, scan text = .error (.fault error)) ∨
      ∃ lexemes, lexemes ≠ [] ∧ Separated lexemes ∧ Spells text lexemes ∧
        scan text = .ok (lexemes.map Lexeme.token) := by
  by_cases empty : significant text.toList = []
  · refine .inl ⟨.emptyExpression, ?_⟩
    rw [scan, empty]
    rfl
  by_cases arithmetic : ∀ char ∈ visible text, isArithmetic char = true
  · obtain ⟨lexemes, separated, spelled⟩ := exists_spelling (visible text) arithmetic
    have nonempty : lexemes ≠ [] := by
      rintro rfl
      have chars := significant_chars text
      rw [← spelled] at chars
      exact empty (List.map_eq_nil_iff.mp chars)
    exact .inr ⟨lexemes, nonempty, separated, spelled.symm,
      scan_of_spells spelled.symm separated nonempty⟩
  · have some_entry : (significant text.toList).isEmpty = false := by
      simpa using empty
    rw [← significant_chars] at arithmetic
    simp only [List.mem_map, Classical.not_forall] at arithmetic
    obtain ⟨-, ⟨entry, member, rfl⟩, foreign⟩ := arithmetic
    rw [Bool.not_eq_true] at foreign
    have found : ∃ found, (significant text.toList).find? (fun entry => !isArithmetic entry.1) =
        some found := by
      rw [← Option.isSome_iff_exists, List.find?_isSome]
      exact ⟨entry, member, by simp [foreign]⟩
    obtain ⟨⟨char, position⟩, found⟩ := found
    obtain ⟨refused, front, back, parts, admitted⟩ := List.find?_eq_some_iff_append.mp found
    refine .inl ⟨.unexpectedCharacter char position, ?_⟩
    simp only [scan, some_entry, Bool.false_eq_true, ↓reduceIte]
    rw [parts]
    apply scanFrom_unexpected
    · intro entry member
      simpa using admitted entry member
    · simpa using refused

end Reckoner.Expression
