import Reckoner.Proofs.Expression.Expansion

/-!
# What the tokens of a text are

Without its blanks, a text that holds no foreign character is the texts of marked tokens one after
the other: its runs of digits and points, cut nowhere, and its other characters one by one. A minus
is marked when no operand stands in front of it, and the tokens of the text are the marked ones with
a zero in front of every mark. Every text has one sequence of marked tokens at most
(`Marks.exists_lexemes`), so the description leaves nothing open.
-/

namespace Reckoner.Expression

/-! ## Characters -/

/-- The characters that tokens are made of. -/
def alphabet : List Char :=
  ['0', '1', '2', '3', '4', '5', '6', '7', '8', '9', '.', '+', '-', '*', '/', '(', ')']

/-- A character that is neither a blank nor part of a token. -/
def isForeign (char : Char) : Bool := !Text.isBlank char && !alphabet.contains char

/-- The first foreign character of a text, and how many characters stand in front of it. -/
def FirstForeign (text : String) (char : Char) (position : Nat) : Prop :=
  ∃ front back, text.toList = front ++ char :: back ∧ front.length = position ∧
    (∀ other ∈ front, isForeign other = false) ∧ isForeign char = true

/-- A digit is one of ten. -/
theorem mem_of_isDigit {char : Char} (digit : Text.isDigit char = true) :
    char ∈ ['0', '1', '2', '3', '4', '5', '6', '7', '8', '9'] := by
  obtain ⟨lower, upper⟩ := (Text.isDigit_iff char).mp digit
  obtain ⟨value, place⟩ := Nat.exists_eq_add_of_le lower
  have same : char = Char.ofNat (48 + value) := by rw [← place, Char.ofNat_toNat]
  have bound : value < 10 := by omega
  rw [same]
  match value, bound with
  | 0, _ | 1, _ | 2, _ | 3, _ | 4, _ | 5, _ | 6, _ | 7, _ | 8, _ | 9, _ => decide

/-- The characters of the alphabet are those that tokens are made of. -/
theorem isArithmetic_eq (char : Char) : isArithmetic char = alphabet.contains char := by
  rw [Bool.eq_iff_iff, List.contains_iff_mem]
  constructor
  · intro admitted
    rcases Bool.or_eq_true_iff.mp admitted with numeric | symbol
    · rcases (Literal.isNumeric_iff char).mp numeric with digit | rfl
      · exact List.mem_append_left ['.', '+', '-', '*', '/', '(', ')'] (mem_of_isDigit digit)
      · decide
    · obtain ⟨lexeme, found⟩ := Option.isSome_iff_exists.mp symbol
      have written := (ofChar?_spec found).2
      have listed := List.mem_of_find?_eq_some found
      simp only [Lexeme.symbols, List.mem_cons, List.not_mem_nil, or_false] at listed
      rcases listed with rfl | rfl | rfl | rfl | rfl | rfl <;> cases written <;> decide
  · have checked : alphabet.all isArithmetic = true := by decide
    exact List.all_eq_true.mp checked char

/-! ## Marked tokens -/

/-- The texts of tokens one after the other. -/
def textOf (tokens : List Token) : List Char := tokens.flatMap fun token => token.text.toList

/-- The text of a token is of its kind. -/
def WellWritten (token : Token) : Prop :=
  match token.kind with
  | .number => token.text.toList ≠ [] ∧ ∀ char ∈ token.text.toList, isNumeric char = true
  | .operator => ∃ operator : Operator, token.text = operator.symbol
  | .lparen => token.text = "("
  | .rparen => token.text = ")"

/-- Tokens of a text in which every minus without an operand in front of it is marked. -/
structure Marks (text : String) (marked : List Token) : Prop where
  /-- The tokens are written in the text, and nothing else is but blanks. -/
  written : textOf marked = visible text
  /-- The texts are of their kinds. -/
  sorts : ∀ token ∈ marked, WellWritten token
  /-- A numeral stands neither behind a number character nor in front of one. -/
  maximal : ∀ front token back, marked = front ++ token :: back → token.kind = .number →
    (∀ char, (textOf front).getLast? = some char → isNumeric char = false) ∧
      ∀ char, (textOf back).head? = some char → isNumeric char = false
  /-- A minus is marked that is the first token or stands behind an operator or an opening
  parenthesis, and nothing else is. -/
  marks : ∀ front token back, marked = front ++ token :: back →
    (token.unary = true ↔ token.kind = .operator ∧ token.text = "-" ∧
      ∀ previous, front.getLast? = some previous →
        previous.kind = .operator ∨ previous.kind = .lparen)

/-- A token behind the zero that its mark stands for. -/
def writtenOut (token : Token) : List Token :=
  if token.unary then [Token.number "0", token] else [token]

/-! ## The marks of lexemes -/

/-- The token of a lexeme, marked if it is a minus where an operand is awaited. -/
def Lexeme.marked (awaiting : Bool) (lexeme : Lexeme) : Token :=
  { lexeme.token with unary := lexeme.isMinus && awaiting }

/-- The marked tokens of lexemes that begin where an operand is awaited or not. -/
def mark (awaiting : Bool) : List Lexeme → List Token
  | [] => []
  | first :: rest => first.marked awaiting :: mark first.awaitsOperand rest

/-- The tokens of lexemes are the marked ones behind their zeros. -/
theorem expand_eq (awaiting : Bool) (lexemes : List Lexeme) :
    expand awaiting lexemes = (mark awaiting lexemes).flatMap writtenOut := by
  induction lexemes generalizing awaiting with
  | nil => rfl
  | cons first rest ih =>
    have alone : first.expansion awaiting = writtenOut (first.marked awaiting) := by
      rw [Lexeme.expansion, writtenOut, Lexeme.marked]
      cases awaiting with
      | false =>
        rw [Bool.and_false]
        cases first <;> rfl
      | true =>
        rw [Bool.and_true]
        cases first with
        | operator operator => cases operator <;> rfl
        | _ => rfl
    rw [expand, ih, mark, List.flatMap_cons, alone]

/-- The text of a token is spelled by the lexeme. -/
theorem text_token (lexeme : Lexeme) : lexeme.token.text.toList = lexeme.chars := by
  cases lexeme with
  | numeral numeral => exact String.toList_ofList
  | operator operator => cases operator <;> decide +kernel
  | opening => decide +kernel
  | closing => decide +kernel

/-- Marked tokens are written as their lexemes are. -/
theorem textOf_mark (awaiting : Bool) (lexemes : List Lexeme) :
    textOf (mark awaiting lexemes) = spelling lexemes := by
  induction lexemes generalizing awaiting with
  | nil => rfl
  | cons first rest ih =>
    have alone : (first.marked awaiting).text.toList = first.chars := text_token first
    have tail := ih first.awaitsOperand
    rw [textOf] at tail ⊢
    rw [mark, List.flatMap_cons, tail, alone]
    rfl

/-- A part of marked tokens is the mark of a part of the lexemes. -/
theorem mark_eq_append {awaiting : Bool} {lexemes : List Lexeme} {front back : List Token}
    {token : Token} (parts : mark awaiting lexemes = front ++ token :: back) :
    ∃ lefts lexeme rights, lexemes = lefts ++ lexeme :: rights ∧ mark awaiting lefts = front ∧
      lexeme.marked (awaitsAfter awaiting lefts) = token ∧
      mark lexeme.awaitsOperand rights = back := by
  induction lexemes generalizing awaiting front with
  | nil => cases front <;> cases parts
  | cons first rest ih =>
    cases front with
    | nil =>
      obtain ⟨same, tail⟩ := List.cons.inj parts
      exact ⟨[], first, rest, rfl, rfl, same, tail⟩
    | cons other others =>
      obtain ⟨same, tail⟩ := List.cons.inj parts
      obtain ⟨lefts, lexeme, rights, rfl, shown, here, behind⟩ := ih tail
      exact ⟨first :: lefts, lexeme, rights, rfl, by rw [mark, same, shown], here, behind⟩

/-- The mark of a lexeme tells whether an operand is awaited behind it. -/
theorem beginsOperand_marked (awaiting : Bool) (lexeme : Lexeme) :
    beginsOperand (some (lexeme.marked awaiting)) = lexeme.awaitsOperand :=
  beginsOperand_token lexeme

/-- The last marked token tells whether an operand is awaited behind lexemes. -/
theorem awaitsAfter_eq (previous : Option Token) (lexemes : List Lexeme) :
    awaitsAfter (beginsOperand previous) lexemes =
      beginsOperand ((mark (beginsOperand previous) lexemes).getLast?.or previous) := by
  induction lexemes generalizing previous with
  | nil => rfl
  | cons first rest ih =>
    have tail := ih (some (first.marked (beginsOperand previous)))
    rw [beginsOperand_marked] at tail
    rw [awaitsAfter, tail, mark, List.getLast?_cons]
    cases (mark first.awaitsOperand rest).getLast? <;> rfl

/-- An operand is awaited at the start, and behind an operator or an opening parenthesis. -/
theorem beginsOperand_iff (last : Option Token) :
    beginsOperand last = true ↔
      ∀ previous, last = some previous → previous.kind = .operator ∨ previous.kind = .lparen := by
  cases last with
  | none => simp [beginsOperand]
  | some previous => simp [beginsOperand]

/-- A lexeme has the text of its kind. -/
theorem wellWritten_marked (awaiting : Bool) (lexeme : Lexeme) :
    WellWritten (lexeme.marked awaiting) := by
  cases lexeme with
  | numeral numeral =>
    have chars : numeral.text.toList = numeral.chars := String.toList_ofList
    exact ⟨chars ▸ numeral.nonempty, chars ▸ numeral.numeric⟩
  | operator operator => exact ⟨operator, rfl⟩
  | opening => rfl
  | closing => rfl

/-- A mark stands on a minus where an operand is awaited. -/
theorem unary_marked (awaiting : Bool) (lexeme : Lexeme) :
    (lexeme.marked awaiting).unary = true ↔ (lexeme.marked awaiting).kind = .operator ∧
      (lexeme.marked awaiting).text = "-" ∧ awaiting = true := by
  have minus := isMinus_token lexeme
  rw [isMinus] at minus
  rw [Lexeme.marked, ← minus]
  simp [and_assoc]

/-- Lexemes behind others are separated as well. -/
theorem Separated.of_append {lefts rights : List Lexeme} (separated : Separated (lefts ++ rights)) :
    Separated rights := by
  induction lefts with
  | nil => exact separated
  | cons first rest ih => exact ih separated.2

/-- What stands in front of a numeral does not end with a number character. -/
theorem spelling_last_of_separated {lefts rights : List Lexeme} {lexeme : Lexeme}
    (separated : Separated (lefts ++ lexeme :: rights)) (numeral : lexeme.isNumeral = true) :
    ∀ char, (spelling lefts).getLast? = some char → isNumeric char = false := by
  intro char last
  rcases lefts.eq_nil_or_concat with rfl | ⟨front, final, rfl⟩
  · cases last
  · rw [List.concat_eq_append, List.append_assoc] at separated
    have symbol : final.isNumeral = false := by
      rw [← Bool.not_eq_true]
      exact fun other => separated.of_append.1 ⟨other, numeral⟩
    obtain ⟨sign, written, other, -⟩ := chars_of_not_numeral symbol
    rw [List.concat_eq_append, spelling, List.flatMap_append, List.flatMap_singleton, written,
      List.getLast?_concat, Option.some.injEq] at last
    exact last ▸ other

/-- Separated lexemes mark the text that spells them. -/
theorem marks_of_spells {text : String} {lexemes : List Lexeme} (spelled : Spells text lexemes)
    (separated : Separated lexemes) : Marks text (mark true lexemes) := by
  refine ⟨(textOf_mark true lexemes).trans spelled.symm, ?_, ?_, ?_⟩
  · intro token member
    obtain ⟨front, back, parts⟩ := List.append_of_mem member
    obtain ⟨lefts, lexeme, rights, -, -, rfl, -⟩ := mark_eq_append parts
    exact wellWritten_marked _ lexeme
  · intro front token back parts number
    obtain ⟨lefts, lexeme, rights, rfl, rfl, rfl, rfl⟩ := mark_eq_append parts
    have numeral : lexeme.isNumeral = true := by
      cases lexeme with
      | numeral numeral => rfl
      | _ => cases number
    have begins : beginsNumeral rights = false := by
      rw [← Bool.not_eq_true]
      exact fun next => separated.of_append.1 ⟨numeral, next⟩
    rw [textOf_mark, textOf_mark]
    exact ⟨spelling_last_of_separated separated numeral, spelling_head_of_separated begins⟩
  · intro front token back parts
    obtain ⟨lefts, lexeme, rights, rfl, rfl, rfl, rfl⟩ := mark_eq_append parts
    have awaited := awaitsAfter_eq none lefts
    rw [Option.or_none] at awaited
    rw [unary_marked, show awaitsAfter true lefts = _ from awaited, beginsOperand_iff]
    rfl

/-! ## The lexemes of marks -/

/-- A token whose text is of its kind is that of a lexeme, but for the mark. -/
theorem WellWritten.exists_lexeme {token : Token} (sort : WellWritten token) :
    ∃ lexeme : Lexeme, lexeme.token.kind = token.kind ∧ lexeme.token.text = token.text := by
  obtain ⟨kind, text, unary⟩ := token
  cases kind with
  | number => exact ⟨.numeral ⟨text.toList, sort.1, sort.2⟩, rfl, String.ofList_toList⟩
  | operator =>
    obtain ⟨operator, same⟩ := sort
    exact ⟨.operator operator, rfl, same.symm⟩
  | lparen => exact ⟨.opening, rfl, sort.symm⟩
  | rparen => exact ⟨.closing, rfl, sort.symm⟩

/-- A token is known by its kind, its text and its mark. -/
theorem marked_eq {lexeme : Lexeme} {token : Token} {awaiting : Bool}
    (kind : lexeme.token.kind = token.kind) (written : lexeme.token.text = token.text)
    (flag : (lexeme.marked awaiting).unary = token.unary) : lexeme.marked awaiting = token := by
  obtain ⟨sort, text, unary⟩ := token
  cases kind
  cases written
  cases flag
  rfl

/-- The characters of a numeral begin with a number character. -/
theorem exists_head_of_beginsNumeral {lexemes : List Lexeme}
    (begins : beginsNumeral lexemes = true) :
    ∃ char, (spelling lexemes).head? = some char ∧ isNumeric char = true := by
  cases lexemes with
  | nil => cases begins
  | cons first rest =>
    cases first with
    | numeral numeral =>
      obtain ⟨char, chars, parts⟩ := List.exists_cons_of_ne_nil numeral.nonempty
      have written : spelling (.numeral numeral :: rest) = numeral.chars ++ spelling rest := rfl
      refine ⟨char, by rw [written, parts]; rfl, numeral.numeric char ?_⟩
      rw [parts]
      exact List.mem_cons_self
    | _ => cases begins

/-- Marked tokens are the marks of separated lexemes, from any of them on. -/
theorem Marks.exists_lexemes {text : String} {marked : List Token} (marks : Marks text marked)
    (front back : List Token) (parts : marked = front ++ back) :
    ∃ lexemes, Separated lexemes ∧ mark (beginsOperand front.getLast?) lexemes = back := by
  induction back generalizing front with
  | nil => exact ⟨[], trivial, rfl⟩
  | cons token rest ih =>
    obtain ⟨lexemes, separated, behind⟩ := ih (front ++ [token]) (by simp [parts])
    have member : token ∈ marked := parts ▸ List.mem_append_right front List.mem_cons_self
    obtain ⟨lexeme, kind, written⟩ := (marks.sorts token member).exists_lexeme
    have awaits : beginsOperand (some token) = lexeme.awaitsOperand := by
      rw [← beginsOperand_token, beginsOperand, beginsOperand, kind]
    rw [List.getLast?_concat, awaits] at behind
    have flag : (lexeme.marked (beginsOperand front.getLast?)).unary = token.unary := by
      rw [Bool.eq_iff_iff, unary_marked, beginsOperand_iff, marks.marks front token rest parts]
      exact and_congr (kind ▸ Iff.rfl) (and_congr (written ▸ Iff.rfl) Iff.rfl)
    refine ⟨lexeme :: lexemes, ⟨fun numerals => ?_, separated⟩, ?_⟩
    · have number : token.kind = .number := by
        cases lexeme with
        | numeral numeral => exact kind.symm
        | _ => cases numerals.1
      obtain ⟨char, head, numeric⟩ := exists_head_of_beginsNumeral numerals.2
      obtain ⟨-, stops⟩ := marks.maximal front token rest parts number
      rw [← behind, textOf_mark] at stops
      exact absurd numeric (ne_true_of_eq_false (stops char head))
    · rw [mark, marked_eq kind written flag, behind]

/-! ## Every text -/

/-- A character that is not foreign is a blank or part of a token. -/
theorem isArithmetic_of_not_foreign {char : Char} (known : isForeign char = false)
    (shown : Text.isBlank char = false) : isArithmetic char = true := by
  rw [isForeign, shown, ← isArithmetic_eq] at known
  simpa using known

/-- The foreign character that is found in a text is the first. -/
theorem exists_firstForeign {text : String} {char : Char}
    (found : text.toList.find? isForeign = some char) :
    ∃ position, FirstForeign text char position := by
  obtain ⟨foreign, front, back, parts, admitted⟩ := List.find?_eq_some_iff_append.mp found
  have known : ∀ other ∈ front, isForeign other = false := fun other member => by
    simpa using admitted other member
  exact ⟨front.length, front, back, parts, rfl, known, foreign⟩

/-- A text is blank, or has a first foreign character, or spells separated lexemes. -/
theorem text_cases (text : String) :
    (∀ char ∈ text.toList, Text.isBlank char = true) ∨
    (∃ char position, FirstForeign text char position) ∨
      ∃ lexemes, lexemes ≠ [] ∧ Separated lexemes ∧ Spells text lexemes := by
  cases found : text.toList.find? isForeign with
  | some char => exact .inr (.inl ⟨char, exists_firstForeign found⟩)
  | none =>
    have arithmetic : ∀ char ∈ visible text, isArithmetic char = true := by
      intro char member
      obtain ⟨inside, shown⟩ := List.mem_filter.mp member
      have known := List.find?_eq_none.mp found char inside
      exact isArithmetic_of_not_foreign ((Bool.not_eq_true _).mp known) (by simpa using shown)
    obtain ⟨lexemes, separated, spelled⟩ := exists_spelling (visible text) arithmetic
    by_cases empty : lexemes = []
    · have blank : visible text = [] := spelled.symm.trans (empty ▸ rfl)
      exact .inl fun char member => by simpa using List.filter_eq_nil_iff.mp blank char member
    · exact .inr (.inr ⟨lexemes, empty, separated, spelled.symm⟩)

/-- A blank text has no tokens. -/
theorem tokenize_blank {text : String} (blank : ∀ char ∈ text.toList, Text.isBlank char = true) :
    tokenize text = .error (.fault .emptyExpression) := by
  have none : visible text = [] :=
    List.filter_eq_nil_iff.mpr fun char member => by simp [blank char member]
  have empty : significant text.toList = [] :=
    List.map_eq_nil_iff.mp ((significant_chars text).trans none)
  rw [tokenize, scan, empty]
  rfl

/-- The first foreign character of a text is refused. -/
theorem FirstForeign.tokenize_eq {text : String} {char : Char} {position : Nat}
    (first : FirstForeign text char position) :
    tokenize text = .error (.fault (.unexpectedCharacter char position)) := by
  obtain ⟨front, back, parts, rfl, known, foreign⟩ := first
  rw [isForeign, Bool.and_eq_true, Bool.not_eq_true', ← isArithmetic_eq] at foreign
  let shown (entry : Char × Nat) : Bool := !Text.isBlank entry.1
  have entries : significant text.toList = front.zipIdx.filter shown ++
      (char, front.length) :: (back.zipIdx (front.length + 1)).filter shown := by
    have keeps : shown (char, front.length) = true := congrArg Bool.not foreign.1
    rw [significant, parts, List.zipIdx_append, List.filter_append, List.zipIdx_cons, Nat.zero_add,
      List.filter_cons_of_pos keeps]
  have arithmetic : ∀ entry ∈ front.zipIdx.filter shown, isArithmetic entry.1 = true := by
    intro entry member
    obtain ⟨inside, visible⟩ := List.mem_filter.mp member
    exact isArithmetic_of_not_foreign (known entry.1 (List.fst_mem_of_mem_zipIdx inside))
      (by simpa [shown] using visible)
  have refused := scanFrom_unexpected [] _ ((back.zipIdx (front.length + 1)).filter shown) char
    front.length arithmetic (by simpa using foreign.2)
  have some_entry : (significant text.toList).isEmpty = false := by
    rw [entries]
    simp
  rw [tokenize, scan]
  simp only [some_entry, Bool.false_eq_true, ↓reduceIte]
  rw [entries, refused]
  rfl

/-- The tokens of lexemes are their marked tokens written out. -/
theorem tokenize_mark {text : String} {lexemes : List Lexeme} (spelled : Spells text lexemes)
    (separated : Separated lexemes) (nonempty : lexemes ≠ []) :
    tokenize text = .ok ((mark true lexemes).flatMap writtenOut) := by
  rw [tokenize_of_spells spelled separated nonempty, expand_eq]

/-- A text is refused for being blank exactly when it is. -/
theorem tokenize_eq_empty_iff {text : String} :
    tokenize text = .error (.fault .emptyExpression) ↔
      ∀ char ∈ text.toList, Text.isBlank char = true := by
  refine ⟨fun refused => ?_, tokenize_blank⟩
  rcases text_cases text with blank | ⟨char, position, first⟩ | ⟨lexemes, some, apart, spelled⟩
  · exact blank
  · rw [first.tokenize_eq] at refused
    cases refused
  · rw [tokenize_mark spelled apart some] at refused
    cases refused

/-- A character is refused exactly when it is the first foreign one. -/
theorem tokenize_eq_unexpected_iff {text : String} {char : Char} {position : Nat} :
    tokenize text = .error (.fault (.unexpectedCharacter char position)) ↔
      FirstForeign text char position := by
  refine ⟨fun refused => ?_, FirstForeign.tokenize_eq⟩
  rcases text_cases text with blank | ⟨char, position, first⟩ | ⟨lexemes, some, apart, spelled⟩
  · rw [tokenize_blank blank] at refused
    cases refused
  · rw [first.tokenize_eq] at refused
    cases refused
    exact first
  · rw [tokenize_mark spelled apart some] at refused
    cases refused

/-- A text with tokens spells lexemes. -/
theorem exists_lexemes_of_tokenize {text : String} {tokens : List Token}
    (scanned : tokenize text = .ok tokens) :
    ∃ lexemes, lexemes ≠ [] ∧ Separated lexemes ∧ Spells text lexemes := by
  rcases text_cases text with blank | ⟨char, position, first⟩ | found
  · rw [tokenize_blank blank] at scanned
    cases scanned
  · rw [first.tokenize_eq] at scanned
    cases scanned
  · exact found

/-- Blanks make no difference to tokens. -/
theorem tokenize_of_visible {text other : String} {tokens : List Token}
    (same : visible other = visible text) (scanned : tokenize text = .ok tokens) :
    tokenize other = .ok tokens := by
  obtain ⟨lexemes, some, apart, spelled⟩ := exists_lexemes_of_tokenize scanned
  rw [← scanned, tokenize_mark spelled apart some]
  exact tokenize_mark (same.trans spelled) apart some

/-- A text that is not blank and holds no foreign character is written in marked tokens. -/
theorem exists_marks {text : String} (shown : ∃ char ∈ text.toList, Text.isBlank char = false)
    (known : ∀ char ∈ text.toList, isForeign char = false) :
    ∃ marked, Marks text marked ∧ tokenize text = .ok (marked.flatMap writtenOut) := by
  rcases text_cases text with blank | ⟨char, position, first⟩ | ⟨lexemes, some, apart, spelled⟩
  · obtain ⟨char, member, visible⟩ := shown
    exact absurd (blank char member) (ne_true_of_eq_false visible)
  · obtain ⟨front, back, parts, -, -, foreign⟩ := first
    have member : char ∈ text.toList := by
      rw [parts]
      exact List.mem_append_right front List.mem_cons_self
    exact absurd foreign (ne_true_of_eq_false (known char member))
  · exact ⟨_, marks_of_spells spelled apart, tokenize_mark spelled apart some⟩

/-- Marked tokens are those of their text. -/
theorem Marks.tokenize_eq {text : String} {marked : List Token} (marks : Marks text marked)
    (nonempty : marked ≠ []) : tokenize text = .ok (marked.flatMap writtenOut) := by
  obtain ⟨lexemes, separated, rfl⟩ := marks.exists_lexemes [] marked rfl
  have spelled : Spells text lexemes := marks.written.symm.trans (textOf_mark _ lexemes)
  exact tokenize_mark spelled separated fun none => nonempty (none ▸ rfl)

/-- A text has no tokens exactly when it is blank or holds a foreign character, the first of which
is then refused. The tokens of every other text are marked tokens written out, and no other sequence
of marked tokens is written in it. What blanks it holds makes no difference. -/
theorem tokenize_marks (text : String) :
    (tokenize text = .error (.fault .emptyExpression) ↔
      ∀ char ∈ text.toList, Text.isBlank char = true) ∧
    (∀ char position, tokenize text = .error (.fault (.unexpectedCharacter char position)) ↔
      FirstForeign text char position) ∧
    ((∃ char ∈ text.toList, Text.isBlank char = false) →
      (∀ char ∈ text.toList, isForeign char = false) →
        ∃ marked, Marks text marked ∧ tokenize text = .ok (marked.flatMap writtenOut)) ∧
    (∀ marked, Marks text marked → marked ≠ [] →
      tokenize text = .ok (marked.flatMap writtenOut)) ∧
    ∀ other tokens, visible other = visible text →
      (tokenize other = .ok tokens ↔ tokenize text = .ok tokens) := by
  refine ⟨tokenize_eq_empty_iff, fun _ _ => tokenize_eq_unexpected_iff, exists_marks,
    fun _ marks => marks.tokenize_eq, fun other tokens same => ?_⟩
  exact ⟨tokenize_of_visible same.symm, tokenize_of_visible same⟩

/-- A minus at the start and a number that a blank parts. -/
def partedTokens : List Token := [Token.number "0", unaryMinus, Token.number "12"]

/-- The parted number is one numeral, and its blanks can be left out. A foreign character is refused
at its place among all characters. -/
theorem tokenize_marks_parted :
    tokenize " -1 2" = .ok partedTokens ∧ tokenize "-12" = .ok partedTokens ∧
      (∃ marked, Marks "( 1" marked ∧ tokenize "( 1" = .ok (marked.flatMap writtenOut)) ∧
      tokenize "1 2 €-" = .error (.fault (.unexpectedCharacter '€' 4)) ∧
      tokenize " \t" = .error (.fault .emptyExpression) := by
  let twelve : Numeral := ⟨['1', '2'], List.cons_ne_nil '1' ['2'], List.all_eq_true.mp rfl⟩
  have spelled : Spells " -1 2" [.operator .sub, .numeral twelve] :=
    show visible " -1 2" = ['-', '1', '2'] by decide +kernel
  have separated : Separated [.operator .sub, .numeral twelve] := by
    simp [Separated, beginsNumeral, Lexeme.isNumeral]
  have marks : Marks " -1 2" [unaryMinus, Token.number "12"] := marks_of_spells spelled separated
  obtain ⟨-, -, -, written, alike⟩ := tokenize_marks " -1 2"
  have parted : tokenize " -1 2" = .ok partedTokens := written _ marks (List.cons_ne_nil _ _)
  have shown : ∃ char ∈ "( 1".toList, Text.isBlank char = false :=
    ⟨'1', by decide +kernel, by decide⟩
  have known : "( 1".toList.all (fun char => !isForeign char) = true := by decide +kernel
  have front : ['1', ' ', '2', ' '].all (fun char => !isForeign char) = true := by decide
  have refused : FirstForeign "1 2 €-" '€' 4 :=
    ⟨['1', ' ', '2', ' '], ['-'], by decide +kernel, rfl,
      fun other member => by simpa using List.all_eq_true.mp front other member, by decide⟩
  have blank : " \t".toList.all Text.isBlank = true := by decide +kernel
  refine ⟨parted, (alike "-12" _ (by decide +kernel)).mpr parted, ?_,
    ((tokenize_marks "1 2 €-").2.1 '€' 4).mpr refused,
    (tokenize_marks " \t").1.mpr (List.all_eq_true.mp blank)⟩
  exact (tokenize_marks "( 1").2.2.1 shown fun char member => by
    simpa using List.all_eq_true.mp known char member

end Reckoner.Expression
