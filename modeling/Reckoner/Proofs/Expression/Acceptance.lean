import Reckoner.Proofs.Expression.Faults

/-!
# What is accepted

A sentence of the grammar is told by two checks: every lexeme stands where it may, which depends on
whether an operand is awaited there, and the parentheses are balanced. An evaluation checks less, the
balance of the parentheses and the counts of numbers and operators. The two agree on every text in
which no operand stands directly behind another.
-/

namespace Reckoner.Expression

/-- An operand begins with the token. -/
def startsOperand (token : Token) : Bool := token.kind == .number || token.kind == .lparen

/-- An operand begins directly behind another one, in tokens that begin where an operand is awaited
or not. -/
def juxtaposed (awaiting : Bool) : List Token → Bool
  | [] => false
  | token :: rest =>
    !awaiting && startsOperand token || juxtaposed (beginsOperand (some token)) rest

/-- The lexeme may stand where an operand is awaited or not. -/
def Lexeme.fits (awaiting : Bool) : Lexeme → Bool
  | .numeral _ | .opening => awaiting
  | .operator word => !awaiting || word == .sub
  | .closing => !awaiting

/-- Every lexeme stands where it may, and no operand is awaited at the end. -/
def fitting (awaiting : Bool) : List Lexeme → Bool
  | [] => !awaiting
  | first :: rest => first.fits awaiting && fitting first.awaitsOperand rest

/-! ## Phrases pass the checks -/

namespace Phrase

/-- The lexemes of a phrase stand where they may, and no operand is awaited behind them. -/
theorem fitting_append {level : Level} (phrase : Phrase level) (rest : List Lexeme) :
    fitting true (phrase.lexemes ++ rest) = fitting false rest := by
  induction phrase generalizing rest with
  | numeral word => rfl
  | group inner ih =>
    rw [lexemes, List.cons_append, List.append_assoc, fitting]
    exact ih (.closing :: rest)
  | atom inner ih => exact ih rest
  | negation operand ih => exact ih rest
  | sign inner ih => exact ih rest
  | product left operator right leftIh rightIh =>
    rw [lexemes, List.append_assoc, leftIh]
    exact rightIh rest
  | term inner ih => exact ih rest
  | sum left operator right leftIh rightIh =>
    rw [lexemes, List.append_assoc, leftIh]
    exact rightIh rest

/-- The parentheses of a phrase are balanced. -/
theorem balanced_append {level : Level} (phrase : Phrase level) (depth : Nat)
    (rest : List Token) :
    balanced depth (phrase.lexemes.map Lexeme.token ++ rest) = balanced depth rest := by
  induction phrase generalizing depth rest with
  | numeral word => rfl
  | group inner ih =>
    rw [lexemes, List.map_cons, List.map_append, List.cons_append, List.append_assoc]
    exact ih (depth + 1) (Token.rparen :: rest)
  | atom inner ih => exact ih depth rest
  | negation operand ih => exact ih depth rest
  | sign inner ih => exact ih depth rest
  | product left operator right leftIh rightIh =>
    rw [lexemes, List.map_append, List.append_assoc, leftIh]
    exact rightIh depth rest
  | term inner ih => exact ih depth rest
  | sum left operator right leftIh rightIh =>
    rw [lexemes, List.map_append, List.append_assoc, leftIh]
    exact rightIh depth rest

/-- A phrase that stands alone passes both checks. -/
theorem passes {level : Level} (phrase : Phrase level) :
    fitting true phrase.lexemes = true ∧ balanced 0 (phrase.lexemes.map Lexeme.token) = true := by
  have fits := phrase.fitting_append []
  have closes := phrase.balanced_append 0 []
  rw [List.append_nil] at fits closes
  exact ⟨fits, closes⟩

end Phrase

/-- Where every lexeme stands where it may, no operand stands directly behind another. -/
theorem not_juxtaposed_of_fitting {awaiting : Bool} {lexemes : List Lexeme}
    (fits : fitting awaiting lexemes = true) :
    juxtaposed awaiting (lexemes.map Lexeme.token) = false := by
  induction lexemes generalizing awaiting with
  | nil => rfl
  | cons first rest ih =>
    rw [fitting, Bool.and_eq_true] at fits
    have apart : (!awaiting && startsOperand first.token) = false := by
      cases awaiting with
      | true => rfl
      | false =>
        cases first with
        | numeral word => cases fits.1
        | operator operator => rfl
        | opening => cases fits.1
        | closing => rfl
    rw [List.map_cons, juxtaposed, beginsOperand_token, apart, ih fits.2]
    rfl

/-! ## What passes the checks is a phrase -/

/-- A sign behind a number of minuses. -/
def Phrase.negated (sign : Phrase .sign) : Nat → Phrase .sign
  | 0 => sign
  | minuses + 1 => .negation (sign.negated minuses)

/-- The lexemes of a sign behind minuses. -/
theorem Phrase.negated_lexemes (sign : Phrase .sign) (minuses : Nat) :
    (sign.negated minuses).lexemes = List.replicate minuses (.operator .sub) ++ sign.lexemes := by
  induction minuses with
  | zero => rfl
  | succ minuses ih => rw [negated, lexemes, ih, List.replicate_succ, List.cons_append]

/-- A sum with one more factor in its last product. -/
def Phrase.withFactor (factor : Phrase .sign) (operator : ProductOperator) :
    Phrase .sum → Phrase .sum
  | .term inner => .term (.product inner operator factor)
  | .sum left other right => .sum left other (.product right operator factor)

/-- A sum and one more operand behind an operator. -/
def Phrase.extended (left : Phrase .sum) (operand : Phrase .sign) : Operator → Phrase .sum
  | .add => .sum left .plus (.sign operand)
  | .sub => .sum left .minus (.sign operand)
  | .mul => withFactor operand .times left
  | .div => withFactor operand .divided left

/-- The lexemes of a sum with one more factor. -/
theorem Phrase.withFactor_lexemes (factor : Phrase .sign) (operator : ProductOperator)
    (left : Phrase .sum) :
    (withFactor factor operator left).lexemes =
      left.lexemes ++ .operator operator.operator :: factor.lexemes := by
  cases left with
  | term inner => rfl
  | sum left other right =>
    rw [withFactor, lexemes, lexemes, lexemes, List.append_assoc, List.cons_append]

/-- The lexemes of a sum and one more operand. -/
theorem Phrase.extended_lexemes (left : Phrase .sum) (operand : Phrase .sign)
    (operator : Operator) :
    (left.extended operand operator).lexemes =
      left.lexemes ++ .operator operator :: operand.lexemes := by
  cases operator with
  | add => rfl
  | sub => rfl
  | mul => exact withFactor_lexemes operand .times left
  | div => exact withFactor_lexemes operand .divided left

/-- What stands in front of an awaited operand: possibly a sum and an operator, and minuses. -/
structure Frame where
  /-- The sum and the operator. -/
  left : Option (Phrase .sum × Operator)
  /-- How many minuses stand behind them. -/
  minuses : Nat

namespace Frame

/-- The lexemes of a frame. -/
def lexemes (frame : Frame) : List Lexeme :=
  (match frame.left with
    | none => []
    | some (left, operator) => left.lexemes ++ [.operator operator]) ++
    List.replicate frame.minuses (.operator .sub)

/-- The sum that a frame becomes with its operand. -/
def complete (frame : Frame) (operand : Phrase .atom) : Phrase .sum :=
  let sign := (Phrase.atom operand).negated frame.minuses
  match frame.left with
  | none => .term (.sign sign)
  | some (left, operator) => left.extended sign operator

/-- The operand of a frame stands behind it. -/
theorem complete_lexemes (frame : Frame) (operand : Phrase .atom) :
    (frame.complete operand).lexemes = frame.lexemes ++ operand.lexemes := by
  obtain ⟨left, minuses⟩ := frame
  have signed := (Phrase.atom operand).negated_lexemes minuses
  cases left with
  | none => exact signed
  | some parts =>
    have whole := parts.1.extended_lexemes ((Phrase.atom operand).negated minuses) parts.2
    rw [signed] at whole
    rw [complete, lexemes, whole, List.append_assoc, List.append_assoc]
    rfl

end Frame

/-- What has been read inside the last open parenthesis. -/
inductive Reading where
  /-- An operand is awaited behind a frame. -/
  | awaiting (frame : Frame)
  /-- A sum has been read. -/
  | complete (phrase : Phrase .sum)

namespace Reading

/-- An operand is awaited. -/
def awaits : Reading → Bool
  | .awaiting _ => true
  | .complete _ => false

/-- The lexemes that have been read. -/
def lexemes : Reading → List Lexeme
  | .awaiting frame => frame.lexemes
  | .complete phrase => phrase.lexemes

end Reading

/-- The lexemes in front of the last open parenthesis, and that parenthesis, when parentheses are
open behind frames, the last one first. -/
def context : List Frame → List Lexeme
  | [] => []
  | frame :: rest => context rest ++ (frame.lexemes ++ [.opening])

/-- What passes the checks behind a reading completes a phrase. -/
theorem exists_phrase_of_reading (lexemes : List Lexeme) (reading : Reading) (frames : List Frame)
    (fits : fitting reading.awaits lexemes = true)
    (closes : balanced frames.length (lexemes.map Lexeme.token) = true) :
    ∃ phrase : Phrase .sum, phrase.lexemes = context frames ++ (reading.lexemes ++ lexemes) := by
  induction lexemes generalizing reading frames with
  | nil =>
    cases reading with
    | awaiting frame => cases fits
    | complete phrase =>
      rw [List.length_eq_zero_iff.mp (beq_iff_eq.mp closes), List.append_nil]
      exact ⟨phrase, rfl⟩
  | cons first rest ih =>
    rw [fitting, Bool.and_eq_true] at fits
    cases first with
    | numeral word =>
      cases reading with
      | complete phrase => cases fits.1
      | awaiting frame =>
        obtain ⟨whole, parts⟩ :=
          ih (.complete (frame.complete (.numeral word))) frames fits.2 closes
        refine ⟨whole, ?_⟩
        rw [parts, Reading.lexemes, Reading.lexemes, frame.complete_lexemes, List.append_assoc]
        rfl
    | operator operator =>
      cases reading with
      | awaiting frame =>
        have minus : operator = .sub := beq_iff_eq.mp fits.1
        obtain ⟨whole, parts⟩ :=
          ih (.awaiting ⟨frame.left, frame.minuses + 1⟩) frames fits.2 closes
        refine ⟨whole, ?_⟩
        rw [parts, minus, Reading.lexemes, Reading.lexemes, Frame.lexemes, Frame.lexemes,
          List.replicate_succ']
        simp only [List.append_assoc, List.singleton_append]
      | complete phrase =>
        obtain ⟨whole, parts⟩ :=
          ih (.awaiting ⟨some (phrase, operator), 0⟩) frames fits.2 closes
        refine ⟨whole, ?_⟩
        rw [parts, Reading.lexemes, Frame.lexemes, List.replicate_zero, List.append_nil,
          List.append_assoc]
        rfl
    | opening =>
      cases reading with
      | complete phrase => cases fits.1
      | awaiting frame =>
        obtain ⟨whole, parts⟩ := ih (.awaiting ⟨none, 0⟩) (frame :: frames) fits.2 closes
        refine ⟨whole, ?_⟩
        rw [parts, context, List.append_assoc, List.append_assoc]
        rfl
    | closing =>
      have closes := Bool.and_eq_true_iff.mp closes
      cases reading with
      | awaiting frame => cases fits.1
      | complete phrase =>
        cases frames with
        | nil => cases closes.1
        | cons frame others =>
          obtain ⟨whole, parts⟩ :=
            ih (.complete (frame.complete (.group phrase))) others fits.2 closes.2
          refine ⟨whole, ?_⟩
          rw [parts, Reading.lexemes, frame.complete_lexemes, context, Phrase.lexemes]
          simp only [Reading.lexemes, List.append_assoc, List.cons_append, List.nil_append]

/-- The two checks tell the sentences of the grammar. -/
theorem passes_iff_exists_phrase (lexemes : List Lexeme) :
    fitting true lexemes = true ∧ balanced 0 (lexemes.map Lexeme.token) = true ↔
      ∃ phrase : Phrase .sum, phrase.lexemes = lexemes := by
  constructor
  · intro passed
    exact exists_phrase_of_reading lexemes (.awaiting ⟨none, 0⟩) [] passed.1 passed.2
  · rintro ⟨phrase, rfl⟩
    exact phrase.passes

/-! ## What an evaluation checks -/

/-- Writing out unary minus leaves the parentheses as they are. -/
theorem balanced_expand (awaiting : Bool) (depth : Nat) (lexemes : List Lexeme) :
    balanced depth (expand awaiting lexemes) = balanced depth (lexemes.map Lexeme.token) := by
  induction lexemes generalizing awaiting depth with
  | nil => rfl
  | cons first rest ih =>
    cases minus : first.isMinus with
    | false =>
      rw [expand_cons_of_not_minus awaiting minus, List.map_cons, balanced, balanced]
      simp only [ih]
    | true =>
      cases first with
      | operator operator =>
        rw [expand, Lexeme.expansion]
        split
        · exact ih true depth
        · exact ih true depth
      | numeral word => cases minus
      | opening => cases minus
      | closing => cases minus

/-- How many numbers more than operators complete a sentence. -/
def owed (awaiting : Bool) : Nat := if awaiting then 1 else 0

/-- A lexeme that is no operand directly behind another adds as many numbers as complete a sentence,
and one fewer where it may not stand. -/
theorem count_expansion {awaiting : Bool} {lexeme : Lexeme}
    (apart : (!awaiting && startsOperand lexeme.token) = false) :
    count .number (lexeme.expansion awaiting) + owed lexeme.awaitsOperand +
        (if lexeme.fits awaiting then 0 else 1) =
      count .operator (lexeme.expansion awaiting) + owed awaiting := by
  cases awaiting with
  | true =>
    cases lexeme with
    | operator operator => cases operator <;> rfl
    | numeral word => rfl
    | opening => rfl
    | closing => rfl
  | false =>
    cases lexeme with
    | operator operator => cases operator <;> rfl
    | numeral word => cases apart
    | opening => cases apart
    | closing => rfl

/-- Where no operand stands directly behind another, there are no more numbers than complete a
sentence, and with as many every lexeme stands where it may. -/
theorem fitting_of_counts (awaiting : Bool) (lexemes : List Lexeme)
    (apart : juxtaposed awaiting (lexemes.map Lexeme.token) = false) :
    count .number (expand awaiting lexemes) ≤
        count .operator (expand awaiting lexemes) + owed awaiting ∧
      (count .number (expand awaiting lexemes) =
          count .operator (expand awaiting lexemes) + owed awaiting →
        fitting awaiting lexemes = true) := by
  induction lexemes generalizing awaiting with
  | nil =>
    refine ⟨Nat.zero_le _, fun even => ?_⟩
    cases awaiting with
    | true => cases even
    | false => rfl
  | cons first rest ih =>
    rw [List.map_cons, juxtaposed, beginsOperand_token, Bool.or_eq_false_iff] at apart
    obtain ⟨bound, complete⟩ := ih first.awaitsOperand apart.2
    have added := count_expansion apart.1
    rw [expand, count_append, count_append, fitting]
    cases fits : first.fits awaiting with
    | true =>
      rw [fits, if_pos rfl] at added
      exact ⟨by omega, fun even => complete (by omega)⟩
    | false =>
      rw [fits, if_neg Bool.false_ne_true] at added
      exact ⟨by omega, fun even => absurd even (by omega)⟩

/-- Lexemes whose tokens have a value have balanced parentheses and one number more than
operators. -/
theorem counts_of_evaluatePostfix {lexemes : List Lexeme} {output : List Token} {value : Binary64}
    (converted : toPostfix (expand true lexemes) = .ok output)
    (evaluated : evaluatePostfix output = .ok value) :
    balanced 0 (lexemes.map Lexeme.token) = true ∧
      count .number (expand true lexemes) = count .operator (expand true lexemes) + 1 := by
  have relation := converts_of_postfixFrom converted
  have numbers : count .number output = _ := count_of_converts (by decide) (by decide) relation
  have operators : count .operator output = _ :=
    count_of_converts (by decide) (by decide) relation
  have counts := count_of_evaluatePostfix evaluated
  have closed := balanced_of_converts relation
  rw [balanced_expand] at closed
  refine ⟨closed, ?_⟩
  rw [numbers, operators, count_nil, count_nil, Nat.zero_add, Nat.zero_add] at counts
  exact counts

/-- A text is at fault, or it has a value and balanced parentheses, holds one number more than
operators when every unary minus is written out, and is a sentence of the grammar exactly when no
operand begins directly behind another. -/
theorem compute_grammatical (text : String) :
    (∃ error, compute text = .error (.fault error)) ∨
      ∃ value tokens, compute text = .ok value ∧ scan text = .ok tokens ∧
        balanced 0 tokens = true ∧
        count .number (expandMinus none tokens) = count .operator (expandMinus none tokens) + 1 ∧
        ((∃ phrase : Phrase .sum, phrase.lexemes.map Lexeme.token = tokens) ↔
          juxtaposed true tokens = false) := by
  cases computed : compute text with
  | error failure =>
    obtain ⟨error, same⟩ := compute_onlyFaults text failure computed
    exact .inl ⟨error, by rw [same]⟩
  | ok value =>
    obtain ⟨lexemes, output, -, -, scanned, converted, evaluated⟩ := stages_of_compute computed
    obtain ⟨closed, counts⟩ := counts_of_evaluatePostfix converted evaluated
    refine .inr ⟨value, _, rfl, scanned, closed, ?_, ?_⟩
    · rw [expandMinus_tokens]
      exact counts
    constructor
    · rintro ⟨phrase, same⟩
      rw [← same]
      exact not_juxtaposed_of_fitting phrase.passes.1
    · intro apart
      have fits := (fitting_of_counts true lexemes apart).2 counts
      obtain ⟨phrase, same⟩ := (passes_iff_exists_phrase lexemes).mp ⟨fits, closed⟩
      exact ⟨phrase, by rw [same]⟩

/-- Two groups in front of an operator have the value of the sum, though they are no sentence of the
grammar. -/
theorem compute_operator_last :
    ∃ tokens, scan "(1)(2)+" = .ok tokens ∧
      compute "(1)(2)+" = .ok (.finite false ⟨0x4008000000000000, by decide⟩) ∧
      ¬∃ phrase : Phrase .sum, phrase.lexemes.map Lexeme.token = tokens := by
  refine ⟨_, rfl, eq_ok_of_toOption (by decide +kernel), ?_⟩
  rintro ⟨phrase, same⟩
  have apart := not_juxtaposed_of_fitting phrase.passes.1
  rw [same] at apart
  exact absurd apart (by decide)

end Reckoner.Expression
