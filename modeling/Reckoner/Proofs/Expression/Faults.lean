import Reckoner.Proofs.Expression.Counts

/-!
# Nothing but faults

The tokens of a text hold no operator but the four, and the postfix order of tokens holds no
parenthesis. So no stage of an evaluation is given what no earlier stage produces, and each stage
has its own kinds of faults: the scan refuses blank texts and unknown characters
(`tokenize_faults`), the conversion finds parentheses without a partner (`postfixFrom_faults`), and
the run finds numerals, operands and divisors at fault, or at its end values left over or not finite
(`evaluatePostfix_faults`).
-/

namespace Reckoner.Expression

/-- An outcome is a result or a fault of the expression. -/
def OnlyFaults {α : Type} (outcome : Except Failure α) : Prop :=
  ∀ failure, outcome = .error failure → ∃ error, failure = .fault error

/-- An outcome is a result or a fault of one of some kinds. -/
def FaultsOf {α : Type} (kinds : List EvalError.Kind) (outcome : Except Failure α) : Prop :=
  ∀ failure, outcome = .error failure → ∃ error, failure = .fault error ∧ error.kind ∈ kinds

section

variable {α β : Type} {kinds : List EvalError.Kind}

/-- A result is no failure. -/
theorem faultsOf_ok (value : α) : FaultsOf kinds (.ok value) := fun _ failed => by cases failed

/-- A fault of a kind is one. -/
theorem faultsOf_fault {error : EvalError} (member : error.kind ∈ kinds) :
    FaultsOf kinds (.error (.fault error) : Except Failure α) := by
  intro failure failed
  cases failed
  exact ⟨error, rfl, member⟩

/-- Faults of some kinds are faults. -/
theorem FaultsOf.onlyFaults {outcome : Except Failure α} (faults : FaultsOf kinds outcome) :
    OnlyFaults outcome := by
  intro failure failed
  obtain ⟨error, same, -⟩ := faults failure failed
  exact ⟨error, same⟩

/-- Faults of some kinds are of more kinds. -/
theorem FaultsOf.mono {more : List EvalError.Kind} {outcome : Except Failure α}
    (faults : FaultsOf kinds outcome) (subset : kinds ⊆ more) : FaultsOf more outcome := by
  intro failure failed
  obtain ⟨error, same, member⟩ := faults failure failed
  exact ⟨error, same, subset member⟩

/-- Changed results have the same failures. -/
theorem FaultsOf.map {outcome : Except Failure α} (faults : FaultsOf kinds outcome)
    (change : α → β) : FaultsOf kinds (outcome.map change) :=
  fun failure failed => faults failure (map_eq_error failed)

/-- A sequence has the failures of its steps. -/
theorem FaultsOf.bind {outcome : Except Failure α} {next : α → Except Failure β}
    (faults : FaultsOf kinds outcome)
    (later : ∀ value, outcome = .ok value → FaultsOf kinds (next value)) :
    FaultsOf kinds (outcome >>= next) := by
  intro failure failed
  rcases bind_eq_error failed with first | ⟨value, succeeded, second⟩
  · exact faults failure first
  · exact later value succeeded failure second

end

/-- Every kind is listed. -/
theorem mem_kinds (kind : EvalError.Kind) : kind ∈ EvalError.Kind.all := by
  cases kind <;> decide

/-! ## Known operators -/

/-- An operator token is one of the four. -/
def Known (token : Token) : Prop :=
  token.kind = .operator → ∃ operator, Operator.ofSymbol? token.text = some operator

/-- The operators of tokens can be looked up. -/
theorem known_of_all {tokens : List Token}
    (listed : tokens.all fun token =>
      token.kind != .operator || (Operator.ofSymbol? token.text).isSome) :
    ∀ token ∈ tokens, Known token := by
  intro token member kind
  have found := List.all_eq_true.mp listed token member
  rw [kind] at found
  exact Option.isSome_iff_exists.mp found

/-- A known operator has a precedence. -/
theorem Known.precedence {token : Token} (known : Known token) :
    ∃ held, token.precedence = .ok held := by
  rw [Token.precedence]
  split
  · rename_i operator
    split
    · exact ⟨_, rfl⟩
    · obtain ⟨found, symbol⟩ := known operator
      rw [symbol]
      exact ⟨_, rfl⟩
  · exact ⟨_, rfl⟩

/-- Known operators are compared. -/
theorem Known.yields {waiting incoming : Token} (known : Known waiting)
    (other : Known incoming) : ∃ leaves, yields waiting incoming = .ok leaves := by
  obtain ⟨held, first⟩ := known.precedence
  obtain ⟨new, second⟩ := other.precedence
  rw [Expression.yields, first, second]
  split
  · exact ⟨_, rfl⟩
  · exact ⟨_, rfl⟩

/-- A stack of known operators is split in front of a known one. -/
theorem release_known {incoming : Token} {stack : List Token} (known : Known incoming)
    (others : ∀ token ∈ stack, Known token) : ∃ parts, release incoming stack = .ok parts := by
  induction stack with
  | nil => exact ⟨_, rfl⟩
  | cons top rest ih =>
    obtain ⟨leaves, decided⟩ := (others top List.mem_cons_self).yields known
    obtain ⟨parts, tail⟩ := ih fun token member => others token (List.mem_cons_of_mem top member)
    rw [release, decided, tail]
    cases leaves with
    | false => exact ⟨_, rfl⟩
    | true => exact ⟨_, rfl⟩

/-- An operator has one symbol. -/
theorem symbol_of_ofSymbol? {symbol : String} {operator : Operator}
    (known : Operator.ofSymbol? symbol = some operator) : symbol = operator.symbol := by
  rw [Operator.ofSymbol?] at known
  repeat' split at known
  all_goals cases known
  all_goals assumption

/-- A known operator on two numbers has a value or divides by zero. -/
theorem applySymbol_faults {symbol : String} {operator : Operator}
    (known : Operator.ofSymbol? symbol = some operator) (left right : Binary64) :
    FaultsOf [.divisionByZero] (applySymbol symbol left right) := by
  rw [symbol_of_ofSymbol? known]
  cases operator with
  | add => exact faultsOf_ok _
  | sub => exact faultsOf_ok _
  | mul => exact faultsOf_ok _
  | div =>
    have slash : applySymbol Operator.div.symbol left right = _ :=
      applySymbol_productOperator .divided left right
    rw [slash, ProductOperator.apply]
    split
    · exact faultsOf_fault (List.mem_singleton.mpr rfl)
    · exact faultsOf_ok _

/-! ## The stages -/

/-- The kinds of faults that a scan finds. -/
def scanKinds : List EvalError.Kind := [.emptyExpression, .unexpectedCharacter]

/-- A character outside numerals has a token, or it is unexpected. -/
theorem symbolToken_faults (char : Char) (position : Nat) :
    FaultsOf scanKinds (symbolToken char position) := by
  rw [symbolToken_eq]
  split
  · exact faultsOf_ok _
  · exact faultsOf_fault (List.mem_cons_of_mem _ List.mem_cons_self)

/-- Characters have tokens, or one of them is unexpected. -/
theorem scanFrom_faults (run : List Char) (chars : List (Char × Nat)) :
    FaultsOf scanKinds (scanFrom run chars) := by
  induction chars generalizing run with
  | nil => exact faultsOf_ok _
  | cons first rest ih =>
    obtain ⟨char, position⟩ := first
    rw [scanFrom]
    split
    · exact ih (char :: run)
    · exact (symbolToken_faults char position).bind fun token _ =>
        (ih []).bind fun tokens _ => faultsOf_ok _

/-- A text has tokens, or it is blank or holds an unexpected character. -/
theorem tokenize_faults (text : String) : FaultsOf scanKinds (tokenize text) := by
  refine FaultsOf.map ?_ (expandMinus none)
  rw [scan]
  split
  · exact faultsOf_fault List.mem_cons_self
  · exact scanFrom_faults [] _

/-- Known tokens convert, or their parentheses do not match. -/
theorem postfixFrom_faults {stack tokens : List Token} (waiting : ∀ token ∈ stack, Known token)
    (known : ∀ token ∈ tokens, Known token) :
    FaultsOf [.mismatchedParentheses] (postfixFrom stack tokens) := by
  induction tokens generalizing stack with
  | nil =>
    rw [postfixFrom]
    split
    · exact faultsOf_fault (List.mem_singleton.mpr rfl)
    · exact faultsOf_ok _
  | cons token rest ih =>
    have first := known token List.mem_cons_self
    have others : ∀ other ∈ rest, Known other :=
      fun other member => known other (List.mem_cons_of_mem token member)
    have pushed {below : List Token} (held : ∀ other ∈ below, Known other) :
        ∀ other ∈ token :: below, Known other := by
      intro other member
      cases List.mem_cons.mp member with
      | inl same => exact same ▸ first
      | inr inside => exact held other inside
    cases kind : token.kind with
    | number =>
      simp only [postfixFrom, kind]
      exact (ih waiting others).map _
    | operator =>
      simp only [postfixFrom, kind]
      obtain ⟨parts, split⟩ := release_known first waiting
      have held : ∀ other ∈ parts.2, Known other := fun other member =>
        waiting other ((release_eq_ok split).1 ▸ List.mem_append_right parts.1 member)
      rw [split]
      exact (ih (pushed held) others).bind fun _ _ => faultsOf_ok _
    | lparen =>
      simp only [postfixFrom, kind]
      exact ih (pushed waiting) others
    | rparen =>
      simp only [postfixFrom, kind]
      cases closes : closeGroup? stack with
      | none => exact faultsOf_fault (List.mem_singleton.mpr rfl)
      | some parts =>
        obtain ⟨opening, -, whole, -⟩ := closeGroup?_eq_some closes
        have held : ∀ other ∈ parts.2, Known other := fun other member =>
          waiting other (whole ▸ List.mem_append_right parts.1 (List.mem_cons_of_mem _ member))
        exact (ih held others).map _

/-- A conversion gives no token but those it was given. -/
theorem mem_of_converts {stack tokens output : List Token}
    (converted : Converts stack tokens output) :
    ∀ token ∈ output, token ∈ stack ∨ token ∈ tokens := by
  induction converted with
  | nil operators => exact fun _ member => .inl member
  | number kind tail ih =>
    intro token member
    rcases List.mem_cons.mp member with same | member
    · exact .inr (List.mem_cons.mpr (.inl same))
    · exact (ih token member).imp_right (List.mem_cons_of_mem _)
  | operator kind operators tail ih =>
    intro token member
    rcases List.mem_append.mp member with inside | member
    · exact .inl (List.mem_append_left _ inside)
    rcases ih token member with waiting | later
    · rcases List.mem_cons.mp waiting with same | below
      · exact .inr (List.mem_cons.mpr (.inl same))
      · exact .inl (List.mem_append_right _ below)
    · exact .inr (List.mem_cons_of_mem _ later)
  | opening kind tail ih =>
    intro token member
    rcases ih token member with waiting | later
    · rcases List.mem_cons.mp waiting with same | below
      · exact .inr (List.mem_cons.mpr (.inl same))
      · exact .inl below
    · exact .inr (List.mem_cons_of_mem _ later)
  | closing kind opens closed tail ih =>
    intro token member
    rcases List.mem_append.mp member with inside | member
    · exact .inl (List.mem_append_left _ inside)
    rcases ih token member with waiting | later
    · exact .inl (List.mem_append_right _ (List.mem_cons_of_mem _ waiting))
    · exact .inr (List.mem_cons_of_mem _ later)

/-- The order of evaluation has no parentheses: behind a stack of operators and opening parentheses
a conversion gives nothing but numbers and operators. -/
theorem kind_of_converts {stack tokens output : List Token}
    (waiting : ∀ token ∈ stack, token.kind = .operator ∨ token.kind = .lparen)
    (converted : Converts stack tokens output) :
    ∀ token ∈ output, token.kind = .number ∨ token.kind = .operator := by
  induction converted with
  | nil operators =>
    exact fun token member => .inr ((waiting token member).resolve_right (operators token member))
  | number kind tail ih =>
    intro token member
    rcases List.mem_cons.mp member with rfl | later
    · exact .inl kind
    · exact ih waiting token later
  | operator kind operators tail ih =>
    intro token member
    rcases List.mem_append.mp member with released | later
    · exact .inr (operators token released)
    · refine ih (List.forall_mem_cons.mpr ⟨.inl kind, fun other kept => ?_⟩) token later
      exact waiting other (List.mem_append_right _ kept)
  | opening kind tail ih => exact ih (List.forall_mem_cons.mpr ⟨.inr kind, waiting⟩)
  | closing kind opens closed tail ih =>
    intro token member
    rcases List.mem_append.mp member with inside | later
    · have held := waiting token (List.mem_append_left _ inside)
      exact .inr (held.resolve_right (closed token inside))
    · refine ih (fun other below => ?_) token later
      exact waiting other (List.mem_append_right _ (List.mem_cons_of_mem _ below))

/-- A number token is a number, or its text is at fault. -/
theorem readNumber_faults (text : String) : FaultsOf [.invalidNumber] (readNumber text) := by
  rw [readNumber]
  split
  · split
    · exact faultsOf_fault (List.mem_singleton.mpr rfl)
    · exact faultsOf_ok _
  · exact faultsOf_fault (List.mem_singleton.mpr rfl)

/-- The kinds of faults that a run finds. -/
def runKinds : List EvalError.Kind := [.invalidNumber, .insufficientOperands, .divisionByZero]

/-- A number or a known operator has only the faults of a run. -/
theorem step_faults (stack : List Binary64) {token : Token} (known : Known token)
    (kind : token.kind = .number ∨ token.kind = .operator) :
    FaultsOf runKinds (step stack token) := by
  rcases kind with number | operator
  · simp only [step, number]
    exact ((readNumber_faults token.text).map _).mono (by decide)
  · obtain ⟨found, symbol⟩ := known operator
    simp only [step, operator]
    split
    · exact ((applySymbol_faults symbol _ _).map _).mono (by decide)
    · exact faultsOf_fault (List.mem_cons_of_mem _ List.mem_cons_self)

/-- Numbers and known operators have only the faults of a run. -/
theorem run_faults (stack : List Binary64) {tokens : List Token}
    (known : ∀ token ∈ tokens, Known token)
    (kinds : ∀ token ∈ tokens, token.kind = .number ∨ token.kind = .operator) :
    FaultsOf runKinds (run stack tokens) := by
  induction tokens generalizing stack with
  | nil => exact faultsOf_ok _
  | cons token rest ih =>
    obtain ⟨first, others⟩ := List.forall_mem_cons.mp known
    obtain ⟨kind, otherKinds⟩ := List.forall_mem_cons.mp kinds
    rw [run_cons]
    exact (step_faults stack first kind).bind fun after _ => ih after others otherKinds

/-- The kinds of faults that are found at the end. -/
def finalKinds : List EvalError.Kind := [.malformedExpression, .invalidResult]

/-- The end of an evaluation has only its own faults. -/
theorem conclude_faults (stack : List Binary64) : FaultsOf finalKinds (conclude stack) := by
  rw [conclude.eq_def]
  split
  · split
    · exact faultsOf_ok _
    · exact faultsOf_fault (List.mem_cons_of_mem _ List.mem_cons_self)
  · exact faultsOf_fault List.mem_cons_self

/-- Numbers and known operators have a value, or a fault of the run or of its end. -/
theorem evaluatePostfix_faults {tokens : List Token} (known : ∀ token ∈ tokens, Known token)
    (kinds : ∀ token ∈ tokens, token.kind = .number ∨ token.kind = .operator) :
    FaultsOf (runKinds ++ finalKinds) (evaluatePostfix tokens) := by
  have ran := (run_faults [] known kinds).mono (List.subset_append_left _ finalKinds)
  exact ran.bind fun after _ => (conclude_faults after).mono (List.subset_append_right runKinds _)

/-! ## A text -/

/-- The token of a lexeme is known. -/
theorem Lexeme.known (lexeme : Lexeme) : Known lexeme.token := by
  intro kind
  cases lexeme with
  | operator operator =>
    refine ⟨operator, ?_⟩
    cases operator <;> rfl
  | numeral word => cases kind
  | opening => cases kind
  | closing => cases kind

/-- The tokens of lexemes are known. -/
theorem expand_known (awaiting : Bool) (lexemes : List Lexeme) :
    ∀ token ∈ expand awaiting lexemes, Known token := by
  induction lexemes generalizing awaiting with
  | nil => exact fun _ member => by cases member
  | cons first rest ih =>
    intro token member
    rw [expand, List.mem_append] at member
    cases member with
    | inr later => exact ih first.awaitsOperand token later
    | inl here =>
      rw [Lexeme.expansion] at here
      split at here
      · rcases List.mem_cons.mp here with same | single
        · rw [same]
          exact fun kind => by cases kind
        · rw [List.mem_singleton.mp single]
          exact fun _ => ⟨.sub, rfl⟩
      · rw [List.mem_singleton.mp here]
        exact first.known

/-- The tokens of a text are those of lexemes. -/
theorem exists_lexemes {text : String} {tokens : List Token}
    (scanned : tokenize text = .ok tokens) :
    ∃ lexemes, tokens = expand true lexemes := by
  rcases scan_cases text with ⟨error, refused⟩ | ⟨lexemes, nonempty, separated, spelled, -⟩
  · rw [tokenize, refused] at scanned
    cases scanned
  · rw [tokenize_of_spells spelled separated nonempty] at scanned
    cases scanned
    exact ⟨lexemes, rfl⟩

/-- The order of evaluation holds numbers and operators that were given, and nothing else. -/
theorem mem_of_toPostfix {tokens output : List Token} (converted : toPostfix tokens = .ok output) :
    ∀ token ∈ output, token ∈ tokens ∧ (token.kind = .number ∨ token.kind = .operator) := by
  intro token member
  have conversion := converts_of_postfixFrom converted
  have given := mem_of_converts conversion token member
  have kind := kind_of_converts (fun _ none => absurd none List.not_mem_nil) conversion token member
  exact ⟨given.resolve_left List.not_mem_nil, kind⟩

/-- The tokens of a text convert, or their parentheses do not match. -/
theorem toPostfix_faults {text : String} {tokens : List Token}
    (scanned : tokenize text = .ok tokens) :
    FaultsOf [.mismatchedParentheses] (toPostfix tokens) := by
  obtain ⟨lexemes, rfl⟩ := exists_lexemes scanned
  exact postfixFrom_faults (fun _ none => absurd none List.not_mem_nil) (expand_known true lexemes)

/-- The order of evaluation of the tokens of a text has a value, or a fault of the run or of its
end. -/
theorem evaluatePostfix_toPostfix_faults {text : String} {tokens output : List Token}
    (scanned : tokenize text = .ok tokens) (converted : toPostfix tokens = .ok output) :
    FaultsOf (runKinds ++ finalKinds) (evaluatePostfix output) := by
  obtain ⟨lexemes, rfl⟩ := exists_lexemes scanned
  have given := mem_of_toPostfix converted
  exact evaluatePostfix_faults
    (fun token member => expand_known true lexemes token (given token member).1)
    fun token member => (given token member).2

/-- A text has a value or a fault. -/
theorem compute_onlyFaults (text : String) : OnlyFaults (compute text) := by
  have all {α : Type} {kinds : List EvalError.Kind} {outcome : Except Failure α}
      (faults : FaultsOf kinds outcome) : FaultsOf EvalError.Kind.all outcome :=
    faults.mono fun kind _ => mem_kinds kind
  refine ((all (tokenize_faults text)).bind fun tokens scanned => ?_).onlyFaults
  exact (all (toPostfix_faults scanned)).bind fun output converted =>
    all (evaluatePostfix_toPostfix_faults scanned converted)

/-- A finite number is written down. -/
theorem exists_format {value : Binary64} (finite : value.isFinite = true) :
    ∃ text, format value = .ok text := by
  cases value with
  | finite negative rank =>
    rw [format]
    split
    · exact ⟨_, rfl⟩
    · exact ⟨_, rfl⟩
  | infinite negative => cases finite
  | nan => cases finite

/-- The value of a text is finite. -/
theorem isFinite_of_compute {text : String} {value : Binary64}
    (computed : compute text = .ok value) : value.isFinite = true := by
  obtain ⟨_, _, -, -, -, -, evaluated⟩ := stages_of_compute computed
  exact (run_of_evaluatePostfix evaluated).2

/-- A text evaluates to a written value or has a fault. -/
theorem evaluate_onlyFaults (text : String) : OnlyFaults (evaluate text) := by
  intro failure failed
  rcases bind_eq_error failed with first | ⟨value, computed, second⟩
  · exact compute_onlyFaults text failure first
  · obtain ⟨result, written⟩ := exists_format (isFinite_of_compute computed)
    rw [written] at second
    cases second

end Reckoner.Expression
