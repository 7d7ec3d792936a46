import Reckoner.Batch.Outcome
import Reckoner.Proofs.Result
import Reckoner.Proofs.Validation.Field

/-!
# Outcomes that travel

An outcome is read from an object exactly when the members describe it: it has a number from one on,
and either a result or an error (`Outcome.ofJson_eq_ok_iff`). An outcome is described by what it
travels as, so it is read as it was sent (`Outcome.ofJson_toJson`).
-/

namespace Reckoner

namespace Outcome

/-! ## Results and errors -/

/-- A verdict comes from its result or its error, with the other missing. -/
theorem verdictOf_eq_ok_iff {result error : Option String} (outcome : Outcome) :
    verdictOf result error = .ok outcome.verdict ↔
      result = outcome.result? ∧ error = outcome.error? := by
  rw [result?, error?]
  cases outcome.verdict <;> cases result <;> cases error <;> simp [verdictOf]

/-- An outcome has a result exactly when it has no error. -/
theorem result?_eq_none_iff (outcome : Outcome) :
    outcome.result? = none ↔ outcome.error? ≠ none := by
  rw [result?, error?]
  cases outcome.verdict with
  | result text => simp
  | error text => simp

/-! ## Outcomes from outside -/

/-- Members describe an outcome when each of its fields is read from the member of its name. A
result, an error and its kind may be missing; each of them is then as if it were null. -/
structure Described (members : List (String × Json)) (outcome : Outcome) : Prop where
  /-- The number is an integer. -/
  line : ∃ given, Json.member? "line" members = some given ∧
    Reading.integer given = .ok (outcome.line : Int)
  /-- The expression is a string. -/
  expression : Json.member? "expression" members = some (.string outcome.expression)
  /-- The result is a string or null. -/
  result : Reading.nullable .string ((Json.member? "result" members).getD .null) =
    .ok outcome.result?
  /-- The error is a string or null. -/
  error : Reading.nullable .string ((Json.member? "error" members).getD .null) = .ok outcome.error?
  /-- The kind is a name or null. -/
  kind : kindReading.nullable ((Json.member? "error_kind" members).getD .null) = .ok outcome.kind?

section

variable {value : Json} {outcome : Outcome}

/-- An object whose members describe an outcome is read as the outcome. -/
theorem Described.ofJson_eq {members : List (String × Json)}
    (described : outcome.Described members) :
    ofJson (.object members) = .ok outcome := by
  obtain ⟨given, here, number⟩ := described.line
  have line : Checked.required "line" .positive members =
      .ok ⟨outcome.line, outcome.line_pos⟩ :=
    Checked.required_eq_ok_iff.mpr ⟨given, here, Reading.positive_eq_ok_iff.mpr number⟩
  have expression : Checked.required "expression" .string members = .ok outcome.expression :=
    Checked.required_eq_ok_iff.mpr ⟨_, described.expression, rfl⟩
  have result := Checked.optional_eq_ok_iff.mpr described.result
  have error := Checked.optional_eq_ok_iff.mpr described.error
  have kind := Checked.optional_eq_ok_iff.mpr described.kind
  show ((((Checked.required "line" .positive members).both
      (Checked.required "expression" .string members)).both
    (((Checked.optional "result" .string members).both
      (Checked.optional "error" .string members)).both
      (Checked.optional "error_kind" kindReading members))) >>= _) = _
  rw [line, expression, result, error, kind]
  show (verdictOf outcome.result? outcome.error? >>= _) = _
  rw [(verdictOf_eq_ok_iff outcome).mpr ⟨rfl, rfl⟩]
  rfl

/-- An outcome is read from an object whose members describe it, and from nothing else. -/
theorem ofJson_eq_ok_iff :
    ofJson value = .ok outcome ↔
      ∃ members, value = .object members ∧ outcome.Described members := by
  constructor
  · intro read
    obtain ⟨members, found, read⟩ := bind_eq_ok read
    obtain ⟨⟨⟨line, expression⟩, ⟨result, error⟩, kind⟩, fields, read⟩ := bind_eq_ok read
    obtain ⟨verdict, sorted, made⟩ := bind_eq_ok read
    cases made
    obtain ⟨numbered, rest⟩ := Checked.both_eq_ok_iff.mp fields
    obtain ⟨numbered, expressed⟩ := Checked.both_eq_ok_iff.mp numbered
    obtain ⟨sides, kinded⟩ := Checked.both_eq_ok_iff.mp rest
    obtain ⟨resulted, failed⟩ := Checked.both_eq_ok_iff.mp sides
    obtain ⟨rfl, rfl⟩ :=
      (verdictOf_eq_ok_iff ⟨line.val, line.property, expression, verdict, kind⟩).mp sorted
    obtain ⟨given, here, number⟩ := Checked.required_eq_ok_iff.mp numbered
    obtain ⟨text, there, string⟩ := Checked.required_eq_ok_iff.mp expressed
    refine ⟨members, Checked.members_eq_ok_iff.mp found, ?_⟩
    exact {
      line := ⟨given, here, Reading.positive_eq_ok_iff.mp number⟩
      expression := by rw [there, Reading.string_eq_ok_iff.mp string]
      result := Checked.optional_eq_ok_iff.mp resulted
      error := Checked.optional_eq_ok_iff.mp failed
      kind := Checked.optional_eq_ok_iff.mp kinded }
  · rintro ⟨members, rfl, described⟩
    exact described.ofJson_eq

end

/-! ## Outcomes that were sent -/

/-- A string that may be missing is read as it was written. -/
theorem nullable_ofString? (text : Option String) :
    Reading.nullable .string (Json.ofString? text) = .ok text := by
  cases text with
  | none => rfl
  | some text => rfl

/-- The kind of an error is read from its name, known or not. -/
theorem nullable_kindReading (kind : Option EvalError.Kind) :
    kindReading.nullable (Json.ofString? (kind.map EvalError.Kind.name)) = .ok kind := by
  cases kind with
  | none => rfl
  | some kind => cases kind <;> rfl

/-- An outcome is read as it was sent. -/
theorem ofJson_toJson (outcome : Outcome) : ofJson outcome.toJson = .ok outcome := by
  apply Described.ofJson_eq
  exact {
    line := ⟨.int outcome.line, rfl, rfl⟩
    expression := rfl
    result := nullable_ofString? outcome.result?
    error := nullable_ofString? outcome.error?
    kind := nullable_kindReading outcome.kind? }

end Outcome

end Reckoner
