import Reckoner.Validation.Field

/-!
# Fields that pass

What a check of fields lets through: the members of an object, the values that its readings give,
and fields side by side when each of them passes.
-/

namespace Reckoner

variable {Value First Second : Type}

namespace Checked

/-- Fields pass side by side exactly when each of them does. -/
theorem both_eq_ok_iff {first : Checked First} {second : Checked Second} {left : First}
    {right : Second} :
    first.both second = .ok (left, right) ↔ first = .ok left ∧ second = .ok right := by
  cases first with
  | ok value => cases second <;> simp [both]
  | error issues => cases second <;> simp [both]

/-- Members are those of an object. -/
theorem members_eq_ok_iff {otherwise : Problem} {value : Json} {found : List (String × Json)} :
    Checked.members otherwise value = .ok found ↔ value = .object found := by
  cases value <;> simp [Checked.members]

/-- A field passes with the value of its reading. -/
theorem atField_eq_ok_iff {name : String} {outcome : Except Problem Value} {value : Value} :
    atField name outcome = .ok value ↔ outcome = .ok value := by
  cases outcome <;> simp [atField]

section

variable {name : String} {reading : Reading Value} {members : List (String × Json)}

/-- A field that must be there passes with the reading of what is given for it. -/
theorem required_eq_ok_iff {value : Value} :
    required name reading members = .ok value ↔
      ∃ given, Json.member? name members = some given ∧ reading given = .ok value := by
  rw [required]
  cases Json.member? name members with
  | none => simp
  | some given => simp [atField_eq_ok_iff]

/-- A field that may be missing passes as one that is given as null. -/
theorem optional_eq_ok_iff {value : Option Value} :
    optional name reading members = .ok value ↔
      reading.nullable ((Json.member? name members).getD .null) = .ok value := by
  rw [optional, defaulted]
  cases Json.member? name members with
  | none => simp [Reading.nullable]
  | some given => exact atField_eq_ok_iff

end

end Checked

namespace Reading

/-- A string is read from itself alone. -/
theorem string_eq_ok_iff {given : Json} {text : String} :
    string given = .ok text ↔ given = .string text := by
  cases given <;> simp [string]

/-- A positive integer is what is read as an integer, and positive. -/
theorem positive_eq_ok_iff {given : Json} {number : { value : Nat // 0 < value }} :
    positive given = .ok number ↔ integer given = .ok (number.val : Int) := by
  obtain ⟨number, bound⟩ := number
  rw [positive]
  cases integer given with
  | error problem => simp
  | ok value =>
    simp only [Except.ok.injEq]
    split
    · rename_i positive
      rw [Except.ok.injEq, Subtype.mk.injEq]
      omega
    · rename_i low
      refine ⟨fun failed => (nomatch failed), fun same => ?_⟩
      omega

end Reading

end Reckoner
