import Reckoner.Number.Integer
import Reckoner.Validation.Issue

/-!
# Fields

How the fields of a record are read from JSON values. Numbers and texts that mean an integer are
taken for one; nothing else is converted.
-/

namespace Reckoner

/-- A way to read a value. -/
abbrev Reading (Value : Type) := Json → Except Problem Value

namespace Reading

/-- A string. -/
def string : Reading String
  | .string value => .ok value
  | _ => .error .notString

/-- A value or null. -/
def nullable {Value : Type} (reading : Reading Value) : Reading (Option Value)
  | .null => .ok none
  | value => (reading value).map some

/-- The integer that a number is, if it is not as large as the integers that a word of 64 bits
cannot hold. -/
def integerOf (number : Binary64) : Except Problem Int :=
  match number.toInt? with
  | some value => if value.natAbs < 0x8000000000000000 then .ok value else .error .oversizedInteger
  | none => .error (if number.isFinite then .fractionalInteger else .infiniteInteger)

/-- The problem of a text that denotes no integer. -/
def ofFlaw : Integer.Flaw → Problem
  | .unreadable => .unreadableInteger
  | .tooLong => .oversizedInteger

/-- An integer, or what means one. -/
def integer : Reading Int
  | .int value => .ok value
  | .bool value => .ok (if value then 1 else 0)
  | .float value => integerOf value
  | .string text => (Integer.parse text.toList).mapError ofFlaw
  | _ => .error .notInteger

/-- A positive integer. -/
def positive : Reading { value : Nat // 0 < value } := fun value =>
  match integer value with
  | .error problem => .error problem
  | .ok value =>
    if bound : 0 < value.toNat then .ok ⟨value.toNat, bound⟩ else .error (.belowBound 1)

/-- One of several names. -/
def choice {Value : Type} (ofName? : String → Option Value) (names : List String) : Reading Value
  | .string name =>
    match ofName? name with
    | some value => .ok value
    | none => .error (.notAmong names)
  | _ => .error (.notAmong names)

end Reading

namespace Checked

/-- The value of a reading, with its problem at a field. -/
def atField {Value : Type} (name : String) : Except Problem Value → Checked Value
  | .ok value => .ok value
  | .error problem => .error [⟨[name], problem⟩]

/-- A field that must be there. -/
def required {Value : Type} (name : String) (reading : Reading Value)
    (members : List (String × Json)) : Checked Value :=
  match Json.member? name members with
  | some value => atField name (reading value)
  | none => .error [⟨[name], .missing⟩]

/-- A field with a value to take when it is not there. -/
def defaulted {Value : Type} (name : String) (fallback : Value) (reading : Reading Value)
    (members : List (String × Json)) : Checked Value :=
  match Json.member? name members with
  | some value => atField name (reading value)
  | none => .ok fallback

/-- A field that may be null or not there. -/
def optional {Value : Type} (name : String) (reading : Reading Value)
    (members : List (String × Json)) : Checked (Option Value) :=
  defaulted name none reading.nullable members

/-- The members of a value that must be an object. -/
def members (otherwise : Problem) : Json → Checked (List (String × Json))
  | .object members => .ok members
  | _ => .error [⟨[], otherwise⟩]

end Checked

end Reckoner
