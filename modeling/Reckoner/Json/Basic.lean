import Reckoner.Number.Binary64

/-!
# JSON values

The values of JSON documents. A number without a point and an exponent is an integer of any size,
any other number is a binary64 number.
-/

namespace Reckoner

/-- A JSON value. -/
inductive Json where
  /-- The null value. -/
  | null
  /-- A truth value. -/
  | bool (value : Bool)
  /-- A number written without a point and an exponent. -/
  | int (value : Int)
  /-- Any other number. -/
  | float (value : Binary64)
  /-- A string. -/
  | string (value : String)
  /-- An array. -/
  | array (items : List Json)
  /-- An object: its members in order, repeated names included. -/
  | object (members : List (String × Json))
  deriving Repr

namespace Json

/-- The value of a name among members. The last of several members of one name counts. -/
def member? (name : String) (members : List (String × Json)) : Option Json :=
  members.reverse.lookup name

/-- The value of a name in an object; nothing in any other value. -/
def field? (name : String) : Json → Option Json
  | .object members => member? name members
  | _ => none

/-- A string or the null value. -/
def ofString? : Option String → Json
  | some text => .string text
  | none => .null

end Json

end Reckoner
