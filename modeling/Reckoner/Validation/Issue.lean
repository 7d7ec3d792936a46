import Reckoner.Json.Basic

/-!
# Issues

What is wrong with a value from outside, and where. A check of a record reports every field that
is wrong, in the order in which the fields are declared.
-/

namespace Reckoner

/-- What is wrong with a value. -/
inductive Problem where
  /-- A field is not there. -/
  | missing
  /-- The value is no string. -/
  | notString
  /-- The value is no integer and could not become one. -/
  | notInteger
  /-- The value is a text that denotes no integer. -/
  | unreadableInteger
  /-- The value denotes an integer of more digits than one may have. -/
  | oversizedInteger
  /-- The value is a number with a fraction. -/
  | fractionalInteger
  /-- The value is an infinite number or none. -/
  | infiniteInteger
  /-- The integer is below its bound. -/
  | belowBound (bound : Nat)
  /-- The integer is above its bound. -/
  | aboveBound (bound : Nat)
  /-- The value is none of the names. -/
  | notAmong (names : List String)
  /-- The value is no network address. -/
  | notAddress
  /-- The value is no path. -/
  | notPath
  /-- The path names no file. -/
  | notFile
  /-- The value is no record of this kind. -/
  | notRecord (kind : String)
  /-- The value of a document is no object. -/
  | notObject
  /-- A field that must not change was set. -/
  | frozen
  /-- A text is no JSON document. -/
  | notDocument
  /-- A rule over the value as a whole is broken. -/
  | broken (rule : String)
  deriving DecidableEq, Repr

namespace Problem

/-- The name of a problem. -/
def name : Problem → String
  | .missing => "missing"
  | .notString => "string_type"
  | .notInteger => "int_type"
  | .unreadableInteger => "int_parsing"
  | .oversizedInteger => "int_parsing_size"
  | .fractionalInteger => "int_from_float"
  | .infiniteInteger => "finite_number"
  | .belowBound _ => "greater_than_equal"
  | .aboveBound _ => "less_than_equal"
  | .notAmong _ => "enum"
  | .notAddress => "ip_any_address"
  | .notPath => "path_type"
  | .notFile => "path_not_file"
  | .notRecord _ | .notObject => "model_type"
  | .frozen => "frozen_instance"
  | .notDocument => "json_invalid"
  | .broken _ => "value_error"

/-- Names in single quotes, the last after an `or`. -/
def choices : List String → String
  | [] => ""
  | [last] => "'" ++ last ++ "'"
  | [first, last] => "'" ++ first ++ "' or '" ++ last ++ "'"
  | first :: rest => "'" ++ first ++ "', " ++ choices rest

/-- The words for a problem. A text that is no document has none of its own. -/
def message? : Problem → Option String
  | .missing => some "Field required"
  | .notString => some "Input should be a valid string"
  | .notInteger => some "Input should be a valid integer"
  | .unreadableInteger =>
    some "Input should be a valid integer, unable to parse string as an integer"
  | .oversizedInteger =>
    some "Unable to parse input string as an integer, exceeded maximum size"
  | .fractionalInteger =>
    some "Input should be a valid integer, got a number with a fractional part"
  | .infiniteInteger => some "Input should be a finite number"
  | .belowBound bound => some ("Input should be greater than or equal to " ++ toString bound)
  | .aboveBound bound => some ("Input should be less than or equal to " ++ toString bound)
  | .notAmong names => some ("Input should be " ++ choices names)
  | .notAddress => some "value is not a valid IPv4 or IPv6 address"
  | .notPath => some "Input is not a valid path for <class 'pathlib.Path'>"
  | .notFile => some "Path does not point to a file"
  | .notRecord kind => some ("Input should be a valid dictionary or instance of " ++ kind)
  | .notObject => some "Input should be an object"
  | .frozen => some "Instance is frozen"
  | .notDocument => none
  | .broken rule => some ("Value error, " ++ rule)

end Problem

/-- A problem and where it is: the names that lead to it, none for the value as a whole. -/
structure Issue where
  /-- The names that lead to the problem. -/
  location : List String
  /-- The problem. -/
  problem : Problem
  deriving DecidableEq, Repr

/-- A value, or the issues that were found instead. -/
abbrev Checked (Value : Type) := Except (List Issue) Value

namespace Checked

/-- Both values, or the issues of both. -/
def both {First Second : Type} : Checked First → Checked Second → Checked (First × Second)
  | .ok first, .ok second => .ok (first, second)
  | .ok _, .error issues => .error issues
  | .error issues, .ok _ => .error issues
  | .error first, .error second => .error (first ++ second)

/-- The first line of the words for issues with a record of some kind. -/
def summary (kind : String) (issues : List Issue) : String :=
  toString issues.length ++ (if issues.length = 1 then " validation error" else " validation errors")
    ++ " for " ++ kind

end Checked

end Reckoner
