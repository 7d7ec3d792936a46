import Reckoner.Text.Digit
import Reckoner.Text.Split
import Reckoner.Validation.Issue

/-!
# Network addresses

Addresses of both versions of the internet protocol, their texts and their numbers. A written
address is tried as one of version four first.
-/

namespace Reckoner

/-- A network address. -/
inductive Address where
  /-- An address of version four. -/
  | v4 (value : Fin 0x100000000)
  /-- An address of version six, possibly with a scope. -/
  | v6 (value : Fin 0x100000000000000000000000000000000) (scope : Option String)
  deriving DecidableEq, Repr

namespace Address

/-- The address of this machine. -/
def loopback : Address := .v4 ⟨0x7f000001, by decide⟩

/-- The version of the protocol. -/
def version : Address → Nat
  | .v4 _ => 4
  | .v6 .. => 6

/-- The number that groups of digits make in a base, first group first. -/
def ofGroups (base : Nat) (groups : List Nat) : Nat :=
  groups.foldl (fun value group => base * value + group) 0

/-- The groups of a number in a base, first group first. -/
def groups (base : Nat) : Nat → Nat → List Nat
  | 0, _ => []
  | count + 1, value => groups base count (value / base) ++ [value % base]

/-! ## Reading -/

/-- The value of one part of a version four address: at most three digits, no needless zero in
front, at most 255. -/
def octet? (part : List Char) : Option Nat :=
  let value := Text.digitsValue part
  if part.isEmpty || !part.all Text.isDigit || 3 < part.length ||
      (part.head? == some '0' && 1 < part.length) || 255 < value then none
  else some value

/-- The number of a version four address. -/
def readV4? (chars : List Char) : Option Nat :=
  let parts := Text.split '.' chars
  if parts.length = 4 then (parts.mapM octet?).map (ofGroups 256) else none

/-- The value of a hexadecimal digit of either case. -/
def hexDigit? (char : Char) : Option Nat :=
  if Text.isDigit char then some (char.toNat - '0'.toNat)
  else if 'a' ≤ char && char ≤ 'f' then some (char.toNat - 'a'.toNat + 10)
  else if 'A' ≤ char && char ≤ 'F' then some (char.toNat - 'A'.toNat + 10)
  else none

/-- The value of one group of a version six address: one to four hexadecimal digits. -/
def group? (part : List Char) : Option Nat :=
  if part.isEmpty || 4 < part.length then none
  else (part.mapM hexDigit?).map (ofGroups 16)

/-- The parts of a version six address with a version four address at its end written as two
groups. -/
def expandTail? (parts : List (List Char)) : Option (List (List Char)) :=
  match parts.getLast? with
  | some last =>
    if last.contains '.' then
      (readV4? last).map fun value =>
        parts.dropLast ++ [Nat.toDigits 16 (value / 0x10000), Nat.toDigits 16 (value % 0x10000)]
    else some parts
  | none => none

/-- The values of the groups on one side of a gap. Only an empty end next to the gap may stand for
no group. -/
def side? : List (List Char) → Option (List Nat)
  | [[]] => some []
  | parts => parts.mapM group?

/-- The eight groups of parts between colons: all of them, or fewer around one empty part inside,
the gap, which stands for at least one zero group. -/
def eightGroups? (parts : List (List Char)) : Option (List Nat) :=
  let before := parts.take 1 ++ (parts.drop 1).takeWhile fun part => !part.isEmpty
  let after := parts.drop (before.length + 1)
  if before.length + 1 < parts.length then do
    let left ← side? before
    let right ← side? after
    if left.length + right.length < 8 then
      return left ++ List.replicate (8 - (left.length + right.length)) 0 ++ right
    else none
  else if parts.length = 8 then parts.mapM group?
  else none

/-- The number of a version six address without a scope. -/
def readV6? (chars : List Char) : Option Nat :=
  let parts := Text.split ':' chars
  if parts.length < 3 then none
  else do
    let parts ← expandTail? parts
    if 9 < parts.length then none
    let groups ← eightGroups? parts
    return ofGroups 0x10000 groups

/-- The text and the scope behind a percent sign, which must be neither empty nor hold another. -/
def takeScope? (chars : List Char) : Option (List Char × Option String) :=
  match Text.split '%' chars with
  | [text] => some (text, none)
  | [text, scope] => if scope.isEmpty then none else some (text, some (String.ofList scope))
  | _ => none

/-- A version four address of a number. -/
def ofV4? (value : Nat) : Option Address :=
  if bound : value < 0x100000000 then some (.v4 ⟨value, bound⟩) else none

/-- A version six address of a number. -/
def ofV6? (scope : Option String) (value : Nat) : Option Address :=
  if bound : value < 0x100000000000000000000000000000000 then some (.v6 ⟨value, bound⟩ scope) else none

/-- The address that a text writes. -/
def ofText? (text : String) : Option Address :=
  let chars := text.toList
  match readV4? chars with
  | some value => ofV4? value
  | none =>
    if chars.contains '/' then none
    else do
      let (digits, scope) ← takeScope? chars
      let value ← readV6? digits
      ofV6? scope value

/-- The address of a number: of version four when it is small enough. -/
def ofNumber? (value : Int) : Option Address :=
  if value < 0 then none else (ofV4? value.toNat).orElse fun _ => ofV6? none value.toNat

/-- The address that a value means. -/
def reading (value : Json) : Except Problem Address :=
  let found := match value with
    | .string text => ofText? text
    | .int value => ofNumber? value
    | .bool value => ofNumber? (if value then 1 else 0)
    | _ => none
  match found with
  | some address => .ok address
  | none => .error .notAddress

/-! ## Writing -/

/-- The length of the zero groups in front of groups. -/
def zeroRun (groups : List Nat) : Nat := (groups.takeWhile (· == 0)).length

/-- The start and length of the first longest run of zero groups. -/
def longestRun (position : Nat) : List Nat → Nat × Nat
  | [] => (position, 0)
  | group :: rest =>
    let here := zeroRun (group :: rest)
    let later := longestRun (position + 1) rest
    if later.2 ≤ here then (position, here) else later

/-- Groups in lower-case hexadecimal with colons between them. -/
def colonText (groups : List Nat) : List Char := Text.join ':' (groups.map (Nat.toDigits 16))

/-- The text of eight groups. The first longest run of two or more zero groups is left out. -/
def groupsText (groups : List Nat) : List Char :=
  let (start, length) := longestRun 0 groups
  if length < 2 then colonText groups
  else
    colonText (groups.take start) ++ ':' :: ':' :: colonText (groups.drop (start + length))

/-- The text of an address. -/
def text : Address → String
  | .v4 value => String.ofList (Text.join '.' ((groups 256 4 value).map (Nat.toDigits 10)))
  | .v6 value scope =>
    String.ofList (groupsText (groups 0x10000 8 value) ++
      match scope with
      | some scope => '%' :: scope.toList
      | none => [])

end Address

end Reckoner
