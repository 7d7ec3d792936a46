import Reckoner.Json.Parse
import Reckoner.Json.Strings

/-!
# Reading what was written

A written string is read as it was, whatever its characters are, and so is an object whose members
are all strings: `parse?_writeStrings`.
-/

namespace Reckoner.Json

/-! ## Strings -/

/-- The four digits of a control character. -/
theorem hexPadded_control :
    ∀ code < 0x20, Text.hexPadded 4 code =
      ['0', '0', Nat.digitChar (code / 16), Nat.digitChar (code % 16)] := by
  decide

/-- The digits of a control character are read as its number. -/
theorem hexUnit?_control :
    ∀ code < 0x20, hexUnit? '0' '0' (Nat.digitChar (code / 16)) (Nat.digitChar (code % 16)) =
      some code := by
  decide

/-- A character put in front of what was read of a string. -/
def consRead (char : Char) (read : List Char × List Char) : List Char × List Char :=
  (char :: read.1, read.2)

/-- A numeric escape is read as the character of its number. -/
theorem readString?_numeric {first second third fourth : Char} {code : Nat}
    (digits : hexUnit? first second third fourth = some code) (low : code < 0xd800)
    (rest : List Char) :
    readString? ('\\' :: 'u' :: first :: second :: third :: fourth :: rest) =
      (readString? rest).map (consRead (Char.ofNat code)) := by
  rw [readString?.eq_def]
  simp only [digits, low, true_or, if_true]
  rfl

/-- A written character is read as it was, whatever follows it. -/
theorem readString?_escapeChar (char : Char) (rest : List Char) :
    readString? (escapeChar char ++ rest) = (readString? rest).map (consRead char) := by
  rw [escapeChar]
  split
  · rename_i quote
    rw [quote]
    rfl
  split
  · rename_i backslash
    rw [backslash]
    rfl
  split
  · rename_i backspace
    rw [backspace]
    rfl
  split
  · rename_i formFeed
    rw [formFeed]
    rfl
  split
  · rename_i lineFeed
    rw [lineFeed]
    rfl
  split
  · rename_i carriageReturn
    rw [carriageReturn]
    rfl
  split
  · rename_i tab
    rw [tab]
    rfl
  split
  · rename_i control
    rw [hexPadded_control char.toNat control]
    have read := readString?_numeric (hexUnit?_control char.toNat control) (by omega) rest
    rw [Char.ofNat_toNat] at read
    exact read
  · rename_i quote backslash _ _ _ _ _ control
    rw [List.singleton_append, readString?.eq_def]
    simp only [if_neg quote, if_neg backslash, if_neg control]
    rfl

/-- A written string is read as it was, and what follows its closing quote is left. -/
theorem readString?_escaped (chars rest : List Char) :
    readString? (chars.flatMap escapeChar ++ '"' :: rest) = some (chars, rest) := by
  induction chars with
  | nil =>
    rw [List.flatMap_nil, List.nil_append, readString?.eq_def]
    rfl
  | cons first others ih =>
    rw [List.flatMap_cons, List.append_assoc, readString?_escapeChar, ih]
    rfl

/-- A written string is read as a value, whatever may be inside arrays and objects. -/
theorem readWith?_writeString (limit : Nat)
    (inner? : Option (List Char → Option (Json × List Char))) (text : String) (rest : List Char) :
    readWith? limit inner? (writeString text ++ rest) = some (.string text, rest) := by
  rw [writeString, List.cons_append, List.append_assoc, List.singleton_append]
  show (readString? (text.toList.flatMap escapeChar ++ '"' :: rest)).map
    (fun read => (Json.string (String.ofList read.1), read.2)) = _
  simp only [readString?_escaped, Option.map_some, String.ofList_toList]

/-- A written string is read as a value at every depth. -/
theorem readValue?_writeString (limit depth : Nat) (text : String) (rest : List Char) :
    readValue? limit depth (writeString text ++ rest) = some (.string text, rest) := by
  cases depth with
  | zero => exact readWith?_writeString limit none text rest
  | succ depth => exact readWith?_writeString limit (some (readValue? limit depth)) text rest

/-! ## Objects of strings -/

/-- The member of an object that a name and a string make. -/
def stringMember (member : String × String) : String × Json := (member.1, .string member.2)

/-- A written member is read as it was. -/
theorem readMember?_writeMember (limit depth : Nat) (member : String × String)
    (rest : List Char) :
    readMember? (readValue? limit depth) (writeMember member ++ rest) =
      some (stringMember member, rest) := by
  have opened : writeMember member ++ rest =
      '"' :: (member.1.toList.flatMap escapeChar ++ '"' :: ':' ::
        (writeString member.2 ++ rest)) := by
    simp only [writeMember, writeString, List.cons_append, List.append_assoc, List.nil_append]
  rw [opened, readMember?]
  simp only [show ∀ behind, skipBlanks ('"' :: behind) = '"' :: behind from fun _ => rfl,
    show ∀ behind, skipBlanks (':' :: behind) = ':' :: behind from fun _ => rfl,
    readString?_escaped, readValue?_writeString, Option.map_some, String.ofList_toList]
  rfl

/-- The parts behind the first one each follow a mark. -/
theorem join_cons (mark : Char) (first : List Char) (others : List (List Char)) :
    Text.join mark (first :: others) = first ++ others.flatMap (mark :: ·) := by
  induction others generalizing first with
  | nil => simp [Text.join]
  | cons second others ih =>
    have tail := ih second
    rw [Text.join] at tail ⊢
    rw [List.intercalate_cons_cons, tail]
    simp

/-- An item that the closing mark follows is the last. -/
theorem readItems?_last {Item : Type} {item : List Char → Option (Item × List Char)}
    {chars rest : List Char} {value : Item} (read : item chars = some (value, '\x7d' :: rest))
    (fuel : Nat) : readItems? item '\x7d' (fuel + 1) chars = some ([value], rest) := by
  rw [readItems?, read]
  rfl

/-- An item that a comma follows comes before others. -/
theorem readItems?_more {Item : Type} {item : List Char → Option (Item × List Char)}
    {chars rest : List Char} {value : Item} (read : item chars = some (value, ',' :: rest))
    (fuel : Nat) :
    readItems? item '\x7d' (fuel + 1) chars =
      (readItems? item '\x7d' fuel rest).map fun (others, after) => (value :: others, after) := by
  rw [readItems?, read]
  rfl

/-- Written members are read as they were, given enough fuel for as many. -/
theorem readItems?_members (limit depth : Nat) (first : String × String)
    (others : List (String × String)) (rest : List Char) (fuel : Nat)
    (enough : others.length < fuel) :
    readItems? (readMember? (readValue? limit depth)) '\x7d' fuel
        (Text.join ',' ((first :: others).map writeMember) ++ '\x7d' :: rest) =
      some ((first :: others).map stringMember, rest) := by
  rw [List.map_cons, join_cons]
  induction others generalizing first fuel with
  | nil =>
    cases fuel with
    | zero => cases enough
    | succ fuel =>
      have read := readMember?_writeMember limit depth first ('\x7d' :: rest)
      rw [List.map_nil, List.flatMap_nil, List.append_nil, readItems?_last read]
      rfl
  | cons second others ih =>
    cases fuel with
    | zero => cases enough
    | succ fuel =>
      have tail := ih second fuel (Nat.lt_of_succ_lt_succ enough)
      have read := readMember?_writeMember limit depth first
        (',' :: (writeMember second ++ (others.map writeMember).flatMap (',' :: ·) ++
          '\x7d' :: rest))
      rw [List.map_cons, List.flatMap_cons, List.append_assoc, List.cons_append, List.cons_append,
        readItems?_more read, tail]
      rfl

/-- Joined parts that are not empty are at least as many characters as parts. -/
theorem length_le_join (mark : Char) (first : List Char) (others : List (List Char)) :
    others.length ≤ (Text.join mark (first :: others)).length := by
  rw [join_cons]
  induction others with
  | nil => exact Nat.zero_le _
  | cons second others ih =>
    simp only [List.flatMap_cons, List.length_append, List.length_cons] at ih ⊢
    omega

/-- A written object of strings is read as these strings. -/
theorem readValue?_writeStrings (limit depth : Nat) (members : List (String × String))
    (rest : List Char) :
    readValue? limit (depth + 1) (writeStrings members ++ rest) =
      some (.object (members.map stringMember), rest) := by
  rw [writeStrings, List.cons_append, List.append_assoc, List.singleton_append]
  show (readGroup? (some (readMember? (readValue? limit depth))) '\x7d'
    (Text.join ',' (members.map writeMember) ++ '\x7d' :: rest)).map
      (fun read => (Json.object read.1, read.2)) = _
  cases members with
  | nil => rfl
  | cons first others =>
    have filled : afterEmpty? '\x7d'
        (Text.join ',' ((first :: others).map writeMember) ++ '\x7d' :: rest) = none := by
      rw [List.map_cons, join_cons]
      rfl
    have enough : others.length <
        (Text.join ',' ((first :: others).map writeMember) ++ '\x7d' :: rest).length + 1 := by
      have joined := length_le_join ',' (writeMember first) (others.map writeMember)
      rw [List.length_map] at joined
      rw [List.map_cons, List.length_append]
      omega
    rw [readGroup?.eq_def, filled]
    simp only [readItems?_members limit depth first others rest _ enough]
    rfl

/-- A written object of strings is a document of these strings. -/
theorem parse?_writeStrings (members : List (String × String)) :
    parse? (writeStrings members) = some (.object (members.map stringMember)) := by
  have read := readValue?_writeStrings Limits.usual.digits 199 members []
  rw [List.append_nil] at read
  rw [parse?, parseWithin?, show Limits.usual.depth = 199 + 1 from rfl, read]
  rfl

end Reckoner.Json
