import Mathlib.Data.List.Basic
import Reckoner.Files.Path

/-!
# Names taken apart at their points

The suffixes of a name in a row are all of it from the first inner point on, so a name is its stem
followed by its suffixes (`Path.stemOf_append_suffixes`). A name that ends with a point is all stem.
-/

namespace Reckoner

/-- The part of a text in front of the first mark, and the parts behind with their marks, make the
text. -/
theorem Text.exists_split (mark : Char) (chars : List Char) :
    ∃ front parts, split mark chars = front :: parts ∧ (∀ char ∈ front, char ≠ mark) ∧
      front ++ (parts.map (mark :: ·)).flatten = chars := by
  induction chars with
  | nil => exact ⟨[], [], rfl, fun _ none => absurd none List.not_mem_nil, rfl⟩
  | cons char rest ih =>
    obtain ⟨front, parts, cut, unmarked, whole⟩ := ih
    rw [split, cut]
    by_cases marked : char = mark
    · refine ⟨[], front :: parts, if_pos marked, fun _ none => absurd none List.not_mem_nil, ?_⟩
      rw [List.map_cons, List.flatten_cons, List.cons_append, whole, marked, List.nil_append]
    · refine ⟨char :: front, parts, ?_, List.forall_mem_cons.mpr ⟨marked, unmarked⟩, ?_⟩
      · rw [if_neg marked, joinLine]
      · rw [List.cons_append, whole]

/-- The parts behind the first mark with their marks are the text from the first mark on. -/
theorem Text.flatten_split (mark : Char) (chars : List Char) :
    (((split mark chars).drop 1).map (mark :: ·)).flatten = chars.dropWhile (· != mark) := by
  obtain ⟨front, parts, cut, unmarked, whole⟩ := exists_split mark chars
  have passes : ∀ char ∈ front, (char != mark) = true :=
    fun char member => bne_iff_ne.mpr (unmarked char member)
  rw [cut, List.drop_one, List.tail_cons, ← whole, List.dropWhile_append_of_pos passes]
  cases parts with
  | nil => rfl
  | cons part others =>
    have stops : (mark != mark) = false := bne_self_eq_false mark
    rw [List.map_cons, List.flatten_cons, List.cons_append, List.dropWhile_cons, stops,
      if_neg Bool.false_ne_true]

namespace Path

/-- The points in front of a name. -/
def leadingPoints (name : List Char) : List Char := name.takeWhile (· == '.')

/-- A name without its suffixes. -/
def stemOf (name : List Char) : List Char :=
  if endsWithPoint name then name
  else leadingPoints name ++ (undotted name).takeWhile (· != '.')

/-- A path without its last name. -/
def parent (path : Path) : Path := { path with parts := path.parts.dropLast }

/-- Another last name is the last name. -/
theorem name_withName (path : Path) (name : List Char) : (path.withName name).name = name := by
  rw [Path.name, withName, List.getLast?_concat, Option.getD_some]

/-- Another last name is in the same directory. -/
theorem parent_withName (path : Path) (name : List Char) :
    (path.withName name).parent = path.parent := by
  rw [parent, parent, withName, List.dropLast_concat]

/-- A name is what comes behind the points in front of it. -/
theorem leadingPoints_append_undotted (name : List Char) :
    leadingPoints name ++ undotted name = name := List.takeWhile_append_dropWhile

/-- A name that ends with a point has no suffixes. -/
theorem suffixesOf_of_endsWithPoint {name : List Char} (pointed : endsWithPoint name = true) :
    suffixesOf name = [] := if_pos pointed

/-- The suffixes of any other name are what begins with its first inner point. -/
theorem flatten_suffixesOf {name : List Char} (unpointed : endsWithPoint name = false) :
    (suffixesOf name).flatten = (undotted name).dropWhile (· != '.') := by
  rw [suffixesOf, unpointed, if_neg Bool.false_ne_true]
  exact Text.flatten_split '.' (undotted name)

/-- A name is its stem followed by its suffixes. -/
theorem stemOf_append_suffixes (name : List Char) :
    stemOf name ++ (suffixesOf name).flatten = name := by
  cases pointed : endsWithPoint name with
  | true =>
    rw [stemOf, if_pos pointed, suffixesOf_of_endsWithPoint pointed, List.flatten_nil,
      List.append_nil]
  | false =>
    rw [stemOf, pointed, if_neg Bool.false_ne_true, flatten_suffixesOf pointed, List.append_assoc,
      List.takeWhile_append_dropWhile, leadingPoints_append_undotted]

/-- The suffixes of a name are at its end. -/
theorem suffixesOf_suffix (name : List Char) : (suffixesOf name).flatten <:+ name :=
  ⟨stemOf name, stemOf_append_suffixes name⟩

end Path

end Reckoner
