import Mathlib.Data.List.TakeWhile
import Reckoner.Text.Blank
import Reckoner.Text.Line
import Reckoner.Text.Quoted

/-!
# Texts of one line

A text is unbroken when none of its characters breaks a line. The lines of a text are unbroken
(`unbroken_of_mem_lines`), unbroken texts with a newline behind each are read as its lines
(`lines_terminated`), and a text breaks into its lines and nothing else, whatever ends them
(`breaksInto_iff`), also after its newlines were made line feeds (`lines_unifyNewlines`). A line
without the blanks at its ends is what stands between them (`strips_trim`), and a text in quotes is
unbroken whatever it held (`unbroken_quoteChars`).
-/

namespace Reckoner.Text

/-- No character of a text breaks a line. -/
def Unbroken (chars : List Char) : Prop := ∀ char ∈ chars, isLineBreak char = false

variable {chars left right : List Char}

/-- A text is unbroken when the search for a line break finds none. -/
theorem unbroken_of_all (none : (chars.all fun char => !isLineBreak char) = true) :
    Unbroken chars := by
  intro char member
  have kept := List.all_eq_true.mp none char member
  simpa using kept

/-- Texts in a row are unbroken exactly when each of them is. -/
theorem unbroken_append : Unbroken (left ++ right) ↔ Unbroken left ∧ Unbroken right :=
  List.forall_mem_append

/-- Strings in a row are unbroken exactly when each of them is. -/
theorem unbroken_toList_append {left right : String} :
    Unbroken (left ++ right).toList ↔ Unbroken left.toList ∧ Unbroken right.toList := by
  rw [String.toList_append, unbroken_append]

/-- A text with a character in front is unbroken exactly when neither breaks a line. -/
theorem unbroken_cons {char : Char} :
    Unbroken (char :: chars) ↔ isLineBreak char = false ∧ Unbroken chars :=
  List.forall_mem_cons

/-! ## Lines -/

/-- A character that breaks no line goes to the first line. -/
theorem lines_cons {char : Char} (kept : isLineBreak char = false) (rest : List Char) :
    lines (char :: rest) = joinLine char (lines rest) := by
  have apart : char ≠ '\r' := by
    rintro rfl
    cases kept
  rw [lines]
  · rw [kept]
    rfl
  · intro _ same
    exact absurd same apart

/-- A newline ends a line. -/
theorem lines_newline (rest : List Char) : lines ('\n' :: rest) = [] :: lines rest := by
  rw [lines]
  · rfl
  · intro _ same
    cases same

/-- An unbroken text in front of a text goes to its first line. -/
theorem lines_append_cons {line rest first : List Char} {others : List (List Char)}
    (unbroken : Unbroken line) (parts : lines rest = first :: others) :
    lines (line ++ rest) = (line ++ first) :: others := by
  induction line with
  | nil => exact parts
  | cons char more ih =>
    obtain ⟨kept, tail⟩ := unbroken_cons.mp unbroken
    rw [List.cons_append, lines_cons kept, ih tail]
    rfl

/-- An unbroken text in front of an empty first line is the first line. -/
theorem lines_append {line rest : List Char} {others : List (List Char)} (unbroken : Unbroken line)
    (broken : lines rest = [] :: others) : lines (line ++ rest) = line :: others := by
  rw [lines_append_cons unbroken broken, List.append_nil]

/-- An unbroken text in front of a newline is the first line. -/
theorem lines_append_newline {line : List Char} (unbroken : Unbroken line) (rest : List Char) :
    lines (line ++ '\n' :: rest) = line :: lines rest :=
  lines_append unbroken (lines_newline rest)

/-- Unbroken texts with a newline behind each are the lines of the text they make. -/
theorem lines_terminated {texts : List (List Char)} (unbroken : ∀ text ∈ texts, Unbroken text) :
    lines (texts.flatMap fun text => text ++ ['\n']) = texts := by
  induction texts with
  | nil => rfl
  | cons first rest ih =>
    have here := unbroken first List.mem_cons_self
    have tail := ih fun text member => unbroken text (List.mem_cons_of_mem first member)
    rw [List.flatMap_cons, List.append_assoc, List.singleton_append, lines_append_newline here,
      tail]

/-- The first line with an unbroken character in front is unbroken, and so are the others. -/
theorem unbroken_joinLine {char : Char} {texts : List (List Char)}
    (kept : isLineBreak char = false) (unbroken : ∀ text ∈ texts, Unbroken text) :
    ∀ text ∈ joinLine char texts, Unbroken text := by
  cases texts with
  | nil =>
    intro text member
    rw [joinLine, List.mem_singleton] at member
    rw [member, unbroken_cons]
    exact ⟨kept, fun _ none => absurd none List.not_mem_nil⟩
  | cons first rest =>
    intro text member
    rw [joinLine] at member
    rcases List.mem_cons.mp member with rfl | later
    · exact unbroken_cons.mpr ⟨kept, unbroken first List.mem_cons_self⟩
    · exact unbroken text (List.mem_cons_of_mem first later)

/-- The lines of a text are unbroken. -/
theorem unbroken_of_mem_lines (chars : List Char) : ∀ line ∈ lines chars, Unbroken line := by
  have empty : Unbroken [] := fun _ none => absurd none List.not_mem_nil
  fun_induction lines chars with
  | case1 => exact fun _ none => absurd none List.not_mem_nil
  | case2 rest ih => exact List.forall_mem_cons.mpr ⟨empty, ih⟩
  | case3 char rest _ broken ih => exact List.forall_mem_cons.mpr ⟨empty, ih⟩
  | case4 char rest _ kept ih => exact unbroken_joinLine (Bool.eq_false_iff.mpr kept) ih

/-! ## Where lines end -/

/-- What ends a line. -/
def lineEnds : List (List Char) :=
  [['\r', '\n'], ['\n'], ['\r'], ['\x0b'], ['\x0c'], ['\x1c'], ['\x1d'], ['\x1e'], ['\x85'],
    ['\u2028'], ['\u2029']]

/-- A character breaks a line exactly when it alone ends one. -/
theorem isLineBreak_iff {char : Char} : isLineBreak char = true ↔ [char] ∈ lineEnds := by
  have same (other : Char) : char = other ↔ char.toNat = other.toNat :=
    ⟨congrArg Char.toNat, fun codes => Char.toNat_inj.mp codes⟩
  simp only [lineEnds, List.mem_cons, List.cons.injEq, same, isLineBreak, Bool.or_eq_true,
    Bool.and_eq_true, decide_eq_true_eq, beq_iff_eq, Char.reduceToNat, List.not_mem_nil,
    reduceCtorEq, and_true, and_false, or_false, false_or]
  omega

/-- A text is unbroken exactly when nothing in it ends a line. -/
theorem unbroken_iff : Unbroken chars ↔ ∀ char ∈ chars, [char] ∉ lineEnds := by
  simp only [Unbroken, Bool.eq_false_iff, ne_eq, isLineBreak_iff]

/-- A text breaks into lines: each is followed by what ends it, the last perhaps by nothing when it
is not empty. A carriage return does not end a line in front of a line feed; they end it
together. -/
inductive BreaksInto : List Char → List (List Char) → Prop
  /-- The empty text has no line. -/
  | empty : BreaksInto [] []
  /-- The last line may end with the text. -/
  | last {line : List Char} (some : line ≠ []) (unbroken : ∀ char ∈ line, [char] ∉ lineEnds) :
    BreaksInto line [line]
  /-- A line is followed by what ends it and by the other lines. -/
  | ended {line mark rest : List Char} {others : List (List Char)}
    (unbroken : ∀ char ∈ line, [char] ∉ lineEnds) (ends : mark ∈ lineEnds)
    (whole : mark = ['\r'] → rest.head? ≠ some '\n') (later : BreaksInto rest others) :
    BreaksInto (line ++ mark ++ rest) (line :: others)

/-- A line break ends a line, unless it is a carriage return in front of a line feed. -/
theorem lines_cons_of_isLineBreak {char : Char} {rest : List Char}
    (broken : isLineBreak char = true)
    (whole : char = '\r' → rest.head? ≠ some '\n') : lines (char :: rest) = [] :: lines rest := by
  rw [lines.eq_def]
  split
  · rename_i same
    cases same
  · rename_i later same
    cases same
    exact absurd rfl (whole rfl)
  · rename_i same
    cases same
    rw [if_pos broken]

/-- What ends a line in front of a text leaves the lines of the text. -/
theorem lines_mark_append {mark rest : List Char} (ends : mark ∈ lineEnds)
    (whole : mark = ['\r'] → rest.head? ≠ some '\n') : lines (mark ++ rest) = [] :: lines rest := by
  by_cases double : mark = ['\r', '\n']
  · rw [double]
    exact lines.eq_2 rest
  · have single : ∃ char, mark = [char] := by
      simp only [lineEnds, List.mem_cons, List.not_mem_nil, or_false] at ends
      rcases ends with same | ends
      · exact absurd same double
      · rcases ends with same | same | same | same | same | same | same | same | same | same <;>
          exact ⟨_, same⟩
    obtain ⟨char, rfl⟩ := single
    refine lines_cons_of_isLineBreak (isLineBreak_iff.mpr ends) ?_
    rintro rfl
    exact whole rfl

/-- A text that ends without a line break is its own line. -/
theorem lines_of_unbroken (some : chars ≠ []) (unbroken : Unbroken chars) :
    lines chars = [chars] := by
  induction chars with
  | nil => exact absurd rfl some
  | cons char rest ih =>
    obtain ⟨kept, tail⟩ := unbroken_cons.mp unbroken
    rw [lines_cons kept]
    cases rest with
    | nil => rfl
    | cons next more => rw [ih (List.cons_ne_nil next more) tail]; rfl

/-- A text breaks into its first line with a character in front. -/
theorem BreaksInto.cons {char : Char} {texts : List (List Char)} (kept : [char] ∉ lineEnds)
    (broken : BreaksInto chars texts) : BreaksInto (char :: chars) (joinLine char texts) := by
  cases broken with
  | empty => exact .last (List.cons_ne_nil _ _) (List.forall_mem_singleton.mpr kept)
  | last some unbroken =>
    exact .last (List.cons_ne_nil _ _) (List.forall_mem_cons.mpr ⟨kept, unbroken⟩)
  | ended unbroken ends whole later =>
    exact .ended (List.forall_mem_cons.mpr ⟨kept, unbroken⟩) ends whole later

/-- A text breaks into its lines and into nothing else. -/
theorem breaksInto_iff {texts : List (List Char)} :
    BreaksInto chars texts ↔ texts = lines chars := by
  constructor
  · intro broken
    induction broken with
    | empty => rfl
    | last some unbroken => rw [lines_of_unbroken some (unbroken_iff.mpr unbroken)]
    | @ended line mark rest others unbroken ends whole later ih =>
      rw [List.append_assoc,
        lines_append (unbroken_iff.mpr unbroken) (lines_mark_append ends whole), ih]
  · rintro rfl
    fun_induction lines chars with
    | case1 => exact .empty
    | case2 rest ih => exact @BreaksInto.ended [] ['\r', '\n'] rest _ nofun (by decide) nofun ih
    | case3 char rest whole broken ih =>
      refine @BreaksInto.ended [] [char] rest _ nofun (isLineBreak_iff.mp broken) ?_ ih
      intro same next
      obtain ⟨later, rfl⟩ := List.head?_eq_some_iff.mp next
      exact whole later (List.singleton_inj.mp same) rfl
    | case4 char rest _ kept ih => exact ih.cons fun ends => kept (isLineBreak_iff.mpr ends)

/-- A text without lines is empty. -/
theorem eq_nil_of_lines (none : lines chars = []) : chars = [] := by
  cases breaksInto_iff.mpr none.symm with
  | empty => rfl

/-- What stands in a line of a text stands in the text. -/
theorem mem_of_mem_lines {line : List Char} {char : Char} (listed : line ∈ lines chars)
    (member : char ∈ line) : char ∈ chars := by
  have broken : BreaksInto chars (lines chars) := breaksInto_iff.mpr rfl
  generalize lines chars = texts at *
  induction broken with
  | empty => cases listed
  | last =>
    rw [List.mem_singleton.mp listed] at member
    exact member
  | ended _ _ _ _ ih =>
    rcases List.mem_cons.mp listed with rfl | later
    · exact List.mem_append_left _ (List.mem_append_left _ member)
    · exact List.mem_append_right _ (ih later)

/-- The lines of a text are the same when its newlines are made line feeds. A line feed in front of
a carriage return ends a line of its own in both. -/
theorem lines_unifyNewlines (chars : List Char) : lines (unifyNewlines chars) = lines chars := by
  fun_induction unifyNewlines chars with
  | case1 => rfl
  | case2 rest ih => rw [lines_newline, ih, lines.eq_2]
  | case3 char rest apart ih =>
    have whole : char = '\r' → rest.head? ≠ some '\n' := by
      intro turned next
      obtain ⟨later, rfl⟩ := List.head?_eq_some_iff.mp next
      exact apart later turned rfl
    by_cases turned : char = '\r'
    · subst turned
      rw [if_pos rfl, lines_newline, ih, lines_cons_of_isLineBreak rfl whole]
    · rw [if_neg turned]
      by_cases broken : isLineBreak char = true
      · have alone : char = '\r' → (unifyNewlines rest).head? ≠ some '\n' :=
          fun same => absurd same turned
        rw [lines_cons_of_isLineBreak broken alone, ih, lines_cons_of_isLineBreak broken whole]
      · have kept : isLineBreak char = false := Bool.eq_false_iff.mpr broken
        rw [lines_cons kept, ih, lines_cons kept]

/-! ## Texts without the blanks at their ends -/

/-- A text neither begins nor ends with a blank. -/
structure Trimmed (chars : List Char) : Prop where
  /-- No blank is in front. -/
  begins : ∀ char, chars.head? = some char → isBlank char = false
  /-- No blank is behind. -/
  ends : ∀ char, chars.getLast? = some char → isBlank char = false

/-- A text is what stands between the blanks at both ends of a line. -/
structure Strips (line chars : List Char) : Prop where
  /-- Nothing but blanks is in front and behind. -/
  framed : ∃ front back, line = front ++ chars ++ back ∧ ∀ char ∈ front ++ back, isBlank char = true
  /-- All blanks are in front or behind. -/
  trimmed : Trimmed chars

/-- Without the characters of a class in front, no such character is in front. -/
theorem head?_dropWhile {drops : Char → Bool} {char : Char}
    (first : (chars.dropWhile drops).head? = some char) : drops char = false := by
  have stays := List.head?_dropWhile_not drops chars
  rw [first] at stays
  simpa using stays

/-- Behind the blanks in front of a line there is the line without the blanks at its ends, and then
blanks. -/
theorem exists_back (line : List Char) :
    ∃ back, line.dropWhile isBlank = trim line ++ back ∧ ∀ char ∈ back, isBlank char = true := by
  let inner := line.dropWhile isBlank
  refine ⟨(inner.reverse.takeWhile isBlank).reverse, ?_, fun char member => ?_⟩
  · rw [trim, trimOf, trimEndOf, ← List.reverse_append, List.takeWhile_append_dropWhile,
      List.reverse_reverse]
  · exact List.mem_takeWhile_imp (List.mem_reverse.mp member)

/-- A line is the blanks in front, the line without the blanks at its ends, and blanks behind. -/
theorem exists_margins (line : List Char) :
    ∃ back, line = line.takeWhile isBlank ++ trim line ++ back ∧
      ∀ char ∈ line.takeWhile isBlank ++ back, isBlank char = true := by
  obtain ⟨back, behind, blank⟩ := exists_back line
  refine ⟨back, ?_, List.forall_mem_append.mpr ⟨fun char => List.mem_takeWhile_imp, blank⟩⟩
  rw [List.append_assoc, ← behind, List.takeWhile_append_dropWhile]

/-- A line without the blanks at its ends is what stands between them. -/
theorem strips_trim (line : List Char) : Strips line (trim line) := by
  obtain ⟨back, behind, -⟩ := exists_back line
  obtain ⟨margin, parts, blank⟩ := exists_margins line
  refine ⟨⟨_, margin, parts, blank⟩, ?_, ?_⟩
  · intro char first
    have inside : (line.dropWhile isBlank).head? = some char := by
      rw [behind, List.head?_append, first, Option.some_or]
    exact head?_dropWhile inside
  · intro char last
    rw [trim, trimOf, trimEndOf, List.getLast?_reverse] at last
    exact head?_dropWhile last

/-- What is left without the characters at either end was there. -/
theorem mem_of_mem_trimOf {drops : Char → Bool} {char : Char}
    (member : char ∈ trimOf drops chars) : char ∈ chars := by
  rw [trimOf, trimEndOf, List.mem_reverse] at member
  have inner := (List.dropWhile_sublist drops).mem member
  rw [List.mem_reverse] at inner
  exact (List.dropWhile_sublist drops).mem inner

/-- An unbroken text is unbroken without the blanks at its ends. -/
theorem Unbroken.trim (unbroken : Unbroken chars) : Unbroken (trim chars) :=
  fun char member => unbroken char (mem_of_mem_trimOf member)

/-- Nothing is left without the characters at either end exactly when there are no others. -/
theorem trimOf_eq_nil_iff {drops : Char → Bool} :
    trimOf drops chars = [] ↔ ∀ char ∈ chars, drops char = true := by
  rw [trimOf, trimEndOf, List.reverse_eq_nil_iff, List.dropWhile_eq_nil_iff]
  constructor
  · intro others
    cases front : chars.dropWhile drops with
    | nil => exact List.dropWhile_eq_nil_iff.mp front
    | cons first rest =>
      -- The first character that stays at the front is not dropped at the back either.
      have leads : (chars.dropWhile drops).head? = some first := by rw [front, List.head?_cons]
      have stays := head?_dropWhile leads
      have dropped := others first (by simp [front])
      rw [stays] at dropped
      cases dropped
  · intro all char member
    rw [List.mem_reverse] at member
    exact all char ((List.dropWhile_sublist drops).mem member)

/-- Characters of which the first stays are not shortened in front. -/
theorem dropWhile_of_head? {drops : Char → Bool}
    (stays : ∀ char, chars.head? = some char → drops char = false) :
    chars.dropWhile drops = chars := by
  cases chars with
  | nil => rfl
  | cons first rest => rw [List.dropWhile_cons_of_neg (by simp [stays first rfl])]

/-- What stands between the blanks at both ends of a line is the line without them. -/
theorem Strips.trim_eq {line : List Char} (strips : Strips line chars) : trim line = chars := by
  obtain ⟨⟨front, back, rfl, blank⟩, begins, ends⟩ := strips
  obtain ⟨before, behind⟩ := List.forall_mem_append.mp blank
  cases chars with
  | nil =>
    rw [List.append_nil, trim, trimOf_eq_nil_iff]
    exact blank
  | cons first rest =>
    have leads : ∀ char, (first :: rest ++ back).head? = some char → isBlank char = false := begins
    have closes : ∀ char, (first :: rest).reverse.head? = some char → isBlank char = false := by
      intro char last
      rw [List.head?_reverse] at last
      exact ends char last
    rw [trim, trimOf, trimEndOf, List.append_assoc, List.dropWhile_append_of_pos before,
      dropWhile_of_head? leads, List.reverse_append,
      List.dropWhile_append_of_pos fun char member => behind char (List.mem_reverse.mp member),
      dropWhile_of_head? closes, List.reverse_reverse]

/-- A text is empty without the blanks at its ends exactly when it is blank. -/
theorem isEmpty_trim (chars : List Char) : (trim chars).isEmpty = chars.all isBlank := by
  rw [Bool.eq_iff_iff, List.isEmpty_iff, List.all_eq_true]
  exact trimOf_eq_nil_iff

/-! ## Digits -/

/-- The characters of digits, in bases up to sixteen, and that of a digit in no such base. -/
def digitChars : List Char :=
  ['0', '1', '2', '3', '4', '5', '6', '7', '8', '9', 'a', 'b', 'c', 'd', 'e', 'f', '*']

/-- The character of a digit is one of them. -/
theorem digitChar_mem (digit : Nat) : Nat.digitChar digit ∈ digitChars := by
  have known : ∀ small < 16, Nat.digitChar small ∈ digitChars := by decide
  by_cases small : digit < 16
  · exact known digit small
  · have other : Nat.digitChar digit = '*' := by
      unfold Nat.digitChar
      repeat rw [if_neg (by omega)]
    rw [other]
    decide

/-- Digits of a number in front of other characters are the characters of digits. -/
theorem mem_toDigitsCore {base fuel value : Nat} {char : Char}
    (member : char ∈ Nat.toDigitsCore base fuel value chars) :
    char ∈ digitChars ∨ char ∈ chars := by
  induction fuel generalizing value chars with
  | zero => exact .inr member
  | succ fuel ih =>
    -- One more digit is in front when the others are added.
    have placed (inside : char ∈ Nat.digitChar (value % base) :: chars) :
        char ∈ digitChars ∨ char ∈ chars := by
      rcases List.mem_cons.mp inside with rfl | behind
      · exact .inl (digitChar_mem _)
      · exact .inr behind
    rw [Nat.toDigitsCore] at member
    split at member
    · exact placed member
    · exact (ih member).elim .inl placed

/-- The digits of a number are the characters of digits, whatever the base. -/
theorem mem_toDigits {base value : Nat} {char : Char} (member : char ∈ Nat.toDigits base value) :
    char ∈ digitChars :=
  (mem_toDigitsCore member).resolve_right List.not_mem_nil

/-- The digits of a number are unbroken, whatever the base. -/
theorem unbroken_toDigits (base value : Nat) : Unbroken (Nat.toDigits base value) := by
  have known : Unbroken digitChars := unbroken_of_all (by decide)
  exact fun char member => known char (mem_toDigits member)

/-- A number as a text is unbroken. -/
theorem unbroken_toString (value : Nat) : Unbroken (toString value).toList := by
  have digits : (toString value).toList = Nat.toDigits 10 value := String.toList_ofList
  rw [digits]
  exact unbroken_toDigits 10 value

/-! ## Quotes -/

/-- A printable character breaks no line: every line break is in one of three ranges of the
table. -/
theorem isLineBreak_of_isPrintable {char : Char} (printable : isPrintable char = true) :
    isLineBreak char = false := by
  have outside (range : Nat × Nat) (listed : unprintableRanges.contains range = true) :
      ¬ (range.1 ≤ char.toNat ∧ char.toNat ≤ range.2) := by
    intro inside
    rw [isPrintable, Bool.not_eq_true', List.any_eq_false] at printable
    apply printable range (List.contains_iff_mem.mp listed)
    simpa using inside
  have controls := outside (0x0, 0x1f) (by decide +kernel)
  have later := outside (0x7f, 0xa0) (by decide +kernel)
  have separators := outside (0x2028, 0x202f) (by decide +kernel)
  rw [Bool.eq_false_iff]
  intro broken
  simp only [isLineBreak, Bool.or_eq_true, Bool.and_eq_true, decide_eq_true_eq, beq_iff_eq]
    at broken
  omega

/-- A number in hexadecimal is unbroken. -/
theorem unbroken_hexPadded (width value : Nat) : Unbroken (hexPadded width value) := by
  refine unbroken_append.mpr ⟨?_, unbroken_toDigits 16 value⟩
  intro char member
  rw [List.eq_of_mem_replicate member]
  rfl

/-- A numeric escape is unbroken. -/
theorem unbroken_numericEscape (char : Char) : Unbroken (numericEscape char) := by
  simp only [numericEscape]
  split
  · exact unbroken_cons.mpr ⟨rfl, unbroken_cons.mpr ⟨rfl, unbroken_hexPadded 2 _⟩⟩
  split
  · exact unbroken_cons.mpr ⟨rfl, unbroken_cons.mpr ⟨rfl, unbroken_hexPadded 4 _⟩⟩
  · exact unbroken_cons.mpr ⟨rfl, unbroken_cons.mpr ⟨rfl, unbroken_hexPadded 8 _⟩⟩

/-- A character in quotes is unbroken: a line break is escaped. -/
theorem unbroken_quoteChar {mark : Char} (kept : isLineBreak mark = false) (char : Char) :
    Unbroken (quoteChar mark char) := by
  unfold quoteChar
  split
  · rename_i escaped
    have same : isLineBreak char = false := by
      rcases escaped with rfl | rfl
      · exact kept
      · rfl
    exact unbroken_cons.mpr ⟨rfl, List.forall_mem_singleton.mpr same⟩
  iterate 3
    split
    · exact unbroken_of_all rfl
  split
  · rename_i printable
    exact List.forall_mem_singleton.mpr (isLineBreak_of_isPrintable printable)
  · exact unbroken_numericEscape char

/-- A text in quotes is unbroken, whatever it held. -/
theorem unbroken_quoteChars (chars : List Char) : Unbroken (quoteChars chars) := by
  have kept : isLineBreak (quoteMark chars) = false := by
    unfold quoteMark
    split
    · rfl
    · rfl
  refine unbroken_cons.mpr ⟨kept, unbroken_append.mpr ⟨?_, List.forall_mem_singleton.mpr kept⟩⟩
  intro char member
  obtain ⟨held, -, inside⟩ := List.mem_flatMap.mp member
  exact unbroken_quoteChar kept held char inside

/-- A text in quotes is unbroken. -/
theorem unbroken_quote (text : String) : Unbroken (quote text).toList := by
  rw [quote, String.toList_ofList]
  exact unbroken_quoteChars text.toList

end Reckoner.Text
