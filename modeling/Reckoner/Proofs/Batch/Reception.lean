import Mathlib.Data.List.Forall2
import Reckoner.Batch.Server
import Reckoner.Proofs.Expression.Marking
import Reckoner.Proofs.Text.Lines
import Reckoner.Proofs.Text.Utf8

/-!
# What a server receives

A server joins the chunks that arrive before it reads them, so it makes no difference where the
bytes of a text were cut: it receives the lines that are not blank, without the blanks at their ends
(`Server.receive_cut`).
-/

namespace Reckoner.Server

open Text

/-! ## Chunks -/

/-- A chunk is received as it is. -/
theorem received_singleton (bytes : Bytes) : received [bytes] = bytes := by
  cases bytes with
  | nil => rfl
  | cons first rest => exact List.append_nil _

section

variable {chunks : List Bytes} {content : List Char}

/-- Chunks that are not empty are all received. -/
theorem received_of_filled (filled : ∀ chunk ∈ chunks, chunk ≠ []) :
    received chunks = chunks.flatten := by
  have all : (chunks.takeWhile fun chunk => !chunk.isEmpty) = chunks := by
    rw [List.takeWhile_eq_self_iff]
    intro chunk member
    simpa using filled chunk member
  rw [received, all]

/-- The chunks of a text are received as its expressions. -/
theorem receive_of_received (arrived : received chunks = Utf8.encode content) :
    receive chunks = .ok (expressionsOf content) := by
  rw [receive, arrived, Utf8.decode_encode]
  rfl

/-- Chunks that are no text are refused as their bytes are. -/
theorem receive_of_undecodable {error : Utf8.DecodeError}
    (undecodable : Utf8.decode (received chunks) = .error error) :
    receive chunks = .error error := by
  rw [receive, undecodable]
  rfl

end

/-! ## Expressions -/

/-- The expressions of a text are its lines that are not blank, without the blanks at their
ends. -/
theorem expressionsOf_eq (content : List Char) :
    expressionsOf content =
      ((lines content).filter fun line => !line.all isBlank).map fun line =>
        String.ofList (trim line) := by
  have kept : ((fun line : List Char => !line.isEmpty) ∘ trim) = fun line => !line.all isBlank := by
    funext line
    rw [Function.comp_apply, isEmpty_trim]
  rw [expressionsOf, List.filter_map, kept, List.map_map]
  rfl

/-- The expressions of a text are, one by one, what stands between the blanks of its lines that are
not blank. -/
theorem forall₂_expressionsOf (content : List Char) :
    List.Forall₂ (fun line expression => Strips line expression.toList)
      ((lines content).filter fun line => !line.all isBlank) (expressionsOf content) := by
  rw [expressionsOf_eq, List.forall₂_map_right_iff, List.forall₂_same]
  intro line _
  rw [String.toList_ofList]
  exact strips_trim line

/-- A text has the same expressions when its newlines are made line feeds. -/
theorem expressionsOf_unifyNewlines (content : List Char) :
    expressionsOf (unifyNewlines content) = expressionsOf content := by
  rw [expressionsOf, lines_unifyNewlines, expressionsOf]

/-- An expression of a text is one of its lines, without the blanks at its ends, and has a character
that is no blank. -/
theorem exists_line_of_mem {content : List Char} {expression : String}
    (member : expression ∈ expressionsOf content) :
    ∃ line ∈ lines content, expression.toList = trim line ∧
      ∃ char ∈ expression.toList, isBlank char = false := by
  rw [expressionsOf_eq] at member
  obtain ⟨line, kept, rfl⟩ := List.mem_map.mp member
  obtain ⟨listed, shown⟩ := List.mem_filter.mp kept
  rw [String.toList_ofList]
  refine ⟨line, listed, rfl, ?_⟩
  cases stripped : trim line with
  | nil =>
    rw [← isEmpty_trim, stripped] at shown
    cases shown
  | cons first rest =>
    have inked := (strips_trim line).trimmed.begins first (by rw [stripped]; rfl)
    exact ⟨first, List.mem_cons_self, inked⟩

/-- A blank in front of a text leaves its expressions. -/
theorem expressionsOf_cons_of_isBlank {char : Char} (blank : isBlank char = true)
    (rest : List Char) : expressionsOf (char :: rest) = expressionsOf rest := by
  have trimmed (line : List Char) : trim (char :: line) = trim line := by
    rw [trim, trimOf, List.dropWhile_cons_of_pos blank]
    rfl
  rw [expressionsOf, expressionsOf]
  congr 1
  by_cases broken : isLineBreak char = true
  · by_cases double : char = '\r' ∧ rest.head? = some '\n'
    · -- The two characters end one line, and so does the second alone.
      obtain ⟨rfl, next⟩ := double
      obtain ⟨later, rfl⟩ := List.head?_eq_some_iff.mp next
      rw [lines.eq_2, lines_newline]
    · rw [lines_cons_of_isLineBreak broken fun turned next => double ⟨turned, next⟩, List.map_cons]
      rfl
  · rw [lines_cons (Bool.eq_false_iff.mpr broken)]
    cases lines rest with
    | nil =>
      rw [joinLine, List.map_singleton, trimmed]
      rfl
    | cons first others => rw [joinLine, List.map_cons, List.map_cons, trimmed]

/-- A text whose lines are blank but for one part of a line has that part as its one expression. -/
theorem expressionsOf_of_strips {content inner : List Char} (strips : Strips content inner)
    (some : inner ≠ []) (unbroken : Unbroken inner) :
    expressionsOf content = [String.ofList inner] := by
  obtain ⟨⟨front, back, rfl, blank⟩, trimmed⟩ := strips
  obtain ⟨before, behind⟩ := List.forall_mem_append.mp blank
  have leading : expressionsOf (front ++ inner ++ back) = expressionsOf (inner ++ back) := by
    clear blank
    induction front with
    | nil => rfl
    | cons char more ih =>
      obtain ⟨first, others⟩ := List.forall_mem_cons.mp before
      rw [List.cons_append, List.cons_append, expressionsOf_cons_of_isBlank first, ih others]
  have parts : ∃ first others, lines (inner ++ back) = (inner ++ first) :: others ∧
      ∀ line ∈ first :: others, ∀ char ∈ line, isBlank char = true := by
    cases broken : lines back with
    | nil =>
      rw [eq_nil_of_lines broken, List.append_nil]
      refine ⟨[], [], ?_, ?_⟩
      · rw [lines_of_unbroken some unbroken, List.append_nil]
      · intro line listed char member
        rw [List.mem_singleton.mp listed] at member
        cases member
    | cons first others =>
      refine ⟨first, others, lines_append_cons unbroken broken, ?_⟩
      rw [← broken]
      exact fun line listed char member => behind char (mem_of_mem_lines listed member)
  obtain ⟨first, others, broken, blanks⟩ := parts
  obtain ⟨blankFirst, blankOthers⟩ := List.forall_mem_cons.mp blanks
  have kept : trim (inner ++ first) = inner :=
    Strips.trim_eq ⟨⟨[], first, rfl, blankFirst⟩, trimmed⟩
  have dropped : (others.map trim).filter (fun line => !line.isEmpty) = [] := by
    rw [List.filter_eq_nil_iff]
    intro line listed
    obtain ⟨other, member, rfl⟩ := List.mem_map.mp listed
    rw [trim, trimOf_eq_nil_iff.mpr (blankOthers other member)]
    exact Bool.false_ne_true
  rw [leading, expressionsOf, broken, List.map_cons, kept, List.filter_cons_of_pos (by simpa),
    dropped]
  rfl

/-- Bytes are received alike however they were cut into chunks. Those of a text, which breaks into
lines in one way, are received as the lines that are not blank, in order and each without the blanks
at its ends; what is received is not empty, has no blank at its ends and nothing in it that ends a
line, and the tokens of it are never refused for being blank. Bytes that are no text are refused
with one error. -/
theorem receive_cut (bytes : Bytes) :
    (∀ text, bytes = Utf8.encode text → ∃ lines expressions,
      (∀ texts, BreaksInto text texts ↔ texts = lines) ∧
      List.Forall₂ (fun line expression => Strips line expression.toList)
        (lines.filter fun line => !line.all isBlank) expressions ∧
      (∀ expression ∈ expressions, expression ≠ "" ∧ Trimmed expression.toList ∧
        (∀ char ∈ expression.toList, [char] ∉ lineEnds) ∧
        Expression.tokenize expression ≠ .error (.fault .emptyExpression)) ∧
      ∀ chunks : List Bytes, (∀ chunk ∈ chunks, chunk ≠ []) → chunks.flatten = bytes →
        receive chunks = .ok expressions) ∧
    ((∀ text, bytes ≠ Utf8.encode text) → ∃ error, Utf8.decode bytes = .error error ∧
      ∀ chunks : List Bytes, (∀ chunk ∈ chunks, chunk ≠ []) → chunks.flatten = bytes →
        receive chunks = .error error) := by
  constructor
  · rintro text rfl
    refine ⟨lines text, expressionsOf text, fun _ => breaksInto_iff, forall₂_expressionsOf text,
      ?_, ?_⟩
    · intro expression member
      obtain ⟨line, listed, same, char, inside, shown⟩ := exists_line_of_mem member
      refine ⟨?_, ?_, ?_, ?_⟩
      · rintro rfl
        cases inside
      · rw [same]
        exact (strips_trim line).trimmed
      · rw [same, ← unbroken_iff]
        exact (unbroken_of_mem_lines text line listed).trim
      · intro refused
        have blank := Expression.tokenize_eq_empty_iff.mp refused char inside
        rw [shown] at blank
        cases blank
    · intro chunks filled joined
      exact receive_of_received (by rw [received_of_filled filled, joined])
  · intro noText
    cases decoded : Utf8.decode bytes with
    | ok text => exact absurd (Utf8.decode_eq_ok_iff.mp decoded) (noText text)
    | error error =>
      refine ⟨error, rfl, fun chunks filled joined => ?_⟩
      exact receive_of_undecodable (by rw [received_of_filled filled, joined, decoded])

/-- Two expressions with a blank line between them. -/
def partedText : List Char := "1+1\r\n\u2028 é\t".toList

/-- The bytes of the text, cut between the carriage return and the line feed, inside the line
separator and inside the letter. -/
def partedChunks : List Bytes :=
  [[0x31, 0x2b, 0x31, 0x0d], [0x0a, 0xe2], [0x80, 0xa8, 0x20, 0xc3], [0xa9, 0x09]]

/-- The two expressions are received from the chunks and from all bytes at once, and neither is
blank. A byte that is no character is refused alike, alone or behind another. -/
theorem receive_cut_parted :
    Utf8.encode partedText = Utf8.encode partedText ∧
      (∀ chunk ∈ partedChunks, chunk ≠ []) ∧ partedChunks.flatten = Utf8.encode partedText ∧
      receive partedChunks = .ok ["1+1", "é"] ∧
      receive [Utf8.encode partedText] = .ok ["1+1", "é"] ∧
      (∀ expression ∈ ["1+1", "é"],
        Expression.tokenize expression ≠ .error (.fault .emptyExpression)) ∧
      (∀ text, [0x31, 0xff] ≠ Utf8.encode text) ∧
      ∃ error, receive [[0x31, 0xff]] = .error error ∧ receive [[0x31], [0xff]] = .error error := by
  obtain ⟨received, -⟩ := receive_cut (Utf8.encode partedText)
  obtain ⟨-, refused⟩ := receive_cut [0x31, 0xff]
  obtain ⟨lines, expressions, -, -, tokens, anyhow⟩ := received partedText rfl
  have filled : ∀ chunk ∈ partedChunks, chunk ≠ [] := by decide
  have joined : partedChunks.flatten = Utf8.encode partedText := by decide +kernel
  have found : receive partedChunks = .ok ["1+1", "é"] := eq_ok_of_toOption (by decide +kernel)
  have same : expressions = ["1+1", "é"] :=
    Except.ok.inj ((anyhow partedChunks filled joined).symm.trans found)
  subst same
  have noText : ∀ text, [0x31, 0xff] ≠ Utf8.encode text := by
    intro text encoded
    have decoded := Utf8.decode_eq_ok_iff.mpr encoded
    cases decoded
  obtain ⟨error, -, always⟩ := refused noText
  refine ⟨rfl, filled, joined, found, anyhow [Utf8.encode partedText] (by decide +kernel) (by simp),
    fun expression member => (tokens expression member).2.2.2, noText, error, ?_, ?_⟩
  · exact always [[0x31, 0xff]] (by decide) rfl
  · exact always [[0x31], [0xff]] (by decide) rfl

end Reckoner.Server
