import Reckoner.Proofs.Expression.Faults
import Reckoner.Proofs.Text.Lines

/-!
# Margins of expressions

Blanks in front of a text and behind it make no difference to its evaluation, except that what is
found at a position of the text is found farther behind by as many positions as there are blanks in
front (`evaluate_margins`).
-/

namespace Reckoner

/-- A fault that is found farther behind by so many positions. -/
def EvalError.moved (count : Nat) : EvalError → EvalError
  | .unexpectedCharacter char position => .unexpectedCharacter char (position + count)
  | error => error

/-- A failure whose fault is found farther behind by so many positions. -/
def Failure.moved (count : Nat) : Failure → Failure
  | .fault error => .fault (error.moved count)
  | failure => failure

/-- A fault is of one kind wherever it is found. -/
theorem EvalError.kind_moved (count : Nat) (error : EvalError) :
    (error.moved count).kind = error.kind := by
  cases error <;> rfl

/-- Faults other than a character that belongs to no token are found at no position. -/
theorem EvalError.moved_of_kind (count : Nat) {error : EvalError}
    (other : error.kind ≠ .unexpectedCharacter) : error.moved count = error := by
  cases error with
  | unexpectedCharacter char position => exact absurd rfl other
  | _ => rfl

namespace Expression

section

variable {α β : Type} {outcome : Except Failure α}

/-- Moved failures of a first step are moved failures of the sequence when those of the second step
are found at no position. -/
theorem bind_moved {change : Failure → Failure} {next : α → Except Failure β}
    (kept : ∀ value, outcome = .ok value → (next value).mapError change = next value) :
    outcome.mapError change >>= next = (outcome >>= next).mapError change := by
  cases outcome with
  | ok value => exact (kept value rfl).symm
  | error failure => rfl

/-- Changing results and moving failures can be done in either order. -/
theorem map_moved (change : Failure → Failure) (other : α → β) :
    (outcome.mapError change).map other = (outcome.map other).mapError change := by
  cases outcome <;> rfl

/-- Faults of other kinds than a character that belongs to no token are not moved. -/
theorem FaultsOf.mapError_moved {kinds : List EvalError.Kind} (faults : FaultsOf kinds outcome)
    (others : .unexpectedCharacter ∉ kinds) (count : Nat) :
    outcome.mapError (Failure.moved count) = outcome := by
  cases outcome with
  | ok value => rfl
  | error failure =>
    obtain ⟨error, rfl, member⟩ := faults failure rfl
    have kept : error.moved count = error :=
      error.moved_of_kind count fun same => others (same ▸ member)
    show Except.error (Failure.fault (error.moved count)) = _
    rw [kept]

end

/-! ## The scan -/

/-- Characters whose positions are farther behind. -/
def behind (count : Nat) (entries : List (Char × Nat)) : List (Char × Nat) :=
  entries.map (Prod.map id (· + count))

/-- Blanks are not significant, wherever they stand. -/
theorem filter_blanks {blanks : List Char} (blank : ∀ char ∈ blanks, Text.isBlank char = true)
    (start : Nat) :
    (blanks.zipIdx start).filter (fun entry => !Text.isBlank entry.1) = [] := by
  rw [List.filter_eq_nil_iff]
  intro entry member
  simp [blank entry.1 (List.fst_mem_of_mem_zipIdx member)]

/-- The characters that are significant between blanks are those without the blanks, farther
behind. -/
theorem significant_margins {front inner back : List Char}
    (blank : ∀ char ∈ front ++ back, Text.isBlank char = true) :
    significant (front ++ inner ++ back) = behind front.length (significant inner) := by
  obtain ⟨before, after⟩ := List.forall_mem_append.mp blank
  have shifted : inner.zipIdx (0 + front.length) = behind front.length inner.zipIdx := by
    rw [Nat.add_comm]
    exact List.map_snd_add_zipIdx_eq_zipIdx.symm
  rw [significant, List.zipIdx_append, List.zipIdx_append, List.filter_append, List.filter_append,
    filter_blanks before, filter_blanks after, List.nil_append, List.append_nil, shifted, behind,
    List.filter_map]
  rfl

/-- A character stands for the same token wherever it is, or is refused there. -/
theorem symbolToken_moved (char : Char) (position count : Nat) :
    symbolToken char (position + count) =
      (symbolToken char position).mapError (Failure.moved count) := by
  rw [symbolToken, symbolToken, Token.operator]
  split
  · split <;> rfl
  · split
    · rfl
    · split <;> rfl

/-- Characters that are farther behind are scanned as they were, and refused farther behind. -/
theorem scanFrom_moved (run : List Char) (count : Nat) (entries : List (Char × Nat)) :
    scanFrom run (behind count entries) =
      (scanFrom run entries).mapError (Failure.moved count) := by
  induction entries generalizing run with
  | nil => rfl
  | cons entry rest ih =>
    obtain ⟨char, position⟩ := entry
    show scanFrom run ((char, position + count) :: behind count rest) = _
    rw [scanFrom, scanFrom]
    split
    · exact ih (char :: run)
    · rw [symbolToken_moved, ih []]
      cases symbolToken char position with
      | error failure => rfl
      | ok token => cases scanFrom [] rest <;> rfl

/-- Blanks around a text leave its tokens, and move what is refused by those in front. -/
theorem tokenize_margins {front inner back : List Char}
    (blank : ∀ char ∈ front ++ back, Text.isBlank char = true) :
    tokenize (String.ofList (front ++ inner ++ back)) =
      (tokenize (String.ofList inner)).mapError (Failure.moved front.length) := by
  rw [tokenize, tokenize, ← map_moved, scan, scan, String.toList_ofList, String.toList_ofList,
    significant_margins blank]
  have empty : (behind front.length (significant inner)).isEmpty = (significant inner).isEmpty :=
    List.isEmpty_map
  simp only [empty]
  split
  · rfl
  · rw [scanFrom_moved]

/-- Blanks around a text leave its value, and move what is at fault in it by those in front. -/
theorem evaluate_margins {front inner back : List Char}
    (blank : ∀ char ∈ front ++ back, Text.isBlank char = true) :
    evaluate (String.ofList (front ++ inner ++ back)) =
      (evaluate (String.ofList inner)).mapError (Failure.moved front.length) := by
  have computed : compute (String.ofList (front ++ inner ++ back)) =
      (compute (String.ofList inner)).mapError (Failure.moved front.length) := by
    rw [compute, compute, tokenize_margins blank]
    refine bind_moved fun tokens scanned => ?_
    have faults : FaultsOf ([.mismatchedParentheses] ++ (runKinds ++ finalKinds))
        (toPostfix tokens >>= evaluatePostfix) :=
      ((toPostfix_faults scanned).mono (by decide)).bind fun output converted =>
        (evaluatePostfix_toPostfix_faults scanned converted).mono (by decide)
    exact faults.mapError_moved (by decide) front.length
  rw [evaluate, evaluate, computed]
  refine bind_moved fun value found => ?_
  obtain ⟨text, written⟩ := exists_format (isFinite_of_compute found)
  rw [written]
  rfl

/-- An expression has the value of what stands between its blanks, and the faults of it, found
farther behind by as many positions as there are blanks in front. -/
theorem evaluate_strip (text : String) :
    evaluate text = (evaluate (Text.strip text)).mapError
      (Failure.moved (text.toList.takeWhile Text.isBlank).length) := by
  obtain ⟨back, parts, blank⟩ := Text.exists_margins text.toList
  have framed := @evaluate_margins _ (Text.trim text.toList) _ blank
  rw [← parts, String.ofList_toList] at framed
  exact framed

end Expression

end Reckoner
