/-!
# Outcomes in sequence

What a sequence of two steps came to tells what each step came to.
-/

namespace Reckoner

variable {ε α β : Type}

/-- A sequence succeeds when both steps do. -/
theorem bind_eq_ok {first : Except ε α} {next : α → Except ε β} {result : β}
    (succeeded : first >>= next = .ok result) :
    ∃ value, first = .ok value ∧ next value = .ok result := by
  cases first with
  | error failure => cases succeeded
  | ok value => exact ⟨value, rfl, succeeded⟩

/-- A sequence fails where its first step does or its second. -/
theorem bind_eq_error {first : Except ε α} {next : α → Except ε β} {failure : ε}
    (failed : first >>= next = .error failure) :
    first = .error failure ∨ ∃ value, first = .ok value ∧ next value = .error failure := by
  cases first with
  | error other =>
    cases failed
    exact .inl rfl
  | ok value => exact .inr ⟨value, rfl, failed⟩

/-- An outcome with a result is the result. -/
theorem eq_ok_of_toOption {first : Except ε α} {result : α}
    (succeeded : first.toOption = some result) : first = .ok result := by
  cases first with
  | error failure => cases succeeded
  | ok value =>
    cases succeeded
    rfl

/-- A changed result comes from a result. -/
theorem map_eq_ok {first : Except ε α} {change : α → β} {result : β}
    (succeeded : first.map change = .ok result) :
    ∃ value, first = .ok value ∧ change value = result := by
  cases first with
  | error failure => cases succeeded
  | ok value =>
    cases succeeded
    exact ⟨value, rfl, rfl⟩

/-- Changing results leaves failures as they are. -/
theorem map_eq_error {first : Except ε α} {change : α → β} {failure : ε}
    (failed : first.map change = .error failure) : first = .error failure := by
  cases first with
  | error other =>
    cases failed
    rfl
  | ok value => cases failed

/-- Changes of a result one after the other are one change. -/
theorem map_map {γ : Type} (first : Except ε α) (change : α → β) (other : β → γ) :
    (first.map change).map other = first.map (other ∘ change) := by
  cases first <;> rfl

/-- Changing the result of a sequence changes that of its second step. -/
theorem map_bind {γ : Type} (first : Except ε α) (next : α → Except ε β) (change : β → γ) :
    (first >>= next).map change = first >>= fun value => (next value).map change := by
  cases first <;> rfl

/-- Steps that are alike are followed by the same when what follows sees only in what they are
alike. -/
theorem bind_alike {γ : Type} {forget : α → γ} {first second : Except ε α}
    (alike : first.map forget = second.map forget) {next : α → Except ε β}
    (blind : ∀ left right, forget left = forget right → next left = next right) :
    first >>= next = second >>= next := by
  cases first with
  | error failure =>
    cases second with
    | error other =>
      cases alike
      rfl
    | ok value => cases alike
  | ok left =>
    cases second with
    | error failure => cases alike
    | ok right => exact blind left right (Except.ok.inj alike)

end Reckoner
