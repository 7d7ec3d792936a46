import Reckoner.Notes.Store
import Reckoner.Proofs.Notes.Vault

/-!
# Histories of a store

What a store holds after any calls is determined by the saves among them: the save of a number is
the note of that number (`after_empty`). So the saves alone decide what a further call is answered.
-/

namespace Reckoner.NoteStore

/-! ## Calls -/

/-- A call of a user. -/
inductive Call where
  /-- A note is saved; the clock that tells its creation may be unknown, and so may its zone. -/
  | save (user : Int) (payload : Payload) (nonce : Nonce) (now : Moment)
    (created? : Option ClockReading)
  /-- A listing is asked for. -/
  | page (user limit : Int)
  /-- A note is loaded. -/
  | load (user id : Int)

/-- What a call is answered. -/
inductive Reply where
  /-- A note was saved. -/
  | saved (entry : NoteEntry)
  /-- A listing, or why there is none. -/
  | listed (outcome : Except LimitError (List NoteEntry))
  /-- A note, or why there is none. -/
  | loaded (outcome : Except LoadError (Payload × Moment))

/-- The store after a call, and the answer. -/
def serve (store : NoteStore) : Call → NoteStore × Reply
  | .save user payload nonce now created? =>
    let (after, entry, _) := store.save user payload nonce now (created?.map ClockReading.moment)
    (after, .saved entry)
  | .page user limit => (store, .listed (store.page user limit))
  | .load user id => (store, .loaded (store.load user id))

/-- The store after calls. -/
def after (store : NoteStore) (calls : List Call) : NoteStore :=
  calls.foldl (fun store call => (store.serve call).1) store

/-! ## Saves -/

/-- What was given to a save. -/
structure Saving where
  /-- The user. -/
  user : Int
  /-- The payload. -/
  payload : Payload
  /-- The nonce that the payload is locked with. -/
  nonce : Nonce
  /-- When the note was created. -/
  created : Moment

/-- When a note was created: now if that is unknown, and by a clock of universal time if its zone is
unknown. -/
def creation (now : Moment) : Option ClockReading → Moment
  | none => now.universal
  | some ⟨clock, again, none⟩ => ⟨clock.microseconds, ⟨.universal, again⟩⟩
  | some ⟨clock, again, some zone⟩ => ⟨clock.microseconds, ⟨zone, again⟩⟩

/-- What a call saves, if anything. -/
def Call.saving? : Call → Option Saving
  | .save user payload nonce now created? => some ⟨user, payload, nonce, creation now created?⟩
  | .page .. | .load .. => none

/-- What calls save, in order. -/
def savings (calls : List Call) : List Saving := calls.filterMap Call.saving?

/-- The note of a save. -/
def Saving.note (vault : Vault) (id : Nat) (saving : Saving) : StoredNote :=
  ⟨id, saving.user, saving.created, vault.lock saving.nonce saving.payload⟩

/-- The store that saves lead to: the notes of the saves, numbered from one on. -/
def ofSavings (vault : Vault) (savings : List Saving) : NoteStore :=
  ⟨vault, savings.mapIdx fun index saving => saving.note vault (index + 1), savings.length + 1⟩

/-- The creation of a note is told by the clock that was given. -/
theorem getD_creation (now : Moment) (created? : Option ClockReading) :
    (created?.map ClockReading.moment).getD now.universal = creation now created? := by
  rcases created? with - | ⟨clock, again, - | zone⟩
  · rfl
  · rfl
  · rfl

/-- A save is answered with the next number. -/
theorem serve_save (vault : Vault) (savings : List Saving) (user : Int) (payload : Payload)
    (nonce : Nonce) (now : Moment) (created? : Option ClockReading) :
    (ofSavings vault savings).serve (.save user payload nonce now created?) =
      (ofSavings vault (savings ++ [⟨user, payload, nonce, creation now created?⟩]),
        .saved ⟨savings.length + 1, creation now created?⟩) := by
  rw [serve, save, getD_creation]
  simp only [ofSavings, Saving.note, StoredNote.entry, List.mapIdx_append, List.mapIdx_cons,
    List.mapIdx_nil, List.length_append, List.length_singleton, Nat.zero_add]

/-- A call leads from the store of saves to that of these and its own. -/
theorem serve_ofSavings (vault : Vault) (savings : List Saving) (call : Call) :
    ((ofSavings vault savings).serve call).1 =
      ofSavings vault (savings ++ call.saving?.toList) := by
  cases call with
  | save user payload nonce now created? =>
    rw [serve_save]
    rfl
  | page user limit =>
    show ofSavings vault savings = ofSavings vault (savings ++ [])
    rw [List.append_nil]
  | load user id =>
    show ofSavings vault savings = ofSavings vault (savings ++ [])
    rw [List.append_nil]

/-- Calls lead from the store of saves to that of these and their own. -/
theorem after_ofSavings (vault : Vault) (earlier : List Saving) (calls : List Call) :
    (ofSavings vault earlier).after calls = ofSavings vault (earlier ++ savings calls) := by
  induction calls generalizing earlier with
  | nil =>
    show ofSavings vault earlier = ofSavings vault (earlier ++ [])
    rw [List.append_nil]
  | cons call calls ih =>
    rw [after, List.foldl_cons, serve_ofSavings, ← after, ih, List.append_assoc, savings, savings,
      List.filterMap_cons]
    cases call.saving? with
    | none => rfl
    | some saving => rfl

/-- What an empty store holds after calls is the notes of their saves. -/
theorem after_empty (vault : Vault) (calls : List Call) :
    (empty vault).after calls = ofSavings vault (savings calls) :=
  after_ofSavings vault [] calls

/-! ## The notes of saves -/

section

variable {vault : Vault} {earlier : List Saving} {user id : Int} {note : StoredNote}

/-- The notes of a store of saves are those of the saves. -/
theorem mem_notes_ofSavings :
    note ∈ (ofSavings vault earlier).notes ↔
      ∃ (index : Nat) (saving : Saving), earlier[index]? = some saving ∧
        saving.note vault (index + 1) = note := by
  simp only [ofSavings, List.mem_iff_getElem?, List.getElem?_mapIdx, Option.map_eq_some_iff]

/-- A note that a user finds under a number is that of the save of the number, and the save was
theirs. -/
theorem saving_of_find? (found : (ofSavings vault earlier).find? user id = some note) :
    ∃ (index : Nat) (saving : Saving), earlier[index]? = some saving ∧ saving.user = user ∧
      id = index + 1 ∧ note = saving.note vault (index + 1) := by
  have matched := List.find?_some found
  obtain ⟨index, saving, saved, rfl⟩ :=
    mem_notes_ofSavings.mp (List.mem_of_find?_eq_some found)
  rw [Bool.and_eq_true, beq_iff_eq, beq_iff_eq] at matched
  exact ⟨index, saving, saved, matched.1, matched.2.symm, rfl⟩

/-- The user of a save finds its note under its number. -/
theorem find?_ofSavings {index : Nat} {saving : Saving} (saved : earlier[index]? = some saving) :
    (ofSavings vault earlier).find? saving.user (index + 1) =
      some (saving.note vault (index + 1)) := by
  have held : saving.note vault (index + 1) ∈ (ofSavings vault earlier).notes :=
    mem_notes_ofSavings.mpr ⟨index, saving, saved, rfl⟩
  have found : ((ofSavings vault earlier).find? saving.user (index + 1)).isSome := by
    rw [find?, List.find?_isSome]
    refine ⟨_, held, ?_⟩
    simp [Saving.note]
  obtain ⟨note, found⟩ := Option.isSome_iff_exists.mp found
  obtain ⟨other, saving', saved', -, number, rfl⟩ := saving_of_find? found
  -- Two saves of one number are one save.
  have same : index = other := by omega
  rw [← same, saved] at saved'
  cases saved'
  rw [found, same]

/-- A user who did not make the save of a number finds nothing under it. -/
theorem find?_ofSavings_eq_none
    (foreign : ∀ (index : Nat) (saving : Saving), earlier[index]? = some saving →
      saving.user = user → id ≠ index + 1) :
    (ofSavings vault earlier).find? user id = none := by
  cases found : (ofSavings vault earlier).find? user id with
  | none => rfl
  | some note =>
    obtain ⟨index, saving, saved, theirs, number, -⟩ := saving_of_find? found
    exact absurd number (foreign index saving saved theirs)

/-- The user of a save loads what was given to it. -/
theorem load_ofSavings {index : Nat} {saving : Saving} (saved : earlier[index]? = some saving) :
    (ofSavings vault earlier).load saving.user (index + 1) =
      .ok (saving.payload, saving.created) := by
  have opens : (ofSavings vault earlier).vault.unlock (saving.note vault (index + 1)).sealed =
      .ok saving.payload := Vault.unlock_lock vault saving.nonce saving.payload
  rw [load, find?_ofSavings saved]
  simp only [opens]
  rfl

/-- A user who did not make the save of a number loads nothing under it. -/
theorem load_ofSavings_foreign
    (foreign : ∀ (index : Nat) (saving : Saving), earlier[index]? = some saving →
      saving.user = user → id ≠ index + 1) :
    (ofSavings vault earlier).load user id = .error (.notFound id) := by
  rw [load, find?_ofSavings_eq_none foreign]

end

/-! ## What every store holds -/

/-- What calls keep true of a store. -/
structure Sound (store : NoteStore) : Prop where
  /-- Numbers go from one up to the next one. -/
  numbered : ∀ user id note, store.find? user id = some note → 1 ≤ id ∧ id < store.next
  /-- A number belongs to one user. -/
  owned : ∀ user other id, (store.find? user id).isSome → (store.find? other id).isSome →
    user = other
  /-- A note carries its user and its number. -/
  labelled : ∀ user id note, store.find? user id = some note → note.user = user ∧ note.id = id
  /-- A note opens. -/
  opens : ∀ user id note, store.find? user id = some note →
    ∃ payload, store.vault.unlock note.sealed = .ok payload

/-- The store of saves is sound. -/
theorem sound_ofSavings (vault : Vault) (earlier : List Saving) :
    (ofSavings vault earlier).Sound where
  numbered user id note found := by
    obtain ⟨index, saving, saved, -, number, -⟩ := saving_of_find? found
    have inside : index < earlier.length := (List.getElem?_eq_some_iff.mp saved).1
    show 1 ≤ id ∧ id < ((earlier.length + 1 : Nat) : Int)
    omega
  owned user other id found shared := by
    obtain ⟨note, found⟩ := Option.isSome_iff_exists.mp found
    obtain ⟨copy, shared⟩ := Option.isSome_iff_exists.mp shared
    obtain ⟨index, saving, saved, theirs, number, -⟩ := saving_of_find? found
    obtain ⟨place, again, saved', others, number', -⟩ := saving_of_find? shared
    have same : index = place := by omega
    rw [same, saved'] at saved
    cases saved
    rw [← theirs, others]
  labelled user id note found := by
    obtain ⟨index, saving, -, theirs, number, rfl⟩ := saving_of_find? found
    exact ⟨theirs, number.symm⟩
  opens user id note found := by
    obtain ⟨index, saving, -, -, -, rfl⟩ := saving_of_find? found
    exact ⟨saving.payload, Vault.unlock_lock vault saving.nonce saving.payload⟩

/-! ## Histories -/

/-- After any calls to an empty store, the next save is answered with the number of saves so far and
one, whoever made them. A user loads what was given to each save of their own, with the time of its
creation, and is told of every other number that there is no such note. Listing and loading leave
the store as it is, and the store is sound. -/
theorem history (vault : Vault) (calls : List Call) :
    let store := (empty vault).after calls
    (∀ user payload nonce now created?,
      (store.serve (.save user payload nonce now created?)).2 =
        .saved ⟨(savings calls).length + 1, creation now created?⟩) ∧
    (∀ (index : Nat) (saving : Saving), (savings calls)[index]? = some saving →
      store.serve (.load saving.user (index + 1)) =
        (store, .loaded (.ok (saving.payload, saving.created)))) ∧
    (∀ user id : Int, (∀ (index : Nat) (saving : Saving), (savings calls)[index]? = some saving →
        saving.user = user → id ≠ index + 1) →
      store.serve (.load user id) = (store, .loaded (.error (.notFound id)))) ∧
    (∀ user limit, (store.serve (.page user limit)).1 = store) ∧
    store.Sound := by
  intro store
  have reached : store = ofSavings vault (savings calls) := after_empty vault calls
  rw [reached]
  refine ⟨?_, ?_, ?_, fun _ _ => rfl, sound_ofSavings vault (savings calls)⟩
  · intro user payload nonce now created?
    rw [serve_save]
  · intro index saving saved
    rw [serve, load_ofSavings saved]
  · intro user id foreign
    rw [serve, load_ofSavings_foreign foreign]

/-- The calls of two users in turn, with a listing and a loading in between that fail. -/
def twoUsers : List Call :=
  let nonce : Nonce := Vector.replicate 12 0
  [.save 1 ⟨.text, some "tea", none, none, rfl⟩ nonce ⟨0, 60⟩ none, .page 1 0, .load 2 1,
    .save 2 ⟨.voice, none, some "file", none, rfl⟩ nonce ⟨0, 60⟩
      (some ⟨⟨2026, 1, 2, 3, 4, 5, 6⟩, false, none⟩)]

/-- What the calls of two users leave. -/
def twoUsersStore : NoteStore := (empty ⟨⟨List.replicate 16 0, by decide⟩⟩).after twoUsers

/-- The second note is the second user's, and nobody else's. -/
theorem history_twoUsers :
    twoUsersStore.serve (.load 2 2) =
      (twoUsersStore, .loaded (.ok (⟨.voice, none, some "file", none, rfl⟩,
        .ofClock ⟨2026, 1, 2, 3, 4, 5, 6⟩ (some 0)))) ∧
    twoUsersStore.serve (.load 1 2) = (twoUsersStore, .loaded (.error (.notFound 2))) := by
  obtain ⟨-, own, foreign, -⟩ := history ⟨⟨List.replicate 16 0, by decide⟩⟩ twoUsers
  refine ⟨own 1 _ rfl, foreign 1 2 ?_⟩
  intro index saving saved theirs number
  have second : index = 1 := by omega
  subst second
  cases saved
  cases theirs

end Reckoner.NoteStore
