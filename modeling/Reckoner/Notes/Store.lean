import Reckoner.Log
import Reckoner.Notes.Moment
import Reckoner.Notes.Vault

/-!
# The note store

A store keeps the sealed notes of all users. Every note gets a number that no other note of any
user has; a user sees only notes of their own.
-/

namespace Reckoner

/-- A note in a store. -/
structure StoredNote where
  /-- The number, from one on. -/
  id : Nat
  /-- The user that the note belongs to. -/
  user : Int
  /-- When the note was created. -/
  created : Moment
  /-- The payload, sealed. -/
  sealed : Bytes
  deriving DecidableEq, Repr

/-- What a listing tells of a note. -/
structure NoteEntry where
  /-- The number. -/
  id : Nat
  /-- When the note was created. -/
  created : Moment
  deriving DecidableEq, Repr

/-- What a listing tells of a stored note. -/
def StoredNote.entry (note : StoredNote) : NoteEntry := ⟨note.id, note.created⟩

/-- A store of notes. -/
structure NoteStore where
  /-- The vault that seals the notes. -/
  vault : Vault
  /-- The notes, in the order in which they were saved. -/
  notes : List StoredNote
  /-- The number of the next note. -/
  next : Nat
  deriving Repr

/-- A page of a listing that would hold no entry. -/
structure LimitError where
  /-- The greatest number of entries that was asked for. -/
  limit : Int
  deriving DecidableEq, Repr

/-- The words for a page without entries. -/
def LimitError.message (error : LimitError) : String :=
  "limit must be positive, got " ++ toString error.limit

/-- Why a note cannot be loaded. -/
inductive LoadError where
  /-- The user has no note of the number. -/
  | notFound (id : Int)
  /-- The note does not open. -/
  | unopened (error : OpenError)
  deriving DecidableEq, Repr

/-- The words for a note that cannot be loaded. -/
def LoadError.message (error : LoadError) (report? : Option IssueReport := none) : String :=
  match error with
  | .notFound id => "note " ++ toString id ++ " not found"
  | .unopened error => error.message report?

namespace NoteStore

/-- The empty store of a vault. -/
def empty (vault : Vault) : NoteStore := ⟨vault, [], 1⟩

/-- The note of a user and a number. -/
def find? (store : NoteStore) (user id : Int) : Option StoredNote :=
  store.notes.find? fun note => note.user == user && note.id == id

/-- The store after a note was saved under the next number, what a listing will tell of the note,
and what is told of it now. A note of unknown creation was created now. -/
def save (store : NoteStore) (user : Int) (payload : Payload) (nonce : Nonce) (now : Moment)
    (created? : Option Moment) : NoteStore × NoteEntry × List Log.Record :=
  let created := created?.getD now.universal
  let note : StoredNote := ⟨store.next, user, created, store.vault.lock nonce payload⟩
  ({ store with notes := store.notes ++ [note], next := store.next + 1 }, note.entry,
    [Log.info ("📝 Saved " ++ payload.kind.name ++ " note " ++ toString note.id ++ " for user " ++
      toString user)])

/-- A moment with a number counts as less than another: it is earlier, or the same with a lesser
number. -/
def precedes (left right : Moment × Nat) : Bool :=
  if left.1.isSame right.1 then left.2 < right.2 else left.1.isEarlier right.1

/-- One note may be listed before another: it was not created earlier, nor at the same time under a
lesser number. -/
def comesFirst (left right : StoredNote) : Bool :=
  !precedes (left.created, left.id) (right.created, right.id)

/-- How many entries a listing has at most, unless it is told otherwise. -/
def defaultLimit : Int := 20

/-- The notes of a user, the newest first. The sort is stable, and it alone decides where moments
around a change of the clocks are compared in a circle. -/
def newestFirst (store : NoteStore) (user : Int) : List StoredNote :=
  (store.notes.filter fun note => note.user == user).mergeSort comesFirst

/-- The first entries of the notes of a user, the newest first. -/
def page (store : NoteStore) (user : Int) (limit : Int) :
    Except LimitError (List NoteEntry) :=
  if limit < 1 then .error ⟨limit⟩
  else .ok (((store.newestFirst user).take limit.toNat).map StoredNote.entry)

/-- The payload of a note of a user, and when it was created. -/
def load (store : NoteStore) (user id : Int) : Except LoadError (Payload × Moment) :=
  match store.find? user id with
  | none => .error (.notFound id)
  | some note =>
    match store.vault.unlock note.sealed with
    | .ok payload => .ok (payload, note.created)
    | .error error => .error (.unopened error)

/-- The store with other sealed bytes in a note. -/
def overwrite (store : NoteStore) (user id : Int) (sealed : Bytes) : NoteStore :=
  { store with
    notes := store.notes.map fun note =>
      if note.user == user && note.id == id then { note with sealed } else note }

end NoteStore

end Reckoner
