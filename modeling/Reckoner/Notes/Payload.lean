import Reckoner.Json.Parse
import Reckoner.Json.Strings
import Reckoner.Text.Blank
import Reckoner.Validation.Field

/-!
# Payloads

The content of a note. A text note has a text; a photo or voice note refers to a file that was
uploaded elsewhere. A payload is written as a JSON object of the fields that are set.
-/

namespace Reckoner

/-- The kinds of notes. -/
inductive NoteKind where
  /-- A text. -/
  | text
  /-- A reference to a photo. -/
  | photo
  /-- A reference to a voice message. -/
  | voice
  deriving DecidableEq, Repr

namespace NoteKind

/-- All kinds. -/
def all : List NoteKind := [.text, .photo, .voice]

/-- The name of a kind. -/
def name : NoteKind → String
  | .text => "text"
  | .photo => "photo"
  | .voice => "voice"

/-- The kind of a name. -/
def ofName? (name : String) : Option NoteKind := all.find? fun kind => kind.name == name

/-- What a note of a kind must have: a text that is not blank, or a file. -/
def isComplete (kind : NoteKind) (text fileId : Option String) : Bool :=
  match kind with
  | .text => text.any fun text => !Text.isBlankText text
  | .photo | .voice => fileId.any fun fileId => !fileId.isEmpty

/-- The words for a note that lacks what its kind must have. -/
def lack : NoteKind → String
  | .text => "Text note cannot be empty"
  | .photo => "Photo note requires a file_id"
  | .voice => "Voice note requires a file_id"

end NoteKind

/-- The content of a note. -/
structure Payload where
  /-- The kind. -/
  kind : NoteKind
  /-- The body of a text note. -/
  text? : Option String
  /-- What identifies the file of a photo or voice note. -/
  fileId? : Option String
  /-- The caption. -/
  caption? : Option String
  /-- The note has what its kind must have. -/
  complete : kind.isComplete text? fileId? = true
  deriving DecidableEq, Repr

namespace Payload

/-- The payload of fields, if the note has what its kind must have. -/
def ofFields (kind : NoteKind) (text fileId caption : Option String) : Checked Payload :=
  if complete : kind.isComplete text fileId = true then
    .ok ⟨kind, text, fileId, caption, complete⟩
  else .error [⟨[], .broken kind.lack⟩]

/-- The reading of a kind. -/
def kindReading : Reading NoteKind :=
  Reading.choice NoteKind.ofName? (NoteKind.all.map NoteKind.name)

/-- The payload that members describe. -/
def ofMembers (members : List (String × Json)) : Checked Payload := do
  let ((kind, text), fileId, caption) ←
    ((Checked.required "kind" kindReading members).both
      (Checked.optional "text" .string members)).both
    ((Checked.optional "file_id" .string members).both
      (Checked.optional "caption" .string members))
  ofFields kind text fileId caption

/-- The payload that a value describes. -/
def ofJson (value : Json) : Checked Payload :=
  Checked.members (.notRecord "NotePayload") value >>= ofMembers

/-- The payload that an encoded document describes. -/
def ofDocument (bytes : Bytes) : Checked Payload :=
  match Json.ofBytes? bytes with
  | some value => Checked.members .notObject value >>= ofMembers
  | none => .error [⟨[], .notDocument⟩]

/-- A field that may be set, as a member. -/
def member (name : String) (field : Option String) : List (String × String) :=
  (field.map fun value => (name, value)).toList

/-- The fields that are set, in order. -/
def members (payload : Payload) : List (String × String) :=
  ("kind", payload.kind.name) :: (member "text" payload.text? ++ member "file_id" payload.fileId? ++
    member "caption" payload.caption?)

/-- The document of a payload. -/
def document (payload : Payload) : List Char := Json.writeStrings payload.members

/-- What is shown of a payload: the body of a text note, or the reference to a file. -/
def shown (payload : Payload) : String :=
  match payload.kind with
  | .text => payload.text?.getD ""
  | .photo | .voice =>
    Text.stripEnd ("[" ++ payload.kind.name ++ "] " ++ payload.fileId?.getD "" ++ " " ++
      payload.caption?.getD "")

end Payload

end Reckoner
