import Reckoner.Batch.Server
import Reckoner.Cipher.Aes
import Reckoner.Settings.Variables
import Reckoner.Text.Base64

/-!
# Settings

What a user can set: where the batch server is, how many workers it may have, the level of the log
and the key of the notes. A setting that is given outright comes first, then the environment, then
a file of assignments.
-/

namespace Reckoner

/-- The settings. -/
structure Settings where
  /-- Where the batch server is. -/
  endpoint : Endpoint
  /-- The most workers at one time; nothing when it is left to the machine. -/
  limit : Option { value : Nat // 0 < value }
  /-- The name of the level of the log. -/
  level : String
  /-- The text of the key of the notes. -/
  keyText? : Option String

namespace Settings

/-- The names of the settings. -/
def names : List String := ["host", "port", "max_workers", "log_level", "enc_key_b64"]

/-- What the names of variables begin with, in lower case. -/
def variableStart : String := "calcnote_"

/-- The value of a setting among variables. -/
def setting? (known : Variables) (name : String) : Option Json :=
  (known.get? (variableStart ++ name)).map .string

/-- The value of a setting among those given outright, its name written with any cases of letters;
the first of several counts. -/
def given? (given : List (String × Json)) (name : String) : Option Json :=
  (given.find? fun entry => Variables.isSpelling name entry.1).map Prod.snd

/-- The values of settings, each from the first source that has one. -/
def collect (given : List (String × Json)) (environment file : Variables) : List (String × Json) :=
  names.filterMap fun name =>
    (((given? given name).orElse fun _ => setting? environment name).orElse
      fun _ => setting? file name).map fun value => (name, value)

/-- The settings of members, with their defaults. -/
def ofMembers (members : List (String × Json)) : Checked Settings := do
  let (endpoint, limit, level, key) ← (Endpoint.ofMembers members).both
    ((Server.limitOf members).both ((Checked.defaulted "log_level" "INFO" .string members).both
      (Checked.optional "enc_key_b64" .string members)))
  return ⟨endpoint, limit, level, key⟩

/-- The settings of all sources: those given outright, the environment and the text of a file. -/
def ofSources (given : List (String × Json)) (environment : Variables) (file : List Char) :
    Checked Settings :=
  let assigned := Variables.ofAssignments environment (Assignment.parse file)
  ofMembers (collect given environment assigned)

/-- The server of a batch with the file of its results. -/
def server (settings : Settings) (output : Path) : Server :=
  ⟨settings.endpoint, output, settings.limit⟩

/-- Why the settings have no key. -/
inductive KeyError where
  /-- No key is set. -/
  | unset
  /-- The text of the key has a character that is not ASCII. -/
  | notAscii
  /-- The text of the key writes no bytes. -/
  | malformed (flaw : Text.Base64.Flaw)
  /-- The bytes are not as many as those of a key. -/
  | length (count : Nat)
  deriving DecidableEq, Repr

/-- The words for settings without a key. -/
def KeyError.message : KeyError → String
  | .unset => "CALCNOTE_ENC_KEY_B64 is not set"
  | .notAscii => "string argument should contain only ASCII characters"
  | .malformed flaw => "CALCNOTE_ENC_KEY_B64 is not valid base64: " ++ flaw.message
  | .length count =>
    "CALCNOTE_ENC_KEY_B64 must decode to (16, 24, 32) bytes, got " ++ toString count

/-- The key of a text. -/
def keyOf (text : String) : Except KeyError Key :=
  let chars := Text.trim text.toList
  if chars.isEmpty then .error .unset
  else if chars.any fun char => 0x7f < char.toNat then .error .notAscii
  else
    match Text.Base64.decode chars with
    | .error flaw => .error (.malformed flaw)
    | .ok bytes =>
      match Key.ofBytes? bytes with
      | some key => .ok key
      | none => .error (.length bytes.length)

/-- The key of the notes. -/
def key (settings : Settings) : Except KeyError Key :=
  match settings.keyText? with
  | some text => keyOf text
  | none => .error .unset

end Settings

end Reckoner
