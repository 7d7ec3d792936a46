import Reckoner.Proofs.Text.Base64
import Reckoner.Proofs.Validation.Field
import Reckoner.Settings.Basic

/-!
# The key in the settings

The settings have a key exactly when a text is set for it that, without the blanks around it, writes
as many bytes as a key has; the key is then of these bytes (`Settings.key_eq_ok_iff`).
-/

namespace Reckoner

/-- The last of members counts for its name. -/
theorem Json.member?_append_singleton (name : String) (value : Json)
    (front : List (String × Json)) :
    Json.member? name (front ++ [(name, value)]) = some value := by
  rw [Json.member?, List.reverse_append]
  exact List.lookup_cons_self

/-- Bytes of one of the three lengths are those of a key. -/
theorem Key.ofBytes?_eq_some_iff {bytes : Bytes} {key : Key} :
    Key.ofBytes? bytes = some key ↔ key.bytes = bytes := by
  obtain ⟨held, length⟩ := key
  rw [ofBytes?]
  constructor
  · intro made
    split at made
    · cases made
      rfl
    · cases made
  · rintro rfl
    rw [dif_pos length]

namespace Settings

/-- A text that writes the bytes of a key is one of ASCII and not empty. -/
theorem keyOf_eq_ok_iff {text : String} {key : Key} :
    keyOf text = .ok key ↔ Text.Base64.decode (Text.trim text.toList) = .ok key.bytes := by
  rw [keyOf]
  generalize Text.trim text.toList = chars
  constructor
  · intro found
    split at found
    · cases found
    split at found
    · cases found
    split at found
    · cases found
    · rename_i bytes read
      split at found
      · rename_i made
        cases found
        rw [read, Key.ofBytes?_eq_some_iff.mp made]
      · cases found
  · intro read
    have filled : ¬ chars.isEmpty = true := by
      intro empty
      rw [List.isEmpty_iff.mp empty] at read
      have none : ([] : Bytes) = key.bytes := Except.ok.inj read
      have length := key.length_mem
      rw [← none] at length
      exact absurd length (by decide)
    have ascii : ¬ (chars.any fun char => 0x7f < char.toNat) = true := by
      rw [List.any_eq_true]
      rintro ⟨char, member, high⟩
      have low := (Text.Base64.isCode_of_decode read char member).plain.1
      rw [decide_eq_true_eq] at high
      omega
    rw [if_neg filled, if_neg ascii, read]
    simp only [Key.ofBytes?_eq_some_iff.mpr rfl]

/-- The settings have a key exactly when a text is set for it that writes the bytes of the key. -/
theorem key_eq_ok_iff {settings : Settings} {key : Key} :
    settings.key = .ok key ↔ ∃ text, settings.keyText? = some text ∧
      Text.Base64.decode (Text.trim text.toList) = .ok key.bytes := by
  rw [Settings.key]
  cases settings.keyText? with
  | none => simp
  | some text => simp only [Option.some.injEq, exists_eq_left', keyOf_eq_ok_iff]

/-- The text that is given outright for the key is set, whatever the other sources say. -/
theorem keyText?_of_given {text : String} {environment : Variables} {file : List Char}
    {settings : Settings}
    (made : ofSources [("enc_key_b64", .string text)] environment file = .ok settings) :
    settings.keyText? = some text := by
  rw [ofSources] at made
  generalize Variables.ofAssignments environment _ = assigned at made
  have spelling : Variables.isSpelling "enc_key_b64" "enc_key_b64" = true := by decide +kernel
  have given : given? [("enc_key_b64", .string text)] "enc_key_b64" = some (.string text) := by
    simp only [given?, List.find?_cons, spelling, Option.map_some]
  have collected : ∃ front, collect [("enc_key_b64", .string text)] environment assigned =
      front ++ [("enc_key_b64", .string text)] := by
    have last : names = ["host", "port", "max_workers", "log_level"] ++ ["enc_key_b64"] := rfl
    rw [collect, last, List.filterMap_append]
    simp only [List.filterMap_cons, given]
    exact ⟨_, rfl⟩
  obtain ⟨front, members⟩ := collected
  rw [members, ofMembers] at made
  obtain ⟨fields, passed, rest⟩ := bind_eq_ok made
  obtain ⟨endpoint, limit, level, key⟩ := fields
  have last := (Checked.both_eq_ok_iff.mp (Checked.both_eq_ok_iff.mp
    (Checked.both_eq_ok_iff.mp passed).2).2).2
  rw [Checked.optional_eq_ok_iff, Json.member?_append_singleton] at last
  cases last
  cases rest
  rfl

end Settings

end Reckoner
