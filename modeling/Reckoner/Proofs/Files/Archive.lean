import Reckoner.Files.Archive
import Reckoner.Proofs.Files.Path

/-!
# Text files of archives

One rule is behind the formats: the text of an archive is its first regular file with the name of a
text file (`Archive.firstText`). Each format picks a name first and then looks the name up in a way
of its own, so it follows the rule only when what it finds is what it picked
(`Archive.read_eq_due_iff`): a directory may have the name that is picked, and a later file the same
name.
-/

namespace Reckoner.Archive

/-- Only regular files and directories are among the members. -/
def Plain (members : List Member) : Prop :=
  ∀ member ∈ members, member.content = .directory ∨ ∃ bytes, member.content = .file bytes

/-- The bytes of a regular file with the name of a text file. -/
def Member.text? (member : Member) : Option Bytes :=
  match member.content with
  | .file bytes => if isText member.name then some bytes else none
  | .directory | .link _ => none

/-- The bytes of the first regular file with the name of a text file. -/
def firstText (members : List Member) : Option Bytes := members.findSome? Member.text?

/-- The answer of the rule, of the members as a format lists them. -/
def Format.due (format : Format) (members : List Member) : Except ReadError Bytes :=
  match firstText (format.listing members) with
  | some bytes => .ok bytes
  | none => .error (.noText format)

/-- The members that a format lists under the names of text files. -/
def Format.named (format : Format) (members : List Member) : List Member :=
  (format.listing members).filter fun member => isText member.name

/-- What is found is what was picked: for one format the first member with the name of a text file
is a regular file, for the others the last of its name has the same content. -/
def Format.Straight (format : Format) (members : List Member) : Prop :=
  ∀ first, (format.named members).head? = some first →
    match format with
    | .sevenZip => first.content.isFile = true
    | .zip | .tarXz => ∀ front last back, format.named members = front ++ last :: back →
        last.name = first.name → (∀ later ∈ back, later.name ≠ first.name) →
          last.content = first.content

variable {format : Format} {members : List Member}

/-! ## Suffixes -/

/-- The suffix of an archive is not that of a text file. -/
theorem suffix_ne_textSuffix {path : Path} (known : Format.ofSuffix? (suffix path) = some format) :
    path.suffix ≠ textSuffix := by
  intro text
  rw [suffix] at known
  split at known
  · rename_i taped
    -- The name ends with both suffixes, so the last of them is the suffix of the path.
    have ends : ".tar.xz".toList <:+ path.name := by
      have parts := List.take_append_drop (path.suffixes.length - 2) path.suffixes
      rw [taped] at parts
      have inner : ".tar.xz".toList <:+ path.suffixes.flatten := by
        rw [← parts, List.flatten_append]
        exact List.suffix_append _ _
      exact inner.trans (Path.suffixesOf_suffix path.name)
    obtain ⟨front, whole⟩ := ends
    have zipped : path.suffix = ".xz".toList := by
      rw [Path.suffix, Path.suffixOf, ← whole]
      simp
    rw [zipped] at text
    exact absurd text (by decide)
  · have none : Format.ofSuffix? textSuffix = none := by decide
    rw [text, none] at known
    cases known

/-! ## Listings -/

/-- A regular file is known by its bytes. -/
theorem Content.isFile_iff {content : Content} :
    content.isFile = true ↔ ∃ bytes, content = .file bytes := by
  cases content <;> simp [isFile]

/-- A name with a slash behind it is not that of a text file. -/
theorem isText_of_slash {name : String} (slash : ['/'].isSuffixOf name.toList = true) :
    isText name = false := by
  rw [Bool.eq_false_iff]
  intro text
  obtain ⟨front, marked⟩ := List.isSuffixOf_iff_suffix.mp slash
  obtain ⟨stem, suffixed⟩ := List.isSuffixOf_iff_suffix.mp text
  have last : some '/' = some 't' := by
    have ends := congrArg List.getLast? (marked.trans suffixed.symm)
    rwa [List.getLast?_append, List.getLast?_append] at ends
  cases last

/-- What is listed of regular files and directories is one of them. -/
theorem plain_listing (plain : Plain members) : Plain (format.listing members) := by
  intro member listed
  cases format with
  | tarXz => exact plain member (List.mem_filter.mp listed).1
  | zip =>
    obtain ⟨stored, inside, rfl⟩ := List.mem_map.mp listed
    split
    · exact plain stored inside
    · exact plain stored inside
  | sevenZip =>
    obtain ⟨stored, inside, rfl⟩ := List.mem_map.mp listed
    exact plain stored inside

/-- Where directories are listed with a slash or not at all, what has the name of a text file is a
regular file. -/
theorem file_of_mem_named (plain : Plain members) (apart : format ≠ .sevenZip) {member : Member}
    (named : member ∈ format.named members) : ∃ bytes, member.content = .file bytes := by
  obtain ⟨listed, text⟩ := List.mem_filter.mp named
  rcases plain_listing plain member listed with directory | file
  · cases format with
    | sevenZip => exact absurd rfl apart
    | tarXz => exact Content.isFile_iff.mp (List.mem_filter.mp listed).2
    | zip =>
      have slashed : ['/'].isSuffixOf member.name.toList = true := by
        obtain ⟨stored, -, rfl⟩ := List.mem_map.mp listed
        split
        · rw [String.toList_append, List.isSuffixOf_iff_suffix]
          exact List.suffix_append _ _
        · rename_i kept
          rw [if_neg kept] at directory
          by_contra bare
          exact kept ⟨directory, bare⟩
      rw [isText_of_slash slashed] at text
      cases text
  · exact file

/-- A member with a text has the name of a text file and is a regular file. -/
theorem Member.text?_isSome {member : Member} (text : member.text?.isSome = true) :
    isText member.name = true ∧ member.content.isFile = true := by
  cases content : member.content with
  | file bytes =>
    by_cases named : isText member.name = true
    · exact ⟨named, rfl⟩
    · rw [text?, content] at text
      simp only [if_neg named] at text
      cases text
  | directory | link _ =>
    rw [text?, content] at text
    cases text

/-- Members that are left out make no difference to the text when they have none. -/
theorem firstText_filter {kept : Member → Bool}
    (keeps : ∀ member : Member, member.text?.isSome = true → kept member = true) :
    firstText (members.filter kept) = firstText members := by
  have alike : (fun member => if kept member = true then member.text? else none) =
      Member.text? := by
    funext member
    split
    · rfl
    · rename_i dropped
      cases text : member.text? with
      | none => rfl
      | some bytes => exact absurd (keeps member (by rw [text]; rfl)) dropped
  rw [firstText, firstText, ← List.head?_filterMap, List.filterMap_filter, alike,
    List.head?_filterMap]

/-- The rule does not depend on the format: a listing has the text of what it lists, if the names
are kept. -/
theorem firstText_listing (kept : format = .sevenZip →
      ∀ member ∈ members, (Path.ofText member.name).text = member.name) :
    firstText (format.listing members) = firstText members := by
  cases format with
  | zip =>
    rw [firstText, Format.listing, List.findSome?_map, firstText]
    congr 1
    funext member
    rw [Function.comp_apply]
    split
    · rename_i renamed
      rw [Member.text?, Member.text?, renamed.1]
    · rfl
  | tarXz => exact firstText_filter fun member text => (Member.text?_isSome text).2
  | sevenZip =>
    have same : Format.listing .sevenZip members = members := by
      rw [Format.listing]
      refine (List.map_congr_left fun member inside => ?_).trans (List.map_id members)
      rw [kept rfl member inside]
      rfl
    rw [same]

/-- The text of a listing is that of the members with the names of text files. -/
theorem firstText_named (format : Format) (members : List Member) :
    firstText (format.named members) = firstText (format.listing members) :=
  firstText_filter fun _ text => (Member.text?_isSome text).1

/-- The text of a listing that has names of text files is that of the first, if it is a regular
file. -/
theorem firstText_of_named {first : Member} {rest : List Member} {bytes : Bytes}
    (named : format.named members = first :: rest) (file : first.content = .file bytes) :
    firstText (format.listing members) = some bytes := by
  have inside : first ∈ format.named members := named ▸ List.mem_cons_self
  have text : first.text? = some bytes := by
    rw [Member.text?, file]
    exact if_pos (List.mem_filter.mp inside).2
  rw [← firstText_named, named, firstText, List.findSome?_cons, text]

/-- A listing without names of text files has no text. -/
theorem firstText_of_unnamed (unnamed : format.named members = []) :
    firstText (format.listing members) = none := by
  rw [← firstText_named, unnamed]
  rfl

/-! ## Looking up -/

/-- Only members with the names of text files are found under such a name. -/
theorem lookUp?_named {name : String} (text : isText name = true) :
    format.lookUp? name (format.listing members) = format.lookUp? name (format.named members) := by
  have narrow (listed : List Member) : (listed.find? fun member => member.name == name) =
      (listed.filter fun member => isText member.name).find? fun member => member.name == name := by
    rw [List.find?_filter]
    congr 1
    funext member
    by_cases same : member.name = name
    · rw [same, text]
      simp
    · rw [beq_false_of_ne same]
      simp
  cases format with
  | sevenZip => exact narrow _
  | zip | tarXz => rw [Format.lookUp?, Format.lookUp?, narrow, List.filter_reverse, Format.named]

/-- What is found from the end is the last of the name. -/
theorem find?_reverse_eq_some_iff {name : String} {last : Member} {listed : List Member} :
    (listed.reverse.find? fun other => other.name == name) = some last ↔
      last.name = name ∧ ∃ front back, listed = front ++ last :: back ∧
        ∀ later ∈ back, later.name ≠ name := by
  rw [List.find?_eq_some_iff_append, beq_iff_eq]
  refine and_congr_right fun _ => ?_
  constructor
  · rintro ⟨back, front, reversed, others⟩
    refine ⟨front.reverse, back.reverse, ?_, fun later inside => ?_⟩
    · have whole := congrArg List.reverse reversed
      rw [List.reverse_reverse, List.reverse_append, List.reverse_cons] at whole
      rw [whole, List.append_assoc, List.singleton_append]
    · simpa using others later (List.mem_reverse.mp inside)
  · rintro ⟨front, back, rfl, others⟩
    refine ⟨back.reverse, front.reverse, ?_, fun later inside => ?_⟩
    · rw [List.reverse_append, List.reverse_cons, List.append_assoc, List.singleton_append]
    · simpa using others later (List.mem_reverse.mp inside)

/-- A list that has a name has a last of the name. -/
theorem exists_last {name : String} {listed : List Member}
    (there : ∃ member ∈ listed, member.name = name) :
    ∃ last ∈ listed, (listed.reverse.find? fun other => other.name == name) = some last := by
  obtain ⟨member, inside, same⟩ := there
  have isSome : (listed.reverse.find? fun other => other.name == name).isSome = true :=
    List.find?_isSome.mpr ⟨member, List.mem_reverse.mpr inside, beq_iff_eq.mpr same⟩
  obtain ⟨last, found⟩ := Option.isSome_iff_exists.mp isSome
  exact ⟨last, List.mem_reverse.mp (List.mem_of_find?_eq_some found), found⟩

/-! ## Reading -/

/-- The first name of a text file is picked. -/
theorem find?_listing (format : Format) (members : List Member) :
    ((format.listing members).find? fun member => isText member.name) =
      (format.named members).head? :=
  List.head?_filter.symm

/-- Without names of text files there is nothing to read. -/
theorem read_of_unnamed (unnamed : format.named members = []) :
    read format members = .error (.noText format) := by
  rw [read]
  simp only [find?_listing, unnamed, List.head?_nil]

section

variable {first found : Member} {rest : List Member} {bytes : Bytes}

/-- The first name of a text file is looked up among such names. -/
theorem lookUp?_listing (named : format.named members = first :: rest) :
    format.lookUp? first.name (format.listing members) =
      format.lookUp? first.name (first :: rest) := by
  have inside : first ∈ format.named members := named ▸ List.mem_cons_self
  rw [lookUp?_named (List.mem_filter.mp inside).2, named]

/-- The bytes that are read are those of the regular file that is found under the first name. -/
theorem read_of_file (named : format.named members = first :: rest)
    (looked : format.lookUp? first.name (first :: rest) = some found)
    (file : found.content = .file bytes) : read format members = .ok bytes := by
  rw [read]
  simp only [find?_listing, named, List.head?_cons, lookUp?_listing named, looked, Option.bind_some,
    file, Content.bytes?]

/-- A directory that is found under the first name cannot be read. -/
theorem read_of_directory (named : format.named members = first :: rest)
    (looked : format.lookUp? first.name (first :: rest) = some found)
    (directory : found.content = .directory) :
    read format members = .error (.unreadable first.name) := by
  rw [read]
  simp only [find?_listing, named, List.head?_cons, lookUp?_listing named, looked, Option.bind_some,
    directory, Content.bytes?]

/-- A format that looks a name up from the start finds the first again. -/
theorem lookUp?_sevenZip (first : Member) (rest : List Member) :
    Format.sevenZip.lookUp? first.name (first :: rest) = some first := by
  rw [Format.lookUp?, List.find?_cons_of_pos]
  exact beq_self_eq_true first.name

/-- A format that looks a name up from the end finds the last of the name. -/
theorem lookUp?_of_ne (apart : format ≠ .sevenZip) (name : String) (listed : List Member) :
    format.lookUp? name listed = listed.reverse.find? fun member => member.name == name := by
  cases format with
  | sevenZip => exact absurd rfl apart
  | zip | tarXz => rfl

/-- A format that looks a name up from the end reads the last file of the name. -/
theorem read_of_ne (plain : Plain members) (apart : format ≠ .sevenZip)
    (named : format.named members = first :: rest) :
    ∃ last bytes, format.lookUp? first.name (first :: rest) = some last ∧
      last.content = .file bytes ∧ read format members = .ok bytes := by
  have there : ∃ member ∈ first :: rest, member.name = first.name :=
    ⟨first, List.mem_cons_self, rfl⟩
  obtain ⟨last, inside, looked⟩ := exists_last there
  rw [← lookUp?_of_ne apart] at looked
  rw [← named] at inside
  obtain ⟨bytes, file⟩ := file_of_mem_named plain apart inside
  exact ⟨last, bytes, looked, file, read_of_file named looked file⟩

/-- A format that looks a name up from the start reads the first member, unless it is a
directory. -/
theorem read_sevenZip (plain : Plain members)
    (named : Format.sevenZip.named members = first :: rest) :
    (first.content = .directory ∧ read .sevenZip members = .error (.unreadable first.name)) ∨
      ∃ bytes, first.content = .file bytes ∧ read .sevenZip members = .ok bytes := by
  have inside : first ∈ Format.sevenZip.named members := named ▸ List.mem_cons_self
  have looked := lookUp?_sevenZip first rest
  rcases plain_listing plain first (List.mem_filter.mp inside).1 with directory | ⟨bytes, file⟩
  · exact .inl ⟨directory, read_of_directory named looked directory⟩
  · exact .inr ⟨bytes, file, read_of_file named looked file⟩

/-- Of a format that looks a name up from the start, the first member with the name of a text file
decides. -/
theorem straight_sevenZip_iff (named : Format.named .sevenZip members = first :: rest) :
    Format.Straight .sevenZip members ↔ first.content.isFile = true := by
  rw [Format.Straight, named, List.head?_cons]
  simp only [Option.some.injEq, forall_eq']

/-- Of a format that looks a name up from the end, what is found decides. -/
theorem straight_iff_of_ne (apart : format ≠ .sevenZip)
    (named : format.named members = first :: rest)
    (looked : format.lookUp? first.name (first :: rest) = some found) :
    format.Straight members ↔ found.content = first.content := by
  rw [lookUp?_of_ne apart] at looked
  have straight : format.Straight members ↔ ∀ front last back,
      first :: rest = front ++ last :: back → last.name = first.name →
        (∀ later ∈ back, later.name ≠ first.name) → last.content = first.content := by
    rw [Format.Straight, named, List.head?_cons]
    simp only [Option.some.injEq, forall_eq']
    cases format with
    | sevenZip => exact absurd rfl apart
    | zip | tarXz => exact Iff.rfl
  rw [straight]
  constructor
  · intro always
    obtain ⟨same, front, back, parted, others⟩ := find?_reverse_eq_some_iff.mp looked
    exact always front found back parted same others
  · intro content front last back parted same others
    have only := find?_reverse_eq_some_iff.mpr ⟨same, front, back, parted, others⟩
    rw [looked, Option.some.injEq] at only
    rw [← only, content]

/-- The rule gives the bytes of the first, if it is a regular file. -/
theorem due_of_file (named : format.named members = first :: rest)
    (file : first.content = .file bytes) : format.due members = .ok bytes := by
  rw [Format.due, firstText_of_named named file]

/-- The rule never names a member that cannot be read. -/
theorem due_ne_unreadable (format : Format) (members : List Member) (name : String) :
    format.due members ≠ .error (.unreadable name) := by
  rw [Format.due]
  cases firstText (format.listing members) <;> simp

/-- There is said to be no text file exactly when no member is listed under the name of one. -/
theorem read_eq_noText_iff (plain : Plain members) :
    read format members = .error (.noText format) ↔ format.named members = [] := by
  constructor
  · intro refused
    cases named : format.named members with
    | nil => rfl
    | cons first rest =>
      by_cases sevenZip : format = .sevenZip
      · subst sevenZip
        rcases read_sevenZip plain named with ⟨-, answer⟩ | ⟨bytes, -, answer⟩
        · rw [answer] at refused
          cases refused
        · rw [answer] at refused
          cases refused
      · obtain ⟨last, bytes, -, -, answer⟩ := read_of_ne plain sevenZip named
        rw [answer] at refused
        cases refused
  · exact read_of_unnamed

/-- The bytes that are read are those that the rule gives exactly when what is found is what was
picked. -/
theorem read_eq_due_iff (plain : Plain members) :
    read format members = format.due members ↔ format.Straight members := by
  cases named : format.named members with
  | nil =>
    have due : format.due members = .error (.noText format) := by
      rw [Format.due, firstText_of_unnamed named]
    rw [read_of_unnamed named, due, Format.Straight, named]
    simp
  | cons first rest =>
    by_cases sevenZip : format = .sevenZip
    · subst sevenZip
      rw [straight_sevenZip_iff named]
      rcases read_sevenZip plain named with ⟨directory, answer⟩ | ⟨bytes, file, answer⟩
      · rw [answer, directory]
        have unlike : Except.error (ReadError.unreadable first.name) ≠
            Format.sevenZip.due members := (due_ne_unreadable _ _ _).symm
        exact iff_of_false unlike Bool.false_ne_true
      · rw [answer, due_of_file named file, file]
        exact iff_of_true rfl rfl
    · have inside : first ∈ format.named members := named ▸ List.mem_cons_self
      obtain ⟨bytes, file⟩ := file_of_mem_named plain sevenZip inside
      obtain ⟨last, others, looked, stored, answer⟩ := read_of_ne plain sevenZip named
      rw [answer, due_of_file named file, straight_iff_of_ne sevenZip named looked, stored, file,
        Except.ok.injEq, Content.file.injEq]

end

end Reckoner.Archive
