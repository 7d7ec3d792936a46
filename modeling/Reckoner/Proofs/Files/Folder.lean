import Reckoner.Files.Folder

/-!
# Files that were written

A file that was written is read as it was written (`read_of_write`) and can be written again
(`write_of_write`): writing takes no directory away, and puts none in the place of the file. A file
at a place that does not lead there is read as before (`Apart.of_write`).
-/

namespace Reckoner.Folder

variable {folder after : Folder} {path : Path} {place : Place} {bytes : Bytes}

/-! ## A file put at a place -/

/-- The file is at the place. -/
theorem lookup_put (place : Place) (bytes : Bytes) (entries : List (Place × Entry)) :
    (put place bytes entries).lookup place = some (.file bytes) := by
  induction entries with
  | nil => simp [put]
  | cons first rest ih =>
    rw [put]
    split
    · simp
    · rename_i other
      rw [List.lookup_cons, beq_false_of_ne (Ne.symm other), ih]

/-- The file is among the entries. -/
theorem mem_put_self (place : Place) (bytes : Bytes) (entries : List (Place × Entry)) :
    (place, Entry.file bytes) ∈ put place bytes entries := by
  induction entries with
  | nil => simp [put]
  | cons first rest ih =>
    rw [put]
    split
    · exact List.mem_cons_self
    · exact List.mem_cons_of_mem first ih

/-- Other places hold what they held. -/
theorem lookup_put_of_ne {other : Place} (apart : other ≠ place) (entries : List (Place × Entry)) :
    (put place bytes entries).lookup other = entries.lookup other := by
  induction entries with
  | nil => rw [put, List.lookup_cons, beq_false_of_ne apart]
  | cons first rest ih =>
    rw [put]
    split
    · rename_i same
      rw [List.lookup_cons, List.lookup_cons, beq_false_of_ne apart, same, beq_false_of_ne apart]
    · rw [List.lookup_cons, List.lookup_cons, ih]

/-- Entries at other places stay. -/
theorem mem_put_of_ne {entries : List (Place × Entry)} {entry : Place × Entry}
    (member : entry ∈ entries) (other : entry.1 ≠ place) : entry ∈ put place bytes entries := by
  induction entries with
  | nil => cases member
  | cons first rest ih =>
    rw [put]
    rcases List.mem_cons.mp member with rfl | member
    · rw [if_neg other]
      exact List.mem_cons_self
    · split
      · exact List.mem_cons_of_mem _ member
      · exact List.mem_cons_of_mem _ (ih member)

/-- Nothing else comes in. -/
theorem mem_of_mem_put {entries : List (Place × Entry)} {entry : Place × Entry}
    (member : entry ∈ put place bytes entries) : entry = (place, .file bytes) ∨ entry ∈ entries := by
  induction entries with
  | nil => exact .inl (List.mem_singleton.mp member)
  | cons first rest ih =>
    rw [put] at member
    split at member
    · rcases List.mem_cons.mp member with same | member
      · exact .inl same
      · exact .inr (List.mem_cons_of_mem _ member)
    · rcases List.mem_cons.mp member with same | member
      · exact .inr (List.mem_cons.mpr (.inl same))
      · exact (ih member).imp_right (List.mem_cons_of_mem _)

/-! ## Directories -/

/-- A directory is a place where paths start or one that an entry makes a directory. -/
theorem isDirectory_iff :
    folder.isDirectory place = true ↔ isStart place = true ∨
      ∃ entry ∈ folder.entries, place.isPrefixOf entry.1 = true ∧
        (entry.2 = .directory ∨ entry.1 ≠ place) := by
  rw [isDirectory, Bool.or_eq_true, List.any_eq_true]
  refine or_congr_right (exists_congr fun entry => and_congr_right fun _ => ?_)
  obtain ⟨other, held⟩ := entry
  cases held <;> simp

/-- What was a directory is one after a file was put where there is none. -/
theorem isDirectory_put (free : folder.isDirectory place = false) {other : Place}
    (directory : folder.isDirectory other = true) :
    (Folder.mk (put place bytes folder.entries)).isDirectory other = true := by
  rw [isDirectory_iff] at directory ⊢
  refine directory.imp_right ?_
  rintro ⟨entry, member, below, kind⟩
  by_cases here : entry.1 = place
  · refine ⟨(place, .file bytes), mem_put_self place bytes _, here ▸ below, .inr ?_⟩
    rcases kind with directory | apart
    · have taken : folder.isDirectory place = true :=
        isDirectory_iff.mpr (.inr ⟨entry, member, by simp [here], .inl directory⟩)
      rw [free] at taken
      cases taken
    · exact here ▸ apart
  · exact ⟨entry, mem_put_of_ne member here, below, kind⟩

/-- A file is no directory once it is put where there is none. -/
theorem not_isDirectory_put (free : folder.isDirectory place = false) :
    (Folder.mk (put place bytes folder.entries)).isDirectory place = false := by
  rw [Bool.eq_false_iff] at free ⊢
  intro directory
  apply free
  rw [isDirectory_iff] at directory ⊢
  refine directory.imp_right ?_
  rintro ⟨entry, member, below, kind⟩
  rcases mem_of_mem_put member with rfl | member
  · rcases kind with directory | apart
    · cases directory
    · exact absurd rfl apart
  · exact ⟨entry, member, below, kind⟩

/-- A place that a file is put elsewhere than below is a directory no more than before. -/
theorem isDirectory_put_of_apart (free : folder.isDirectory place = false) {other : Place}
    (apart : other.isPrefixOf place = false) :
    (Folder.mk (put place bytes folder.entries)).isDirectory other = folder.isDirectory other := by
  rw [Bool.eq_iff_iff]
  constructor
  · intro directory
    rw [isDirectory_iff] at directory ⊢
    refine directory.imp_right ?_
    rintro ⟨entry, member, below, kind⟩
    rcases mem_of_mem_put member with rfl | member
    · rw [apart] at below
      cases below
    · exact ⟨entry, member, below, kind⟩
  · exact isDirectory_put free

/-- What lies above a directory is one. -/
theorem isDirectory_above {upper : Place} (directory : folder.isDirectory place = true)
    (above : above? place = some upper) : folder.isDirectory upper = true := by
  rw [above?] at above
  split at above
  · cases above
  split at above
  · cases above
    exact directory
  · rename_i filled start
    cases above
    rw [isDirectory_iff] at directory ⊢
    rcases directory with atStart | ⟨entry, member, below, -⟩
    · exact absurd atStart start
    · have whole : place <+: entry.1 := List.isPrefixOf_iff_prefix.mp below
      have positive : 0 < place.length := List.length_pos_iff.mpr (by simpa using filled)
      have longer : place.dropLast.length < entry.1.length := by
        have length := whole.length_le
        rw [List.length_dropLast]
        omega
      refine .inr ⟨entry, member, ?_, .inr ?_⟩
      · exact List.isPrefixOf_iff_prefix.mpr ((List.dropLast_prefix place).trans whole)
      · intro same
        rw [same] at longer
        exact Nat.lt_irrefl _ longer

/-! ## Ways -/

/-- Names lead to the same place in a folder with more directories, whichever path they are on. -/
theorem walk_of_directories {other : Path}
    (kept : ∀ other, folder.isDirectory other = true → after.isDirectory other = true)
    {start : Place} {parts : List (List Char)}
    (walked : folder.walk path start parts = .ok place) :
    after.walk other start parts = .ok place := by
  induction parts generalizing start with
  | nil => exact walked
  | cons part rest ih =>
    rw [walk] at walked ⊢
    cases directory : folder.isDirectory start with
    | false => simp [directory] at walked
    | true =>
      simp only [directory, kept start directory, Bool.not_true, Bool.false_eq_true, if_false]
        at walked ⊢
      split
      · rename_i upward
        rw [if_pos upward] at walked
        split at walked
        · exact ih walked
        · cases walked
      · rename_i downward
        rw [if_neg downward] at walked
        split at walked
        · cases walked
        · rename_i fits
          rw [if_neg fits]
          exact ih walked

/-- Names lead where the last of them leads from where the others do. -/
theorem walk_append {front rest : List (List Char)} {start : Place}
    (walked : folder.walk path start (front ++ rest) = .ok place) :
    ∃ middle, folder.walk path start front = .ok middle ∧
      folder.walk path middle rest = .ok place := by
  induction front generalizing start with
  | nil => exact ⟨start, rfl, walked⟩
  | cons part others ih =>
    rw [List.cons_append, walk] at walked
    rw [walk]
    split at walked
    · cases walked
    · rename_i directory
      rw [if_neg directory]
      split at walked
      · rename_i upward
        rw [if_pos upward]
        split at walked
        · exact ih walked
        · cases walked
      · rename_i downward
        rw [if_neg downward]
        split at walked
        · cases walked
        · rename_i fits
          rw [if_neg fits]
          exact ih walked

/-- A name leads from a directory to the place above it or to a place in it. -/
theorem walk_singleton {part : List Char} {start : Place}
    (walked : folder.walk path start [part] = .ok place) :
    folder.isDirectory start = true ∧
      ((part = ['.', '.'] ∧ above? start = some place) ∨
        (part ≠ ['.', '.'] ∧ place = start ++ [part])) := by
  rw [walk] at walked
  split at walked
  · cases walked
  · rename_i directory
    refine ⟨by simpa using directory, ?_⟩
    split at walked
    · rename_i upward
      split at walked
      · rename_i upper above
        cases walked
        exact .inl ⟨upward, above⟩
      · cases walked
    · rename_i downward
      split at walked
      · cases walked
      · cases walked
        exact .inr ⟨downward, rfl⟩

/-- The place of a path is where its names lead. -/
theorem walk_of_place (named : folder.place path = .ok place) :
    folder.walk path (startOf path) path.parts = .ok place := by
  rw [Folder.place] at named
  split at named
  · cases named
  · split at named
    · cases named
    · exact named

/-! ## Writing -/

/-- Bytes are written to a place that is no directory. -/
theorem write_eq_ok (written : folder.write path bytes = .ok after) :
    ∃ place, folder.place path = .ok place ∧ folder.isDirectory place = false ∧
      after = ⟨put place bytes folder.entries⟩ := by
  rw [write] at written
  split at written
  · cases written
  · rename_i place named
    split at written
    · cases written
    · rename_i free
      cases written
      exact ⟨place, named, Bool.eq_false_iff.mpr free, rfl⟩

/-- A path names the same place after a file was put at that place or another. -/
theorem place_of_write {other : Place} (named : folder.place path = .ok other)
    (free : folder.isDirectory place = false) :
    (Folder.mk (put place bytes folder.entries)).place path = .ok other := by
  rw [Folder.place] at named ⊢
  split at named
  · cases named
  · rename_i storable
    rw [if_neg storable]
    split at named
    · cases named
    · rename_i fits
      rw [if_neg fits]
      exact walk_of_directories (fun _ => isDirectory_put free) named

/-- A file that was written is read as it was written. -/
theorem read_of_write (written : folder.write path bytes = .ok after) :
    after.read path = .ok (.file bytes) := by
  obtain ⟨place, named, free, rfl⟩ := write_eq_ok written
  rw [read, place_of_write named free]
  simp only [not_isDirectory_put free, Bool.false_eq_true, if_false, entry?, lookup_put]

/-- Whether a file can be written does not depend on the bytes. -/
theorem write_other (written : folder.write path bytes = .ok after) (other : Bytes) :
    ∃ last, folder.write path other = .ok last := by
  obtain ⟨place, named, free, -⟩ := write_eq_ok written
  rw [write, named]
  simp only [free, Bool.false_eq_true, if_false]
  exact ⟨_, rfl⟩

/-- A file that was written can be written again. -/
theorem write_of_write (written : folder.write path bytes = .ok after) (again : Bytes) :
    ∃ last, after.write path again = .ok last := by
  obtain ⟨place, named, free, rfl⟩ := write_eq_ok written
  rw [write, place_of_write named free]
  simp only [not_isDirectory_put free, Bool.false_eq_true, if_false]
  exact ⟨_, rfl⟩

/-! ## Other files -/

/-- Two paths name places of which the first does not lead to the second. -/
def Apart (folder : Folder) (input output : Path) : Prop :=
  ∃ inputPlace outputPlace, folder.place input = .ok inputPlace ∧
    folder.place output = .ok outputPlace ∧ inputPlace.isPrefixOf outputPlace = false

/-- What is read is at the place of the path, which is no directory. -/
theorem read_eq_ok {entry : Entry} (shown : folder.read path = .ok entry) :
    ∃ place, folder.place path = .ok place ∧ folder.isDirectory place = false := by
  rw [read] at shown
  split at shown
  · cases shown
  · rename_i place named
    split at shown
    · cases shown
    · rename_i free
      exact ⟨place, named, Bool.eq_false_iff.mpr free⟩

/-- Writing to one path changes nothing about another. -/
theorem Apart.of_write {input output : Path} (apart : folder.Apart input output)
    (written : folder.write output bytes = .ok after) :
    after.Apart input output ∧ after.read input = folder.read input := by
  obtain ⟨inputPlace, outputPlace, inputNamed, outputNamed, beside⟩ := apart
  obtain ⟨place, named, free, rfl⟩ := write_eq_ok written
  rw [outputNamed, Except.ok.injEq] at named
  subst named
  have distinct : inputPlace ≠ outputPlace := by
    rintro rfl
    have itself : inputPlace.isPrefixOf inputPlace = true :=
      List.isPrefixOf_iff_prefix.mpr (List.prefix_refl inputPlace)
    rw [beside] at itself
    cases itself
  have inputKept : (Folder.mk (put outputPlace bytes folder.entries)).place input =
      .ok inputPlace := place_of_write inputNamed free
  refine ⟨⟨inputPlace, outputPlace, inputKept, place_of_write outputNamed free, beside⟩, ?_⟩
  rw [read, read, inputKept, inputNamed]
  simp only [isDirectory_put_of_apart free beside, entry?, lookup_put_of_ne distinct]

end Reckoner.Folder
