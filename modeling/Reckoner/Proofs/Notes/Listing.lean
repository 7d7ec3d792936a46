import Mathlib.Data.List.Basic
import Reckoner.Proofs.Notes.Moment
import Reckoner.Proofs.Notes.Separation

/-!
# Listings

A listing shows notes of a user, as many as were asked for. It goes by the times at which they were
created, as moments are compared, and then by their numbers. So it shows the newest notes wherever
the clocks tell which of two instants is the later one (`page_newest`). A clock that is put back
does not, and then an older note can stand in front of a newer one (`page_clock_put_back`).
-/

namespace Reckoner

/-- Of two entries the left one is newer, by a number that stands for a time: its note was created
at a later time, or at the same time under a greater number. -/
def NoteEntry.NewerBy (time : Moment → Int) (left right : NoteEntry) : Prop :=
  time right.created < time left.created ∨
    time left.created = time right.created ∧ right.id < left.id

/-- Of two entries the left one is newer: its note was created at a later instant, or at the same
instant under a greater number. -/
abbrev NoteEntry.Newer : NoteEntry → NoteEntry → Prop := NewerBy Moment.instant

instance (time : Moment → Int) (left right : NoteEntry) : Decidable (left.NewerBy time right) :=
  inferInstanceAs (Decidable (_ ∨ _))

namespace NoteStore

/-! ## The order of a listing -/

/-- A clock of a known zone is as far ahead of the instant as its zone tells, and one of an unknown
zone shows universal time. -/
theorem instant_creation (now : Moment) (reading : ClockReading) :
    (creation now (some reading)).instant = reading.clock.microseconds -
      (reading.zone?.map fun zone =>
        zone.aheadAt reading.clock.microseconds reading.again).getD 0 := by
  rcases reading with ⟨clock, again, - | zone⟩
  · rfl
  · rfl

/-- One note may be listed before another, by numbers that stand for times. -/
def comesFirstBy (time : Moment → Int) (left right : StoredNote) : Bool :=
  time right.created < time left.created ||
    (time left.created == time right.created && right.id ≤ left.id)

section

variable {time : Moment → Int}

/-- One note may be listed before another when it is at least as late, and of equal times has a
number at least as great. -/
theorem comesFirstBy_iff {left right : StoredNote} :
    comesFirstBy time left right = true ↔ time right.created < time left.created ∨
      time left.created = time right.created ∧ right.id ≤ left.id := by
  simp [comesFirstBy]

/-- Notes that may be listed before others are compared in sequence. -/
theorem comesFirstBy_trans (first second third : StoredNote)
    (before : comesFirstBy time first second = true)
    (after : comesFirstBy time second third = true) : comesFirstBy time first third = true := by
  rw [comesFirstBy_iff] at *
  omega

/-- Of two notes one may be listed before the other. -/
theorem comesFirstBy_total (left right : StoredNote) :
    (comesFirstBy time left right || comesFirstBy time right left) = true := by
  rw [Bool.or_eq_true, comesFirstBy_iff, comesFirstBy_iff]
  omega

/-- A note that may be listed before one of another number has the newer entry. -/
theorem newerBy_of_comesFirstBy {left right : StoredNote}
    (before : comesFirstBy time left right = true) (apart : left.id ≠ right.id) :
    left.entry.NewerBy time right.entry := by
  show time right.created < time left.created ∨
    time left.created = time right.created ∧ right.id < left.id
  rw [comesFirstBy_iff] at before
  omega

/-- Notes whose times are compared as numbers are listed by these. -/
theorem comesFirst_eq_comesFirstBy {left right : StoredNote}
    (compared : left.created.ComparedBy time right.created) :
    comesFirst left right = comesFirstBy time left right := by
  rw [Bool.eq_iff_iff, comesFirstBy_iff, comesFirst, Bool.not_eq_true', precedes]
  by_cases same : left.created.isSame right.created = true
  · have equal := compared.same.mp same
    rw [if_pos same, decide_eq_false_iff_not]
    omega
  · have different : ¬time left.created = time right.created := fun equal =>
      same (compared.same.mpr equal)
    rw [if_neg same, ← Bool.not_eq_true, compared.earlier]
    omega

end

/-- Of two notes the one of the greater number is listed first if the other counts as created no
later. -/
theorem comesFirst_of_id_lt {left right : StoredNote} (numbers : left.id < right.id) :
    comesFirst left right = !left.created.isNoLater right.created := by
  rw [comesFirst, precedes, Moment.isNoLater]
  split
  · rename_i same
    rw [same, decide_eq_true numbers]
    rfl
  · rename_i different
    rw [Bool.not_eq_true] at different
    rw [different]
    rfl

/-- Two items are sorted by one comparison. -/
theorem mergeSort_pair {Item : Type} (comes : Item → Item → Bool) (first second : Item) :
    [first, second].mergeSort comes =
      if comes first second then [first, second] else [second, first] := by
  simp [List.mergeSort, List.MergeSort.Internal.splitInTwo, List.merge]

/-- The entries of all notes of a user, as a listing would show them. -/
def entries (store : NoteStore) (user : Int) : List NoteEntry :=
  (store.newestFirst user).map StoredNote.entry

/-- A page of at least one entry is the front of the entries of the user. -/
theorem page_eq_ok (store : NoteStore) (user : Int) {limit : Int} (positive : 1 ≤ limit) :
    store.page user limit = .ok ((store.entries user).take limit.toNat) := by
  rw [page, if_neg (by omega), entries, List.map_take]

/-! ## The entries of saves -/

/-- The entries of the notes that a user saved, in the order of the saves. -/
def savedEntries (user : Int) (earlier : List Saving) : List NoteEntry :=
  (ownSavings user earlier).map fun own => ⟨own.2 + 1, own.1.created⟩

section

variable (vault : Vault) (user : Int) (earlier : List Saving)

/-- The entries of a user tell of their saves: under which number each was made, and when its note
was created. -/
theorem mem_savedEntries (entry : NoteEntry) :
    entry ∈ savedEntries user earlier ↔
      ∃ (index : Nat) (saving : Saving), earlier[index]? = some saving ∧ saving.user = user ∧
        entry = ⟨index + 1, saving.created⟩ := by
  rw [savedEntries, List.mem_map]
  constructor
  · rintro ⟨own, member, rfl⟩
    obtain ⟨saved, theirs⟩ := mem_ownSavings.mp member
    exact ⟨own.2, own.1, saved, theirs, rfl⟩
  · rintro ⟨index, saving, saved, theirs, rfl⟩
    exact ⟨(saving, index), mem_ownSavings.mpr ⟨saved, theirs⟩, rfl⟩

/-- A user has as many entries as they made saves. -/
theorem length_savedEntries :
    (savedEntries user earlier).length = earlier.countP fun saving => saving.user == user := by
  have saves : (earlier.zipIdx.map Prod.fst).countP (fun saving => saving.user == user) =
      (ownSavings user earlier).length := by
    rw [List.countP_map, List.countP_eq_length_filter]
    rfl
  rw [savedEntries, List.length_map, ← saves, List.zipIdx_map_fst]

/-- The entries of a user are in the order of their numbers. -/
theorem savedEntries_ordered :
    (savedEntries user earlier).Pairwise fun first second => first.id < second.id := by
  rw [savedEntries, List.pairwise_map]
  exact (ownSavings_ordered user earlier).imp Nat.succ_lt_succ

/-- The notes of a user in a store of saves have the entries of the saves. -/
theorem map_entry_notes :
    ((ofSavings vault earlier).notes.filter fun note => note.user == user).map StoredNote.entry =
      savedEntries user earlier := by
  rw [filter_notes_ofSavings, List.map_map]
  rfl

/-- The entries of a user are those of their saves in another order. -/
theorem entries_perm :
    ((ofSavings vault earlier).entries user).Perm (savedEntries user earlier) := by
  rw [entries, newestFirst, ← map_entry_notes vault]
  exact (List.mergeSort_perm _ comesFirst).map StoredNote.entry

/-- The entries of a user have different numbers. -/
theorem nodup_entries : (((ofSavings vault earlier).entries user).map NoteEntry.id).Nodup := by
  rw [((entries_perm vault user earlier).map NoteEntry.id).nodup_iff, List.Nodup,
    List.pairwise_map]
  exact (savedEntries_ordered user earlier).imp Nat.ne_of_lt

/-- The entries of a user whose times are compared as numbers go from newer to older notes. -/
theorem pairwise_entries {time : Moment → Int}
    (compared : ∀ first ∈ savedEntries user earlier, ∀ second ∈ savedEntries user earlier,
      first.created.ComparedBy time second.created) :
    ((ofSavings vault earlier).entries user).Pairwise (NoteEntry.NewerBy time) := by
  let notes := (ofSavings vault earlier).notes.filter fun note => note.user == user
  have listed : ∀ note ∈ notes, note.entry ∈ savedEntries user earlier := fun note member =>
    map_entry_notes vault user earlier ▸ List.mem_map_of_mem member
  have agree : ∀ left ∈ notes, ∀ right ∈ notes,
      comesFirst left right = comesFirstBy time (id left) (id right) :=
    fun left member right memberToo => comesFirst_eq_comesFirstBy
      (compared left.entry (listed left member) right.entry (listed right memberToo))
  -- The sort asks for comparisons of these notes only, so it may as well go by the numbers.
  have same : notes.mergeSort comesFirst = notes.mergeSort (comesFirstBy time) := by
    simpa only [List.map_id] using List.map_mergeSort agree
  have sorted : (notes.mergeSort (comesFirstBy time)).Pairwise fun left right =>
      comesFirstBy time left right = true :=
    List.pairwise_mergeSort comesFirstBy_trans comesFirstBy_total _
  have apart := nodup_entries vault user earlier
  rw [entries, List.map_map, List.Nodup, List.pairwise_map] at apart
  rw [entries, List.pairwise_map]
  rw [newestFirst] at apart ⊢
  exact (same ▸ sorted).imp₂ (fun _ _ => newerBy_of_comesFirstBy) apart

/-- Of two notes the one that was saved later is listed first if the other counts as created no
later. -/
theorem entries_pair {first second : NoteEntry}
    (two : savedEntries user earlier = [first, second]) :
    (ofSavings vault earlier).entries user =
      if first.created.isNoLater second.created then [second, first] else [first, second] := by
  have ordered := savedEntries_ordered user earlier
  have count : (ownSavings user earlier).length = 2 := by
    rw [← List.length_map, ← savedEntries, two]
    rfl
  obtain ⟨own, other, shape⟩ := List.length_eq_two.mp count
  rw [two, List.pairwise_pair] at ordered
  rw [savedEntries, shape] at two
  cases two
  rw [entries, newestFirst, filter_notes_ofSavings, shape]
  show ([own.1.note vault (own.2 + 1), other.1.note vault (other.2 + 1)].mergeSort
    comesFirst).map StoredNote.entry = _
  rw [mergeSort_pair, comesFirst_of_id_lt ordered]
  show (if !own.1.created.isNoLater other.1.created then _ else _ : List StoredNote).map
    StoredNote.entry = _
  cases own.1.created.isNoLater other.1.created with
  | true => rfl
  | false => rfl

end

/-! ## Pages -/

/-- In a list in order, what is not in front comes after everything that is. -/
theorem mem_take_or {Item : Type} {before : Item → Item → Prop} {items : List Item}
    (ordered : items.Pairwise before) (count : Nat) {item : Item} (member : item ∈ items) :
    item ∈ items.take count ∨ ∀ shown ∈ items.take count, before shown item := by
  rw [← List.take_append_drop count items] at ordered member
  obtain ⟨-, -, across⟩ := List.pairwise_append.mp ordered
  rcases List.mem_append.mp member with front | back
  · exact .inl front
  · exact .inr fun shown inside => across shown inside item back

/-- What is shown of entries are the newest of them, by numbers that stand for times. -/
structure Newest (time : Moment → Int) (shown all : List NoteEntry) : Prop where
  /-- The shown entries go from newer to older ones. -/
  ordered : shown.Pairwise (NoteEntry.NewerBy time)
  /-- An entry that is not shown is older than all that are. -/
  first : ∀ entry ∈ all, entry ∈ shown ∨ ∀ other ∈ shown, other.NewerBy time entry

/-- A page of a user whose times are compared as numbers shows the newest of their notes. -/
theorem newest_take (vault : Vault) (user : Int) (earlier : List Saving) (count : Nat)
    {time : Moment → Int}
    (compared : ∀ first ∈ savedEntries user earlier, ∀ second ∈ savedEntries user earlier,
      first.created.ComparedBy time second.created) :
    Newest time (((ofSavings vault earlier).entries user).take count)
      (savedEntries user earlier) := by
  have sorted := pairwise_entries vault user earlier compared
  refine ⟨sorted.sublist (List.take_sublist _ _), fun entry member => ?_⟩
  exact mem_take_or sorted count ((entries_perm vault user earlier).mem_iff.mpr member)

/-- Two notes are listed newest first exactly when the comparison is right about them: the one that
was saved first counts as created no later just when its instant is no later. -/
theorem newest_pair_iff (vault : Vault) {user : Int} {earlier : List Saving}
    {first second : NoteEntry} (two : savedEntries user earlier = [first, second]) {count : Nat}
    (enough : 2 ≤ count) :
    Newest Moment.instant (((ofSavings vault earlier).entries user).take count)
        (savedEntries user earlier) ↔
      (first.created.isNoLater second.created = true ↔
        first.created.instant ≤ second.created.instant) := by
  have numbers := savedEntries_ordered user earlier
  have perm := entries_perm vault user earlier
  rw [two, List.pairwise_pair] at numbers
  rw [two] at perm
  have whole : ((ofSavings vault earlier).entries user).take count =
      (ofSavings vault earlier).entries user :=
    List.take_of_length_le (perm.length_eq ▸ enough)
  have complete : Newest Moment.instant ((ofSavings vault earlier).entries user)
      (savedEntries user earlier) ↔
        ((ofSavings vault earlier).entries user).Pairwise NoteEntry.Newer :=
    ⟨Newest.ordered, fun sorted => ⟨sorted, fun entry member =>
      .inl (perm.mem_iff.mpr (two ▸ member))⟩⟩
  rw [whole, complete, entries_pair vault user earlier two]
  by_cases noLater : first.created.isNoLater second.created = true
  · rw [if_pos noLater, List.pairwise_pair, iff_true_left noLater]
    show _ < _ ∨ _ = _ ∧ _ < _ ↔ _
    omega
  · rw [if_neg noLater, List.pairwise_pair, iff_false_left noLater]
    show _ < _ ∨ _ = _ ∧ _ < _ ↔ _
    omega

/-- After any calls to an empty store, a listing of less than one entry is refused. Any other tells
of as many notes of the user as it may, and only of theirs, none of them twice, and each with the
time with which it loads; and a listing of more entries begins with the same. If the clocks tell of
any two of the user's notes which was created at the later instant, the listing shows the newest
notes: it goes by the instants and then by the numbers, and what it does not show is older than all
that it shows. So it is when the clocks are never changed. The notes of one zone are listed by what
its clocks showed instead, and two notes stand in order exactly when the comparison is right about
them. What a clock of an unknown zone showed is taken as universal time. -/
theorem page_newest (vault : Vault) (calls : List Call) (user limit : Int) :
    let store := (empty vault).after calls
    let own := savedEntries user (savings calls)
    (limit < 1 → store.page user limit = .error ⟨limit⟩) ∧
    (1 ≤ limit → ∃ shown, store.page user limit = .ok shown ∧
      shown.length =
        min limit.toNat ((savings calls).countP fun saving => saving.user == user) ∧
      (shown.map NoteEntry.id).Nodup ∧
      (∀ entry ∈ shown, ∃ (index : Nat) (saving : Saving), (savings calls)[index]? = some saving ∧
        saving.user = user ∧ entry = ⟨index + 1, saving.created⟩ ∧
        store.load user entry.id = .ok (saving.payload, entry.created)) ∧
      (∀ larger, limit ≤ larger → ∃ more, store.page user larger = .ok more ∧ shown <+: more) ∧
      ((∀ first ∈ own, ∀ second ∈ own, first.created.Aligned second.created) →
        Newest Moment.instant shown own) ∧
      ((∀ entry ∈ own, entry.created.dial.zone.Steady) → Newest Moment.instant shown own) ∧
      ((∀ first ∈ own, ∀ second ∈ own, first.created.dial.zone = second.created.dial.zone) →
        Newest Moment.wall shown own) ∧
      ∀ first second, own = [first, second] → 2 ≤ limit →
        (Newest Moment.instant shown own ↔ (first.created.isNoLater second.created = true ↔
          first.created.instant ≤ second.created.instant))) ∧
    (∀ entry : NoteEntry, entry ∈ own ↔ ∃ (index : Nat) (saving : Saving),
      (savings calls)[index]? = some saving ∧ saving.user = user ∧
        entry = ⟨index + 1, saving.created⟩) ∧
    ∀ now reading, (creation now (some reading)).instant = reading.clock.microseconds -
      (reading.zone?.map fun zone =>
        zone.aheadAt reading.clock.microseconds reading.again).getD 0 := by
  intro store own
  have reached : store = ofSavings vault (savings calls) := after_empty vault calls
  have member := mem_savedEntries user (savings calls)
  refine ⟨fun none => if_pos none, fun positive => ?_, member, instant_creation⟩
  rw [reached]
  have perm := entries_perm vault user (savings calls)
  have newest {time : Moment → Int}
      (compared : ∀ first ∈ own, ∀ second ∈ own, first.created.ComparedBy time second.created) :=
    newest_take vault user (savings calls) limit.toNat compared
  refine ⟨_, page_eq_ok _ user positive, ?_, ?_, ?_, ?_, ?_, ?_, ?_, ?_⟩
  · rw [List.length_take, perm.length_eq, length_savedEntries]
  · exact (nodup_entries vault user (savings calls)).sublist ((List.take_sublist _ _).map _)
  · intro entry shown
    obtain ⟨index, saving, saved, theirs, rfl⟩ :=
      (member entry).mp (perm.mem_iff.mp (List.mem_of_mem_take shown))
    refine ⟨index, saving, saved, theirs, rfl, ?_⟩
    rw [← theirs]
    exact load_ofSavings saved
  · intro larger most
    refine ⟨_, page_eq_ok _ user (Int.le_trans positive most), ?_⟩
    exact List.take_prefix_take_left (Int.toNat_le_toNat most)
  · exact fun aligned => newest fun first inside second insideToo =>
      (aligned first inside second insideToo).comparedBy_instant
  · exact fun steady => newest fun first inside second insideToo =>
      (Moment.aligned_of_steady (steady first inside) (steady second insideToo)).comparedBy_instant
  · exact fun one => newest fun first inside second insideToo =>
      Moment.comparedBy_wall (one first inside second insideToo)
  · intro first second two atLeast
    have enough : 2 ≤ limit.toNat := by omega
    exact newest_pair_iff vault two enough

/-- Three notes of one user, shown on clocks of different offsets, and a note of another between
them. The second was created when the first was, the third half an hour before. -/
def mixedCalls : List Call :=
  let nonce : Nonce := Vector.replicate 12 0
  let payload : Payload := ⟨.text, some "plum", none, none, rfl⟩
  let hourAhead : Zone := .fixed (Moment.ofMinutes 60)
  [.save 1 payload nonce ⟨0, 0⟩ (some ⟨⟨2026, 5, 1, 12, 0, 0, 0⟩, false, some hourAhead⟩),
    .save 2 payload nonce ⟨0, 0⟩ (some ⟨⟨2026, 5, 1, 23, 0, 0, 0⟩, false, some .universal⟩),
    .save 1 payload nonce ⟨0, 0⟩ (some ⟨⟨2026, 5, 1, 11, 0, 0, 0⟩, true, none⟩),
    .save 1 payload nonce ⟨0, 0⟩ (some ⟨⟨2026, 5, 1, 11, 30, 0, 0⟩, false, some hourAhead⟩)]

/-- The store of the notes. -/
def mixedStore : NoteStore := (empty (uniformVault 0)).after mixedCalls

/-- A zone that puts its clocks back from three to two in a night of October. -/
def berlin : Zone :=
  ⟨"Europe/Berlin", Moment.ofMinutes 120,
    [⟨ClockTime.microseconds ⟨2026, 10, 25, 1, 0, 0, 0⟩, Moment.ofMinutes 60⟩]⟩

/-- Half past two, before the clocks are put back. -/
def beforePutBack : ClockReading := ⟨⟨2026, 10, 25, 2, 30, 0, 0⟩, false, some berlin⟩

/-- A quarter past two, after the clocks are put back: three quarters of an hour later. -/
def afterPutBack : ClockReading := ⟨⟨2026, 10, 25, 2, 15, 0, 0⟩, true, some berlin⟩

/-- A quarter past two again, as shown in universal time. -/
def afterPutBackUniversal : ClockReading := ⟨⟨2026, 10, 25, 1, 15, 0, 0⟩, false, none⟩

/-- Two notes of one user, the second created later, and two of another, created at one instant. -/
def putBackCalls : List Call :=
  let nonce : Nonce := Vector.replicate 12 0
  let payload : Payload := ⟨.text, some "plum", none, none, rfl⟩
  [.save 1 payload nonce ⟨0, 0⟩ (some beforePutBack),
    .save 1 payload nonce ⟨0, 0⟩ (some afterPutBack),
    .save 2 payload nonce ⟨0, 0⟩ (some afterPutBack),
    .save 2 payload nonce ⟨0, 0⟩ (some afterPutBackUniversal)]

/-- The store of the notes. -/
def putBackStore : NoteStore := (empty (uniformVault 0)).after putBackCalls

/-- A listing of two entries shows the newest two of the three notes of the user, each as it loads;
one of no entry is refused, and one of three begins with the two and is in order as well. Of the
notes that were created around the change of the clocks, those of one zone are listed by what the
clocks showed, which is not the order of the instants. -/
theorem page_newest_mixed :
    ((0 : Int) < 1 ∧ mixedStore.page 1 0 = .error ⟨0⟩) ∧
    ((1 : Int) ≤ 2 ∧ ∃ shown, mixedStore.page 1 2 = .ok shown ∧ shown.length = 2 ∧
      (shown.map NoteEntry.id).Nodup ∧
      (∀ entry ∈ shown, ∃ payload, mixedStore.load 1 entry.id = .ok (payload, entry.created)) ∧
      (∀ entry ∈ savedEntries 1 (savings mixedCalls), entry.created.dial.zone.Steady) ∧
      Newest Moment.instant shown (savedEntries 1 (savings mixedCalls)) ∧
      (2 : Int) ≤ 3 ∧ ∃ more, mixedStore.page 1 3 = .ok more ∧ shown <+: more) ∧
    ((1 : Int) ≤ 3 ∧ ∃ shown, mixedStore.page 1 3 = .ok shown ∧
      (∀ first ∈ savedEntries 1 (savings mixedCalls),
        ∀ second ∈ savedEntries 1 (savings mixedCalls), first.created.Aligned second.created) ∧
      Newest Moment.instant shown (savedEntries 1 (savings mixedCalls))) ∧
    (1 : Int) ≤ 2 ∧ ∃ shown, putBackStore.page 1 2 = .ok shown ∧
      savedEntries 1 (savings putBackCalls) =
        [⟨1, beforePutBack.moment⟩, ⟨2, afterPutBack.moment⟩] ∧
      Newest Moment.wall shown (savedEntries 1 (savings putBackCalls)) ∧
      ¬Newest Moment.instant shown (savedEntries 1 (savings putBackCalls)) := by
  obtain ⟨refused, -⟩ := page_newest (uniformVault 0) mixedCalls 1 0
  obtain ⟨-, listed, -⟩ := page_newest (uniformVault 0) mixedCalls 1 2
  obtain ⟨-, listedAll, -⟩ := page_newest (uniformVault 0) mixedCalls 1 3
  obtain ⟨-, listedBack, -⟩ := page_newest (uniformVault 0) putBackCalls 1 2
  obtain ⟨shown, paged, counted, apart, own, extended, -, newest, -⟩ := listed (by decide)
  obtain ⟨all, pagedAll, -, -, -, -, newestAll, -⟩ := listedAll (by decide)
  obtain ⟨back, pagedBack, -, -, -, -, -, -, oneZone, pair⟩ := listedBack (by decide)
  have steady : ∀ entry ∈ savedEntries 1 (savings mixedCalls), entry.created.dial.zone.Steady := by
    decide
  have aligned : ∀ first ∈ savedEntries 1 (savings mixedCalls),
      ∀ second ∈ savedEntries 1 (savings mixedCalls), first.created.Aligned second.created :=
    fun first inside second insideToo =>
      Moment.aligned_of_steady (steady first inside) (steady second insideToo)
  have loads : ∀ entry ∈ shown,
      ∃ payload, mixedStore.load 1 entry.id = .ok (payload, entry.created) := by
    intro entry member
    obtain ⟨index, saving, -, -, -, loaded⟩ := own entry member
    exact ⟨saving.payload, loaded⟩
  have outOfOrder : ¬Newest Moment.instant back (savedEntries 1 (savings putBackCalls)) :=
    fun inOrder => absurd (((pair _ _ rfl (by decide)).mp inOrder).mpr (by decide)) (by decide)
  exact ⟨⟨by decide, refused (by decide)⟩,
    ⟨by decide, shown, paged, counted, apart, loads, steady, newest steady, by decide,
      extended 3 (by decide)⟩,
    ⟨by decide, all, pagedAll, aligned, newestAll aligned⟩,
    by decide, back, pagedBack, rfl, oneZone (by decide), outOfOrder⟩

/-- The older note of the one user is listed first, since its clock showed more. Of the notes of the
other user, which are of one instant, the one of the lesser number is listed first, since a time
that is shown twice is never the same as one of another zone. -/
theorem page_clock_put_back :
    ∃ first second third fourth : NoteEntry,
      putBackStore.page 1 20 = .ok [first, second] ∧ first.id = 1 ∧ second.id = 2 ∧
        first.created.instant < second.created.instant ∧
        ¬[first, second].Pairwise NoteEntry.Newer ∧
      putBackStore.page 2 20 = .ok [third, fourth] ∧ third.id = 3 ∧ fourth.id = 4 ∧
        third.created.instant = fourth.created.instant ∧
        ¬[third, fourth].Pairwise NoteEntry.Newer := by
  have reached : putBackStore = ofSavings (uniformVault 0) (savings putBackCalls) :=
    after_empty (uniformVault 0) putBackCalls
  have listed (user : Int) {one other : NoteEntry}
      (two : savedEntries user (savings putBackCalls) = [one, other])
      (later : one.created.isNoLater other.created = false) :
      putBackStore.page user 20 = .ok [one, other] := by
    rw [reached, page_eq_ok _ _ (by decide), entries_pair _ _ _ two, later]
    rfl
  refine ⟨⟨1, beforePutBack.moment⟩, ⟨2, afterPutBack.moment⟩, ⟨3, afterPutBack.moment⟩,
    ⟨4, afterPutBackUniversal.moment⟩, listed 1 rfl (by decide), rfl, rfl, by decide, by decide,
    listed 2 rfl (by decide), rfl, rfl, by decide, by decide⟩

end NoteStore

end Reckoner
