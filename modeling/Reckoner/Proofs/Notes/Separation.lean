import Reckoner.Proofs.Notes.History

/-!
# Users apart

A user of a store asks for their own notes and is told of them. With these notes named by their rank
among the saves of the user, every answer is a function of what the user asked so far
(`dialogueFrom_eq`). So it makes no difference what other users do, how their calls fall in between,
which key the vault has and which nonces are drawn (`dialogue_undisturbed`).
-/

namespace Reckoner.NoteStore

/-! ## What a user sees -/

/-- What a user asks for. -/
inductive Request where
  /-- A note is to be saved. -/
  | save (payload : Payload) (created : Moment)
  /-- A listing. -/
  | page (limit : Int)
  /-- A note of the user, named by its rank, or one that is none of theirs. -/
  | load (rank? : Option Nat)
  deriving DecidableEq

/-- What a user is told. A note of the user is named by its rank; any other note has none. -/
inductive Answer where
  /-- A note was saved. -/
  | saved (rank? : Option Nat) (created : Moment)
  /-- A listing, or why there is none. -/
  | listed (outcome : Except LimitError (List (Option Nat × Moment)))
  /-- A note. -/
  | loaded (payload : Payload) (created : Moment)
  /-- The user has no such note. -/
  | notFound (rank? : Option Nat)
  /-- The note does not open. -/
  | unopened (error : OpenError)

/-- The rank of a note, from zero on, among the numbers that a user was told for their saves. -/
def rank? (numbers : List Int) (id : Int) : Option Nat := numbers.idxOf? id

/-- The user of a call. -/
def Call.user : Call → Int
  | .save user .. | .page user _ | .load user _ => user

/-- What a call asks for, for a user who was told numbers so far. -/
def Call.request (numbers : List Int) : Call → Request
  | .save _ payload _ now created? => .save payload (creation now created?)
  | .page _ limit => .page limit
  | .load _ id => .load (rank? numbers id)

/-- The number that a reply tells for a save. -/
def Reply.number? : Reply → Option Int
  | .saved entry => some entry.id
  | .listed _ | .loaded _ => none

/-- What a reply tells a user who was told numbers, its own included. -/
def Reply.answer (numbers : List Int) : Reply → Answer
  | .saved entry => .saved (rank? numbers entry.id) entry.created
  | .listed outcome => .listed (outcome.map fun entries =>
      entries.map fun entry => (rank? numbers entry.id, entry.created))
  | .loaded (.ok note) => .loaded note.1 note.2
  | .loaded (.error (.notFound id)) => .notFound (rank? numbers id)
  | .loaded (.error (.unopened error)) => .unopened error

/-- What a user asks and is told in calls to a store, after numbers that they were told before. -/
def dialogueFrom (user : Int) (store : NoteStore) (numbers : List Int) :
    List Call → List (Request × Answer)
  | [] => []
  | call :: rest =>
    let served := store.serve call
    if call.user = user then
      let told := numbers ++ served.2.number?.toList
      (call.request numbers, served.2.answer told) :: dialogueFrom user served.1 told rest
    else dialogueFrom user served.1 numbers rest

/-- What a user asks and is told in calls to an empty store. -/
def dialogue (vault : Vault) (user : Int) (calls : List Call) : List (Request × Answer) :=
  dialogueFrom user (empty vault) [] calls

/-! ## What a user is due -/

/-- What a user has saved, in order. -/
abbrev Diary := List (Payload × Moment)

/-- Of two notes of a user the first may be listed before the second: it was not created earlier,
nor at the same time with a lesser rank. -/
def newer (left right : Nat × Moment) : Bool := !precedes (left.2, left.1) (right.2, right.1)

/-- The ranks and times of the notes of a diary, the newest first. -/
def Diary.newest (diary : Diary) : List (Nat × Moment) :=
  (diary.mapIdx fun rank saved => (rank, saved.2)).mergeSort newer

/-- The answer to a request, by the diary of the user alone. -/
def Diary.answer (diary : Diary) : Request → Answer
  | .save _ created => .saved (some diary.length) created
  | .page limit =>
    .listed (if limit < 1 then .error ⟨limit⟩
      else .ok ((diary.newest.take limit.toNat).map fun row => (some row.1, row.2)))
  | .load none => .notFound none
  | .load (some rank) =>
    match diary[rank]? with
    | some saved => .loaded saved.1 saved.2
    | none => .notFound (some rank)

/-- What a request adds to a diary. -/
def Request.saved? : Request → Option (Payload × Moment)
  | .save payload created => some (payload, created)
  | .page _ | .load _ => none

/-- Requests with the answers that a diary gives, which grows with them. -/
def Diary.replay (diary : Diary) : List Request → List (Request × Answer)
  | [] => []
  | request :: rest =>
    (request, diary.answer request) :: Diary.replay (diary ++ request.saved?.toList) rest

/-- Every note that an answer tells of is one of the user's, and it opens. -/
def Answer.Own : Answer → Prop
  | .saved rank? _ => rank?.isSome
  | .listed outcome => ∀ entries, outcome = .ok entries → ∀ entry ∈ entries, entry.1.isSome
  | .loaded .. | .notFound _ => True
  | .unopened _ => False

/-- A diary tells of the notes of its user. -/
theorem Diary.own_answer (diary : Diary) (request : Request) : (diary.answer request).Own := by
  cases request with
  | save payload created => exact rfl
  | page limit =>
    intro entries listed entry member
    split at listed
    · cases listed
    · cases listed
      obtain ⟨row, -, rfl⟩ := List.mem_map.mp member
      rfl
  | load rank? =>
    cases rank? with
    | none => trivial
    | some rank =>
      rw [Diary.answer]
      split <;> trivial

/-- A diary that grows tells of the notes of its user. -/
theorem Diary.own_replay (diary : Diary) (requests : List Request) :
    ∀ exchange ∈ diary.replay requests, exchange.2.Own := by
  induction requests generalizing diary with
  | nil => exact fun _ none => absurd none List.not_mem_nil
  | cons request rest ih =>
    intro exchange member
    rw [Diary.replay] at member
    rcases List.mem_cons.mp member with rfl | later
    · exact diary.own_answer request
    · exact ih _ exchange later

/-! ## The saves of a user -/

/-- The saves of a user with their places among all saves. -/
def ownSavings (user : Int) (earlier : List Saving) : List (Saving × Nat) :=
  earlier.zipIdx.filter fun own => own.1.user == user

/-- The numbers that a user was told for their saves. -/
def numbersOf (user : Int) (earlier : List Saving) : List Int :=
  (ownSavings user earlier).map fun own => ((own.2 + 1 : Nat) : Int)

/-- The diary of a user. -/
def diaryOf (user : Int) (earlier : List Saving) : Diary :=
  (ownSavings user earlier).map fun own => (own.1.payload, own.1.created)

section

variable {vault : Vault} {user : Int} {earlier : List Saving}

/-- A save of a user is one of the saves, and theirs. -/
theorem mem_ownSavings {own : Saving × Nat} :
    own ∈ ownSavings user earlier ↔ earlier[own.2]? = some own.1 ∧ own.1.user = user := by
  rw [ownSavings, List.mem_filter, List.mem_zipIdx_iff_getElem?, beq_iff_eq]

/-- The saves of a user are in the order in which they were made. -/
theorem ownSavings_ordered (user : Int) (earlier : List Saving) :
    (ownSavings user earlier).Pairwise fun first second => first.2 < second.2 := by
  apply List.Pairwise.filter
  rw [List.pairwise_iff_getElem]
  intro first second inside bound before
  simpa using before

/-- A further save of the user is the last of theirs. -/
theorem ownSavings_append_own (earlier : List Saving) (saving : Saving)
    (theirs : saving.user = user) :
    ownSavings user (earlier ++ [saving]) =
      ownSavings user earlier ++ [(saving, earlier.length)] := by
  simp [ownSavings, List.zipIdx_append, List.filter_append, theirs]

/-- A save of another user is none of theirs. -/
theorem ownSavings_append_other {saving : Saving} (other : saving.user ≠ user) :
    ownSavings user (earlier ++ [saving]) = ownSavings user earlier := by
  simp [ownSavings, List.zipIdx_append, List.filter_append, other]

/-- The notes of a user in a store of saves are those of their saves. -/
theorem filter_notes_ofSavings :
    ((ofSavings vault earlier).notes.filter fun note => note.user == user) =
      (ownSavings user earlier).map fun own => own.1.note vault (own.2 + 1) := by
  rw [ofSavings, List.mapIdx_eq_zipIdx_map, List.filter_map]
  rfl

/-! ## Ranks -/

/-- The number of a save of a user has the rank of the save. -/
theorem rank?_numbersOf {rank : Nat} {own : Saving × Nat}
    (saved : (ownSavings user earlier)[rank]? = some own) :
    rank? (numbersOf user earlier) ((own.2 + 1 : Nat) : Int) = some rank := by
  obtain ⟨inside, here⟩ := List.getElem?_eq_some_iff.mp saved
  have ordered := List.pairwise_iff_getElem.mp (ownSavings_ordered user earlier)
  rw [rank?, List.idxOf?_eq_some_iff]
  refine ⟨by simpa [numbersOf] using inside, by simp [numbersOf, here], ?_⟩
  intro earlierRank before same
  have bound : earlierRank < (ownSavings user earlier).length := by omega
  have apart := ordered earlierRank rank bound inside before
  rw [here] at apart
  simp only [numbersOf, List.getElem_map] at same
  omega

/-- A number with a rank is that of the save of the rank. -/
theorem ownSavings_of_rank? {id : Int} {rank : Nat}
    (ranked : rank? (numbersOf user earlier) id = some rank) :
    ∃ own, (ownSavings user earlier)[rank]? = some own ∧ id = own.2 + 1 := by
  rw [rank?, List.idxOf?_eq_some_iff] at ranked
  obtain ⟨inside, here, -⟩ := ranked
  have bound : rank < (ownSavings user earlier).length := by
    simpa [numbersOf] using inside
  refine ⟨_, List.getElem?_eq_getElem bound, ?_⟩
  simp only [numbersOf, List.getElem_map] at here
  omega

/-- A number without a rank is that of no save of the user. -/
theorem foreign_of_rank? {id : Int} (unranked : rank? (numbersOf user earlier) id = none)
    (index : Nat) (saving : Saving) (saved : earlier[index]? = some saving)
    (theirs : saving.user = user) : id ≠ index + 1 := by
  intro same
  rw [rank?, List.idxOf?_eq_none_iff] at unranked
  apply unranked
  rw [numbersOf, List.mem_map]
  exact ⟨(saving, index), mem_ownSavings.mpr ⟨saved, theirs⟩, same.symm⟩

/-- Ranks are in the order of the numbers. -/
theorem rank_lt_iff {rank otherRank : Nat} {own other : Saving × Nat}
    (saved : (ownSavings user earlier)[rank]? = some own)
    (otherSaved : (ownSavings user earlier)[otherRank]? = some other) :
    own.2 + 1 < other.2 + 1 ↔ rank < otherRank := by
  obtain ⟨inside, here⟩ := List.getElem?_eq_some_iff.mp saved
  obtain ⟨otherInside, otherHere⟩ := List.getElem?_eq_some_iff.mp otherSaved
  have ordered := List.pairwise_iff_getElem.mp (ownSavings_ordered user earlier)
  rcases Nat.lt_trichotomy rank otherRank with before | same | behind
  · have apart := ordered rank otherRank inside otherInside before
    rw [here, otherHere] at apart
    omega
  · subst same
    rw [← here, ← otherHere]
    simp
  · have apart := ordered otherRank rank otherInside inside behind
    rw [here, otherHere] at apart
    omega

/-! ## Listings -/

/-- The rank and the time of a note of a user. -/
def rowOf (numbers : List Int) (note : StoredNote) : Nat × Moment :=
  ((rank? numbers note.id).getD 0, note.created)

/-- The row of a save of a user has the rank of the save. -/
theorem rowOf_note {rank : Nat} {own : Saving × Nat}
    (saved : (ownSavings user earlier)[rank]? = some own) :
    rowOf (numbersOf user earlier) (own.1.note vault (own.2 + 1)) = (rank, own.1.created) := by
  have ranked := rank?_numbersOf saved
  simp only [rowOf, Saving.note, ranked, Option.getD_some]

/-- The rows of the notes of a user are those of their diary. -/
theorem map_rowOf :
    ((ofSavings vault earlier).notes.filter fun note => note.user == user).map
        (rowOf (numbersOf user earlier)) =
      (diaryOf user earlier).mapIdx fun rank saved => (rank, saved.2) := by
  rw [filter_notes_ofSavings, List.map_map]
  apply List.ext_getElem?
  intro rank
  rw [List.getElem?_map, List.getElem?_mapIdx, diaryOf, List.getElem?_map]
  cases saved : (ownSavings user earlier)[rank]? with
  | none => rfl
  | some own =>
    simp only [Option.map_some, Function.comp_apply, rowOf_note saved]

/-- Of two notes of a user the one is listed first whose row is newer. -/
theorem comesFirst_eq_newer :
    ∀ left ∈ (ofSavings vault earlier).notes.filter fun note => note.user == user,
    ∀ right ∈ (ofSavings vault earlier).notes.filter fun note => note.user == user,
      comesFirst left right =
        newer (rowOf (numbersOf user earlier) left) (rowOf (numbersOf user earlier) right) := by
  intro left leftMember right rightMember
  rw [filter_notes_ofSavings] at leftMember rightMember
  obtain ⟨first, firstMember, rfl⟩ := List.mem_map.mp leftMember
  obtain ⟨second, secondMember, rfl⟩ := List.mem_map.mp rightMember
  obtain ⟨rank, saved⟩ := List.mem_iff_getElem?.mp firstMember
  obtain ⟨otherRank, otherSaved⟩ := List.mem_iff_getElem?.mp secondMember
  rw [rowOf_note saved, rowOf_note otherSaved]
  -- A tie of times is broken by the numbers, and in the rows by the ranks.
  have tie : decide (first.2 + 1 < second.2 + 1) = decide (rank < otherRank) :=
    decide_eq_decide.mpr (rank_lt_iff saved otherSaved)
  show (!if _ then decide (first.2 + 1 < second.2 + 1) else _) =
    !if _ then decide (rank < otherRank) else _
  rw [tie]
  rfl

/-- The notes of a user are listed as their diary tells. -/
theorem map_newestFirst (vault : Vault) :
    ((ofSavings vault earlier).newestFirst user).map (rowOf (numbersOf user earlier)) =
      (diaryOf user earlier).newest := by
  rw [newestFirst, List.map_mergeSort comesFirst_eq_newer, map_rowOf]
  rfl

/-- A listed note of a user has a rank, that of its row. -/
theorem rank?_of_mem_newestFirst {note : StoredNote}
    (listed : note ∈ (ofSavings vault earlier).newestFirst user) :
    rank? (numbersOf user earlier) note.id = some (rowOf (numbersOf user earlier) note).1 := by
  rw [newestFirst, List.mem_mergeSort, filter_notes_ofSavings] at listed
  obtain ⟨own, member, rfl⟩ := List.mem_map.mp listed
  obtain ⟨rank, saved⟩ := List.mem_iff_getElem?.mp member
  rw [rowOf_note saved]
  exact rank?_numbersOf saved

/-- A listing tells a user what their diary tells. -/
theorem answer_page (limit : Int) :
    (Reply.listed ((ofSavings vault earlier).page user limit)).answer (numbersOf user earlier) =
      (diaryOf user earlier).answer (.page limit) := by
  rw [page, Diary.answer]
  by_cases none : limit < 1
  · rw [if_pos none, if_pos none]
    rfl
  · have rows : (((ofSavings vault earlier).newestFirst user).take limit.toNat).map
        (fun note => (rank? (numbersOf user earlier) note.id, note.created)) =
          ((diaryOf user earlier).newest.take limit.toNat).map fun row => (some row.1, row.2) := by
      rw [← map_newestFirst vault, ← List.map_take, List.map_map]
      apply List.map_congr_left
      intro note listed
      rw [rank?_of_mem_newestFirst (List.mem_of_mem_take listed)]
      rfl
    rw [if_neg none, if_neg none, ← rows, Reply.answer, Except.map, List.map_map]
    rfl

/-! ## Loading -/

/-- A load tells a user what their diary tells. -/
theorem answer_load (id : Int) :
    (Reply.loaded ((ofSavings vault earlier).load user id)).answer (numbersOf user earlier) =
      (diaryOf user earlier).answer (.load (rank? (numbersOf user earlier) id)) := by
  cases ranked : rank? (numbersOf user earlier) id with
  | none =>
    rw [load_ofSavings_foreign (foreign_of_rank? ranked), Reply.answer, ranked]
    rfl
  | some rank =>
    obtain ⟨own, saved, rfl⟩ := ownSavings_of_rank? ranked
    obtain ⟨made, theirs⟩ := mem_ownSavings.mp (List.mem_of_getElem? saved)
    have written : (diaryOf user earlier)[rank]? = some (own.1.payload, own.1.created) := by
      rw [diaryOf, List.getElem?_map, saved]
      rfl
    rw [← theirs, load_ofSavings made, theirs, Diary.answer, written]
    rfl

end

/-! ## Dialogues -/

section

variable (vault : Vault) {user : Int} (earlier : List Saving)

/-- A call of a user tells them the number of what it saves, adds what it asks to save to their
diary, and is answered as the diary tells. -/
theorem answer_own (call : Call) (theirs : call.user = user) :
    let numbers := numbersOf user (earlier ++ call.saving?.toList)
    let request := call.request (numbersOf user earlier)
    let reply := ((ofSavings vault earlier).serve call).2
    numbersOf user earlier ++ reply.number?.toList = numbers ∧
      diaryOf user earlier ++ request.saved?.toList =
        diaryOf user (earlier ++ call.saving?.toList) ∧
      reply.answer numbers = (diaryOf user earlier).answer request := by
  cases call with
  | save caller payload nonce now created? =>
    have own : caller = user := theirs
    subst own
    have grown :=
      ownSavings_append_own earlier ⟨caller, payload, nonce, creation now created?⟩ rfl
    have last : (ownSavings caller
        (earlier ++ [⟨caller, payload, nonce, creation now created?⟩]))[
          (ownSavings caller earlier).length]? =
        some (⟨caller, payload, nonce, creation now created?⟩, earlier.length) := by
      rw [grown, List.getElem?_concat_length]
    have ranked := rank?_numbersOf last
    rw [serve_save]
    refine ⟨?_, ?_, ?_⟩
    · rw [Call.saving?, Option.toList_some, numbersOf, numbersOf, grown, List.map_append]
      rfl
    · rw [Call.saving?, Option.toList_some, diaryOf, diaryOf, grown, List.map_append]
      rfl
    · show Answer.saved (rank? (numbersOf caller (earlier ++ [_])) _) _ = Answer.saved _ _
      rw [ranked, diaryOf, List.length_map]
  | page caller limit =>
    have own : caller = user := theirs
    subst own
    rw [Call.saving?, Option.toList_none, List.append_nil]
    exact ⟨List.append_nil _, List.append_nil _, answer_page limit⟩
  | load caller id =>
    have own : caller = user := theirs
    subst own
    rw [Call.saving?, Option.toList_none, List.append_nil]
    exact ⟨List.append_nil _, List.append_nil _, answer_load id⟩

/-- A call of another user changes neither the numbers of a user nor their diary. -/
theorem ownSavings_other (call : Call) (other : call.user ≠ user) :
    ownSavings user (earlier ++ call.saving?.toList) = ownSavings user earlier := by
  cases call with
  | save caller payload nonce now created? => exact ownSavings_append_other other
  | page caller limit => rw [Call.saving?, Option.toList_none, List.append_nil]
  | load caller id => rw [Call.saving?, Option.toList_none, List.append_nil]

/-- What a user is told is what their diary tells of what they ask. -/
theorem dialogueFrom_eq (calls : List Call) :
    dialogueFrom user (ofSavings vault earlier) (numbersOf user earlier) calls =
      (diaryOf user earlier).replay
        ((dialogueFrom user (ofSavings vault earlier) (numbersOf user earlier) calls).map
          Prod.fst) := by
  induction calls generalizing earlier with
  | nil => rfl
  | cons call rest ih =>
    rw [dialogueFrom, serve_ofSavings]
    by_cases theirs : call.user = user
    · obtain ⟨told, written, answered⟩ := answer_own vault earlier call theirs
      have tail := ih (earlier ++ call.saving?.toList)
      simp only [if_pos theirs, told, answered, List.map_cons, Diary.replay, written]
      rw [← tail]
    · have numbers : numbersOf user (earlier ++ call.saving?.toList) = numbersOf user earlier := by
        rw [numbersOf, ownSavings_other earlier call theirs, numbersOf]
      have diary : diaryOf user (earlier ++ call.saving?.toList) = diaryOf user earlier := by
        rw [diaryOf, ownSavings_other earlier call theirs, diaryOf]
      have tail := ih (earlier ++ call.saving?.toList)
      rw [numbers, diary] at tail
      simp only [if_neg theirs]
      exact tail

end

/-- Two runs in which a user asks for the same tell the user the same, whatever the other users do
in each of them, whenever they do it, and whatever the keys and the nonces are: with the notes of
the user named by their rank, the user sees the same listings, payloads, times and refusals. And no
run tells the user of a note that is not theirs. -/
theorem dialogue_undisturbed (user : Int) (leftVault rightVault : Vault) (left right : List Call)
    (agree : (dialogue leftVault user left).map Prod.fst =
      (dialogue rightVault user right).map Prod.fst) :
    dialogue leftVault user left = dialogue rightVault user right ∧
      ∀ exchange ∈ dialogue leftVault user left, exchange.2.Own := by
  have first : dialogue leftVault user left = _ := dialogueFrom_eq leftVault [] left
  have second : dialogue rightVault user right = _ := dialogueFrom_eq rightVault [] right
  constructor
  · calc dialogue leftVault user left
        = Diary.replay [] ((dialogue leftVault user left).map Prod.fst) := first
      _ = Diary.replay [] ((dialogue rightVault user right).map Prod.fst) := by rw [agree]
      _ = dialogue rightVault user right := second.symm
  · intro exchange member
    have due : exchange ∈ Diary.replay [] ((dialogue leftVault user left).map Prod.fst) :=
      first ▸ member
    exact Diary.own_replay [] _ exchange due

/-- A vault whose key is one byte, repeated. -/
def uniformVault (byte : UInt8) : Vault := ⟨⟨List.replicate 16 byte, by simp [Key.lengths]⟩⟩

/-- A user alone saves two notes of one instant, lists them, and loads the first and another. -/
def aloneCalls : List Call :=
  let nonce : Nonce := Vector.replicate 12 0
  [.save 1 ⟨.text, some "jam", none, none, rfl⟩ nonce ⟨7, 0⟩ none,
    .save 1 ⟨.voice, none, some "memo", none, rfl⟩ nonce ⟨7, 0⟩ none,
    .page 1 20, .load 1 1, .load 1 9]

/-- The same, with another user before and between, whose second note is the other that is asked
for. -/
def amongCalls : List Call :=
  let nonce : Nonce := Vector.replicate 12 1
  [.save 2 ⟨.text, some "mine", none, none, rfl⟩ nonce ⟨9, 0⟩ none,
    .save 1 ⟨.text, some "jam", none, none, rfl⟩ nonce ⟨7, 0⟩ none, .page 2 1,
    .save 2 ⟨.text, some "mine too", none, none, rfl⟩ nonce ⟨8, 0⟩ none,
    .save 1 ⟨.voice, none, some "memo", none, rfl⟩ nonce ⟨7, 0⟩ none,
    .page 1 20, .load 2 2, .load 1 2, .load 1 3]

/-- The user is told the same alone and among others, although the numbers and the keys differ. -/
theorem dialogue_undisturbed_among :
    (dialogue (uniformVault 0) 1 aloneCalls).map Prod.fst =
        (dialogue (uniformVault 1) 1 amongCalls).map Prod.fst ∧
      dialogue (uniformVault 0) 1 aloneCalls = dialogue (uniformVault 1) 1 amongCalls := by
  have agree : (dialogue (uniformVault 0) 1 aloneCalls).map Prod.fst =
      (dialogue (uniformVault 1) 1 amongCalls).map Prod.fst := by decide +kernel
  exact ⟨agree, (dialogue_undisturbed 1 _ _ aloneCalls amongCalls agree).1⟩

end Reckoner.NoteStore
