import Mathlib.Data.List.Induction
import Mathlib.Data.List.Nodup
import Reckoner.Batch.Collection
import Reckoner.Proofs.Batch.Accounts

/-!
# A round by position

A round takes out of the list that it goes through. It starts behind the last position, so what has
been taken out or kept lies behind the position that it looks at, and every worker in front is still
at its place (`Batch.sweepBelow_eq`). So exactly the workers whose pipes are ready leave, the last
first, and the others keep their order (`Batch.sweep_round`). That is what a round without positions
does (`Batch.sweep_eq_collect`).
-/

namespace Reckoner

/-- What the pipe of a worker tells: the outcome in the message that it holds, or that the worker
ended without one. -/
inductive ActiveWorker.Reports (active : ActiveWorker) : Outcome → Prop
  /-- The pipe holds an outcome. -/
  | sent {message : Json} {outcome : Outcome} (holds : active.pipe = some message)
      (valid : Outcome.ofJson message = .ok outcome) : Reports active outcome
  /-- The pipe was closed without a message. -/
  | silent (closed : active.pipe = none) : Reports active (active.worker.reported true)

/-- What the pipe of a worker tells is what its reader finds. -/
theorem ActiveWorker.Reports.received {active : ActiveWorker} {outcome : Outcome}
    (reports : active.Reports outcome) :
    ∃ records, Worker.receive active.pipe active.worker.line active.worker.expression =
      .ok (outcome, records) := by
  cases reports with
  | sent holds valid =>
    rw [holds, Worker.receive, valid]
    exact ⟨[], rfl⟩
  | silent closed =>
    rw [closed]
    exact active.worker.receive_reported (.inr rfl)

/-- The pipe of an honest worker tells what is to be told of it. -/
theorem ActiveWorker.Honest.reports {active : ActiveWorker} (honest : active.Honest) :
    active.Reports active.outcome := by
  rcases honest with sent | silent
  · have holds : active.pipe = some (active.worker.reported false).toJson :=
      sent.trans active.worker.sent_eq
    rw [outcome, holds, Option.isNone_some]
    exact .sent holds (Outcome.ofJson_toJson _)
  · rw [outcome, silent, Option.isNone_none]
    exact .silent silent

/-- A pipe that was closed without a message tells of an error. -/
theorem ActiveWorker.Reports.render_of_none {active : ActiveWorker} {outcome : Outcome}
    (reports : active.Reports outcome) (closed : active.pipe = none) :
    outcome.render = active.worker.expression ++ " -> ERROR: " ++ Worker.silenceText := by
  cases reports with
  | sent holds => cases closed.symm.trans holds
  | silent => rfl

namespace HeldWorker

/-- What is done with the pipe and the process of a worker that leaves. -/
def dismissal (worker : HeldWorker) : List Batch.Call :=
  [.received worker.pipeEnd, .closed worker.pipeEnd, .joined worker.process]

/-- The outcome that the pipe of a worker tells is read from it. -/
theorem read_eq_ok {worker : HeldWorker} {outcome : Outcome}
    (reports : worker.active.Reports outcome) :
    ∃ records, worker.read = .ok (outcome, records) := by
  obtain ⟨records, received⟩ := reports.received
  exact ⟨records, by rw [read, received]⟩

end HeldWorker

namespace Batch

/-! ## Who leaves and who stays -/

/-- The workers whose pipes are ready, the last first. -/
def departing (ready : List Nat) (held : List HeldWorker) : List HeldWorker :=
  (held.filter fun worker => ready.contains worker.pipeEnd).reverse

/-- The workers whose pipes are not ready. -/
def staying (ready : List Nat) (held : List HeldWorker) : List HeldWorker :=
  held.filter fun worker => !ready.contains worker.pipeEnd

section

variable {ready : List Nat} {last : HeldWorker} (front : List HeldWorker)

/-- The last worker leaves first if its pipe is ready. -/
theorem departing_concat_of_mem (isReady : last.pipeEnd ∈ ready) :
    departing ready (front ++ [last]) = last :: departing ready front ∧
      staying ready (front ++ [last]) = staying ready front := by
  simp [departing, staying, isReady]

/-- The last worker stays the last if its pipe is not ready. -/
theorem departing_concat_of_not_mem (waits : last.pipeEnd ∉ ready) :
    departing ready (front ++ [last]) = departing ready front ∧
      staying ready (front ++ [last]) = staying ready front ++ [last] := by
  simp [departing, staying, waits]

end

/-! ## Positions -/

/-- A round that has gone through the workers in front of others and found the outcomes of those
that leave. -/
def Sweep.passed (state : Sweep) (ready : List Nat) (front back : List HeldWorker)
    (found : List (Outcome × List Log.Record)) : Sweep where
  held := staying ready front ++ back
  calls := state.calls ++ (departing ready front).flatMap HeldWorker.dismissal
  file := state.file ++ resultsText (found.map Prod.fst)
  records := state.records ++ found.flatMap Prod.snd

section

variable {ready : List Nat} {front back : List HeldWorker} {worker : HeldWorker} {state : Sweep}

/-- A round that has gone through no worker is where it was. -/
theorem passed_nil (parts : state.held = back) : state.passed ready [] back [] = state := by
  obtain ⟨held, calls, file, records⟩ := state
  cases parts
  simp [Sweep.passed, departing, staying, resultsText]

/-- To let a worker go and then go through those in front of it is to go through them all. -/
theorem passed_release (isReady : worker.pipeEnd ∈ ready) (position : Nat)
    (found : Outcome × List Log.Record) (others : List (Outcome × List Log.Record)) :
    (state.release position worker found).passed ready front back others =
      state.passed ready (front ++ [worker]) back (found :: others) := by
  obtain ⟨leaves, stay⟩ := departing_concat_of_mem front isReady
  simp only [Sweep.passed, Sweep.release, leaves, stay, HeldWorker.dismissal, resultsText,
    List.flatMap_cons, List.map_cons, List.append_assoc]

/-- To go through the workers in front of one that stays is to go through them all. -/
theorem passed_concat (waits : worker.pipeEnd ∉ ready) (found : List (Outcome × List Log.Record)) :
    state.passed ready front (worker :: back) found =
      state.passed ready (front ++ [worker]) back found := by
  obtain ⟨leave, stays⟩ := departing_concat_of_not_mem front waits
  simp only [Sweep.passed, leave, stays, List.append_assoc, List.singleton_append]

/-- The worker behind those in front of a position is at the position. -/
theorem getElem?_held (parts : state.held = front ++ worker :: back) :
    state.held[front.length]? = some worker := by
  rw [parts, List.getElem?_append_right (Nat.le_refl _), Nat.sub_self, List.getElem?_cons_zero]

/-- A worker whose pipe is ready is read and let go. -/
theorem visit_of_mem (parts : state.held = front ++ worker :: back)
    (isReady : worker.pipeEnd ∈ ready) :
    visit ready front.length state =
      worker.read.map fun found => state.release front.length worker found := by
  rw [visit, getElem?_held parts]
  exact if_pos isReady

/-- A worker whose pipe is not ready is left alone. -/
theorem visit_of_not_mem (parts : state.held = front ++ worker :: back)
    (waits : worker.pipeEnd ∉ ready) : visit ready front.length state = .ok state := by
  rw [visit, getElem?_held parts]
  exact if_neg waits

/-- The workers around one that is let go are still held, each in front at its place. -/
theorem held_release (parts : state.held = front ++ worker :: back)
    (found : Outcome × List Log.Record) :
    (state.release front.length worker found).held = front ++ back := by
  rw [Sweep.release, parts, List.eraseIdx_append_of_length_le (Nat.le_refl _), Nat.sub_self]
  rfl

/-- A round in which no pipe is ready leaves everything as it is. -/
theorem passed_of_none {held : List HeldWorker} {found : List (Outcome × List Log.Record)}
    {told : HeldWorker → Outcome} (waits : ∀ worker ∈ held, worker.pipeEnd ∉ ready)
    (outcomes : found.map Prod.fst = (departing ready held).map told) (file : List Char) :
    Sweep.passed ⟨held, [], file, []⟩ ready held [] found = ⟨held, [], file, []⟩ := by
  have leave : departing ready held = [] := by simpa [departing] using waits
  have stay : staying ready held = held := by simpa [staying] using waits
  have nothing : found = [] := by simpa [leave] using outcomes
  simp [Sweep.passed, leave, stay, nothing, resultsText]

end

/-- A round below a position goes through the workers in front of it as if they were all that is
held, and leaves those behind it as they are. -/
theorem sweepBelow_eq (ready : List Nat) (front back : List HeldWorker) (state : Sweep)
    (parts : state.held = front ++ back) :
    sweepBelow ready front.length state =
      ((departing ready front).mapM HeldWorker.read).map (state.passed ready front back) := by
  -- The last worker in front is visited first; after that it is either gone or one of those behind.
  induction front using List.reverseRecOn generalizing back state with
  | nil => exact congrArg Except.ok (passed_nil parts).symm
  | append_singleton front last ih =>
    rw [List.append_assoc, List.singleton_append] at parts
    rw [List.length_append, List.length_singleton, sweepBelow]
    by_cases isReady : last.pipeEnd ∈ ready
    · rw [visit_of_mem parts isReady, (departing_concat_of_mem front isReady).1, List.mapM_cons]
      cases last.read with
      | error failure => rfl
      | ok found =>
        have tail := ih back (state.release front.length last found) (held_release parts found)
        show sweepBelow ready front.length (state.release front.length last found) = _
        rw [tail]
        cases (departing ready front).mapM HeldWorker.read with
        | error failure => rfl
        | ok others => exact congrArg Except.ok (passed_release isReady front.length found others)
    · have tail := ih (last :: back) state parts
      rw [visit_of_not_mem parts isReady, (departing_concat_of_not_mem front isReady).1]
      show sweepBelow ready front.length state = _
      rw [tail]
      cases (departing ready front).mapM HeldWorker.read with
      | error failure => rfl
      | ok found => exact congrArg Except.ok (passed_concat isReady found)

/-- A round reads the workers whose pipes are ready, the last first, lets them go, and leaves the
others. -/
theorem sweep_eq (ready : List Nat) (held : List HeldWorker) (file : List Char) :
    sweep ready held file = ((departing ready held).mapM HeldWorker.read).map
      (Sweep.passed ⟨held, [], file, []⟩ ready held []) :=
  sweepBelow_eq ready held [] ⟨held, [], file, []⟩ (List.append_nil held).symm

/-! ## Outcomes -/

/-- What pipes tell is read from all of them. -/
theorem mapM_read {workers : List HeldWorker} {told : HeldWorker → Outcome}
    (reports : ∀ worker ∈ workers, worker.active.Reports (told worker)) :
    ∃ found, workers.mapM HeldWorker.read = .ok found ∧ found.map Prod.fst = workers.map told := by
  induction workers with
  | nil => exact ⟨[], rfl, rfl⟩
  | cons first rest ih =>
    obtain ⟨here, later⟩ := List.forall_mem_cons.mp reports
    obtain ⟨records, first_read⟩ := HeldWorker.read_eq_ok here
    obtain ⟨found, others, outcomes⟩ := ih later
    refine ⟨(told first, records) :: found, ?_, by rw [List.map_cons, outcomes]; rfl⟩
    rw [List.mapM_cons, first_read, others]
    rfl

/-- A pipe is read as often as its worker leaves. -/
theorem count_received (pipeEnd : Nat) (workers : List HeldWorker) :
    (workers.flatMap HeldWorker.dismissal).count (.received pipeEnd) =
      (workers.map HeldWorker.pipeEnd).count pipeEnd := by
  induction workers with
  | nil => rfl
  | cons first rest ih =>
    rw [List.flatMap_cons, List.count_append, ih, List.map_cons, List.count_cons]
    have own : first.dismissal.count (.received pipeEnd) =
        if first.pipeEnd == pipeEnd then 1 else 0 := by
      simp [HeldWorker.dismissal, List.count_cons]
    rw [own, Nat.add_comm]

/-- The pipe of one of several workers with pipes of their own is read once if it is ready, and not
at all otherwise. -/
theorem count_received_departing {ready : List Nat} {held : List HeldWorker}
    (distinct : (held.map HeldWorker.pipeEnd).Nodup) {worker : HeldWorker}
    (member : worker ∈ held) :
    ((departing ready held).flatMap HeldWorker.dismissal).count (.received worker.pipeEnd) =
      if worker.pipeEnd ∈ ready then 1 else 0 := by
  have leaving : ((departing ready held).map HeldWorker.pipeEnd).Nodup := by
    rw [departing, List.map_reverse, List.nodup_reverse]
    exact distinct.sublist (List.filter_sublist.map HeldWorker.pipeEnd)
  have leaves : worker.pipeEnd ∈ (departing ready held).map HeldWorker.pipeEnd ↔
      worker.pipeEnd ∈ ready := by
    simp only [departing, List.mem_map, List.mem_reverse, List.mem_filter,
      List.contains_iff_mem]
    constructor
    · rintro ⟨other, ⟨-, isReady⟩, same⟩
      exact same ▸ isReady
    · exact fun isReady => ⟨worker, ⟨member, isReady⟩, rfl⟩
  rw [count_received, leaving.count]
  simp only [leaves]

/-! ## The same round without positions -/

/-- What the reader of a worker's pipe finds. -/
def receipt (active : ActiveWorker) : Checked (Outcome × List Log.Record) :=
  Worker.receive active.pipe active.worker.line active.worker.expression

/-- A round without positions reads the workers that have reported as well, the last first. -/
theorem collect_eq (ready : Nat → Bool) (active : List ActiveWorker) :
    collect ready active = ((finished ready active).mapM receipt).map fun found =>
      ⟨active.filter fun active => !ready active.worker.line, found.map Prod.fst,
        found.flatMap Prod.snd⟩ := by
  induction active with
  | nil => rfl
  | cons first rest ih =>
    rw [collect, ih, finished_cons]
    cases reported : ready first.worker.line with
    | true =>
      rw [if_pos rfl, List.mapM_append, List.mapM_cons, List.mapM_nil, receipt]
      cases (finished ready rest).mapM receipt with
      | error issues => rfl
      | ok found =>
        cases Worker.receive first.pipe first.worker.line first.worker.expression with
        | error issues => rfl
        | ok here => simp [Except.map, bind, Except.bind, pure, Except.pure, reported]
    | false =>
      rw [if_neg Bool.false_ne_true, List.append_nil]
      cases (finished ready rest).mapM receipt with
      | error issues => rfl
      | ok found => simp [Except.map, reported]

/-- Pipes are read in a round as they are without positions. -/
theorem mapM_read_eq (workers : List HeldWorker) :
    workers.mapM HeldWorker.read =
      ((workers.map HeldWorker.active).mapM receipt).mapError SweepError.invalid := by
  induction workers with
  | nil => rfl
  | cons first rest ih =>
    rw [List.map_cons, List.mapM_cons, List.mapM_cons, ih, HeldWorker.read, ← receipt]
    cases receipt first.active with
    | error issues => rfl
    | ok here =>
      cases (rest.map HeldWorker.active).mapM receipt with
      | error issues => rfl
      | ok others => rfl

section

variable {ready : List Nat} {reported : Nat → Bool} {held : List HeldWorker}
  (agree : ∀ worker ∈ held,
    reported worker.active.worker.line = ready.contains worker.pipeEnd)

include agree

/-- The workers that leave are those that have reported. -/
theorem map_departing :
    (departing ready held).map HeldWorker.active =
      finished reported (held.map HeldWorker.active) := by
  rw [departing, finished, List.map_reverse, List.filter_map]
  exact congrArg (fun kept => (List.map HeldWorker.active kept).reverse)
    (List.filter_congr fun worker member => (agree worker member).symm)

/-- The workers that stay are those that have not reported. -/
theorem map_staying :
    (staying ready held).map HeldWorker.active =
      (held.map HeldWorker.active).filter fun active => !reported active.worker.line := by
  rw [staying, List.filter_map]
  exact congrArg (List.map HeldWorker.active) (List.filter_congr fun worker member =>
    congrArg not (agree worker member).symm)

/-- A round by position is the round without positions: it leaves the same workers, writes the same
outcomes, tells the same, and fails where the other does. -/
theorem sweep_eq_collect (file : List Char) :
    (sweep ready held file).map (fun last =>
        (last.held.map HeldWorker.active, last.file, last.records)) =
      ((collect reported (held.map HeldWorker.active)).mapError SweepError.invalid).map
        fun round => (round.active, file ++ resultsText round.outcomes, round.records) := by
  rw [sweep_eq, mapM_read_eq, collect_eq, ← map_departing agree, ← map_staying agree]
  cases ((departing ready held).map HeldWorker.active).mapM receipt with
  | error issues => rfl
  | ok found =>
    have kept := congrArg (List.map HeldWorker.active) (List.append_nil (staying ready held))
    exact congrArg (fun kept => Except.ok
      (kept, file ++ resultsText (found.map Prod.fst), found.flatMap Prod.snd)) kept

end

/-! ## A round -/

/-- Among held workers with pipes of their own, of which some are ready and hold an outcome or are
closed, a round takes out exactly those that are ready. It reads each of their pipes once and no
other, closes it and waits for the process, from the last worker to the first, and writes their
lines behind the results in this order; a worker that ended without a word has the line for that.
The others stay in their order, and where no pipe is ready nothing changes. It is the round that a
batch waits for. -/
theorem sweep_round {ready : List Nat} {held : List HeldWorker} (file : List Char)
    (told : HeldWorker → Outcome) (distinct : (held.map HeldWorker.pipeEnd).Nodup)
    (reports : ∀ worker ∈ held, worker.pipeEnd ∈ ready → worker.active.Reports (told worker)) :
    ∃ last, sweep ready held file = .ok last ∧
      last.held = (held.filter fun worker => !ready.contains worker.pipeEnd) ∧
      last.calls = (departing ready held).flatMap HeldWorker.dismissal ∧
      (∀ worker ∈ held, last.calls.count (.received worker.pipeEnd) =
        if worker.pipeEnd ∈ ready then 1 else 0) ∧
      last.file = file ++ (departing ready held).flatMap
        (fun worker => (told worker).render.toList ++ ['\n']) ∧
      (∀ worker ∈ departing ready held, worker.active.pipe = none → (told worker).render =
        worker.active.worker.expression ++ " -> ERROR: " ++ Worker.silenceText) ∧
      ((∀ worker ∈ held, worker.pipeEnd ∉ ready) → last = ⟨held, [], file, []⟩) ∧
      ∀ reported : Nat → Bool,
        (∀ worker ∈ held, reported worker.active.worker.line = ready.contains worker.pipeEnd) →
        ∃ round, collect reported (held.map HeldWorker.active) = .ok round ∧
          last.held.map HeldWorker.active = round.active ∧
          last.file = file ++ resultsText round.outcomes ∧ last.records = round.records := by
  have leaving : ∀ worker ∈ departing ready held, worker.active.Reports (told worker) := by
    intro worker member
    obtain ⟨listed, isReady⟩ := List.mem_filter.mp (List.mem_reverse.mp member)
    exact reports worker listed (List.contains_iff_mem.mp isReady)
  obtain ⟨found, reading, outcomes⟩ := mapM_read leaving
  have swept : sweep ready held file =
      .ok (Sweep.passed ⟨held, [], file, []⟩ ready held [] found) := by
    rw [sweep_eq, reading]
    rfl
  refine ⟨_, swept, List.append_nil _, List.nil_append _, ?_, ?_, ?_, ?_, ?_⟩
  · intro worker member
    rw [Sweep.passed, List.nil_append]
    exact count_received_departing distinct member
  · rw [Sweep.passed, outcomes, resultsText, List.flatMap_map]
  · intro worker member closed
    exact (leaving worker member).render_of_none closed
  · exact fun waits => passed_of_none waits outcomes file
  · intro reported agree
    have same := sweep_eq_collect agree file
    rw [swept] at same
    cases collected : collect reported (held.map HeldWorker.active) with
    | error issues =>
      rw [collected] at same
      cases same
    | ok round =>
      rw [collected] at same
      obtain ⟨kept, rest⟩ := Prod.mk.inj (Except.ok.inj same)
      obtain ⟨written, told⟩ := Prod.mk.inj rest
      exact ⟨round, rfl, kept, written, told⟩

/-- Three workers, of which the first has sent its outcome, the second is at work, and the third
has ended without a word. -/
def threeHeld : List HeldWorker :=
  let sum : Worker := ⟨"1+1", 1, Nat.one_pos⟩
  [⟨21, 3, sum, some (sum.reported false).toJson⟩, ⟨22, 7, ⟨"2*3", 2, Nat.two_pos⟩, none⟩,
    ⟨23, 5, ⟨"4", 3, by decide⟩, none⟩]

/-- The pipes of the third and the first worker are ready: the third is collected before the first,
and the second stays. -/
theorem sweep_round_three :
    (threeHeld.map HeldWorker.pipeEnd).Nodup ∧
      ∃ last, sweep [5, 3] threeHeld [] = .ok last ∧
        last.held.map HeldWorker.process = [22] ∧
        last.calls = [.received 5, .closed 5, .joined 23, .received 3, .closed 3, .joined 21] ∧
        last.file = "4 -> ERROR: worker exited without a result\n1+1 = 2\n".toList := by
  have distinct : (threeHeld.map HeldWorker.pipeEnd).Nodup := by decide
  have reports : ∀ worker ∈ threeHeld, worker.pipeEnd ∈ [5, 3] →
      worker.active.Reports worker.active.outcome := by
    intro worker member isReady
    rcases List.mem_cons.mp member with rfl | member
    · exact ActiveWorker.Honest.reports (.inl (Worker.sent_eq _).symm)
    rcases List.mem_cons.mp member with rfl | member
    · exact absurd isReady (by decide)
    · cases List.mem_singleton.mp member
      exact ActiveWorker.Honest.reports (.inr rfl)
  obtain ⟨last, swept, held, calls, -, written, -, -, -⟩ :=
    sweep_round [] (fun worker => worker.active.outcome) distinct reports
  refine ⟨distinct, last, swept, by rw [held]; rfl, by rw [calls]; rfl, ?_⟩
  rw [written]
  decide +kernel

end Batch

end Reckoner
