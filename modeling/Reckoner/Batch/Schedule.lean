import Reckoner.Batch.Worker

/-!
# Scheduling

A batch starts one worker for each expression and keeps at most so many active. Whenever it has to
wait, it collects the workers that have reported, in the reverse of their order. Which workers
have reported is up to a schedule; nothing else about the outcomes is.
-/

namespace Reckoner

/-- A worker that was started and has not been collected, and what its pipe holds once it has
reported. -/
structure ActiveWorker where
  /-- The worker. -/
  worker : Worker
  /-- What its pipe holds; nothing when the worker ended without a word. -/
  pipe : Option Json

/-- The answers to waiting: for every round and all lines waited for, the lines of the workers that
have reported. A wait does not end before one has. -/
structure Schedule where
  /-- Whether the worker of a line has reported, in a round and among the lines waited for. -/
  ready : Nat → List Nat → Nat → Bool
  /-- Among the lines waited for there is one whose worker has reported. -/
  progress : ∀ round lines, lines ≠ [] → ∃ line ∈ lines, ready round lines line = true

/-- The schedule in which every worker has reported whenever one is waited for. -/
def Schedule.prompt : Schedule where
  ready _ _ _ := true
  progress _ lines nonempty := by
    cases lines with
    | nil => exact absurd rfl nonempty
    | cons line rest => exact ⟨line, List.mem_cons_self, rfl⟩

namespace Batch

/-- What a round of collecting leaves. -/
structure Round where
  /-- The workers that have not been collected, in order. -/
  active : List ActiveWorker
  /-- The outcomes of the collected workers, the last worker first. -/
  outcomes : List Outcome
  /-- What was told of them. -/
  records : List Log.Record

/-- One round: the last worker is looked at first, and every worker that has reported is read once
and leaves. -/
def collect (ready : Nat → Bool) : List ActiveWorker → Checked Round
  | [] => .ok ⟨[], [], []⟩
  | first :: rest =>
    match collect ready rest with
    | .error issues => .error issues
    | .ok later =>
      if ready first.worker.line then
        match Worker.receive first.pipe first.worker.line first.worker.expression with
        | .error issues => .error issues
        | .ok (outcome, records) =>
          .ok ⟨later.active, later.outcomes ++ [outcome], later.records ++ records⟩
      else .ok ⟨first :: later.active, later.outcomes, later.records⟩

/-- A round leaves exactly the workers that have not reported. -/
theorem collect_active {ready : Nat → Bool} {active : List ActiveWorker} {round : Round}
    (collected : collect ready active = .ok round) :
    round.active = active.filter fun active => !ready active.worker.line := by
  induction active generalizing round with
  | nil =>
    simp only [collect, Except.ok.injEq] at collected
    simp [← collected]
  | cons first rest ih =>
    rw [collect] at collected
    split at collected
    · simp at collected
    · rename_i later found
      have kept := ih found
      split at collected
      · rename_i reported
        split at collected
        · simp at collected
        · simp only [Except.ok.injEq] at collected
          simp [← collected, reported, kept]
      · rename_i silent
        simp only [Except.ok.injEq] at collected
        simp [← collected, silent, kept]

/-- The lines of active workers. -/
def linesOf (active : List ActiveWorker) : List Nat := active.map fun active => active.worker.line

/-- A round after which a reported worker has left leaves fewer. -/
theorem collect_shorter {ready : Nat → Bool} {active : List ActiveWorker} {round : Round}
    (collected : collect ready active = .ok round)
    (reported : ∃ line ∈ linesOf active, ready line = true) :
    round.active.length < active.length := by
  obtain ⟨line, listed, reported⟩ := reported
  obtain ⟨worker, member, rfl⟩ := List.mem_map.mp listed
  rw [collect_active collected]
  have fewer := List.length_filter_lt_length_iff_exists
    (p := fun active : ActiveWorker => !ready active.worker.line) (l := active)
  exact fewer.mpr ⟨worker, member, by simp [reported]⟩

/-- Where a batch stands. -/
structure State where
  /-- How many rounds have passed. -/
  rounds : Nat
  /-- The workers that have not been started. -/
  pending : List Worker
  /-- The workers that have been started and not collected, in the order of their start. -/
  active : List ActiveWorker
  /-- The outcomes, in the order in which they were written. -/
  outcomes : List Outcome
  /-- What was told of them. -/
  records : List Log.Record

/-- A batch at its start. -/
def State.start (workers : List Worker) : State := ⟨0, workers, [], [], []⟩

/-- A batch after one more worker was started. -/
def State.spawn (launch : Worker → Option Json) (worker : Worker) (pending : List Worker)
    (state : State) : State :=
  { state with pending := pending, active := state.active ++ [⟨worker, launch worker⟩] }

/-- A batch after a round. -/
def State.after (round : Round) (state : State) : State :=
  { state with
    rounds := state.rounds + 1
    active := round.active
    outcomes := state.outcomes ++ round.outcomes
    records := state.records ++ round.records }

set_option linter.unusedVariables false in
/-- A batch from a state to its end: a worker is started while there is room for it, otherwise
a round is waited for. -/
def runFrom (schedule : Schedule) (limit : Nat) (positive : 0 < limit)
    (launch : Worker → Option Json) (state : State) : Checked State :=
  if room : state.active.length < limit ∧ state.pending ≠ [] then
    match pending : state.pending with
    | [] => absurd pending room.2
    | worker :: rest => runFrom schedule limit positive launch (state.spawn launch worker rest)
  else if done : state.active = [] then .ok state
  else
    match collected : collect (schedule.ready state.rounds (linesOf state.active)) state.active with
    | .error issues => .error issues
    | .ok round => runFrom schedule limit positive launch (state.after round)
termination_by 2 * state.pending.length + state.active.length
decreasing_by
  · simp only [State.spawn, List.length_append, pending, List.length_cons, List.length_nil]
    omega
  · simp only [State.after]
    have fewer := collect_shorter collected
      (schedule.progress state.rounds (linesOf state.active) (by simpa [linesOf] using done))
    omega

/-- The workers of expressions, numbered from one on. -/
def workers (expressions : List String) : List Worker :=
  expressions.mapIdx fun index expression => ⟨expression, index + 1, Nat.succ_pos index⟩

/-- A batch from its expressions to its end. -/
def run (schedule : Schedule) (limit : Nat) (positive : 0 < limit)
    (launch : Worker → Option Json) (expressions : List String) : Checked State :=
  runFrom schedule limit positive launch (State.start (workers expressions))

/-- The text of results: a line for each outcome. -/
def resultsText (outcomes : List Outcome) : List Char :=
  outcomes.flatMap fun outcome => outcome.render.toList ++ ['\n']

end Batch

end Reckoner
