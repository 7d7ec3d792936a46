import Mathlib.Logic.Relation
import Reckoner.Proofs.Batch.Report

/-!
# Batches that come to their end

A batch moves by starting a worker or by waiting for a round. Whatever the schedule answers, every
move keeps account of all workers: each is pending, active or reported, and each is reported once
(`Batch.Step.accounts`). A move is possible until no worker is left, and every move leaves less to
do, so the batch ends with every worker reported (`Batch.run_eq_ok`).
-/

namespace Reckoner

namespace ActiveWorker

/-- The pipe of a started worker holds what the worker sent, or the worker ended without a word. -/
def Honest (active : ActiveWorker) : Prop :=
  active.pipe = active.worker.run.sent ∨ active.pipe = none

/-- What is told of a started worker. -/
def outcome (active : ActiveWorker) : Outcome := active.worker.reported active.pipe.isNone

end ActiveWorker

namespace Batch

/-! ## Rounds -/

section

variable {ready : Nat → Bool} {active : List ActiveWorker}

/-- The active workers that have reported, the last first. -/
def finished (ready : Nat → Bool) (active : List ActiveWorker) : List ActiveWorker :=
  (active.filter fun active => ready active.worker.line).reverse

/-- The first worker is the last of those that have reported, if it has. -/
theorem finished_cons (ready : Nat → Bool) (first : ActiveWorker) (rest : List ActiveWorker) :
    finished ready (first :: rest) =
      finished ready rest ++ if ready first.worker.line then [first] else [] := by
  rw [finished, finished, List.filter_cons]
  split
  · exact List.reverse_cons
  · exact (List.append_nil _).symm

/-- A round over honest workers succeeds, with what is to be told of those that have reported. -/
theorem collect_eq_ok (ready : Nat → Bool) (honest : ∀ worker ∈ active, worker.Honest) :
    ∃ round, collect ready active = .ok round ∧
      round.outcomes = (finished ready active).map ActiveWorker.outcome := by
  induction active with
  | nil => exact ⟨⟨[], [], []⟩, rfl, rfl⟩
  | cons first rest ih =>
    obtain ⟨later, collected, outcomes⟩ :=
      ih fun worker member => honest worker (List.mem_cons_of_mem first member)
    obtain ⟨records, received⟩ :=
      first.worker.receive_reported (honest first List.mem_cons_self)
    rw [collect, collected, finished_cons]
    cases reported : ready first.worker.line with
    | true =>
      simp only [if_true, received, List.map_append, ← outcomes]
      exact ⟨_, rfl, rfl⟩
    | false =>
      simp only [Bool.false_eq_true, if_false, List.append_nil]
      exact ⟨_, rfl, outcomes⟩

/-- The workers that a round leaves and those that it does not are the workers it had. -/
theorem finished_append_perm (ready : Nat → Bool) (active : List ActiveWorker) :
    (finished ready active ++ active.filter fun active => !ready active.worker.line).Perm
      active := by
  have parts := List.filter_append_perm (fun active => ready active.worker.line) active
  have turned := List.reverse_perm (active.filter fun active => ready active.worker.line)
  exact (turned.append_right _).trans parts

/-- A worker that has reported is among those that a round does not leave. -/
theorem finished_ne_nil (reported : ∃ line ∈ linesOf active, ready line = true) :
    finished ready active ≠ [] := by
  obtain ⟨line, listed, reported⟩ := reported
  obtain ⟨worker, member, rfl⟩ := List.mem_map.mp listed
  have kept : worker ∈ finished ready active :=
    List.mem_reverse.mpr (List.mem_filter.mpr ⟨member, reported⟩)
  exact List.ne_nil_of_mem kept

end

/-! ## Moves -/

/-- What is to be told of a worker: what it sent, or that it was silent. -/
def report (launch : Worker → Option Json) (worker : Worker) : Outcome :=
  worker.reported (launch worker).isNone

/-- A move of a batch: a worker is started where there is room, and a round is waited for where
there is none or no worker is pending. -/
inductive Step (schedule : Schedule) (limit : Nat) (launch : Worker → Option Json) :
    State → State → Prop
  /-- A worker is started. -/
  | spawn {state : State} {worker : Worker} {rest : List Worker}
      (room : state.active.length < limit) (pending : state.pending = worker :: rest) :
      Step schedule limit launch state (state.spawn launch worker rest)
  /-- A round is waited for. -/
  | wait {state : State} {round : Round}
      (full : ¬ (state.active.length < limit ∧ state.pending ≠ [])) (waiting : state.active ≠ [])
      (collected :
        collect (schedule.ready state.rounds (linesOf state.active)) state.active = .ok round) :
      Step schedule limit launch state (state.after round)

/-- The states that a batch passes through from one state on. -/
abbrev Reaches (schedule : Schedule) (limit : Nat) (launch : Worker → Option Json) :
    State → State → Prop :=
  Relation.ReflTransGen (Step schedule limit launch)

section

variable {schedule : Schedule} {limit : Nat} {launch : Worker → Option Json}
  {before next state : State} {started : List Worker} {reported : List Worker}

/-- A batch runs from a state as it runs from the next. -/
theorem Step.runFrom_eq (step : Step schedule limit launch before next) (positive : 0 < limit) :
    runFrom schedule limit positive launch before =
      runFrom schedule limit positive launch next := by
  cases step with
  | spawn room pending =>
    have free : before.active.length < limit ∧ before.pending ≠ [] := ⟨room, by simp [pending]⟩
    rw [runFrom.eq_def, dif_pos free]
    split
    · rename_i none
      simp [pending] at none
    · rename_i worker rest found
      rw [pending] at found
      cases found
      rfl
  | wait full waiting collected =>
    rw [runFrom.eq_def, dif_neg full, dif_neg waiting]
    split
    · rename_i issues failed
      rw [collected] at failed
      cases failed
    · rename_i round found
      rw [collected] at found
      cases found
      rfl

/-- A batch runs from a state as it runs from every state that it passes through. -/
theorem Reaches.runFrom_eq (reaches : Reaches schedule limit launch before next)
    (positive : 0 < limit) :
    runFrom schedule limit positive launch before =
      runFrom schedule limit positive launch next := by
  induction reaches with
  | refl => rfl
  | tail _ step ih => exact ih.trans (step.runFrom_eq positive)

/-- A batch has ended when no worker is pending or active. -/
theorem runFrom_ended (positive : 0 < limit) (idle : state.active = []) (none : state.pending = []) :
    runFrom schedule limit positive launch state = .ok state := by
  have full : ¬ (state.active.length < limit ∧ state.pending ≠ []) := fun free => free.2 none
  rw [runFrom.eq_def, dif_neg full, dif_pos idle]

/-- A wait for active workers ends with a worker that has reported. -/
theorem exists_reported (schedule : Schedule) (waiting : state.active ≠ []) :
    ∃ line ∈ linesOf state.active,
      schedule.ready state.rounds (linesOf state.active) line = true := by
  apply schedule.progress
  intro none
  exact waiting (List.map_eq_nil_iff.mp none)

/-- What is left to do: to start each pending worker and to collect it, and to collect each active
worker. -/
def State.effort (state : State) : Nat := 2 * state.pending.length + state.active.length

/-- Every move leaves less to do. -/
theorem Step.effort_lt (step : Step schedule limit launch before next) :
    next.effort < before.effort := by
  cases step with
  | spawn room pending =>
    simp only [State.effort, State.spawn, pending, List.length_append, List.length_cons,
      List.length_nil]
    omega
  | wait full waiting collected =>
    have fewer := collect_shorter collected (exists_reported schedule waiting)
    simp only [State.effort, State.after]
    omega

/-- The account of a batch: which workers were reported, in which order, and that each worker that
the batch started with is reported, active or pending, once. -/
structure Accounts (limit : Nat) (launch : Worker → Option Json) (started : List Worker)
    (state : State) (reported : List Worker) : Prop where
  /-- No more workers are active than the limit allows. -/
  bounded : state.active.length ≤ limit
  /-- The pipes hold what the workers sent. -/
  launched : ∀ active ∈ state.active, active.pipe = launch active.worker
  /-- The outcomes are what is to be told of the reported workers. -/
  outcomes_eq : state.outcomes = reported.map (report launch)
  /-- Every worker is there, once. -/
  complete :
    (reported ++ (state.active.map ActiveWorker.worker ++ state.pending)).Perm started
  /-- One worker at a time keeps the order. -/
  ordered : limit = 1 →
    reported ++ (state.active.map ActiveWorker.worker ++ state.pending) = started
  /-- Every round has reported a worker. -/
  rounds_le : state.rounds ≤ reported.length

/-- A batch starts with all its workers pending. -/
theorem accounts_start (limit : Nat) (launch : Worker → Option Json) (started : List Worker) :
    Accounts limit launch started (State.start started) [] where
  bounded := Nat.zero_le limit
  launched _ none := absurd none List.not_mem_nil
  outcomes_eq := rfl
  complete := List.Perm.refl started
  ordered _ := rfl
  rounds_le := Nat.le_refl 0

/-- A start keeps the account. -/
theorem Accounts.spawn (accounts : Accounts limit launch started state reported)
    {worker : Worker} {rest : List Worker} (room : state.active.length < limit)
    (pending : state.pending = worker :: rest) :
    Accounts limit launch started (state.spawn launch worker rest) reported := by
  have same : (state.spawn launch worker rest).active.map ActiveWorker.worker ++
      (state.spawn launch worker rest).pending =
        state.active.map ActiveWorker.worker ++ state.pending := by
    simp only [State.spawn, pending, List.map_append, List.map_cons, List.map_nil,
      List.append_assoc, List.singleton_append]
  have longer : (state.spawn launch worker rest).active.length = state.active.length + 1 := by
    simp only [State.spawn, List.length_append, List.length_singleton]
  constructor
  case bounded => omega
  case launched =>
    intro active member
    rcases List.mem_append.mp member with earlier | last
    · exact accounts.launched active earlier
    · rw [List.mem_singleton.mp last]
  case outcomes_eq => exact accounts.outcomes_eq
  case complete => exact same ▸ accounts.complete
  case ordered => exact fun one => same ▸ accounts.ordered one
  case rounds_le => exact accounts.rounds_le

/-- The only active worker is the one that a round reports. -/
theorem finished_of_single {ready : Nat → Bool} {active : List ActiveWorker}
    (single : active.length ≤ 1) (reported : ∃ line ∈ linesOf active, ready line = true) :
    finished ready active = active ∧
      (active.filter fun active => !ready active.worker.line) = [] := by
  obtain ⟨line, listed, reported⟩ := reported
  obtain ⟨worker, member, rfl⟩ := List.mem_map.mp listed
  have alone : active = [worker] := by
    match active, single, member with
    | [other], _, member => rw [List.mem_singleton.mp member]
  rw [alone, finished]
  simp [reported]

/-- A round keeps the account, and reports the workers that it does not leave. -/
theorem Accounts.after (accounts : Accounts limit launch started state reported) {round : Round}
    {ready : Nat → Bool} (progress : ∃ line ∈ linesOf state.active, ready line = true)
    (collected : collect ready state.active = .ok round)
    (outcomes : round.outcomes = (finished ready state.active).map ActiveWorker.outcome) :
    Accounts limit launch started (state.after round)
      (reported ++ (finished ready state.active).map ActiveWorker.worker) := by
  have left : (state.after round).active =
      state.active.filter fun active => !ready active.worker.line := collect_active collected
  have fewer : (state.after round).active.length < state.active.length :=
    collect_shorter collected progress
  have within := accounts.bounded
  constructor
  case bounded => omega
  case launched =>
    intro active member
    rw [left] at member
    exact accounts.launched active (List.mem_filter.mp member).1
  case outcomes_eq =>
    have told : ∀ active ∈ finished ready state.active,
        active.outcome = report launch active.worker := by
      intro active member
      have held := (List.mem_filter.mp (List.mem_reverse.mp member)).1
      rw [ActiveWorker.outcome, report, accounts.launched active held]
    rw [List.map_append, List.map_map, ← accounts.outcomes_eq]
    show state.outcomes ++ round.outcomes = _
    rw [outcomes, List.map_congr_left told]
    rfl
  case complete =>
    have whole := (finished_append_perm ready state.active).map ActiveWorker.worker
    rw [List.map_append, ← left] at whole
    have moved := (whole.append_right state.pending).append_left reported
    rw [List.append_assoc] at moved ⊢
    exact moved.trans accounts.complete
  case ordered =>
    -- The limit leaves one active worker, and the wait did not end before it had reported.
    intro one
    obtain ⟨all, none⟩ := finished_of_single (by omega) progress
    rw [left, none, all, List.append_assoc]
    exact accounts.ordered one
  case rounds_le =>
    have some := List.length_pos_iff.mpr (finished_ne_nil progress)
    have earlier := accounts.rounds_le
    simp only [State.after, List.length_append, List.length_map]
    omega

/-- The workers of an account are workers that the batch started with. -/
theorem Accounts.mem_started (accounts : Accounts limit launch started state reported)
    {active : ActiveWorker} (member : active ∈ state.active) : active.worker ∈ started := by
  apply accounts.complete.mem_iff.mp
  have listed : active.worker ∈ state.active.map ActiveWorker.worker :=
    List.mem_map_of_mem member
  exact List.mem_append_right reported (List.mem_append_left state.pending listed)

section

variable (honest : ∀ worker ∈ started, launch worker = worker.run.sent ∨ launch worker = none)

include honest

/-- The active workers of an account are honest when all workers are. -/
theorem Accounts.all_honest (accounts : Accounts limit launch started state reported) :
    ∀ active ∈ state.active, active.Honest := by
  intro active member
  rw [ActiveWorker.Honest, accounts.launched active member]
  exact honest active.worker (accounts.mem_started member)

/-- Every move keeps the account. -/
theorem Step.accounts (step : Step schedule limit launch before next)
    (accounts : Accounts limit launch started before reported) :
    ∃ more, Accounts limit launch started next more := by
  cases step with
  | spawn room pending => exact ⟨reported, accounts.spawn room pending⟩
  | @wait round full waiting collected =>
    have progress := exists_reported schedule waiting
    obtain ⟨other, found, outcomes⟩ :=
      collect_eq_ok (schedule.ready before.rounds (linesOf before.active))
        (accounts.all_honest honest)
    have same : other = round := Except.ok.inj (found.symm.trans collected)
    exact ⟨_, accounts.after progress collected (same ▸ outcomes)⟩

/-- The account is kept in every state that a batch passes through. -/
theorem Reaches.accounts (reaches : Reaches schedule limit launch before next)
    (accounts : Accounts limit launch started before reported) :
    ∃ more, Accounts limit launch started next more := by
  induction reaches with
  | refl => exact ⟨reported, accounts⟩
  | tail _ step ih =>
    obtain ⟨earlier, kept⟩ := ih
    exact step.accounts honest kept

/-- As long as a worker is pending or active, the batch moves. -/
theorem Accounts.exists_step (schedule : Schedule)
    (accounts : Accounts limit launch started state reported) (positive : 0 < limit)
    (left : ¬ (state.active = [] ∧ state.pending = [])) :
    ∃ next, Step schedule limit launch state next := by
  by_cases free : state.active.length < limit ∧ state.pending ≠ []
  · obtain ⟨worker, rest, pending⟩ := List.exists_cons_of_ne_nil free.2
    exact ⟨_, .spawn free.1 pending⟩
  · have waiting : state.active ≠ [] := by
      intro idle
      apply free
      rw [idle]
      exact ⟨positive, fun none => left ⟨idle, none⟩⟩
    obtain ⟨round, collected, -⟩ :=
      collect_eq_ok (schedule.ready state.rounds (linesOf state.active))
        (accounts.all_honest honest)
    exact ⟨_, .wait free waiting collected⟩

/-- A batch comes from every state that keeps the account to one in which no worker is left. -/
theorem exists_end (schedule : Schedule) (positive : 0 < limit)
    (accounts : Accounts limit launch started state reported) :
    ∃ last, Reaches schedule limit launch state last ∧ last.active = [] ∧ last.pending = [] := by
  -- The effort drops with every move, so the induction is on it.
  induction effort : state.effort using Nat.strongRecOn generalizing state reported with
  | ind bound ih =>
    by_cases left : state.active = [] ∧ state.pending = []
    · exact ⟨state, .refl, left.1, left.2⟩
    · obtain ⟨next, step⟩ := accounts.exists_step honest schedule positive left
      obtain ⟨told, kept⟩ := step.accounts honest accounts
      have less : next.effort < bound := effort ▸ step.effort_lt
      obtain ⟨last, reaches, idle, none⟩ := ih next.effort less kept rfl
      exact ⟨last, .head step reaches, idle, none⟩

end

/-- At the end of a batch all its workers are reported, in their order if there was one at a
time. -/
theorem Accounts.ended (accounts : Accounts limit launch started state reported)
    (idle : state.active = []) (none : state.pending = []) :
    reported.Perm started ∧ (limit = 1 → reported = started) := by
  have complete := accounts.complete
  have ordered := accounts.ordered
  rw [idle, none] at complete ordered
  simp only [List.map_nil, List.append_nil] at complete ordered
  exact ⟨complete, ordered⟩

end

/-! ## Runs -/

section

variable (schedule : Schedule) {limit : Nat} (positive : 0 < limit) {launch : Worker → Option Json}
  {expressions : List String}
  (honest : ∀ worker ∈ workers expressions,
    launch worker = worker.run.sent ∨ launch worker = none)

include honest

/-- A batch never has more active workers than its limit. -/
theorem active_length_le {state : State}
    (reaches : Reaches schedule limit launch (State.start (workers expressions)) state) :
    state.active.length ≤ limit := by
  have start := accounts_start limit launch (workers expressions)
  obtain ⟨reported, accounts⟩ := reaches.accounts honest start
  exact accounts.bounded

/-- A batch runs to an end in which no worker is left, after no more rounds than it has
expressions, and its outcomes are what is to be told of its workers. -/
theorem run_eq_ok :
    ∃ last, Reaches schedule limit launch (State.start (workers expressions)) last ∧
      run schedule limit positive launch expressions = .ok last ∧ last.active = [] ∧
      last.pending = [] ∧ last.rounds ≤ expressions.length ∧
      last.outcomes.Perm ((workers expressions).map (report launch)) ∧
      (limit = 1 → last.outcomes = (workers expressions).map (report launch)) := by
  have start := accounts_start limit launch (workers expressions)
  obtain ⟨last, reaches, idle, none⟩ := exists_end honest schedule positive start
  obtain ⟨reported, accounts⟩ := reaches.accounts honest start
  have runs : run schedule limit positive launch expressions = .ok last :=
    (reaches.runFrom_eq positive).trans (runFrom_ended positive idle none)
  obtain ⟨complete, ordered⟩ := accounts.ended idle none
  have counted : last.rounds ≤ expressions.length := by
    have rounds := accounts.rounds_le
    have length := complete.length_eq
    rw [workers, List.length_mapIdx] at length
    omega
  refine ⟨last, reaches, runs, idle, none, counted, ?_, ?_⟩
  · rw [accounts.outcomes_eq]
    exact complete.map (report launch)
  · intro one
    rw [accounts.outcomes_eq, ordered one]

end

end Batch

end Reckoner
