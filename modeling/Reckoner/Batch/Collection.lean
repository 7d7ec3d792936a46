import Reckoner.Batch.Schedule

/-!
# Collecting by position

A server holds its workers in a list, each with one end of a pipe and with a process. In a round the
list is gone through by position, from the last to the first, and the worker at a position is taken
out of the list if its pipe is ready. `Batch.collect` is the same round without positions, pipes and
processes.
-/

namespace Reckoner

/-- A worker as the server holds it. -/
structure HeldWorker where
  /-- The process of the worker. -/
  process : Nat
  /-- The end of the pipe that leads to the worker. -/
  pipeEnd : Nat
  /-- The worker, and what its pipe holds. -/
  active : ActiveWorker

/-- Why a round fails. -/
inductive SweepError where
  /-- No worker is held at a position. -/
  | noWorker (position : Nat)
  /-- What a worker sent is no outcome. -/
  | invalid (issues : List Issue)

/-- The outcome of a held worker, read from its pipe, and what is told of it. -/
def HeldWorker.read (held : HeldWorker) : Except SweepError (Outcome × List Log.Record) :=
  match Worker.receive held.active.pipe held.active.worker.line held.active.worker.expression with
  | .error issues => .error (.invalid issues)
  | .ok found => .ok found

namespace Batch

/-- What a round does with a pipe or a process. -/
inductive Call where
  /-- The end of a pipe was read. -/
  | received (pipeEnd : Nat)
  /-- The end of a pipe was closed. -/
  | closed (pipeEnd : Nat)
  /-- The end of a process was waited for. -/
  | joined (process : Nat)
  deriving DecidableEq, Repr

/-- Where a round stands. -/
structure Sweep where
  /-- The workers that are held. -/
  held : List HeldWorker
  /-- What was done with pipes and processes. -/
  calls : List Call
  /-- The text of the file of the results. -/
  file : List Char
  /-- What was told of the workers. -/
  records : List Log.Record

/-- A round after the worker at a position was read: its pipe is closed, its process is waited for,
it leaves the list, and its outcome is written behind the results. -/
def Sweep.release (position : Nat) (worker : HeldWorker) (found : Outcome × List Log.Record)
    (sweep : Sweep) : Sweep where
  held := sweep.held.eraseIdx position
  calls := sweep.calls ++
    [.received worker.pipeEnd, .closed worker.pipeEnd, .joined worker.process]
  file := sweep.file ++ (found.1.render.toList ++ ['\n'])
  records := sweep.records ++ found.2

/-- A round after one more position. -/
def visit (ready : List Nat) (position : Nat) (sweep : Sweep) : Except SweepError Sweep :=
  match sweep.held[position]? with
  | none => .error (.noWorker position)
  | some worker =>
    if worker.pipeEnd ∈ ready then
      worker.read.map fun found => sweep.release position worker found
    else .ok sweep

/-- A round that goes on with the positions below a bound, the last first. -/
def sweepBelow (ready : List Nat) : Nat → Sweep → Except SweepError Sweep
  | 0, sweep => .ok sweep
  | position + 1, sweep => visit ready position sweep >>= sweepBelow ready position

/-- A round over held workers, some of whose pipes are ready. -/
def sweep (ready : List Nat) (held : List HeldWorker) (file : List Char) :
    Except SweepError Sweep := sweepBelow ready held.length ⟨held, [], file, []⟩

end Batch

end Reckoner
