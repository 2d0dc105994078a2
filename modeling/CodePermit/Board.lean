import CodePermit.Report
/-!
# The board

Callers, runs and observers share one board.  It shows the current phase and keeps the report of
the run that settled last.  Claiming a run is a single step that looks at the phase and changes it,
so that of several callers at most one wins; a run announces phases while it lasts; settling files
the report first and then shows the final phase.

* `Board` — the shared state;
* `Board.claim`, `Board.publish`, `Board.fileReport`, `Board.conclude` — its single steps;
* `Board.settle` — the two steps that settle a run.
-/

namespace CodePermit

/-- What callers, runs and observers share. -/
structure Board where
  /-- The current phase. -/
  phase : Phase := .notStarted
  /-- The report of the run that settled last. -/
  report : Option Report := none
  /-- How often the phase was written. -/
  version : Nat := 0
  /-- How many runs were claimed. -/
  claims : Nat := 0
deriving DecidableEq

namespace Board

/-- Writes a phase. -/
def publish (b : Board) (phase : Phase) : Board :=
  { b with phase := phase, version := b.version + 1 }

/-- Claims a run if the current phase admits it. -/
def claim (b : Board) (admits : Phase → Bool) : Option Board :=
  if admits b.phase then some { b.publish .claimed with claims := b.claims + 1 } else none

/-- Files the report of a run that has ended. -/
def fileReport (b : Board) (report : Report) : Board :=
  { b with report := some report }

/-- Shows the final phase of the run whose report was filed. -/
def conclude (b : Board) (report : Report) : Board :=
  b.publish report.phase

/-- Settles a run. -/
def settle (b : Board) (report : Report) : Board :=
  (b.fileReport report).conclude report

/-- A phase that admits a first run. -/
def admitsFirst (p : Phase) : Bool :=
  p = .notStarted

/-- A phase that admits another run. -/
def admitsRetry (p : Phase) : Bool :=
  p.isFailed

end Board

end CodePermit
