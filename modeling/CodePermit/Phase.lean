import CodePermit.Technique
/-!
# Phases of an acquisition

At every moment an acquisition is in one phase.  A run moves it from the claim through attempts
to success or failure; only a success lets dynamic code run.

* `Failure` — why a run failed, with its `message`;
* `Phase` — the phases, with their `text`;
* `Phase.mode` — how code has to be executed in a phase.
-/

namespace CodePermit

/-! ### Failures -/

/-- Why a run failed. -/
inductive Failure where
  /-- A technique was refused. -/
  | denied (technique : Technique) (reason : String)
  /-- A technique did not finish within its limit of so many milliseconds. -/
  | timedOut (technique : Technique) (limit : Nat)
  /-- No technique could be tried on this host. -/
  | nothingApplicable
  /-- The run itself broke off. -/
  | aborted (message : String)
deriving DecidableEq

/-- What is reported for a failure. -/
def Failure.message : Failure → String
  | denied technique reason => s!"{technique.name} was denied: {reason}"
  | timedOut technique limit => s!"{technique.name} timed out after {limit}ms"
  | nothingApplicable => "no acquisition strategy is applicable on this host"
  | aborted message => s!"acquisition run aborted: {message}"

/-! ### Phases -/

/-- The phase of an acquisition. -/
inductive Phase where
  /-- No run was ever claimed. -/
  | notStarted
  /-- A run is under way at an entry of the chain; attempts count from one, and attempt zero means
  that the run is claimed and has not reached an entry. -/
  | inProgress (index attempt : Nat)
  /-- A run ended with the permission in place, credited to a technique. -/
  | succeeded (technique : Technique)
  /-- A run ended without the permission, after trying all entries or not. -/
  | failed (failure : Failure) (exhausted : Bool)
deriving DecidableEq

/-- How code has to be executed. -/
inductive ExecutionMode where
  /-- Code is translated to native code at run time. -/
  | recompiler
  /-- Code is interpreted and no page is ever both written and executed. -/
  | interpreter
deriving DecidableEq

namespace Phase

/-- The phase right after a claim. -/
def claimed : Phase :=
  inProgress 0 0

/-- The permission is in place. -/
def isSucceeded : Phase → Bool
  | succeeded _ => true
  | _ => false

/-- The last run failed. -/
def isFailed : Phase → Bool
  | failed _ _ => true
  | _ => false

/-- A run is claimed or under way. -/
def isInProgress : Phase → Bool
  | inProgress _ _ => true
  | _ => false

/-- No run is under way and one has been. -/
def isTerminal (p : Phase) : Bool :=
  p.isSucceeded || p.isFailed

/-- Only a success lets dynamic code run. -/
def mode (p : Phase) : ExecutionMode :=
  if p.isSucceeded then .recompiler else .interpreter

/-- The text of a phase. -/
def text : Phase → String
  | notStarted => "not started"
  | inProgress index attempt => s!"in progress (strategy #{index}, attempt {attempt})"
  | succeeded technique => s!"acquired via {technique.name}"
  | failed failure exhausted =>
    s!"failed: {failure.message}" ++ if exhausted then " (all strategies exhausted)" else ""

theorem isSucceeded_of_isFailed {p : Phase} (h : p.isFailed = true) : p.isSucceeded = false := by
  cases p <;> first | rfl | cases h

theorem isTerminal_of_isSucceeded {p : Phase} (h : p.isSucceeded = true) : p.isTerminal = true := by
  rw [isTerminal, h, Bool.true_or]

theorem isInProgress_of_isTerminal {p : Phase} (h : p.isTerminal = true) :
    p.isInProgress = false := by
  cases p <;> first | rfl | cases h

theorem isTerminal_iff {p : Phase} :
    p.isTerminal = true ↔ (∃ t, p = .succeeded t) ∨ ∃ f x, p = .failed f x := by
  cases p <;> simp [isTerminal, isSucceeded, isFailed]

end Phase

/-- The name of an execution mode in reports. -/
def ExecutionMode.name : ExecutionMode → String
  | recompiler => "recompiler"
  | interpreter => "interpreter"

/-- The name of an execution mode in text. -/
def ExecutionMode.title : ExecutionMode → String
  | recompiler => "Recompiler"
  | interpreter => "Interpreter"

end CodePermit
