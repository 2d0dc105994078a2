import CodePermit.Phase
/-!
# Reports

A run leaves one record for each attempt and for each entry it passed over.  What a technique
says about itself counts only as far as the probe confirms it.

* `Outcome` — the result of one attempt;
* `Outcome.reconcile` — the result after the probe was asked;
* `Record`, `Report` — the records of a run with its final phase and its length.
-/

namespace CodePermit

/-- The result of one attempt. -/
inductive Outcome where
  /-- The permission is there. -/
  | granted
  /-- The technique was refused. -/
  | denied (reason : String)
  /-- The attempt did not finish in time. -/
  | timedOut
  /-- A precondition does not hold and nothing was done. -/
  | unavailable
deriving DecidableEq

/-- The reason given for a success that the probe does not confirm. -/
def unconfirmedReason : String :=
  "reported success was not confirmed by the probe"

/-- The probe wins in both directions: a confirmed permission counts as granted whatever was
reported, and a reported success that is not confirmed counts as a refusal. -/
def Outcome.reconcile (reported : Outcome) (confirmed : Bool) : Outcome :=
  if confirmed then granted
  else
    match reported with
    | granted => denied unconfirmedReason
    | other => other

theorem Outcome.reconcile_eq_granted_iff {o : Outcome} {confirmed : Bool} :
    o.reconcile confirmed = .granted ↔ confirmed = true := by
  cases confirmed <;> cases o <;> simp [reconcile]

/-- The record of one attempt, or of an entry passed over. -/
structure Record where
  /-- The technique tried or passed over. -/
  technique : Technique
  /-- The number of the attempt, from one; zero for an entry passed over. -/
  attempt : Nat
  /-- The result. -/
  outcome : Outcome
  /-- The length of the attempt in milliseconds. -/
  duration : Nat
deriving DecidableEq

/-- The record of an entry passed over. -/
def Record.skip (t : Technique) : Record :=
  ⟨t, 0, .unavailable, 0⟩

/-- The record of a permission found before anything was tried. -/
def Record.detected : Record :=
  ⟨.preGranted, 1, .granted, 0⟩

/-- What a finished run leaves behind. -/
structure Report where
  /-- The records in the order in which they were made. -/
  records : List Record
  /-- The phase in which the run ended. -/
  phase : Phase
  /-- The length of the run in milliseconds. -/
  elapsed : Nat
deriving DecidableEq

/-- The records of what was really done. -/
def Report.executed (r : Report) : List Record :=
  r.records.filter fun record => record.outcome ≠ .unavailable

/-- The report of a run that broke off. -/
def Report.aborted (message : String) : Report :=
  ⟨[], .failed (.aborted message) false, 0⟩

end CodePermit
