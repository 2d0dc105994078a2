import CodePermit.Eligibility
import CodePermit.Technique
/-!
# Policies

A policy says how a technique is tried: when its turn comes, how long one attempt may take, how
often it is repeated, how long to pause in between, and on which hosts.

* `Policy` — the policy of one entry of a chain;
* `Policy.exactBudget` — the time an entry can take in one run, as a natural number;
* `Policy.budget` — the same in durations that hold at most `2 ^ 64 - 1` whole seconds.
-/

namespace CodePermit

/-- How one technique is tried.  Times are natural numbers and have no greatest one, but stand for
limits and pauses below `2 ^ 64` milliseconds, as settings give them: a clock has a range, and
adding a time that leads out of it is a breakdown that is not modelled. -/
structure Policy where
  /-- The technique. -/
  technique : Technique
  /-- Entries are tried in the order of their priorities. -/
  priority : Nat
  /-- The limit of one attempt, in milliseconds. -/
  timeout : Nat
  /-- The number of attempts asked for. -/
  maxAttempts : Nat := 1
  /-- The pause before each attempt but the first, in milliseconds. -/
  backoff : Nat := 0
  /-- The hosts on which the technique is tried. -/
  eligibility : Eligibility := {}
deriving DecidableEq

namespace Policy

/-- The default policy of a technique. -/
def ofTechnique (t : Technique) : Policy :=
  { technique := t, priority := t.defaultPriority.toNat, timeout := t.defaultTimeout.toNat }

/-- The policy with another number of attempts, at least one, and another pause. -/
def withAttempts (p : Policy) (attempts backoff : Nat) : Policy :=
  { p with maxAttempts := Nat.max 1 attempts, backoff := backoff }

/-- The attempts that are made if none of them ends the entry. -/
def rounds (p : Policy) : Nat :=
  Nat.max 1 p.maxAttempts

theorem one_le_rounds (p : Policy) : 1 ≤ p.rounds :=
  Nat.le_max_left 1 p.maxAttempts

/-! ### Budget -/

/-- The longest time, in milliseconds, that the entry can take in one run. -/
def exactBudget (p : Policy) : Nat :=
  p.timeout * p.rounds + p.backoff * (p.rounds - 1)

/-- Which operation on durations left their range. -/
inductive DurationOverflow where
  /-- A duration times a number. -/
  | product
  /-- The sum of two durations. -/
  | sum
deriving DecidableEq

/-- What is reported for an overflow. -/
def DurationOverflow.message : DurationOverflow → String
  | product => "overflow when multiplying duration by scalar"
  | sum => "overflow when adding durations"

/-- A number of milliseconds fits a duration if its whole seconds fit 64 bits. -/
def fitsDuration (ms : Nat) : Bool :=
  ms / 1000 < UInt64.size

/-- A number of milliseconds as a duration. -/
def duration (overflow : DurationOverflow) (ms : Nat) : Except DurationOverflow Nat :=
  if fitsDuration ms then .ok ms else .error overflow

/-- The budget computed with durations: attempts, then pauses, then their sum. -/
def budget (p : Policy) : Except DurationOverflow Nat := do
  let attempts ← duration .product (p.timeout * p.rounds)
  let pauses ← duration .product (p.backoff * (p.rounds - 1))
  duration .sum (attempts + pauses)

end Policy

end CodePermit
