import CodePermit.Policy
import CodePermit.Strategy
/-!
# Chains

A chain tries its entries one after another in the order of their priorities and never two at a
time.  The probe arbitrates: the run ends as soon as the probe says that the permission is there,
before an entry is looked at, after a pause, or after an attempt.

* `Entry`, `Chain` — the entries and the host;
* `Progress` — what a run has seen so far;
* `attemptOnce`, `rounds`, `visit`, `pass` — one attempt, the attempts on one entry, one entry,
  and all entries;
* `setback` — what is told about an attempt that brought nothing;
* `Chain.run` — the routine of one run, which ends in a report;
* `Chain.sorted` — entries in the order of their priorities.
-/

namespace CodePermit

/-! ### Chains -/

/-- A strategy with the policy under which it is tried. -/
structure Entry (σ : Type) where
  /-- The policy. -/
  policy : Policy
  /-- The strategy. -/
  strategy : Strategy σ

/-- Entries in the order in which they are tried, and the version of the host. -/
structure Chain (σ : Type) where
  /-- The entries in order. -/
  entries : List (Entry σ)
  /-- The version of the host, if it is known. -/
  host : Option Version

variable {σ : Type}

/-- Entries in the order of their priorities; among equals the given order stays. -/
def sorted (entries : List (Entry σ)) : List (Entry σ) :=
  entries.mergeSort fun e f => e.policy.priority ≤ f.policy.priority

/-- The chain of entries given in any order. -/
def Chain.ofEntries (entries : List (Entry σ)) (host : Option Version) : Chain σ :=
  ⟨sorted entries, host⟩

/-- The policies of a chain in the order in which they apply. -/
def Chain.policies (c : Chain σ) : List Policy :=
  c.entries.map Entry.policy

/-! ### What a run has seen -/

/-- What a run has seen so far. -/
structure Progress where
  /-- The records made, in order. -/
  records : List Record := []
  /-- The failure of the last attempt that was refused or ran out of time. -/
  failure : Option Failure := none
  /-- The technique attempted last. -/
  tried : Option Technique := none
deriving DecidableEq

/-- How a run ends: its records and its final phase. -/
structure Conclusion where
  /-- The records made, in order. -/
  records : List Record
  /-- The final phase. -/
  phase : Phase
deriving DecidableEq

/-- A run goes on, or it ends. -/
inductive Course where
  /-- The run goes on. -/
  | onward (progress : Progress)
  /-- The run ends. -/
  | ended (conclusion : Conclusion)
deriving DecidableEq

namespace Progress

/-- The progress with one more record. -/
def record (p : Progress) (r : Record) : Progress :=
  { p with records := p.records ++ [r] }

/-- The end of a run that finds the permission there without an attempt just made.  Before any
attempt it is recorded as detected, afterwards it is credited to the technique attempted last. -/
def permitted (p : Progress) : Conclusion :=
  match p.tried with
  | none => ⟨p.records ++ [.detected], .succeeded .preGranted⟩
  | some t => ⟨p.records, .succeeded t⟩

/-- Why a run that has tried everything has failed. -/
def lastFailure (p : Progress) : Failure :=
  p.failure.getD .nothingApplicable

/-- The end of a run that has tried everything. -/
def exhausted (p : Progress) : Conclusion :=
  ⟨p.records, .failed p.lastFailure true⟩

/-- The progress after an attempt on a technique. -/
def attempted (p : Progress) (policy : Policy) (attempt : Nat) (outcome : Outcome)
    (duration : Nat) : Progress where
  records := p.records ++ [⟨policy.technique, attempt, outcome, duration⟩]
  tried := some policy.technique
  failure :=
    match outcome with
    | .denied reason => some (.denied policy.technique reason)
    | .timedOut => some (.timedOut policy.technique policy.timeout)
    | _ => p.failure

end Progress

/-! ### The routine of a run -/

/-- Ends the run if the probe says that the permission is there. -/
def checkpoint (p : Progress) (next : Routine σ Course) : Routine σ Course :=
  .ask .run fun answer => if answer then .done (.ended p.permitted) else next

/-- One attempt on an entry: the strategy works under the limit of the policy, then the probe is
asked whether the result holds. -/
def attemptOnce (e : Entry σ) (index attempt : Nat) : Routine σ (Outcome × Nat) :=
  .note (.attempted index attempt e.policy.timeout) <|
    ((e.strategy.attempt e.policy.timeout).within e.policy.timeout).timed.bind fun reported =>
      .ask .run fun confirmed =>
        .done ((reported.1.getD .timedOut).reconcile confirmed, reported.2)

/-- What precedes an attempt: nothing before the first, a pause and a look at the probe before
each further one. -/
def interlude (e : Entry σ) (attempt : Nat) (p : Progress) : Routine σ Course :=
  if attempt ≤ 1 then .done (.onward p)
  else .rest e.policy.backoff (checkpoint p (.done (.onward p)))

/-- What is told about an attempt that was refused or ran out of time. -/
def setback (t : Technique) (attempt : Nat) : Outcome → Option Warning
  | .denied reason => some (.denied t attempt reason)
  | .timedOut => some (.timedOut t attempt)
  | _ => none

/-- The attempts on an entry, with `left` more to come and the next one numbered `attempt`.  A
granted attempt ends the run; an entry that finds itself unavailable is left at once. -/
def rounds (e : Entry σ) (index : Nat) : (left attempt : Nat) → Progress → Routine σ Course
  | 0, _, p => .done (.onward p)
  | left + 1, attempt, p =>
    .note (.published (.inProgress index attempt)) <|
      (interlude e attempt p).bind fun course =>
        match course with
        | .ended c => .done (.ended c)
        | .onward p =>
          (attemptOnce e index attempt).bind fun result =>
            let p := p.attempted e.policy attempt result.1 result.2
            match result.1 with
            | .granted => .done (.ended ⟨p.records, .succeeded e.policy.technique⟩)
            | .unavailable => .done (.onward p)
            | setbackOutcome =>
              .warn (setback e.policy.technique attempt setbackOutcome)
                (rounds e index left (attempt + 1) p)

/-- One entry of a chain: it is passed over if the host does not qualify or the strategy does not
apply, and attempted otherwise. -/
def visit (host : Option Version) (e : Entry σ) (index : Nat) (p : Progress) :
    Routine σ Course :=
  checkpoint p <|
    let skip : Routine σ Course := .done (.onward (p.record (.skip e.policy.technique)))
    if e.policy.eligibility.permits host then
      e.strategy.consult index fun applies =>
        if applies then rounds e index e.policy.rounds 1 p else skip
    else skip

/-- The entries of a chain one after another, the first of them with the given index. -/
def pass (host : Option Version) : (index : Nat) → List (Entry σ) → Progress →
    Routine σ Conclusion
  | _, [], p => .note (.warned (.runFailed p.lastFailure)) (.done p.exhausted)
  | index, e :: es, p =>
    (visit host e index p).bind fun course =>
      match course with
      | .ended c => .done c
      | .onward p => pass host (index + 1) es p

/-- One run of a chain. -/
def Chain.run (c : Chain σ) : Routine σ Report :=
  (pass c.host 0 c.entries {}).timed.bind fun result =>
    .done ⟨result.1.records, result.1.phase, result.2⟩

end CodePermit
