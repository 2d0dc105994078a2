import CodePermit.Strategy
/-!
# Polling

What happens outside the process is noticed by asking the probe again and again until it says
that the permission is there or the limit is reached.  The probe is asked once more exactly at the
limit.

* `poll` — the routine, which becomes `insist` if no time passes between the questions;
* `preGranted`, `selfElevation`, `awaitDebugger` — the strategies that need no helper.
-/

namespace CodePermit

variable {σ : Type}

/-- How often something is tried without time passing in between before it is given up.  The bound
is one of the model alone: without it a routine that lets no time pass would go on at one moment
without end. -/
def patience : Nat := 1000000

/-- Asks the probe over and over at the same moment, and sleeps for ever if that leads nowhere.  A
process would go on asking and never end; that the questions are limited is the model's own. -/
def insist : (questions : Nat) → Routine σ Outcome
  | 0 => .hang
  | questions + 1 =>
    .ask .technique fun answer => if answer then .done .granted else insist questions

/-- Asks the probe at once and then after every interval, the last time at the limit.  An interval
of no length lets no time pass. -/
def poll (interval : Nat) (limit : Nat) : Routine σ Outcome :=
  .ask .technique fun answer =>
    if answer then .done .granted
    else if limit = 0 then .done .timedOut
    else if interval = 0 then insist patience
    else
      let step := min limit interval
      .sleep step (poll interval (limit - step))
termination_by limit
decreasing_by omega

theorem insist_aside (questions : Nat) : (insist questions : Routine σ Outcome).Keeps .aside := by
  induction questions with
  | zero => trivial
  | succ questions ih =>
    intro answer
    refine ⟨rfl, ?_⟩
    cases answer with
    | true => trivial
    | false => exact ih

theorem poll_aside (interval limit : Nat) :
    (poll interval limit : Routine σ Outcome).Keeps .aside := by
  induction limit using Nat.strongRecOn with
  | ind limit ih =>
    rw [poll]
    intro answer
    refine ⟨rfl, ?_⟩
    dsimp only
    split
    · trivial
    · split
      · trivial
      · split
        · exact insist_aside patience
        · exact ⟨rfl, ih _ (by omega)⟩

/-- Permission that was established before launch is only looked for. -/
def preGranted : Strategy σ :=
  .always
    (fun _ =>
      .ask .technique fun answer =>
        .done (if answer then .granted else .denied "permission was not granted before launch"))
    fun _ _ => ⟨rfl, trivial⟩

/-- A host that does not let processes trace themselves offers no self-elevation: the strategy
never applies, and an attempt within its limit is refused.  Hosts that let them are left out, and
with them the search for the marks of such a host. -/
def selfElevation : Strategy σ where
  applicable := fun _ s => (.ok false, s)
  attempt := fun limit =>
    .done (if limit = 0 then .timedOut else .denied "ptrace(PT_TRACE_ME) failed: unsupported")
  aside := fun _ => trivial

/-- Waits for a debugger that the user attaches; nothing is sent to anybody. -/
def awaitDebugger (interval : Nat) : Strategy σ :=
  .always (poll interval) (poll_aside interval)

end CodePermit
