import CodePermit.Warning
/-!
# Routines

A routine is what a run, an attempt or an exchange with a helper does, step by step: it asks the
probe, changes its surroundings, lets time pass and makes itself heard, and it goes on according
to what it learns.  Computation takes no time; time passes only in pauses, and their lengths are
known to the routine, so that limits and stopwatches are functions on routines.

* `Routine` — a tree of steps over surroundings of a type `σ`;
* `Routine.warn` — giving a warning;
* `Routine.pause`, `Routine.rest` — letting time pass;
* `Routine.bind` — one routine after another, with the monad laws `done_bind`, `bind_done` and
  `bind_assoc`;
* `Routine.within` — a routine cut off at a limit;
* `Routine.timed` — a routine with its length.
-/

namespace CodePermit

/-! ### What can be observed -/

/-- Who asks the probe. -/
inductive Asker where
  /-- The run that arbitrates between the techniques. -/
  | run
  /-- A technique in the course of an attempt. -/
  | technique
deriving DecidableEq

/-- What can be observed while a routine is played. -/
inductive Event where
  /-- The probe was asked. -/
  | asked (who : Asker) (answer : Bool)
  /-- A phase was announced. -/
  | published (phase : Phase)
  /-- The entry at an index was asked whether it applies. -/
  | inspected (index : Nat) (answer : Bool)
  /-- An attempt on the entry at an index began, with a limit in milliseconds. -/
  | attempted (index attempt limit : Nat)
  /-- A helper was sent a request. -/
  | requested (request : AttachRequest)
  /-- A warning was given. -/
  | warned (warning : Warning)
  /-- A scripted technique was called, with a limit in milliseconds. -/
  | called (label : String) (limit : Nat)
  /-- Time passed. -/
  | slept (length : Nat)
deriving DecidableEq

/-! ### Routines and their composition -/

/-- The longest time for which anybody rests at once, in milliseconds: thirty years of 365 days.
Whoever waits for a moment in time waits longer than that if need be. -/
def longestRest : Nat := 946080000000

/-- A course of steps in surroundings of type `σ` that ends in a result of type `α`. -/
inductive Routine (σ α : Type) where
  /-- The routine is over. -/
  | done (result : α)
  /-- The routine breaks down. -/
  | breakdown (message : String)
  /-- The routine sleeps for ever. -/
  | hang
  /-- Time passes. -/
  | sleep (length : Nat) (next : Routine σ α)
  /-- The probe is asked. -/
  | ask (who : Asker) (next : Bool → Routine σ α)
  /-- Something is announced. -/
  | note (event : Event) (next : Routine σ α)
  /-- The surroundings are changed; the routine learns the time and what they were. -/
  | act (change : Nat → σ → σ) (next : Nat → σ → Routine σ α)

namespace Routine

variable {σ α β γ : Type}

/-- One routine after another. -/
def bind : Routine σ α → (α → Routine σ β) → Routine σ β
  | done a, f => f a
  | breakdown message, _ => breakdown message
  | hang, _ => hang
  | sleep length next, f => sleep length (next.bind f)
  | ask who next, f => ask who fun answer => (next answer).bind f
  | note event next, f => note event (next.bind f)
  | act change next, f => act change fun time s => (next time s).bind f

theorem done_bind (a : α) (f : α → Routine σ β) : (done a).bind f = f a := rfl

theorem bind_done (r : Routine σ α) : r.bind done = r := by
  induction r with
  | done a => rfl
  | breakdown message => rfl
  | hang => rfl
  | sleep length next ih => simp only [bind, ih]
  | ask who next ih => simp only [bind, ih]
  | note event next ih => simp only [bind, ih]
  | act change next ih => simp only [bind, ih]

theorem bind_assoc (r : Routine σ α) (f : α → Routine σ β) (g : β → Routine σ γ) :
    (r.bind f).bind g = r.bind fun a => (f a).bind g := by
  induction r with
  | done a => rfl
  | breakdown message => rfl
  | hang => rfl
  | sleep length next ih => simp only [bind, ih]
  | ask who next ih => simp only [bind, ih]
  | note event next ih => simp only [bind, ih]
  | act change next ih => simp only [bind, ih]

instance : Monad (Routine σ) where
  pure := done
  bind := bind

/-- Changes the surroundings and takes a value from them. -/
def update (f : Nat → σ → β × σ) : Routine σ β :=
  act (fun time s => (f time s).2) fun time s => done (f time s).1

/-- Gives a warning, if there is one to give. -/
def warn (warning : Option Warning) (next : Routine σ α) : Routine σ α :=
  match warning with
  | some w => note (.warned w) next
  | none => next

/-- Lets time pass, unless there is none to pass. -/
def pause (length : Nat) (next : Routine σ α) : Routine σ α :=
  if length = 0 then next else sleep length next

/-- Lets time pass, but no more than the longest rest. -/
def rest (length : Nat) (next : Routine σ α) : Routine σ α :=
  pause (min length longestRest) next

/-! ### Limits and stopwatches -/

/-- The routine cut off when `limit` milliseconds have passed; a result that comes exactly at the
limit counts.  The clock has no end here; limits stand for times below `2 ^ 64` milliseconds, since
the end of a limit beyond the range of a clock cannot be computed. -/
def within : (limit : Nat) → Routine σ α → Routine σ (Option α)
  | _, done a => done (some a)
  | _, breakdown message => breakdown message
  | limit, hang => pause limit (done none)
  | limit, sleep length next =>
    if length ≤ limit then sleep length (next.within (limit - length))
    else pause limit (done none)
  | limit, ask who next => ask who fun answer => (next answer).within limit
  | limit, note event next => note event (next.within limit)
  | limit, act change next => act change fun time s => (next time s).within limit

/-- The routine with its length added to the time `spent` before it. -/
def timedFrom : (spent : Nat) → Routine σ α → Routine σ (α × Nat)
  | spent, done a => done (a, spent)
  | _, breakdown message => breakdown message
  | _, hang => hang
  | spent, sleep length next => sleep length (next.timedFrom (spent + length))
  | spent, ask who next => ask who fun answer => (next answer).timedFrom spent
  | spent, note event next => note event (next.timedFrom spent)
  | spent, act change next => act change fun time s => (next time s).timedFrom spent

/-- The routine with its length in milliseconds. -/
def timed (r : Routine σ α) : Routine σ (α × Nat) :=
  r.timedFrom 0

end Routine

end CodePermit
