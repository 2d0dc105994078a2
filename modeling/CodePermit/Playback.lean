import CodePermit.Routine
/-!
# Playing routines

A routine is played in surroundings, from a moment on, with a probe that answers as it likes: its
answer may depend on the time, on the surroundings and, through them, on how often it was asked.
The clock moves only while the routine sleeps.  Playing may stop at a horizon and be taken up
again from there.

* `Probe` — how the probe answers;
* `Playback` — where a play stands: clock, surroundings and history;
* `play` — plays a routine up to a horizon;
* `run` — plays a routine to its end;
* `run_bind` — how runs compose;
* `play_none` — play without a horizon is a run.
-/

namespace CodePermit

/-- How the probe answers at a time in given surroundings, and what asking leaves behind. -/
abbrev Probe (σ : Type) : Type :=
  Nat → σ → Bool × σ

/-- Where a play stands. -/
structure Playback (σ : Type) where
  /-- The time in milliseconds. -/
  clock : Nat
  /-- The surroundings. -/
  surroundings : σ
  /-- What was observed and when, latest first. -/
  history : List (Nat × Event)

/-- How a play stopped. -/
inductive Stop (σ α : Type) where
  /-- The routine is over. -/
  | finished (result : α)
  /-- The routine broke down. -/
  | brokenDown (message : String)
  /-- The routine sleeps for ever. -/
  | hung
  /-- The routine sleeps until a time behind the horizon. -/
  | asleep (wake : Nat) (rest : Routine σ α)

namespace Playback

variable {σ α β : Type}

/-- The same moment with one more observation. -/
def observe (p : Playback σ) (e : Event) : Playback σ :=
  { p with history := (p.clock, e) :: p.history }

/-- Asks the probe. -/
def ask (probe : Probe σ) (who : Asker) (p : Playback σ) : Bool × Playback σ :=
  let reply := probe p.clock p.surroundings
  (reply.1, { p.observe (.asked who reply.1) with surroundings := reply.2 })

/-- Changes the surroundings. -/
def change (p : Playback σ) (f : Nat → σ → σ) : Playback σ :=
  { p with surroundings := f p.clock p.surroundings }

/-- Lets time pass. -/
def pass (p : Playback σ) (length : Nat) : Playback σ :=
  { p.observe (.slept length) with clock := p.clock + length }

/-- The observations in the order in which they were made. -/
def events (p : Playback σ) : List (Nat × Event) :=
  p.history.reverse

end Playback

/-- A time lies no later than the horizon; `none` is no horizon. -/
def reaches (horizon : Option Nat) (time : Nat) : Bool :=
  horizon.all fun h => time ≤ h

variable {σ α β : Type}

/-- Plays a routine until it ends or wants to sleep beyond the horizon. -/
def play (probe : Probe σ) (horizon : Option Nat) :
    Routine σ α → Playback σ → Stop σ α × Playback σ
  | .done a, p => (.finished a, p)
  | .breakdown message, p => (.brokenDown message, p)
  | .hang, p => (.hung, p)
  | .sleep length next, p =>
    if reaches horizon (p.clock + length) then play probe horizon next (p.pass length)
    else (.asleep (p.clock + length) next, p.observe (.slept length))
  | .ask who next, p =>
    let asked := p.ask probe who
    play probe horizon (next asked.1) asked.2
  | .note event next, p => play probe horizon next (p.observe event)
  | .act change next, p => play probe horizon (next p.clock p.surroundings) (p.change change)

/-- How a routine ends when it is played without a horizon. -/
inductive Ending (α : Type) where
  /-- The routine is over. -/
  | finished (result : α)
  /-- The routine broke down. -/
  | brokenDown (message : String)
  /-- The routine sleeps for ever. -/
  | hung
deriving DecidableEq

/-- Plays a routine to its end. -/
def run (probe : Probe σ) : Routine σ α → Playback σ → Ending α × Playback σ
  | .done a, p => (.finished a, p)
  | .breakdown message, p => (.brokenDown message, p)
  | .hang, p => (.hung, p)
  | .sleep length next, p => run probe next (p.pass length)
  | .ask who next, p =>
    let asked := p.ask probe who
    run probe (next asked.1) asked.2
  | .note event next, p => run probe next (p.observe event)
  | .act change next, p => run probe (next p.clock p.surroundings) (p.change change)

/-! ### Laws -/

/-- Goes on with a second routine where the first one ended. -/
def Ending.andThen (probe : Probe σ) (f : α → Routine σ β) :
    Ending α × Playback σ → Ending β × Playback σ
  | (.finished a, p) => run probe (f a) p
  | (.brokenDown message, p) => (.brokenDown message, p)
  | (.hung, p) => (.hung, p)

theorem run_bind (probe : Probe σ) (r : Routine σ α) (f : α → Routine σ β) (p : Playback σ) :
    run probe (r.bind f) p = Ending.andThen probe f (run probe r p) := by
  induction r generalizing p with
  | done a => rfl
  | breakdown message => rfl
  | hang => rfl
  | sleep length next ih => simp only [Routine.bind, run, ih]
  | ask who next ih => simp only [Routine.bind, run, ih]
  | note event next ih => simp only [Routine.bind, run, ih]
  | act change next ih => simp only [Routine.bind, run, ih]

/-- The way a play without a horizon stops. -/
def Ending.toStop (σ : Type) : Ending α → Stop σ α
  | finished a => .finished a
  | brokenDown message => .brokenDown message
  | hung => .hung

theorem play_none (probe : Probe σ) (r : Routine σ α) (p : Playback σ) :
    play probe none r p = ((run probe r p).1.toStop σ, (run probe r p).2) := by
  induction r generalizing p with
  | done a => rfl
  | breakdown message => rfl
  | hang => rfl
  | sleep length next ih => simp only [play, run, reaches, Option.all_none, if_true, ih]
  | ask who next ih => simp only [play, run, ih]
  | note event next ih => simp only [play, run, ih]
  | act change next ih => simp only [play, run, ih]

end CodePermit
