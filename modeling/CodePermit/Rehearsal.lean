import CodePermit.Playback
import CodePermit.Strategy.Companion
/-!
# Rehearsals

A chain can be rehearsed: the permission changes by a timetable, the probe may be given answers in
advance, and techniques and helpers act out parts that are written beforehand.

* `Turn`, `Part` — what an actor does, turn by turn;
* `Rehearsal` — the surroundings of a rehearsal;
* `Rehearsal.probe` — how the probe answers in them;
* `Rehearsal.strategy`, `Rehearsal.transport` — a technique and a helper that act out a part.
-/

namespace CodePermit

/-! ### Parts -/

/-- How a turn ends. -/
inductive TurnEnd (α : Type) where
  /-- With a result. -/
  | gives (result : α)
  /-- Never. -/
  | hangs
  /-- With a breakdown. -/
  | breaks (message : String)

/-- One turn of an actor: time passes, then the permission may change, then the turn ends. -/
structure Turn (α : Type) where
  /-- The time that passes, in milliseconds. -/
  delay : Nat := 0
  /-- The permission from then on, if it changes. -/
  permission : Option Bool := none
  /-- How the turn ends. -/
  finish : TurnEnd α

/-- What is left of the part of an actor. -/
structure Part where
  /-- The answers to whether the technique applies; afterwards it does. -/
  applicable : List Bool := []
  /-- The attempts. -/
  attempts : List (Turn Outcome) := []
  /-- The answers of a helper. -/
  replies : List (Turn (Except HelperFault AttachReply)) := []

/-- The surroundings of a rehearsal. -/
structure Rehearsal where
  /-- The permission. -/
  permission : Bool := false
  /-- The changes of the permission that are still to come, with their times. -/
  timetable : List (Nat × Bool) := []
  /-- Answers of the probe given in advance. -/
  answers : List Bool := []
  /-- The parts of the actors. -/
  parts : List Part := []

namespace Rehearsal

/-! ### The probe -/

/-- The surroundings after the changes that are due at a time; the last of them counts. -/
def catchUp (time : Nat) (r : Rehearsal) : Rehearsal :=
  let due := r.timetable.filter fun change => change.1 ≤ time
  { r with
    permission := (due.getLast?.map Prod.snd).getD r.permission
    timetable := r.timetable.filter fun change => ¬change.1 ≤ time }

/-- The probe gives the answers given in advance first and then the permission. -/
def probe : Probe Rehearsal := fun time r =>
  let r := r.catchUp time
  match r.answers with
  | [] => (r.permission, r)
  | answer :: rest => (answer, { r with answers := rest })

/-- The surroundings with the permission changed at a time. -/
def setPermission (permission : Bool) (time : Nat) (r : Rehearsal) : Rehearsal :=
  { r.catchUp time with permission := permission }

/-! ### Acting out parts -/

/-- The part of an actor. -/
def part (r : Rehearsal) (actor : Nat) : Part :=
  r.parts.getD actor {}

/-- The surroundings with another part for an actor. -/
def setPart (r : Rehearsal) (actor : Nat) (part : Part) : Rehearsal :=
  { r with parts := r.parts.set actor part }

/-- Acts out a turn. -/
def perform {α : Type} (turn : Turn α) : Routine Rehearsal α :=
  let finish : Routine Rehearsal α :=
    match turn.finish with
    | .gives result => .done result
    | .hangs => .hang
    | .breaks message => .breakdown message
  .rest turn.delay <|
    match turn.permission with
    | none => finish
    | some permission => .act (setPermission permission) fun _ _ => finish

theorem perform_aside {α : Type} (turn : Turn α) : (perform turn).Keeps .aside := by
  refine Routine.keeps_rest turn.delay (fun _ => rfl) ?_
  have hfinish : ∀ finish : TurnEnd α, Routine.Keeps .aside
      (match finish with
        | .gives result => .done result
        | .hangs => .hang
        | .breaks message => .breakdown message : Routine Rehearsal α) := by
    intro finish
    cases finish <;> trivial
  split
  · exact hfinish turn.finish
  · exact fun _ _ => hfinish turn.finish

/-- What is said when a part is over. -/
def partIsOver : String :=
  "script exhausted"

/-- Whether a technique applies, by its part. -/
def applies (actor : Nat) (r : Rehearsal) : Bool × Rehearsal :=
  let part := r.part actor
  match part.applicable with
  | [] => (true, r)
  | answer :: rest => (answer, r.setPart actor { part with applicable := rest })

/-- Takes the next attempt from a part. -/
def nextAttempt (actor : Nat) (r : Rehearsal) : Turn Outcome × Rehearsal :=
  let part := r.part actor
  match part.attempts with
  | [] => ({ finish := .gives (.denied partIsOver) }, r)
  | turn :: rest => (turn, r.setPart actor { part with attempts := rest })

/-- Takes the next answer from a part. -/
def nextReply (actor : Nat) (r : Rehearsal) :
    Turn (Except HelperFault AttachReply) × Rehearsal :=
  let part := r.part actor
  match part.replies with
  | [] => ({ finish := .gives (.error (.unreachable partIsOver)) }, r)
  | turn :: rest => (turn, r.setPart actor { part with replies := rest })

/-- A technique that acts out a part and says when it is called. -/
def strategy (label : String) (actor : Nat) : Strategy Rehearsal where
  applicable := fun _ r => ((applies actor r).map Except.ok id)
  attempt := fun limit =>
    .note (.called label limit) <|
      (Routine.update fun _ r => nextAttempt actor r).bind perform
  aside := fun _ => ⟨rfl, fun _ _ => perform_aside _⟩

/-- A helper that acts out a part. -/
def transport (available : Bool) (actor : Nat) : Transport Rehearsal where
  available := fun _ _ => available
  send := fun _ => (Routine.update fun _ r => nextReply actor r).bind perform
  aside := fun _ _ _ => perform_aside _

end Rehearsal

end CodePermit
