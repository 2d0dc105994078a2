import CodePermit.Manners
import CodePermit.Playback
import CodePermit.Report
/-!
# Strategies

A strategy is the working side of a technique: it says at once whether it applies, and it can be
attempted under a limit.  Both may do anything to the surroundings; neither is trusted.  What a
strategy cannot do is to speak for the run: phases and records are not its to make.

* `Strategy` — the two capabilities;
* `Strategy.consult` — the routine that asks whether a strategy applies.
-/

namespace CodePermit

/-- What a technique does in surroundings of type `σ`. -/
structure Strategy (σ : Type) where
  /-- Whether the technique applies, which may also break down with a message. -/
  applicable : Nat → σ → Except String Bool × σ
  /-- One attempt under a limit in milliseconds. -/
  attempt : (limit : Nat) → Routine σ Outcome
  /-- It speaks in its own name. -/
  aside : ∀ limit, (attempt limit).Keeps .aside

namespace Strategy

variable {σ α : Type}

/-- A strategy that always applies. -/
def always (attempt : Nat → Routine σ Outcome) (aside : ∀ limit, (attempt limit).Keeps .aside) :
    Strategy σ :=
  ⟨fun _ s => (.ok true, s), attempt, aside⟩

/-- Asks the strategy at an index whether it applies and goes on with the answer. -/
def consult (strategy : Strategy σ) (index : Nat) (next : Bool → Routine σ α) : Routine σ α :=
  .act (fun time s => (strategy.applicable time s).2) fun time s =>
    match (strategy.applicable time s).1 with
    | .ok answer => .note (.inspected index answer) (next answer)
    | .error message => .breakdown message

end Strategy

end CodePermit
