import CodePermit.Strategy.Polling
/-!
# The companion helper

A helper outside the process is asked to attach a debugger.  As long as it cannot be reached the
request is repeated after growing pauses; once it says that it has attached, the probe is polled
until it confirms.

* `Transport` — how requests reach a helper;
* `negotiate` — requests until the helper answers for good or the limit is reached;
* `companionHelper` — the strategy.
-/

namespace CodePermit

/-- How requests reach a helper.  A transport sends one request at a time. -/
structure Transport (σ : Type) where
  /-- Whether a helper can be reached at all. -/
  available : Nat → σ → Bool
  /-- Sends one request and waits for the answer. -/
  send : AttachRequest → Routine σ (Except HelperFault AttachReply)
  /-- It speaks in its own name. -/
  aside : ∀ request, (send request).Keeps .aside

variable {σ : Type}

/-- The longest pause between two requests, in milliseconds. -/
def longestPause : Nat := 4000

/-- The pause after a pause. -/
def nextPause (pause : Nat) : Nat :=
  min (pause * 2) longestPause

/-- Sends requests until the helper has attached, which gives the time left, or until the attempt is
over.  A pause that would reach the limit is not begun.  Pauses of no length let no time pass; after
`tries` of them the routine sleeps for ever, where a process would go on without end: the bound is
the model's own.  Requests are counted by `number`. -/
def negotiate (transport : Transport σ) (request : AttachRequest)
    (number tries limit pause : Nat) : Routine σ (Except Outcome Nat) :=
  .note (.requested request) <|
    (transport.send request).timed.bind fun answer =>
      let left := limit - answer.2
      match answer.1 with
      | .ok .attached => .done (.ok left)
      | .ok (.rejected reason) => .done (.error (.denied reason))
      | .error fault =>
        if fault.isTransient then
          .note (.warned (.requestFailed fault number)) <|
            if left ≤ pause then .done (.error .timedOut)
            else if pause = 0 then
              match tries with
              | 0 => .hang
              | tries + 1 => negotiate transport request (number + 1) tries left 0
            else
              let step := min pause longestRest
              .sleep step
                (negotiate transport request (number + 1) tries (left - step) (nextPause pause))
        else
          .note (.warned (.exchangeFailed fault)) (.done (.error (.denied fault.message)))
termination_by limit + tries
decreasing_by
  · omega
  · simp only [longestRest] at *
    omega

theorem negotiate_aside (transport : Transport σ) (request : AttachRequest)
    (number tries limit pause : Nat) :
    (negotiate transport request number tries limit pause).Keeps .aside := by
  generalize hm : limit + tries = measure
  induction measure using Nat.strongRecOn generalizing number tries limit pause with
  | ind measure ih =>
    rw [negotiate]
    refine ⟨rfl, Routine.keeps_bind (Routine.keeps_timed (transport.aside request)) ?_⟩
    intro answer
    dsimp only
    split
    · trivial
    · trivial
    · split
      · refine ⟨rfl, ?_⟩
        split
        · trivial
        · split
          · split
            · trivial
            · exact ih _ (by omega) _ _ _ _ rfl
          · refine ⟨rfl, ih _ ?_ _ _ _ _ rfl⟩
            simp only [longestRest] at *
            omega
      · exact ⟨rfl, trivial⟩

/-- Asks a helper to attach and waits for the probe to confirm. -/
def companionHelper (transport : Option (Transport σ)) (request : AttachRequest)
    (interval : Nat) : Strategy σ where
  applicable := fun time s => (.ok (transport.any fun t => t.available time s), s)
  attempt := fun limit =>
    match transport with
    | none => .done .unavailable
    | some t =>
      (negotiate t request 1 patience limit interval).bind fun result =>
        match result with
        | .ok left => poll interval left
        | .error outcome => .done outcome
  aside := fun limit => by
    cases transport with
    | none => trivial
    | some t =>
      refine Routine.keeps_bind (negotiate_aside t request 1 patience limit interval) ?_
      rintro (outcome | left)
      · trivial
      · exact poll_aside interval left

end CodePermit
