import CodePermit.Playback
/-!
# Plays taken up again

A play stops where the routine would sleep beyond a horizon, and may be taken up again later.  In
how many pieces it is played makes no difference, and neither does what was observed before it
began.

* `Playback.onto`, `play_onto`, `run_onto` — observations from before a play;
* `run_clock_le`, `play_of_run_le` — the clock of a play, and horizons that come after its end;
* `Stop.takeUp`, `takeUp_play` — a play in pieces is the play as a whole;
* `run_timed` — a stopwatch on a routine that ends.
-/

namespace CodePermit

open Routine

variable {σ α β : Type}

/-! ### Observations from before -/

/-- The play with observations from before it began. -/
def Playback.onto (p : Playback σ) (past : List (Nat × Event)) : Playback σ :=
  { p with history := p.history ++ past }

/-- The play without what was observed so far. -/
def Playback.afresh (p : Playback σ) : Playback σ :=
  { p with history := [] }

theorem events_onto (p : Playback σ) (past : List (Nat × Event)) :
    (p.onto past).events = past.reverse ++ p.events := by
  simp only [Playback.events, Playback.onto, List.reverse_append]

/-- What was observed before a play makes no difference to it. -/
theorem play_onto (probe : Probe σ) (horizon : Option Nat) (r : Routine σ α) (p : Playback σ)
    (past : List (Nat × Event)) :
    play probe horizon r (p.onto past) =
      ((play probe horizon r p).1, (play probe horizon r p).2.onto past) := by
  induction r generalizing p with
  | done a => rfl
  | breakdown message => rfl
  | hang => rfl
  | sleep length next ih =>
    have hclock : (p.onto past).clock = p.clock := rfl
    simp only [play, hclock]
    by_cases h : reaches horizon (p.clock + length) = true
    · rw [if_pos h, if_pos h]
      exact ih (p.pass length)
    · rw [if_neg h, if_neg h]
      rfl
  | ask who next ih => exact ih _ (p.ask probe who).2
  | note event next ih => exact ih (p.observe event)
  | act change next ih => exact ih _ _ (p.change change)

theorem toStop_injective {e e' : Ending α} (h : e.toStop σ = e'.toStop σ) : e = e' := by
  cases e <;> cases e' <;> simp [Ending.toStop] at h ⊢ <;> exact h

/-- What was observed before a run makes no difference to it. -/
theorem run_onto (probe : Probe σ) (r : Routine σ α) (p : Playback σ) (past : List (Nat × Event)) :
    run probe r (p.onto past) = ((run probe r p).1, (run probe r p).2.onto past) := by
  have h := play_onto probe none r p past
  rw [play_none, play_none] at h
  have hstop := toStop_injective (congrArg Prod.fst h)
  have hplay : (run probe r (p.onto past)).2 = (run probe r p).2.onto past := congrArg Prod.snd h
  exact Prod.ext hstop hplay

/-- A run from a moment on adds its own observations to those from before. -/
theorem run_afresh (probe : Probe σ) (r : Routine σ α) (p : Playback σ) :
    run probe r p =
      ((run probe r p.afresh).1, (run probe r p.afresh).2.onto p.history) :=
  run_onto probe r p.afresh p.history

/-! ### The clock -/

theorem run_clock_le (probe : Probe σ) (r : Routine σ α) (p : Playback σ) :
    p.clock ≤ (run probe r p).2.clock := by
  induction r generalizing p with
  | done a => exact Nat.le_refl _
  | breakdown message => exact Nat.le_refl _
  | hang => exact Nat.le_refl _
  | sleep length next ih => exact Nat.le_trans (Nat.le_add_right _ length) (ih (p.pass length))
  | ask who next ih => exact ih _ (p.ask probe who).2
  | note event next ih => exact ih (p.observe event)
  | act change next ih => exact ih _ _ (p.change change)

/-- A horizon behind the end of a play is no horizon. -/
theorem play_of_run_le {probe : Probe σ} {horizon : Nat} {r : Routine σ α} {p : Playback σ}
    (h : (run probe r p).2.clock ≤ horizon) :
    play probe (some horizon) r p = play probe none r p := by
  induction r generalizing p with
  | done a => rfl
  | breakdown message => rfl
  | hang => rfl
  | sleep length next ih =>
    have hawake : p.clock + length ≤ horizon :=
      Nat.le_trans (run_clock_le probe next (p.pass length)) h
    have hreaches : reaches (some horizon) (p.clock + length) = true := decide_eq_true hawake
    rw [play, if_pos hreaches]
    exact ih h
  | ask who next ih => exact ih _ (p := (p.ask probe who).2) h
  | note event next ih => exact ih (p := p.observe event) h
  | act change next ih => exact ih _ _ (p := p.change change) h

/-- A composed routine that ends has ended its first part before. -/
theorem finished_of_bind {probe : Probe σ} {r : Routine σ α} {f : α → Routine σ β}
    {p p'' : Playback σ} {b : β} (h : run probe (r.bind f) p = (.finished b, p'')) :
    ∃ a p', run probe r p = (.finished a, p') ∧ run probe (f a) p' = (.finished b, p'') := by
  rw [run_bind] at h
  obtain ⟨ending, p', hr⟩ : ∃ ending p', run probe r p = (ending, p') := ⟨_, _, rfl⟩
  rw [hr] at h
  cases ending with
  | finished a => exact ⟨a, p', hr, h⟩
  | brokenDown message => cases h
  | hung => cases h

/-! ### Plays in pieces -/

/-- Whatever a horizon reaches, a later one reaches too. -/
theorem reaches_of_le {horizon : Option Nat} {time earlier : Nat}
    (h : reaches horizon time = true) (hle : earlier ≤ time) : reaches horizon earlier = true := by
  cases horizon with
  | none => rfl
  | some t =>
    have ht : time ≤ t := of_decide_eq_true h
    exact decide_eq_true (Nat.le_trans hle ht)

/-- A play that has stopped is taken up again when the routine wakes, if it does so in time. -/
def Stop.takeUp (probe : Probe σ) (horizon : Option Nat) :
    Stop σ α × Playback σ → Stop σ α × Playback σ
  | (.asleep wake rest, p) =>
    if reaches horizon wake then play probe horizon rest { p with clock := wake }
    else (.asleep wake rest, p)
  | (.finished a, p) => (.finished a, p)
  | (.brokenDown message, p) => (.brokenDown message, p)
  | (.hung, p) => (.hung, p)

/-- **A play in pieces is the play as a whole**: played up to a horizon and taken up again, it
stops as if it had been played up to the later horizon at once. -/
theorem takeUp_play (probe : Probe σ) {earlier : Nat} {horizon : Option Nat}
    (hle : reaches horizon earlier = true) (r : Routine σ α) (p : Playback σ) :
    Stop.takeUp probe horizon (play probe (some earlier) r p) = play probe horizon r p := by
  induction r generalizing p with
  | done a => rfl
  | breakdown message => rfl
  | hang => rfl
  | sleep length next ih =>
    by_cases h : p.clock + length ≤ earlier
    · have hnear : reaches (some earlier) (p.clock + length) = true := decide_eq_true h
      have hfar : reaches horizon (p.clock + length) = true := reaches_of_le hle h
      rw [play, if_pos hnear, play, if_pos hfar]
      exact ih (p.pass length)
    · have hnear : ¬reaches (some earlier) (p.clock + length) = true := by
        intro hr
        exact h (of_decide_eq_true hr)
      rw [play, if_neg hnear, play]
      rfl
  | ask who next ih => exact ih _ (p.ask probe who).2
  | note event next ih => exact ih (p.observe event)
  | act change next ih => exact ih _ _ (p.change change)

/-! ### Stopwatches -/

/-- A routine that ends does so with a stopwatch as well. -/
theorem run_timed {probe : Probe σ} {r : Routine σ α} {p p' : Playback σ} {a : α} (spent : Nat)
    (h : run probe r p = (.finished a, p')) :
    ∃ d, run probe (r.timedFrom spent) p = (.finished (a, d), p') := by
  induction r generalizing p spent with
  | done b =>
    cases h
    exact ⟨spent, rfl⟩
  | breakdown message => cases h
  | hang => cases h
  | sleep length next ih => exact ih (p := p.pass length) (spent + length) h
  | ask who next ih => exact ih _ (p := (p.ask probe who).2) spent h
  | note event next ih => exact ih (p := p.observe event) spent h
  | act change next ih => exact ih _ _ (p := p.change change) spent h

end CodePermit
