import CodePermit.Proofs.Priorities
/-!
# Permission that is there already

A run looks at the probe before it looks at its first entry.  If the permission is there it is over
at once, whatever the entries are: nothing is called, announced or waited for, and the only record
says that the permission was found.  A chain without entries has no first entry, so nobody looks.

* `run_pass_permitted`, `run_cons_permitted` — entries, and chains, that find the permission there;
* `run_nil` — a run of a chain without entries, whatever the probe would say;
* `run_permitted` — a run of entries in any order that finds the permission there;
* `permission_unseen_without_entries` — without an entry a permission that is there goes unseen.
-/

namespace CodePermit

open Routine

variable {σ : Type} {probe : Probe σ} {host : Option Version} {entries : List (Entry σ)}

/-! ### The first question -/

/-- Wherever the probe says yes, the next entry is not looked at. -/
theorem run_pass_permitted {index : Nat} {e : Entry σ} {p : Progress} {q : Playback σ}
    (hyes : (q.ask probe .run).1 = true) :
    run probe (pass host index (e :: entries) p) q =
      (.finished p.permitted, (q.ask probe .run).2) := by
  rw [pass, visit, checkpoint, run_bind, run]
  dsimp only
  rw [if_pos hyes]
  rfl

/-- A run whose first question is answered with yes makes no other step. -/
theorem run_cons_permitted {e : Entry σ} {p : Playback σ} (hyes : (p.ask probe .run).1 = true) :
    run probe (Chain.run ⟨e :: entries, host⟩) p =
      (.finished ⟨[.detected], .succeeded .preGranted, 0⟩, (p.ask probe .run).2) := by
  unfold Chain.run
  dsimp only
  rw [pass, visit, checkpoint]
  simp only [Routine.bind, timed, timedFrom, run, hyes, if_true]
  rfl

theorem sorted_eq_nil_iff : sorted entries = [] ↔ entries = [] := by
  have hlength : (sorted entries).length = entries.length := by simp [sorted]
  rw [← List.length_eq_zero_iff, hlength, List.length_eq_zero_iff]

/-- A chain without entries fails without asking anybody. -/
theorem run_nil (host : Option Version) (probe : Probe σ) (p : Playback σ) :
    run probe (Chain.ofEntries [] host).run p =
      (.finished ⟨[], .failed .nothingApplicable true, 0⟩,
        p.observe (.warned (.runFailed .nothingApplicable))) := by
  have hchain : (Chain.ofEntries [] host : Chain σ) = ⟨[], host⟩ := by
    rw [Chain.ofEntries, sorted_eq_nil_iff.2 rfl]
  rw [hchain]
  rfl

/-! ### Runs -/

/-- **A permission that is there ends a run at once.**  If there is an entry at all, then of all
that a run can do only the first question is observed, no time passes, and the report has one
record, that of a permission found before anything was tried. -/
theorem run_permitted (entries : List (Entry σ)) (host : Option Version) (probe : Probe σ)
    (p : Playback σ) (hne : entries ≠ []) (hyes : (probe p.clock p.surroundings).1 = true) :
    ∃ p', run probe (Chain.ofEntries entries host).run p =
        (.finished ⟨[.detected], .succeeded .preGranted, 0⟩, p') ∧
      p'.events = p.events ++ [(p.clock, .asked .run true)] ∧ p'.clock = p.clock ∧
      p'.surroundings = (probe p.clock p.surroundings).2 := by
  have hasked : (p.ask probe .run).1 = true := hyes
  have hevents : (p.ask probe .run).2.events = p.events ++ [(p.clock, .asked .run true)] := by
    rw [← hasked]
    exact List.reverse_cons
  -- in the order of priorities some entry or other comes first
  obtain ⟨e, rest, hsorted⟩ : ∃ e rest, sorted entries = e :: rest :=
    List.exists_cons_of_ne_nil (mt sorted_eq_nil_iff.1 hne)
  have hchain : Chain.ofEntries entries host = ⟨e :: rest, host⟩ := by
    rw [Chain.ofEntries, hsorted]
  refine ⟨(p.ask probe .run).2, ?_, hevents, rfl, rfl⟩
  rw [hchain]
  exact run_cons_permitted hasked

/-- The entries may be of any kind: here the first in order is switched off, and neither it nor the
other, which would break down, is asked whether it applies. -/
theorem run_permitted_switchedOff :
    let breaking : Strategy Unit :=
      ⟨fun _ s => (.error "broken", s), fun _ => .breakdown "broken", fun _ => trivial⟩
    let entries : List (Entry Unit) :=
      [⟨.ofTechnique .selfElevation, breaking⟩,
        ⟨{ Policy.ofTechnique .preGranted with eligibility := { enabled := false } }, breaking⟩]
    entries ≠ [] ∧ ∃ p', run (fun _ s => (true, s)) (Chain.ofEntries entries none).run ⟨0, (), []⟩ =
        (.finished ⟨[.detected], .succeeded .preGranted, 0⟩, p') ∧
      p'.events = [(0, .asked .run true)] ∧ p'.clock = 0 := by
  intro breaking entries
  have hne : entries ≠ [] := List.cons_ne_nil _ _
  obtain ⟨p', hrun, hevents, hclock, -⟩ :=
    run_permitted entries none (fun _ s => (true, s)) ⟨0, (), []⟩ hne rfl
  exact ⟨hne, p', hrun, hevents, hclock⟩

/-- Without an entry a permission that is there goes unseen. -/
theorem permission_unseen_without_entries :
    (run (fun _ s => (true, s)) (Chain.ofEntries [] none).run ⟨0, (), []⟩).1 =
      .finished ⟨[], .failed .nothingApplicable true, 0⟩ := by
  rw [run_nil]

end CodePermit
