import CodePermit.Proofs.Moments
import CodePermit.Proofs.RunManners
import CodePermit.Proofs.Verdict
/-!
# Vigilance

A run asks the probe wherever it matters: at the very moment at which an attempt begins, and at the
very moment at which the run gives up.  So no attempt is made when the permission is there already,
and a permission that comes in the course of a run and stays is never missed.

* `Steady`, `Chain.Discreet` — asking the probe, or a strategy whether it applies, decides nothing;
* `Course.Heeds` — a run goes on only where the probe would say no;
* `vigilant_rounds`, `vigilant_pass`, `vigilant_run` — attempts, entries and runs are vigilant;
* `Watchful`, `run_watchful` — no needless attempt and no missed permission.
-/

namespace CodePermit

open Routine

variable {σ : Type}

/-! ### Asking decides nothing -/

/-- The answer of the probe does not depend on how often it is asked at a time. -/
def Steady (probe : Probe σ) : Prop :=
  ∀ time s, (probe time (probe time s).2).1 = (probe time s).1

/-- The strategies of the chain do not change the permission when they are asked whether they
apply. -/
def Chain.Discreet (c : Chain σ) (probe : Probe σ) : Prop :=
  ∀ e ∈ c.entries, ∀ time s,
    (probe time (e.strategy.applicable time s).2).1 = (probe time s).1

variable {probe : Probe σ} {q : Playback σ}

theorem denied_ask (hp : Steady probe) {who : Asker} (h : (q.ask probe who).1 = false) :
    Denied probe (q.ask probe who).2 :=
  (hp q.clock q.surroundings).trans h

/-! ### Runs are vigilant -/

/-- A run goes on only where the probe would say no, and ends before all entries are tried only with
success. -/
def Course.Heeds (probe : Probe σ) : Course → Playback σ → Prop
  | .onward _, q => Denied probe q
  | .ended c, _ => c.phase.isSucceeded = true

theorem vigilant_checkpoint (hp : Steady probe) {p : Progress} {next : Routine σ Course}
    (hn : ∀ q, Denied probe q → Vigilant probe next q (Course.Heeds probe)) :
    Vigilant probe (checkpoint p next) q (Course.Heeds probe) := by
  refine vigilant_ask ?_
  split
  · exact vigilant_done (permitted_isSucceeded p)
  · rename_i hno
    exact hn _ (denied_ask hp (Bool.eq_false_iff.2 hno))

theorem vigilant_rest {α : Type} {r : Routine σ α} {post : α → Playback σ → Prop} (length : Nat)
    (h : ∀ q, Vigilant probe r q post) : Vigilant probe (rest length r) q post := by
  unfold rest pause
  split
  · exact h q
  · exact vigilant_sleep (h _)

theorem vigilant_interlude (hp : Steady probe) {e : Entry σ} {n : Nat} {p : Progress}
    (h : Denied probe q) : Vigilant probe (interlude e n p) q (Course.Heeds probe) := by
  unfold interlude
  split
  · exact vigilant_done h
  · exact vigilant_rest _ fun q => vigilant_checkpoint hp fun q hq => vigilant_done hq

/-- An attempt that is not granted ends where the probe would say no. -/
theorem vigilant_attemptOnce (hp : Steady probe) {e : Entry σ} {index n : Nat}
    (h : Denied probe q) :
    Vigilant probe (attemptOnce e index n) q fun x q' => x.1 = .granted ∨ Denied probe q' := by
  have hk : Routine.Keeps .aside ((e.strategy.attempt e.policy.timeout).within e.policy.timeout) :=
    keeps_within _ (fun _ => rfl) (e.strategy.aside _)
  refine vigilant_note (fun _ => h) (vigilant_bind (vigilant_of_aside (keeps_timed hk)) ?_)
  intro reported q' _
  refine vigilant_ask (vigilant_done ?_)
  cases hanswer : (q'.ask probe .run).1 with
  | true => exact Or.inl rfl
  | false => exact Or.inr (denied_ask hp hanswer)

/-- **The attempts on an entry are vigilant**, since before each of them and after the last one the
probe has just said no. -/
theorem vigilant_rounds (hp : Steady probe) {e : Entry σ} {index left n : Nat} {p : Progress}
    (h : Denied probe q) : Vigilant probe (rounds e index left n p) q (Course.Heeds probe) := by
  induction left generalizing n p q with
  | zero => exact vigilant_done h
  | succ left ih =>
    refine vigilant_note (fun hattempt => nomatch hattempt) ?_
    -- after a pause the probe is asked again, so the no from before it need not last
    refine vigilant_bind (vigilant_interlude hp h) ?_
    rintro (p | c) q' hq
    · refine vigilant_bind (vigilant_attemptOnce hp hq) ?_
      rintro ⟨o, d⟩ q'' ho
      cases o with
      | granted => exact vigilant_done rfl
      | unavailable => exact vigilant_done (ho.resolve_left nofun)
      | denied reason =>
        exact vigilant_note (fun hattempt => nomatch hattempt) (ih (ho.resolve_left nofun))
      | timedOut =>
        exact vigilant_note (fun hattempt => nomatch hattempt) (ih (ho.resolve_left nofun))
    · exact vigilant_done hq

/-- A visit of an entry is vigilant whatever the probe said before. -/
theorem vigilant_visit (hp : Steady probe) {host : Option Version} {e : Entry σ} {index : Nat}
    {p : Progress} (hd : ∀ time s, (probe time (e.strategy.applicable time s).2).1 =
      (probe time s).1) : Vigilant probe (visit host e index p) q (Course.Heeds probe) := by
  refine vigilant_checkpoint hp fun q hq => ?_
  have hasked : Denied probe (q.change fun time s => (e.strategy.applicable time s).2) :=
    (hd q.clock q.surroundings).trans hq
  dsimp only
  split
  · refine vigilant_act ?_
    split
    · refine vigilant_note (fun hattempt => nomatch hattempt) ?_
      dsimp only
      split
      · exact vigilant_rounds hp hasked
      · exact vigilant_done hasked
    · exact ⟨nofun, fun _ _ hrun => nomatch hrun⟩
  · exact vigilant_done hq

/-- **Entries one after another are vigilant**; where all of them are tried the probe would still
say no. -/
theorem vigilant_pass (hp : Steady probe) {host : Option Version} {index : Nat}
    {entries : List (Entry σ)} {p : Progress} (hd : ∀ e ∈ entries, ∀ time s,
      (probe time (e.strategy.applicable time s).2).1 = (probe time s).1)
    (h : entries = [] → Denied probe q) :
    Vigilant probe (pass host index entries p) q fun c q' =>
      c.phase.isSucceeded = true ∨ Denied probe q' := by
  induction entries generalizing index p q with
  | nil =>
    exact vigilant_note (fun hattempt => nomatch hattempt) (vigilant_done (Or.inr (h rfl)))
  | cons e entries ih =>
    refine vigilant_bind (vigilant_visit hp (hd e List.mem_cons_self)) ?_
    rintro (p | c) q' hq
    · exact ih (fun e he => hd e (List.mem_cons_of_mem _ he)) fun _ => hq
    · exact vigilant_done (Or.inl hq)

/-- **Runs are vigilant**, and where they fail the probe would say no. -/
theorem vigilant_run (hp : Steady probe) {c : Chain σ} (hne : c.entries ≠ [])
    (hd : c.Discreet probe) : Vigilant probe c.run q fun report q' =>
      report.phase.isSucceeded = true ∨ Denied probe q' := by
  refine vigilant_bind (vigilant_timed (vigilant_pass hp hd fun h => absurd h hne)) ?_
  exact fun result q' h => vigilant_done h

/-! ### No needless attempt and no missed permission -/

/-- What a run that ends with a report owes to the probe. -/
structure Watchful (probe : Probe σ) (c : Chain σ) (p : Playback σ) (report : Report)
    (p' : Playback σ) : Prop where
  /-- What is observed of the run is observed at its moments. -/
  observed : p'.events = p.events ++ (moments probe c.run p).filterMap Moment.observation
  /-- No attempt begins at a moment at which the probe would say yes. -/
  needful : ∀ m ∈ moments probe c.run p, ∀ index n limit,
    m.event = some (.attempted index n limit) → (probe m.time m.surroundings).1 = false
  /-- After a yes to the run nothing more is observed: no entry is asked or attempted, no phase is
  announced, and no time passes. -/
  quiet : ∀ before time after, (moments probe c.run p).filterMap Moment.observation =
    before ++ (time, .asked .run true) :: after → after = []
  /-- Where the run fails the probe would say no. -/
  failing : report.phase.isFailed = true → (probe p'.clock p'.surroundings).1 = false
  /-- If from some moment of the run on the probe would always say yes, the run succeeds. -/
  noneMissed : ∀ before m after, moments probe c.run p ++ [p'.moment none] = before ++ m :: after →
    (∀ x ∈ m :: after, (probe x.time x.surroundings).1 = true) → report.phase.isSucceeded = true

/-- **No needless attempt and no missed permission.**  If the answer of the probe does not depend on
who is asked how often, a run of a chain with entries ends with a report and is watchful, unless one
of its techniques breaks down. -/
theorem run_watchful {c : Chain σ} (hne : c.entries ≠ []) (hp : Steady probe)
    (hd : c.Discreet probe) (p : Playback σ) :
    (∃ report p', run probe c.run p = (.finished report, p') ∧ Watchful probe c p report p') ∨
      ¬c.Calm ∧ ∃ message p', run probe c.run p = (.brokenDown message, p') := by
  refine (run_ends c probe p).imp_left ?_
  rintro ⟨report, p', hrun⟩
  obtain ⟨hneedful, hends⟩ := vigilant_run (q := p) hp hne hd
  have hend := hends report p' hrun
  have hevents := events_run probe c.run p
  rw [hrun] at hevents
  refine ⟨report, p', hrun, hevents, fun m hm index n limit he => ?_,
    fun before time after hs => ?_, fun hfailed => ?_, fun before m after hs hyes => ?_⟩
  · exact Bool.eq_false_iff.2 (hneedful m hm _ he rfl)
  · obtain ⟨es, hes, hleads⟩ := run_leads probe hrun
    rw [hevents, List.append_cancel_left_eq] at hes
    rw [← hes, hs, List.map_append, List.map_cons] at hleads
    rcases run_verdict hleads with ⟨-, hconfirmed⟩ | ⟨-, hunconfirmed⟩
    · exact List.map_eq_nil_iff.1 (hconfirmed.nothing_after rfl)
    · exact absurd (List.mem_append_right _ List.mem_cons_self) hunconfirmed
  · refine hend.resolve_left fun hs => ?_
    exact Bool.false_ne_true ((Phase.isSucceeded_of_isFailed hfailed).symm.trans hs)
  · refine hend.resolve_right fun hno => ?_
    have hlast : (m :: after).getLast? = some (p'.moment none) := by
      have hlasts := congrArg List.getLast? hs
      rw [List.getLast?_concat, List.getLast?_append, List.getLast?_cons, Option.some_or] at hlasts
      rw [List.getLast?_cons]
      exact hlasts.symm
    have hpermitted := hyes _ (List.mem_of_getLast? hlast)
    exact Bool.false_ne_true (hno.symm.trans hpermitted)

/-- A permission that comes after seven milliseconds. -/
def comingProbe : Probe Unit :=
  fun time s => (7 ≤ time, s)

/-- One technique that never ends by itself and is cut off after ten milliseconds. -/
def sleepyChain : Chain Unit where
  entries :=
    [⟨{ technique := .awaitDebugger, priority := 0, timeout := 10 },
      .always (fun _ => .hang) fun _ => trivial⟩]
  host := none

/-- The permission that comes while the technique sleeps is not missed. -/
theorem run_watchful_coming : sleepyChain.entries ≠ [] ∧ Steady comingProbe ∧
    sleepyChain.Discreet comingProbe ∧
    ∃ report p', run comingProbe sleepyChain.run ⟨0, (), []⟩ = (.finished report, p') ∧
      report.phase = .succeeded .awaitDebugger ∧
      Watchful comingProbe sleepyChain ⟨0, (), []⟩ report p' := by
  have hne : sleepyChain.entries ≠ [] := nofun
  have hp : Steady comingProbe := fun _ _ => rfl
  have hd : sleepyChain.Discreet comingProbe := by
    intro e he time s
    rw [List.mem_singleton.1 he]
  refine ⟨hne, hp, hd, ?_⟩
  have hrun : run comingProbe sleepyChain.run ⟨0, (), []⟩ =
    (.finished ⟨[⟨.awaitDebugger, 1, .granted, 10⟩], .succeeded .awaitDebugger, 10⟩, _) := rfl
  rcases run_watchful hne hp hd ⟨0, (), []⟩ with ⟨report, p', h, hw⟩ | ⟨-, message, p', h⟩
  · refine ⟨report, p', h, ?_, hw⟩
    rw [hrun] at h
    cases h
    rfl
  · rw [hrun] at h
    cases h

end CodePermit
