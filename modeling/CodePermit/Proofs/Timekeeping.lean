import CodePermit.Proofs.Moments
import CodePermit.Proofs.RunShape
/-!
# Timekeeping

A run takes no time but that of its attempts and of the pauses between them.  No attempt takes
longer than its policy allows, and so a run takes no longer than the budgets of the entries tried.

* `pausesIn`, `Balanced` — the pauses that were announced, and a clock that shows no other time than
  theirs and that of the records;
* `EndsSo`, `ends_bind` — what holds where a routine is over;
* `ends_rounds`, `ends_pass`, `run_elapsed` — the clock of a run is balanced throughout;
* `leads_within_time`, `tour_inTime` — attempts keep within their limits;
* `tries_withinBudget`, `tour_withinBudget` — entries and runs keep within their budgets;
* `Timekeeping`, `run_accounted` — the time that a run takes;
* `elapsed_of_long_backoff` — no pause is longer than the longest rest.
-/

namespace CodePermit

open Routine

variable {σ α β : Type}

/-! ### Pauses and durations -/

/-- The pause before each attempt but the first, as long as anybody rests for it. -/
def Policy.pause (p : Policy) : Nat :=
  min p.backoff longestRest

/-- The pause that an announcement brings with it, where a further attempt on the entry at an index
is preceded by a pause of the given length. -/
def Event.pause (pauses : Nat → Nat) : Event → Nat
  | published (.inProgress index attempt) => if 1 < attempt then pauses index else 0
  | _ => 0

/-- All pauses that announcements bring with them. -/
def pausesIn (pauses : Nat → Nat) : List Event → Nat
  | [] => 0
  | e :: es => e.pause pauses + pausesIn pauses es

/-- The time of which records tell. -/
def totalDuration : List Record → Nat
  | [] => 0
  | r :: rs => r.duration + totalDuration rs

theorem pausesIn_cons (pauses : Nat → Nat) (e : Event) (es : List Event) :
    pausesIn pauses (e :: es) = e.pause pauses + pausesIn pauses es := rfl

theorem pausesIn_append (pauses : Nat → Nat) (es es' : List Event) :
    pausesIn pauses (es ++ es') = pausesIn pauses es + pausesIn pauses es' := by
  induction es with
  | nil => exact (Nat.zero_add _).symm
  | cons e es ih =>
    rw [List.cons_append, pausesIn_cons, pausesIn_cons, ih, Nat.add_assoc]

theorem pausesIn_reverse (pauses : Nat → Nat) (es : List Event) :
    pausesIn pauses es.reverse = pausesIn pauses es := by
  induction es with
  | nil => rfl
  | cons e es ih =>
    have hlast : pausesIn pauses [e] = e.pause pauses := rfl
    rw [List.reverse_cons, pausesIn_append, ih, hlast, pausesIn_cons, Nat.add_comm]

theorem pausesIn_eq_zero {pauses : Nat → Nat} {es : List Event}
    (h : ∀ e ∈ es, e.pause pauses = 0) : pausesIn pauses es = 0 := by
  induction es with
  | nil => rfl
  | cons e es ih =>
    obtain ⟨he, hes⟩ := List.forall_mem_cons.1 h
    rw [pausesIn_cons, he, ih hes]

theorem totalDuration_append (rs rs' : List Record) :
    totalDuration (rs ++ rs') = totalDuration rs + totalDuration rs' := by
  induction rs with
  | nil => exact (Nat.zero_add _).symm
  | cons r rs ih =>
    show r.duration + totalDuration (rs ++ rs') = r.duration + totalDuration rs + _
    rw [ih, Nat.add_assoc]

theorem pause_of_isAside (pauses : Nat → Nat) {e : Event} (h : e.isAside = true) :
    e.pause pauses = 0 := by
  cases e <;> first | rfl | cases h

/-- The pauses announced in a play. -/
def Playback.pauses (q : Playback σ) (pauses : Nat → Nat) : Nat :=
  pausesIn pauses (q.history.map Prod.snd)

/-! ### What holds where a routine is over -/

/-- Where the routine is over when it is played from a moment on, its result suits the moment. -/
def EndsSo (probe : Probe σ) (r : Routine σ α) (q : Playback σ) (post : α → Playback σ → Prop) :
    Prop :=
  ∀ a q', run probe r q = (.finished a, q') → post a q'

section Rules

variable {probe : Probe σ} {q : Playback σ} {post : α → Playback σ → Prop}

theorem ends_done {a : α} (h : post a q) : EndsSo probe (.done a) q post := by
  intro b q' hrun
  cases hrun
  exact h

theorem ends_bind {r : Routine σ α} {f : α → Routine σ β} {post' : β → Playback σ → Prop}
    (hr : EndsSo probe r q post) (hf : ∀ a q', post a q' → EndsSo probe (f a) q' post') :
    EndsSo probe (r.bind f) q post' := by
  intro b q'' hrun
  rw [run_bind] at hrun
  obtain ⟨ending, q', h⟩ : ∃ ending q', run probe r q = (ending, q') := ⟨_, _, rfl⟩
  rw [h] at hrun
  cases ending with
  | finished a => exact hf a q' (hr a q' h) b q'' hrun
  | brokenDown message => cases hrun
  | hung => cases hrun

/-- A stopwatch shows by how much the clock has moved on. -/
theorem run_timedFrom_clock {r : Routine σ α} {spent d : Nat} {a : α} {q' : Playback σ}
    (h : run probe (r.timedFrom spent) q = (.finished (a, d), q')) :
    q'.clock + spent = q.clock + d := by
  induction r generalizing q spent with
  | done b =>
    cases h
    rfl
  | breakdown message => cases h
  | hang => cases h
  | sleep length next ih =>
    have hnext : q'.clock + (spent + length) = q.clock + length + d := ih h
    omega
  | ask who next ih => exact ih _ (q := (q.ask probe who).2) h
  | note event next ih => exact ih (q := q.observe event) h
  | act change next ih => exact ih _ _ (q := q.change change) h

/-- Techniques announce no pauses. -/
theorem run_pauses {r : Routine σ α} (pauses : Nat → Nat) (hr : r.Keeps .aside) :
    (run probe r q).2.pauses pauses = q.pauses pauses := by
  have heard : ∀ (q : Playback σ) (e : Event), e.isAside = true →
      (q.observe e).pauses pauses = q.pauses pauses := by
    intro q e he
    rw [Playback.pauses, Playback.observe, List.map_cons, pausesIn_cons, pause_of_isAside _ he,
      Nat.zero_add]
    rfl
  induction r generalizing q with
  | done a => rfl
  | breakdown message => rfl
  | hang => rfl
  | sleep length next ih => exact (ih hr.2).trans (heard q _ hr.1)
  | ask who next ih => exact (ih _ (hr _).2).trans (heard q _ (hr _).1)
  | note event next ih => exact (ih hr.2).trans (heard q _ hr.1)
  | act change next ih => exact ih _ _ (hr _ _)

/-- A technique with a stopwatch takes the time that it shows and announces no pauses. -/
theorem ends_timed {r : Routine σ α} (pauses : Nat → Nat) (hr : r.Keeps .aside) :
    EndsSo probe r.timed q fun x q' =>
      q'.clock = q.clock + x.2 ∧ q'.pauses pauses = q.pauses pauses := by
  intro x q' hrun
  have hsame : (run probe r.timed q).2.pauses pauses = q.pauses pauses :=
    run_pauses pauses (keeps_timed hr)
  rw [hrun] at hsame
  exact ⟨run_timedFrom_clock hrun, hsame⟩

end Rules

/-! ### A balanced clock -/

/-- Since the start the clock has moved on by the time of the records and by the pauses announced,
and by nothing else. -/
def Balanced (pauses : Nat → Nat) (start : Playback σ) (rs : List Record) (q : Playback σ) : Prop :=
  q.clock + start.pauses pauses = start.clock + totalDuration rs + q.pauses pauses

/-- The clock is balanced when a run goes on, and when it ends. -/
def Course.Balanced (pauses : Nat → Nat) (start : Playback σ) : Course → Playback σ → Prop
  | onward p, q => CodePermit.Balanced pauses start p.records q
  | ended c, q => CodePermit.Balanced pauses start c.records q

section Clock

variable {probe : Probe σ} {pauses : Nat → Nat} {start q : Playback σ} {rs : List Record}

theorem balanced_observe {e : Event} (h : Balanced pauses start rs q) (he : e.pause pauses = 0) :
    Balanced pauses start rs (q.observe e) := by
  have hpauses : (q.observe e).pauses pauses = e.pause pauses + q.pauses pauses := rfl
  rw [Balanced, hpauses, he, Nat.zero_add]
  exact h

theorem balanced_ask (h : Balanced pauses start rs q) (who : Asker) :
    Balanced pauses start rs (q.ask probe who).2 :=
  balanced_observe (e := .asked who (q.ask probe who).1) h rfl

/-- A record that takes no time changes nothing. -/
theorem balanced_record {r : Record} (h : Balanced pauses start rs q) (hr : r.duration = 0) :
    Balanced pauses start (rs ++ [r]) q := by
  have hduration : totalDuration [r] = r.duration := rfl
  rw [Balanced, totalDuration_append, hduration, hr]
  exact h

theorem ends_checkpoint {p : Progress} {next : Routine σ Course}
    (h : Balanced pauses start p.records q)
    (hn : ∀ q, Balanced pauses start p.records q →
      EndsSo probe next q (Course.Balanced pauses start)) :
    EndsSo probe (checkpoint p next) q (Course.Balanced pauses start) := by
  have hasked : Balanced pauses start p.records (q.ask probe .run).2 := balanced_ask h .run
  show EndsSo probe (if (q.ask probe .run).1 then _ else _) (q.ask probe .run).2 _
  split
  · refine ends_done ?_
    unfold Progress.permitted
    split
    · exact balanced_record hasked rfl
    · exact hasked
  · exact hn _ hasked

/-- An announced pause is made before the attempt. -/
theorem ends_interlude {e : Entry σ} {index n : Nat} {p : Progress}
    (hpause : pauses index = e.policy.pause) (h : Balanced pauses start p.records q) :
    EndsSo probe (.note (.published (.inProgress index n)) (interlude e n p)) q
      (Course.Balanced pauses start) := by
  show EndsSo probe (interlude e n p) (q.observe _) _
  unfold interlude
  split
  · rename_i hn
    exact ends_done (balanced_observe h (if_neg (Nat.not_lt.2 hn)))
  · rename_i hn
    have hlength : (Event.published (.inProgress index n)).pause pauses = e.policy.pause :=
      (if_pos (Nat.lt_of_not_le hn)).trans hpause
    unfold rest pause
    split
    · rename_i hzero
      exact ends_checkpoint (balanced_observe h (hlength.trans hzero)) fun _ hq => ends_done hq
    · refine ends_checkpoint (q := (q.observe _).pass e.policy.pause) ?_ fun _ hq => ends_done hq
      have hpauses : ((q.observe (.published (.inProgress index n))).pass e.policy.pause).pauses
          pauses = 0 + ((Event.published (.inProgress index n)).pause pauses + q.pauses pauses) :=
        rfl
      rw [Balanced] at h ⊢
      rw [hpauses, hlength]
      show q.clock + e.policy.pause + _ = _
      omega

/-- The record of an attempt tells of the time that it took. -/
theorem ends_attemptOnce {e : Entry σ} {index n : Nat} (t : Technique)
    (h : Balanced pauses start rs q) :
    EndsSo probe (attemptOnce e index n) q fun x q' =>
      Balanced pauses start (rs ++ [⟨t, n, x.1, x.2⟩]) q' := by
  have hk : Routine.Keeps .aside ((e.strategy.attempt e.policy.timeout).within e.policy.timeout) :=
    keeps_within _ (fun _ => rfl) (e.strategy.aside _)
  refine ends_bind (q := q.observe (.attempted index n e.policy.timeout)) (ends_timed pauses hk) ?_
  rintro ⟨reported, d⟩ q' ⟨hclock, hsame⟩
  have hclock : q'.clock = q.clock + d := hclock
  have hpauses : q'.pauses pauses = q.pauses pauses := hsame.trans (Nat.zero_add _)
  have hrecorded : ∀ o : Outcome, Balanced pauses start (rs ++ [⟨t, n, o, d⟩]) q' := by
    intro o
    have hduration : totalDuration (rs ++ [⟨t, n, o, d⟩]) = totalDuration rs + d :=
      totalDuration_append _ _
    rw [Balanced] at h ⊢
    rw [hduration, hpauses, hclock]
    omega
  show EndsSo probe (.done _) (q'.ask probe .run).2 _
  exact ends_done (balanced_ask (hrecorded _) .run)

/-- **The clock is balanced after the attempts on an entry.** -/
theorem ends_rounds {e : Entry σ} {index left n : Nat} {p : Progress}
    (hpause : pauses index = e.policy.pause) (h : Balanced pauses start p.records q) :
    EndsSo probe (rounds e index left n p) q (Course.Balanced pauses start) := by
  induction left generalizing n p q with
  | zero => exact ends_done h
  | succ left ih =>
    refine ends_bind (r := .note _ (interlude e n p)) (ends_interlude hpause h) ?_
    rintro (p | c) q' hq
    · refine ends_bind (ends_attemptOnce e.policy.technique hq) ?_
      rintro ⟨o, d⟩ q'' hrecorded
      cases o with
      | granted => exact ends_done hrecorded
      | unavailable => exact ends_done hrecorded
      | denied reason =>
        exact ih (q := q''.observe _) (balanced_observe hrecorded rfl)
      | timedOut =>
        exact ih (q := q''.observe _) (balanced_observe hrecorded rfl)
    · exact ends_done hq

theorem ends_visit {host : Option Version} {e : Entry σ} {index : Nat} {p : Progress}
    (hpause : pauses index = e.policy.pause) (h : Balanced pauses start p.records q) :
    EndsSo probe (visit host e index p) q (Course.Balanced pauses start) := by
  refine ends_checkpoint h fun q hq => ?_
  dsimp only
  split
  · intro course q' hrun
    rw [Strategy.consult, run] at hrun
    split at hrun
    · rename_i answer _
      rw [run] at hrun
      refine (?_ : EndsSo probe _ _ _) course q' hrun
      have hasked : Balanced pauses start p.records
          ((q.change fun time s => (e.strategy.applicable time s).2).observe
            (.inspected index answer)) :=
        balanced_observe (q := q.change fun time s => (e.strategy.applicable time s).2) hq rfl
      cases answer with
      | true => exact ends_rounds hpause hasked
      | false => exact ends_done (balanced_record hasked rfl)
    · cases hrun
  · exact ends_done (balanced_record hq rfl)

/-- **The clock is balanced after all entries.** -/
theorem ends_pass {host : Option Version} {index : Nat} {entries : List (Entry σ)} {p : Progress}
    (hpause : ∀ i e, entries[i]? = some e → pauses (index + i) = e.policy.pause)
    (h : Balanced pauses start p.records q) :
    EndsSo probe (pass host index entries p) q fun c q' => Balanced pauses start c.records q' := by
  induction entries generalizing index p q with
  | nil =>
    show EndsSo probe (.done p.exhausted) (q.observe _) _
    exact ends_done (balanced_observe h rfl)
  | cons e entries ih =>
    refine ends_bind (ends_visit (hpause 0 e rfl) h) ?_
    rintro (p | c) q' hq
    · refine ih (fun i e' hi => ?_) hq
      rw [Nat.add_right_comm]
      exact hpause (i + 1) e' hi
    · exact ends_done hq

end Clock

/-- The pause before each further attempt on the entry at an index. -/
def Chain.pauses (c : Chain σ) (index : Nat) : Nat :=
  (c.entries[index]?.map fun e => e.policy.pause).getD 0

/-- **The time of a run is that of its records and of the pauses announced**, and its stopwatch
shows by how much the clock has moved on. -/
theorem run_elapsed {c : Chain σ} {probe : Probe σ} {p p' : Playback σ} {report : Report}
    (h : run probe c.run p = (.finished report, p')) :
    p'.clock = p.clock + report.elapsed ∧ Balanced c.pauses p report.records p' := by
  have hbalanced : Balanced c.pauses p [] p := by
    rw [Balanced]
    rfl
  rw [Chain.run, run_bind] at h
  obtain ⟨ending, q, hpass⟩ : ∃ ending q, run probe (pass c.host 0 c.entries {}).timed p =
    (ending, q) := ⟨_, _, rfl⟩
  rw [hpass] at h
  cases ending with
  | finished result =>
    cases h
    refine ⟨run_timedFrom_clock hpass, ?_⟩
    refine ends_pass (fun i e hi => ?_) hbalanced _ _ (run_timedFrom hpass)
    rw [Nat.zero_add, Chain.pauses, hi]
    rfl
  | brokenDown message => cases h
  | hung => cases h

/-! ### Limits and budgets -/

theorem leads_pause_time {limit spent d : Nat} {es : List Event} {a b : α}
    (h : Leads ((pause limit (.done a) : Routine σ α).timedFrom spent) es (.done (b, d))) :
    d = spent + limit := by
  unfold pause at h
  split at h
  · rename_i hzero
    cases (leads_done h).2
    rw [hzero, Nat.add_zero]
  · cases h with
    | sleep h =>
      cases (leads_done h).2
      rfl

/-- A routine that is cut off takes no longer than its limit. -/
theorem leads_within_time {r : Routine σ α} {limit spent d : Nat} {es : List Event} {o : Option α}
    (h : Leads ((r.within limit).timedFrom spent) es (.done (o, d))) : d ≤ spent + limit := by
  induction r generalizing limit spent es with
  | done a =>
    cases (leads_done h).2
    exact Nat.le_add_right _ _
  | breakdown message => cases h
  | hang => exact Nat.le_of_eq (leads_pause_time h)
  | sleep length next ih =>
    unfold within at h
    split at h
    · cases h with
      | sleep h =>
        have hnext := ih h
        omega
    · exact Nat.le_of_eq (leads_pause_time h)
  | ask who next ih =>
    cases h with
    | ask answer h => exact ih answer h
  | note event next ih =>
    cases h with
    | note h => exact ih h
  | act change next ih =>
    cases h with
    | act time s h => exact ih time s h

/-- An attempt takes no longer than the policy allows. -/
theorem attempt_inTime {e : Entry σ} {index n d : Nat} {es : List Event} {o : Outcome}
    (h : Leads (attemptOnce e index n) es (.done (o, d))) : d ≤ e.policy.timeout := by
  obtain ⟨es, rfl, h₁⟩ := leads_note h
  obtain ⟨asides, ⟨reported, d'⟩, es₂, rfl, h₂, h₃⟩ := leads_bind h₁
  obtain ⟨confirmed, es₃, rfl, h₄⟩ := leads_ask h₃
  cases (leads_done h₄).2
  exact Nat.le_trans (leads_within_time h₂) (Nat.le_of_eq (Nat.zero_add _))

theorem attempt_pauses {e : Entry σ} {index n d : Nat} {es : List Event} {o : Outcome}
    (pauses : Nat → Nat) (h : Leads (attemptOnce e index n) es (.done (o, d))) :
    pausesIn pauses es = 0 := by
  obtain ⟨asides, reported, confirmed, rfl, ha, -⟩ := leads_attemptOnce h
  have hasides : pausesIn pauses asides = 0 :=
    pausesIn_eq_zero fun e he => pause_of_isAside pauses (ha e he)
  rw [pausesIn_cons, pausesIn_append, hasides]
  rfl

section Budgets

variable {pauses : Nat → Nat} {e : Entry σ} {index left n : Nat} {p : Progress} {es : List Event}
  {rs : List Record} {course : Course}

theorem tries_inTime (h : Tries e index left n p es rs course) :
    ∀ r ∈ rs, r.duration ≤ e.policy.timeout := by
  induction h with
  | spent => exact nofun
  | interrupted later => exact nofun
  | granted once => exact List.forall_mem_singleton.2 (attempt_inTime once)
  | unavailable once => exact List.forall_mem_singleton.2 (attempt_inTime once)
  | setback bad once rest ih => exact List.forall_mem_cons.2 ⟨attempt_inTime once, ih⟩

theorem pausesIn_restEvents (pauses : Nat → Nat) (length : Nat) :
    pausesIn pauses (restEvents length) = 0 := by
  unfold restEvents
  split <;> rfl

theorem pausesIn_leadIn (pauses : Nat → Nat) (policy : Policy) (n : Nat) :
    pausesIn pauses (leadIn policy n) = 0 := by
  unfold leadIn
  split
  · rfl
  · rw [pausesIn_append, pausesIn_restEvents]
    rfl

theorem pausesIn_announced (pauses : Nat → Nat) (policy : Policy) (index n : Nat)
    (es : List Event) :
    pausesIn pauses (.published (.inProgress index n) :: (leadIn policy n ++ es)) =
      (Event.published (.inProgress index n)).pause pauses + pausesIn pauses es := by
  rw [pausesIn_cons, pausesIn_append, pausesIn_leadIn, Nat.zero_add]

/-- Announcing an attempt brings at most one pause with it. -/
theorem pause_announced_le (hpause : pauses index = e.policy.pause) (n : Nat) :
    (Event.published (.inProgress index n)).pause pauses ≤ e.policy.backoff := by
  show (if 1 < n then pauses index else 0) ≤ _
  split
  · rw [hpause]
    exact Nat.min_le_left _ _
  · exact Nat.zero_le _

/-- Each attempt brings at most one pause and one limit with it. -/
theorem tries_time_le (hpause : pauses index = e.policy.pause)
    (h : Tries e index left n p es rs course) :
    totalDuration rs + pausesIn pauses es ≤ (e.policy.timeout + e.policy.backoff) * left := by
  induction h with
  | spent => exact Nat.zero_le _
  | @interrupted left n p later =>
    have hp := pause_announced_le hpause n
    rw [pausesIn_cons, pausesIn_append, pausesIn_restEvents, Nat.mul_succ]
    show 0 + (_ + (0 + 0)) ≤ _
    omega
  | @granted left n d p es once =>
    have hp := pause_announced_le hpause n
    have hd := attempt_inTime once
    rw [pausesIn_announced, attempt_pauses pauses once, Nat.mul_succ]
    show d + 0 + (_ + 0) ≤ _
    omega
  | @unavailable left n d p es once =>
    have hp := pause_announced_le hpause n
    have hd := attempt_inTime once
    rw [pausesIn_announced, attempt_pauses pauses once, Nat.mul_succ]
    show d + 0 + (_ + 0) ≤ _
    omega
  | @setback left n d p o w es es' rs course bad once rest ih =>
    have hp := pause_announced_le hpause n
    have hd := attempt_inTime once
    rw [List.append_assoc, pausesIn_announced, pausesIn_append, attempt_pauses pauses once,
      Nat.mul_succ]
    show d + totalDuration rs + (_ + (0 + (0 + pausesIn pauses es'))) ≤ _
    omega

/-- **The attempts on an entry keep within its budget**, since the first of them needs no pause. -/
theorem tries_withinBudget (hpause : pauses index = e.policy.pause)
    (h : Tries e index e.policy.rounds 1 p es rs course) :
    totalDuration rs + pausesIn pauses es ≤ e.policy.exactBudget := by
  unfold Policy.exactBudget
  generalize hleft : e.policy.rounds = left at h ⊢
  cases h with
  | spent => exact Nat.zero_le _
  | interrupted later => exact absurd later (Nat.lt_irrefl 1)
  | @granted left _ d _ es once =>
    have hd := attempt_inTime once
    rw [pausesIn_announced, attempt_pauses pauses once, Nat.mul_succ]
    show d + 0 + (0 + 0) ≤ _
    omega
  | @unavailable left _ d _ es once =>
    have hd := attempt_inTime once
    rw [pausesIn_announced, attempt_pauses pauses once, Nat.mul_succ]
    show d + 0 + (0 + 0) ≤ _
    omega
  | @setback left _ d _ o w es es' rs _ bad once rest =>
    have hd := attempt_inTime once
    have hrest := tries_time_le hpause rest
    rw [List.append_assoc, pausesIn_announced, pausesIn_append, attempt_pauses pauses once,
      Nat.mul_succ, Nat.add_sub_cancel]
    rw [Nat.add_mul] at hrest
    show d + totalDuration rs + (0 + (0 + (0 + pausesIn pauses es'))) ≤ _
    omega

end Budgets

/-- The entry of a block of records was tried and not passed over. -/
def wasTried (rs : List Record) : Bool :=
  rs.any fun r => 1 ≤ r.attempt

/-- The budgets of the entries that were tried. -/
def budgetOf : List (Entry σ × List Record) → Nat
  | [] => 0
  | (e, rs) :: visited => (if wasTried rs then e.policy.exactBudget else 0) + budgetOf visited

theorem budgetOf_cons_tried {e : Entry σ} {rs : List Record}
    (visited : List (Entry σ × List Record)) (h : wasTried rs = true) :
    budgetOf ((e, rs) :: visited) = e.policy.exactBudget + budgetOf visited := by
  rw [budgetOf, if_pos h]

theorem budgetOf_cons_skipped {e : Entry σ} (visited : List (Entry σ × List Record))
    (t : Technique) : budgetOf ((e, [.skip t]) :: visited) = budgetOf visited :=
  Nat.zero_add _

theorem passedOver_pauses {host : Option Version} {e : Entry σ} {index : Nat} {es : List Event}
    (pauses : Nat → Nat) (h : PassedOver host e index es) : pausesIn pauses es = 0 := by
  cases h <;> rfl

/-- **All entries keep within their budgets.** -/
theorem tour_withinBudget {pauses : Nat → Nat} {host : Option Version} {index : Nat}
    {entries : List (Entry σ)} {p : Progress} {es : List Event} {blocks : List (List Record)}
    {c : Conclusion} (hpause : ∀ i e, entries[i]? = some e → pauses (index + i) = e.policy.pause)
    (h : Tour host index entries p es blocks c) :
    totalDuration blocks.flatten + pausesIn pauses es ≤ budgetOf (entries.zip blocks) := by
  have later : ∀ {index : Nat} {e : Entry σ} {entries : List (Entry σ)},
      (∀ i e', (e :: entries)[i]? = some e' → pauses (index + i) = e'.policy.pause) →
      ∀ i e', entries[i]? = some e' → pauses (index + 1 + i) = e'.policy.pause := by
    intro index e entries h i e' hi
    rw [Nat.add_right_comm]
    exact h (i + 1) e' hi
  induction h with
  | exhausted => exact Nat.zero_le _
  | permitted =>
    rw [List.zip_nil_right]
    exact Nat.zero_le _
  | @skipped index p e entries es es' blocks c passed rest ih =>
    have hrest := ih (later hpause)
    rw [List.zip_cons_cons, budgetOf_cons_skipped, List.flatten_cons, totalDuration_append,
      pausesIn_cons, pausesIn_append, passedOver_pauses pauses passed]
    show 0 + _ + (0 + (0 + _)) ≤ _
    omega
  | @tried index p p' e entries es es' rs blocks c fit tries rest ih =>
    have hrest := ih (later hpause)
    have hentry := tries_withinBudget (hpause 0 e rfl) tries
    have hblock := tries_block [] tries nofun
    have htried := hblock.any_attempt (hblock.ne_nil e.policy.one_le_rounds)
    rw [List.zip_cons_cons, budgetOf_cons_tried _ htried, List.flatten_cons, totalDuration_append,
      pausesIn_cons, pausesIn_cons, pausesIn_append]
    show _ + _ + (0 + (0 + _)) ≤ _
    omega
  | @ended index p e entries es rs c fit tries =>
    have hentry := tries_withinBudget (hpause 0 e rfl) tries
    have hblock := tries_block _ tries fun _ _ => List.suffix_rfl
    have htried := hblock.any_attempt (hblock.ne_nil e.policy.one_le_rounds)
    rw [List.zip_cons_cons, List.zip_nil_right, budgetOf_cons_tried _ htried, List.flatten_cons,
      totalDuration_append, pausesIn_cons, pausesIn_cons]
    show _ + 0 + (0 + (0 + _)) ≤ _ + 0
    omega

/-- **No record of a tour tells of more time than the policy of its entry allows.** -/
theorem tour_inTime {host : Option Version} {index : Nat} {entries : List (Entry σ)} {p : Progress}
    {es : List Event} {blocks : List (List Record)} {c : Conclusion}
    (h : Tour host index entries p es blocks c) {i : Nat} {e : Entry σ} {rs : List Record}
    (he : entries[i]? = some e) (hi : blocks[i]? = some rs) :
    ∀ r ∈ rs, r.duration ≤ e.policy.timeout := by
  induction h generalizing i with
  | exhausted => cases hi
  | permitted => cases hi
  | skipped passed rest ih =>
    cases i with
    | zero =>
      cases hi
      exact List.forall_mem_singleton.2 (Nat.zero_le _)
    | succ i => exact ih he hi
  | tried fit tries rest ih =>
    cases i with
    | zero =>
      cases he
      cases hi
      exact tries_inTime tries
    | succ i => exact ih he hi
  | ended fit tries =>
    cases i with
    | zero =>
      cases he
      cases hi
      exact tries_inTime tries
    | succ i => cases hi

/-! ### The time of a run -/

/-- The pauses announced in a play are those that were announced before it and those that are
announced in the course of it. -/
theorem pauses_of_events {p p' : Playback σ} {es : List (Nat × Event)}
    (h : p'.events = p.events ++ es) (pauses : Nat → Nat) :
    p'.pauses pauses = p.pauses pauses + pausesIn pauses (es.map Prod.snd) := by
  have inOrder : ∀ q : Playback σ, q.pauses pauses = pausesIn pauses (q.events.map Prod.snd) := by
    intro q
    rw [Playback.events, List.map_reverse, pausesIn_reverse]
    rfl
  rw [inOrder p', h, List.map_append, pausesIn_append, ← inOrder p]

/-- What a run spends its time on, with its records in blocks, one for each entry visited. -/
structure Timekeeping (c : Chain σ) (p : Playback σ) (es : List Event) (report : Report)
    (p' : Playback σ) (blocks : List (List Record)) (extra : List Record) : Prop where
  /-- The records are those of the blocks and one more. -/
  records_eq : report.records = blocks.flatten ++ extra
  /-- The blocks are those of the first entries, without gaps, and no record tells of more time than
  the policy of its entry allows. -/
  inTime : ∀ i rs, blocks[i]? = some rs → ∃ e, c.entries[i]? = some e ∧ Block c.host es i e rs ∧
    ∀ r ∈ rs, r.duration ≤ e.policy.timeout
  /-- One more record there is only for a permission found there. -/
  detected : extra = [] ∨ extra = [.detected]
  /-- The report tells by how much the clock has moved on. -/
  clock : p'.clock = p.clock + report.elapsed
  /-- The run takes the time of which its records tell, and a pause for each further attempt that
  is announced. -/
  elapsed_eq : report.elapsed = totalDuration report.records + pausesIn c.pauses es
  /-- The run keeps within the budgets of the entries that it tries. -/
  withinBudget : report.elapsed ≤ budgetOf (c.entries.zip blocks)

/-- **The time of a run is accounted for.**  Unless one of its techniques breaks down a run ends
with a report, and it takes no time but that of its attempts and of the pauses between them, each of
them limited by the policy of its entry. -/
theorem run_accounted (c : Chain σ) (probe : Probe σ) (p : Playback σ) :
    (∃ report p' es blocks extra, run probe c.run p = (.finished report, p') ∧
      p'.events = p.events ++ es ∧
      Timekeeping c p (es.map Prod.snd) report p' blocks extra) ∨
    ¬c.Calm ∧ ∃ message p', run probe c.run p = (.brokenDown message, p') := by
  refine (run_ends c probe p).imp_left ?_
  rintro ⟨report, p', hrun⟩
  obtain ⟨es, hevents, hleads⟩ := run_leads probe hrun
  obtain ⟨blocks, tour⟩ := run_tour hleads
  obtain ⟨extra, hrecords, hextra⟩ := tour_records tour
  have hblocks : report.records = blocks.flatten ++ extra := hrecords
  obtain ⟨hclock, hbalanced⟩ := run_elapsed hrun
  have hpauses := pauses_of_events hevents c.pauses
  have helapsed : report.elapsed =
      totalDuration report.records + pausesIn c.pauses (es.map Prod.snd) := by
    rw [Balanced] at hbalanced
    omega
  have hdetected : totalDuration extra = 0 := by
    rcases hextra with rfl | ⟨rfl, -⟩ <;> rfl
  have hpolicy : ∀ i e, c.entries[i]? = some e → c.pauses (0 + i) = e.policy.pause := by
    intro i e hi
    rw [Nat.zero_add, Chain.pauses, hi]
    rfl
  have hbudget := tour_withinBudget hpolicy tour
  refine ⟨report, p', es, blocks, extra, hrun, hevents, hblocks, fun i rs hi => ?_,
    hextra.imp_right And.left, hclock, helapsed, ?_⟩
  · obtain ⟨e, he, hblock⟩ := tour_blocks tour List.suffix_rfl i rs hi
    rw [Nat.zero_add] at hblock
    exact ⟨e, he, hblock, tour_inTime tour he hi⟩
  · have htotal : totalDuration report.records = totalDuration blocks.flatten := by
      rw [hblocks, totalDuration_append, hdetected]
      rfl
    rw [helapsed, htotal]
    exact hbudget

/-- A technique that is refused twice, with a pause of ten thousand million seconds before the
second attempt. -/
def patientChain : Chain Unit where
  entries :=
    [⟨{ technique := .selfElevation, priority := 0, timeout := 10, maxAttempts := 2,
        backoff := 10000000000000 },
      .always (fun _ => .done (.denied "d")) fun _ => trivial⟩]
  host := none

/-- A pause that is longer than the longest rest is cut short: the run takes less time than the
pause alone would take in full. -/
theorem elapsed_of_long_backoff : patientChain.Calm ∧
    ∃ report p', run (fun _ s => (false, s)) patientChain.run ⟨0, (), []⟩ = (.finished report, p') ∧
      p'.events.map Prod.snd =
        [.asked .run false, .inspected 0 true, .published (.inProgress 0 1), .attempted 0 1 10,
          .asked .run false, .warned (.denied .selfElevation 1 "d"),
          .published (.inProgress 0 2), .slept 946080000000, .asked .run false,
          .attempted 0 2 10, .asked .run false, .warned (.denied .selfElevation 2 "d"),
          .warned (.runFailed (.denied .selfElevation "d"))] ∧
      report.elapsed = 946080000000 ∧
      report.elapsed ≠ totalDuration report.records +
        pausesIn (fun index => (patientChain.entries[index]?.map fun e => e.policy.backoff).getD 0)
          (p'.events.map Prod.snd) := by
  have hcalm : patientChain.Calm := by
    intro e he
    rw [List.mem_singleton.1 he]
    exact ⟨fun _ => trivial, nofun⟩
  refine ⟨hcalm, _, _, rfl, rfl, rfl, ?_⟩
  decide

end CodePermit
