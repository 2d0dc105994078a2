import CodePermit.Strategy.Polling
import Mathlib.Algebra.Order.Floor.Div
/-!
# Questions to the probe

Whoever polls puts questions to the probe: the first one at once, the others after every interval,
and the last one at the deadline, however much of an interval is left by then.  A permission that
comes before the deadline and stays is therefore always noticed.

* `questionTime`, `surroundingsAt`, `answerAt` — when the questions are put, and what is answered;
* `Polled`, `poll_polled` — polling puts the questions one after another;
* `Polled.once`, `Polled.count`, `Polled.noticed` — what holds of the questions that are put;
* `Punctual`, `poll_punctual` — the timetable of polling.
-/

namespace CodePermit

variable {σ : Type}

/-! ### Questions and answers -/

/-- When the question of a number is put: after so many intervals, but not after the deadline unless
it is the first one. -/
def questionTime (start deadline interval number : Nat) : Nat :=
  max start (min deadline (start + number * interval))

/-- The surroundings in which the question of a number is put, when each question is put at its time
and only the probe changes them. -/
def surroundingsAt (probe : Probe σ) (time : Nat → Nat) (s : σ) : (number : Nat) → σ
  | 0 => s
  | number + 1 => (probe (time number) (surroundingsAt probe time s number)).2

/-- What the probe answers to the question of a number. -/
def answerAt (probe : Probe σ) (time : Nat → Nat) (s : σ) (number : Nat) : Bool :=
  (probe (time number) (surroundingsAt probe time s number)).1

/-- What is observed when the questions up to the last one are put. -/
def questionEvents (time : Nat → Nat) (answer : Nat → Bool) (last : Nat) : List (Nat × Event) :=
  ((List.range last).flatMap fun k =>
      [(time k, .asked .technique (answer k)), (time k, .slept (time (k + 1) - time k))]) ++
    [(time last, .asked .technique (answer last))]

theorem questionTime_zero (start deadline interval : Nat) :
    questionTime start deadline interval 0 = start := by
  unfold questionTime
  omega

theorem questionTime_le (start deadline interval number : Nat) :
    questionTime start deadline interval number ≤ max start deadline := by
  unfold questionTime
  omega

theorem questionTime_succ {start deadline interval : Nat} (h : start < deadline) (number : Nat) :
    questionTime (start + min (deadline - start) interval) deadline interval number =
      questionTime start deadline interval (number + 1) := by
  unfold questionTime
  rw [Nat.succ_mul]
  generalize number * interval = later
  omega

theorem surroundingsAt_succ (probe : Probe σ) (time : Nat → Nat) (s : σ) (number : Nat) :
    surroundingsAt probe (fun k => time (k + 1)) (probe (time 0) s).2 number =
      surroundingsAt probe time s (number + 1) := by
  induction number with
  | zero => rfl
  | succ number ih =>
    rw [surroundingsAt, ih]
    rfl

theorem answerAt_succ (probe : Probe σ) (time : Nat → Nat) (s : σ) (number : Nat) :
    answerAt probe (fun k => time (k + 1)) (probe (time 0) s).2 number =
      answerAt probe time s (number + 1) := by
  unfold answerAt
  rw [surroundingsAt_succ]

theorem questionEvents_zero (time : Nat → Nat) (answer : Nat → Bool) :
    questionEvents time answer 0 = [(time 0, .asked .technique (answer 0))] := rfl

theorem questionEvents_succ (time : Nat → Nat) (answer : Nat → Bool) (last : Nat) :
    questionEvents time answer (last + 1) =
      (time 0, .asked .technique (answer 0)) :: (time 0, .slept (time 1 - time 0)) ::
        questionEvents (fun k => time (k + 1)) (fun k => answer (k + 1)) last := by
  unfold questionEvents
  rw [List.range_succ_eq_map, List.flatMap_cons, List.flatMap_map]
  rfl

/-! ### Polling -/

/-- The times of the questions put by polling from a moment on. -/
def Playback.pollTime (p : Playback σ) (deadline interval : Nat) : Nat → Nat :=
  questionTime p.clock deadline interval

/-- The answers to the questions put by polling from a moment on. -/
def Playback.pollAnswer (p : Playback σ) (probe : Probe σ) (deadline interval : Nat) : Nat → Bool :=
  answerAt probe (p.pollTime deadline interval) p.surroundings

/-- Polling from one moment to another has put its questions one after another, the last one of them
of a number that counts from zero. -/
structure Polled (probe : Probe σ) (deadline interval : Nat) (p : Playback σ) (last : Nat)
    (outcome : Outcome) (p' : Playback σ) : Prop where
  /-- The questions are put at their times, and nothing else happens but that time passes. -/
  events : p'.events = p.events ++
    questionEvents (p.pollTime deadline interval) (p.pollAnswer probe deadline interval) last
  /-- The last question ends the polling. -/
  clock : p'.clock = p.pollTime deadline interval last
  /-- All others are put before the deadline and answered with no. -/
  unfinished : ∀ k < last, p.pollTime deadline interval k < deadline ∧
    p.pollAnswer probe deadline interval k = false
  /-- The permission is granted if the answer is yes. -/
  granted : p.pollAnswer probe deadline interval last = true → outcome = .granted
  /-- If it is no, time is up. -/
  timedOut : p.pollAnswer probe deadline interval last = false →
    outcome = .timedOut ∧ deadline ≤ p.pollTime deadline interval last

theorem ask_technique_events (probe : Probe σ) (p : Playback σ) :
    (p.ask probe .technique).2.events =
      p.events ++ [(p.clock, .asked .technique (p.ask probe .technique).1)] :=
  List.reverse_cons

theorem pass_events (p : Playback σ) (length : Nat) :
    (p.pass length).events = p.events ++ [(p.clock, .slept length)] :=
  List.reverse_cons

section Steps

variable {probe : Probe σ} {deadline interval : Nat} {p : Playback σ}

theorem pollTime_zero : p.pollTime deadline interval 0 = p.clock :=
  questionTime_zero _ _ _

theorem pollAnswer_zero : p.pollAnswer probe deadline interval 0 = (p.ask probe .technique).1 := by
  show (probe (p.pollTime deadline interval 0) p.surroundings).1 = _
  rw [pollTime_zero]
  rfl

theorem polled_once {outcome : Outcome}
    (hgranted : (p.ask probe .technique).1 = true → outcome = .granted)
    (htimedOut : (p.ask probe .technique).1 = false → outcome = .timedOut ∧ deadline ≤ p.clock) :
    Polled probe deadline interval p 0 outcome (p.ask probe .technique).2 where
  events := by
    rw [ask_technique_events, questionEvents_zero, pollAnswer_zero, pollTime_zero]
  clock := pollTime_zero.symm
  unfinished := fun k hk => absurd hk (Nat.not_lt_zero k)
  granted := fun h => hgranted (pollAnswer_zero.symm.trans h)
  timedOut := fun h => by
    rw [pollTime_zero]
    exact htimedOut (pollAnswer_zero.symm.trans h)

theorem polled_again {last : Nat} {outcome : Outcome} {p' : Playback σ}
    (hno : (p.ask probe .technique).1 = false) (hearly : p.clock < deadline)
    (hrest : Polled probe deadline interval
      ((p.ask probe .technique).2.pass (min (deadline - p.clock) interval)) last outcome p') :
    Polled probe deadline interval p (last + 1) outcome p' := by
  -- polling that goes on counts its questions from the second one of the whole
  have htime : ((p.ask probe .technique).2.pass (min (deadline - p.clock) interval)).pollTime
      deadline interval = fun k => p.pollTime deadline interval (k + 1) :=
    funext (questionTime_succ hearly)
  have hanswer : ((p.ask probe .technique).2.pass (min (deadline - p.clock) interval)).pollAnswer
      probe deadline interval = fun k => p.pollAnswer probe deadline interval (k + 1) := by
    funext k
    have hleft : (probe (p.pollTime deadline interval 0) p.surroundings).2 =
        (p.ask probe .technique).2.surroundings := by
      rw [pollTime_zero]
      rfl
    unfold Playback.pollAnswer
    rw [htime, ← answerAt_succ, hleft]
    rfl
  obtain ⟨hevents, hclock, hunfinished, hgranted, htimedOut⟩ := hrest
  rw [htime] at hclock
  rw [htime, hanswer] at hevents
  simp only [htime, hanswer] at hunfinished hgranted htimedOut
  refine ⟨?_, hclock, fun k hk => ?_, hgranted, htimedOut⟩
  · have hstep : p.pollTime deadline interval 1 - p.pollTime deadline interval 0 =
        min (deadline - p.clock) interval := by
      simp only [Playback.pollTime, questionTime]
      omega
    rw [hevents, pass_events, ask_technique_events, questionEvents_succ, hstep, pollTime_zero,
      pollAnswer_zero, List.append_assoc, List.append_assoc]
    rfl
  · cases k with
    | zero =>
      rw [pollTime_zero, pollAnswer_zero]
      exact ⟨hearly, hno⟩
    | succ k => exact hunfinished k (Nat.lt_of_succ_lt_succ hk)

/-- **Polling puts its questions one after another**, and it comes to an end. -/
theorem poll_polled (probe : Probe σ) (deadline : Nat) (hpos : 0 < interval) (p : Playback σ) :
    ∃ last outcome p', run probe (poll interval (deadline - p.clock)) p = (.finished outcome, p') ∧
      Polled probe deadline interval p last outcome p' := by
  -- each interval takes away from the time that is left
  generalize hm : deadline - p.clock = measure
  induction measure using Nat.strongRecOn generalizing p with
  | ind measure ih =>
    subst hm
    rw [poll]
    simp only [run]
    cases hanswer : (p.ask probe .technique).1 with
    | true =>
      exact ⟨0, .granted, _, rfl, polled_once (fun _ => rfl) fun hno => by
        rw [hanswer] at hno
        cases hno⟩
    | false =>
      by_cases hlate : deadline - p.clock = 0
      · refine ⟨0, .timedOut, _, ?_, polled_once (fun hyes => ?_) fun _ => ⟨rfl, by omega⟩⟩
        · rw [if_pos hlate]
          rfl
        · rw [hanswer] at hyes
          cases hyes
      · have hsleeps : interval ≠ 0 := Nat.pos_iff_ne_zero.1 hpos
        have hearly : p.clock < deadline := by omega
        have hleft : deadline - p.clock - min (deadline - p.clock) interval = deadline -
            ((p.ask probe .technique).2.pass (min (deadline - p.clock) interval)).clock := by
          show _ = deadline - (p.clock + _)
          omega
        obtain ⟨last, outcome, p', hrun, hpolled⟩ := ih _ (by omega)
          ((p.ask probe .technique).2.pass (min (deadline - p.clock) interval)) hleft.symm
        refine ⟨last + 1, outcome, p', ?_, polled_again hanswer hearly hpolled⟩
        rw [if_neg hlate, if_neg hsleeps]
        exact hrun

end Steps

/-! ### The timetable of polling -/

section Timetable

variable {probe : Probe σ} {deadline interval last : Nat} {p p' : Playback σ} {outcome : Outcome}

theorem pollTime_of_lt (h : p.clock < deadline) (k : Nat) :
    p.pollTime deadline interval k = min deadline (p.clock + k * interval) := by
  unfold Playback.pollTime questionTime
  omega

/-- A question before the deadline is put after as many intervals as its number says. -/
theorem pollTime_early {k : Nat} (h : p.pollTime deadline interval k < deadline) :
    p.clock < deadline ∧ p.pollTime deadline interval k = p.clock + k * interval := by
  unfold Playback.pollTime questionTime at h ⊢
  omega

theorem pollTime_succ_le (k : Nat) :
    p.pollTime deadline interval (k + 1) ≤ p.pollTime deadline interval k + interval := by
  unfold Playback.pollTime questionTime
  rw [Nat.succ_mul]
  omega

theorem Polled.once (hpos : 0 < interval)
    (h : Polled probe deadline interval p last outcome p') {k : Nat} (hk : k < last) :
    p.pollTime deadline interval k < p.pollTime deadline interval (k + 1) := by
  have hbefore := (h.unfinished k hk).1
  obtain ⟨hstart, htime⟩ := pollTime_early hbefore
  rw [htime] at hbefore
  rw [htime, pollTime_of_lt hstart, Nat.succ_mul]
  omega

theorem Polled.late (h : Polled probe deadline interval p last outcome p')
    (hlate : deadline ≤ p.clock) : last = 0 := by
  refine Nat.eq_zero_of_not_pos fun hlast => ?_
  have hfirst := (h.unfinished 0 hlast).1
  rw [pollTime_zero] at hfirst
  omega

/-- Time is up at the deadline, or at once if the deadline is over. -/
theorem Polled.timedOut_clock (h : Polled probe deadline interval p last outcome p')
    (hno : p.pollAnswer probe deadline interval last = false) :
    p'.clock = max p.clock deadline := by
  have hdeadline := (h.timedOut hno).2
  have hle := questionTime_le p.clock deadline interval last
  have hstart : p.clock ≤ p.pollTime deadline interval last := Nat.le_max_left _ _
  rw [h.clock]
  unfold Playback.pollTime at hdeadline hstart ⊢
  omega

/-- No more questions follow the first one than there are intervals before the deadline. -/
theorem Polled.count (hpos : 0 < interval)
    (h : Polled probe deadline interval p last outcome p') :
    last ≤ (deadline - p.clock) ⌈/⌉ interval := by
  cases last with
  | zero => exact Nat.zero_le _
  | succ k =>
    -- the last question but one is put before the deadline
    have hbefore := (h.unfinished k (Nat.lt_succ_self k)).1
    obtain ⟨-, htime⟩ := pollTime_early hbefore
    rw [htime] at hbefore
    refine Nat.lt_of_not_le fun hle => ?_
    have hcovered : deadline - p.clock ≤ interval * k := (ceilDiv_le_iff_le_mul hpos).1 hle
    rw [Nat.mul_comm] at hcovered
    omega

/-- If all questions from a time on are answered with yes, the permission is granted within an
interval of it. -/
theorem Polled.noticed (h : Polled probe deadline interval p last outcome p') {t : Nat}
    (hstart : p.clock ≤ t) (hdeadline : t ≤ deadline)
    (hstays : ∀ k ≤ last, t ≤ p.pollTime deadline interval k →
      p.pollAnswer probe deadline interval k = true) :
    outcome = .granted ∧ p'.clock ≤ min deadline (t + interval) := by
  -- with a no at the end there would have been a question at the deadline
  have hyes : p.pollAnswer probe deadline interval last = true := by
    refine Bool.of_not_eq_false fun hno => ?_
    have hlast := (h.timedOut hno).2
    have hyes := hstays last (Nat.le_refl last) (Nat.le_trans hdeadline hlast)
    exact Bool.false_ne_true (hno.symm.trans hyes)
  refine ⟨h.granted hyes, ?_⟩
  have hle : p.pollTime deadline interval last ≤ max p.clock deadline := questionTime_le _ _ _ _
  rw [h.clock]
  cases last with
  | zero =>
    rw [pollTime_zero]
    omega
  | succ k =>
    -- the question before the last one came before the permission
    have hbefore : p.pollTime deadline interval k < t := by
      refine Nat.lt_of_not_le fun hle => ?_
      have hyes := hstays k (Nat.le_succ k) hle
      exact Bool.false_ne_true ((h.unfinished k (Nat.lt_succ_self k)).2.symm.trans hyes)
    have hnext : p.pollTime deadline interval (k + 1) ≤ _ := pollTime_succ_le k
    omega

end Timetable

/-- When polling from a moment on puts its questions, how many of them, and what comes of it. -/
structure Punctual (probe : Probe σ) (deadline interval : Nat) (p : Playback σ) (last : Nat)
    (outcome : Outcome) (p' : Playback σ) : Prop where
  /-- The questions are put one after another until one is answered with yes or time is up. -/
  polled : Polled probe deadline interval p last outcome p'
  /-- Before the deadline they are put after every interval, and then at the deadline. -/
  times : p.clock < deadline →
    ∀ k, p.pollTime deadline interval k = min deadline (p.clock + k * interval)
  /-- No two of them are put at one time. -/
  once : ∀ k < last, p.pollTime deadline interval k < p.pollTime deadline interval (k + 1)
  /-- After the deadline there is only one, and it is put at once. -/
  late : deadline ≤ p.clock → last = 0 ∧ p'.clock = p.clock
  /-- Time is up exactly at the deadline, or at once after it. -/
  timedOut : p.pollAnswer probe deadline interval last = false →
    outcome = .timedOut ∧ p'.clock = max p.clock deadline
  /-- There are no more questions than intervals before the deadline, and one. -/
  count : last + 1 ≤ (deadline - p.clock) ⌈/⌉ interval + 1
  /-- A permission that comes in time and stays is noticed within an interval. -/
  noticed : ∀ t, p.clock ≤ t → t ≤ deadline →
    (∀ k ≤ last, t ≤ p.pollTime deadline interval k →
      p.pollAnswer probe deadline interval k = true) →
    outcome = .granted ∧ p'.clock ≤ min deadline (t + interval)

/-- **The timetable of polling.**  Polling with an interval comes to an end, and it asks the probe
after every interval until it says yes, for the last time at the deadline. -/
theorem poll_punctual (probe : Probe σ) (deadline : Nat) {interval : Nat} (hpos : 0 < interval)
    (p : Playback σ) :
    ∃ last outcome p', run probe (poll interval (deadline - p.clock)) p = (.finished outcome, p') ∧
      Punctual probe deadline interval p last outcome p' := by
  obtain ⟨last, outcome, p', hrun, hpolled⟩ := poll_polled probe deadline hpos p
  refine ⟨last, outcome, p', hrun, hpolled, pollTime_of_lt, fun k hk => hpolled.once hpos hk,
    fun hlate => ?_, fun hno => ⟨(hpolled.timedOut hno).1, hpolled.timedOut_clock hno⟩,
    Nat.succ_le_succ (hpolled.count hpos), fun t => hpolled.noticed⟩
  have hlast := hpolled.late hlate
  have hclock := hpolled.clock
  rw [hlast, pollTime_zero] at hclock
  exact ⟨hlast, hclock⟩

/-- A permission that is there from seven milliseconds on. -/
def lateProbe : Probe Unit :=
  fun time s => (7 ≤ time, s)

/-- Polling every three milliseconds with ten milliseconds to go notices it. -/
theorem poll_punctual_late : 0 < 3 ∧
    ∃ last outcome p', run lateProbe (poll 3 (10 - 0)) ⟨0, (), []⟩ = (.finished outcome, p') ∧
      Punctual lateProbe 10 3 ⟨0, (), []⟩ last outcome p' ∧ outcome = .granted := by
  have hpos : 0 < 3 := by decide
  obtain ⟨last, outcome, p', hrun, hpunctual⟩ := poll_punctual lateProbe 10 hpos ⟨0, (), []⟩
  refine ⟨hpos, last, outcome, p', hrun, hpunctual, ?_⟩
  exact (hpunctual.noticed 7 (by decide) (by decide) fun k _ hk => decide_eq_true hk).1

end CodePermit
