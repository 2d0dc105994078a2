import CodePermit.Proofs.Operations
import CodePermit.Proofs.Resumption
import CodePermit.Proofs.Timekeeping
import Mathlib.Data.List.Induction
/-!
# Services run their chains

A service adds nothing to a run of its chain and takes nothing away: whoever waits for the run is
answered with the phase in which the chain itself would have ended, played from the same moment, and
nothing else is observed.  It makes no difference either whether somebody waits for the run or
whether time is only let pass, in however many pieces.

* `Board.ran`, `Service.ran` — the board, and a service, after a run;
* `Ending.ReportedAs` — how the ending of a routine is reported;
* `advance_claimed` — a run that is waited for ends as the routine of the chain does;
* `passUntil_passUntil`, `performAll_sleeps` — time that passes in pieces;
* `Service.EndsIn`, `endsIn_of_reported` — what a service makes of a run that ends or breaks down;
* `Service.RunsChain`, `runsChain_of_finished` — how a service runs its chain.
-/

namespace CodePermit

open Routine

variable {σ : Type}

/-! ### After a run -/

/-- A routine that has ended like this is reported like this, as the run of a number. -/
def Ending.ReportedAs (n : Nat) (report : Report) : Ending Report → Prop
  | finished r => report = r
  | brokenDown message => report = .aborted (breakdownMessage (n + 1) message)
  | hung => False

theorem Ending.ReportedAs.unique {n : Nat} {report report' : Report} {ending : Ending Report}
    (h : ending.ReportedAs n report) (h' : ending.ReportedAs n report') : report = report' := by
  cases ending with
  | finished r => exact Eq.trans h (Eq.symm h')
  | brokenDown message => exact Eq.trans h (Eq.symm h')
  | hung => exact absurd h id

/-- The board after a run was claimed, has announced phases and was settled. -/
def Board.ran (b : Board) (phases : List Phase) (report : Report) : Board :=
  (phases.foldl Board.publish { b.publish .claimed with claims := b.claims + 1 }).settle report

/-- The time that passes while one lets time pass again and again, each time no more than the
longest rest. -/
def timeSlept : List Nat → Nat
  | [] => 0
  | length :: lengths => min length longestRest + timeSlept lengths

namespace Service

/-- The service after a run of its chain that has ended with a report, where the play of that run
has left its own observations. -/
def ran (s : Service σ) (report : Report) (p' : Playback σ) : Service σ :=
  { s with
    board := s.board.ran (publishedPhases p'.history) report
    flight := none
    now := p'.onto s.now.history }

/-- The service with a run just claimed. -/
def claimed (s : Service σ) : Service σ :=
  { s with
    board := { s.board.publish .claimed with claims := s.board.claims + 1 }
    flight := some ⟨s.board.claims + 1, s.now.clock, s.chain.run⟩ }

variable {s : Service σ} {report : Report} {p' : Playback σ}

theorem startRun_eq_claimed {admits : Phase → Bool} (h : admits s.phase = true) :
    s.startRun admits = some s.claimed := by
  have hclaim : s.board.claim admits =
      some { s.board.publish .claimed with claims := s.board.claims + 1 } := if_pos h
  rw [startRun, hclaim]
  rfl

theorem begin_eq_claimed (h : s.phase = .notStarted) : s.begin = s.claimed := by
  have hfirst : Board.admitsFirst s.phase = true := by simp [Board.admitsFirst, h]
  rw [begin, startRun_eq_claimed hfirst]
  rfl

theorem acquireCall_eq_waiting (h : s.phase = .notStarted) :
    s.acquireCall = (.waiting, s.claimed) := by
  rw [acquireCall, begin_eq_claimed h]
  rfl

theorem retryCall_eq_waiting (h : s.phase.isFailed = true) :
    s.retryCall = (.waiting, s.claimed) := by
  have hretry : Board.admitsRetry s.phase = true := h
  rw [retryCall, startRun_eq_claimed hretry]

/-- **A run that is played to its end leaves the service as after a run of the chain.** -/
theorem advance_claimed {horizon : Option Nat} {ending : Ending Report}
    (hr : reaches horizon s.now.clock = true)
    (h : play s.probe horizon s.chain.run s.now.afresh = (ending.toStop σ, p'))
    (reported : ending.ReportedAs s.board.claims report) :
    s.claimed.advance horizon = s.ran report p' := by
  have hresume : s.claimed.resume horizon ⟨s.board.claims + 1, s.now.clock, s.chain.run⟩ =
      (ending.toStop σ, p') := h
  show (if reaches horizon s.now.clock then s.claimed.stopped _ (s.claimed.resume horizon _)
    else s.claimed) = s.ran report p'
  rw [if_pos hr, hresume]
  cases ending with
  | finished r =>
    obtain rfl : report = r := reported
    rfl
  | brokenDown message =>
    obtain rfl : report = .aborted (breakdownMessage (s.board.claims + 1) message) := reported
    rfl
  | hung => exact absurd reported id

/-! ### Time that passes in pieces -/

theorem advance_of_none (h : s.flight = none) (horizon : Option Nat) : s.advance horizon = s := by
  rw [advance, h]

theorem advance_of_some {f : Flight σ} (h : s.flight = some f) (horizon : Option Nat) :
    s.advance horizon =
      if reaches horizon f.wake then s.stopped f (s.resume horizon f) else s := by
  rw [advance, h]

end Service

/-- A routine that does not sleep for ever does not do so up to a horizon either. -/
theorem play_ne_hung {α : Type} (probe : Probe σ) (horizon : Option Nat) {r : Routine σ α}
    (hr : r.Keeps .wakeful) (p : Playback σ) : (play probe horizon r p).1 ≠ .hung := by
  induction r generalizing p with
  | done a =>
    intro h
    cases h
  | breakdown message =>
    intro h
    cases h
  | hang => exact absurd hr id
  | sleep length next ih =>
    rw [play]
    split
    · exact ih hr.2 _
    · intro h
      cases h
  | ask who next ih => exact ih _ (hr _).2 _
  | note event next ih => exact ih hr.2 _
  | act change next ih => exact ih _ _ (hr _ _) _

theorem publishedPhases_append (later earlier : List (Nat × Event)) :
    publishedPhases (later ++ earlier) = publishedPhases earlier ++ publishedPhases later := by
  simp only [publishedPhases, List.reverse_append, List.filterMap_append]

namespace Service

variable {s : Service σ} {report : Report} {p' : Playback σ}

/-- What a run leaves in two pieces is what it leaves in one. -/
theorem stopped_stopped {f : Flight σ} {p q : Playback σ} {wake : Nat} {rest : Routine σ Report}
    {stop : Stop σ Report} (hs : stop ≠ .hung) (t : Nat) :
    ((s.stopped f (.asleep wake rest, p)).atTime t).stopped { f with wake := wake, rest := rest }
      (stop, q) = s.stopped f (stop, q.onto p.history) := by
  have hboard : (publishedPhases (q.onto p.history).history).foldl Board.publish s.board =
      (publishedPhases q.history).foldl Board.publish
        ((publishedPhases p.history).foldl Board.publish s.board) := by
    rw [Playback.onto, publishedPhases_append, List.foldl_append]
  have hhistory : q.history ++ (p.history ++ s.now.history) =
      (q.onto p.history).history ++ s.now.history := (List.append_assoc _ _ _).symm
  cases stop with
  | hung => exact absurd rfl hs
  | finished report =>
    simp only [stopped, atTime, hboard, hhistory]
    rfl
  | brokenDown message =>
    simp only [stopped, atTime, hboard, hhistory]
    rfl
  | asleep wake' rest' =>
    simp only [stopped, atTime, hboard, hhistory]
    rfl

/-- **Time that passes in two pieces passes as in one.** -/
theorem passUntil_passUntil (hw : ∀ f, s.flight = some f → f.rest.Keeps .wakeful) {t t' : Nat}
    (h : t ≤ t') : (s.passUntil t).passUntil t' = s.passUntil t' := by
  have hreaches : reaches (some t') t = true := decide_eq_true h
  show (((s.advance (some t)).atTime t).advance (some t')).atTime t' =
    (s.advance (some t')).atTime t'
  cases hf : s.flight with
  | none =>
    have hlater : (s.atTime t).flight = none := hf
    rw [advance_of_none hf, advance_of_none hf, advance_of_none hlater]
    rfl
  | some f =>
    by_cases hwake : reaches (some t) f.wake = true
    · have hfar : reaches (some t') f.wake = true :=
        reaches_of_le hreaches (of_decide_eq_true hwake)
      have hwhole : s.resume (some t') f = Stop.takeUp s.probe (some t') (s.resume (some t) f) :=
        (takeUp_play s.probe hreaches f.rest _).symm
      have hnear : (s.resume (some t) f).1 ≠ .hung := play_ne_hung s.probe _ (hw f hf) _
      have hall : (s.resume (some t') f).1 ≠ .hung := play_ne_hung s.probe _ (hw f hf) _
      rw [advance_of_some hf, if_pos hwake, advance_of_some hf, if_pos hfar]
      rw [hwhole] at hall ⊢
      generalize s.resume (some t) f = played at hnear hall ⊢
      obtain ⟨stop, p⟩ := played
      cases stop with
      | finished report => rfl
      | brokenDown message => rfl
      | hung => exact absurd rfl hnear
      | asleep wake rest =>
        -- the run sleeps at the end of the first piece and may wake in the second
        have hflight : ((s.stopped f (.asleep wake rest, p)).atTime t).flight =
            some { f with wake := wake, rest := rest } := rfl
        rw [advance_of_some hflight]
        by_cases hwakes : reaches (some t') wake = true
        · have htake : Stop.takeUp s.probe (some t') (.asleep wake rest, p) =
              play s.probe (some t') rest { p with clock := wake } := if_pos hwakes
          have honto := play_onto s.probe (some t') rest { p with clock := wake, history := [] }
            p.history
          rw [htake] at hall ⊢
          rw [if_pos hwakes]
          have hplay : play s.probe (some t') rest { p with clock := wake } = _ := honto
          rw [hplay] at hall ⊢
          exact congrArg (fun s => atTime s t') (stopped_stopped hall t)
        · have htake : Stop.takeUp s.probe (some t') (.asleep wake rest, p) =
              (.asleep wake rest, p) := if_neg hwakes
          rw [htake, if_neg hwakes]
          rfl
    · have hlater : (s.atTime t).flight = some f := hf
      rw [advance_of_some hf, if_neg hwake, advance_of_some hf, advance_of_some hlater]
      by_cases hfar : reaches (some t') f.wake = true
      · rw [if_pos hfar, if_pos hfar]
        rfl
      · rw [if_neg hfar, if_neg hfar]
        rfl

theorem timeSlept_append (lengths : List Nat) (length : Nat) :
    timeSlept (lengths ++ [length]) = timeSlept lengths + min length longestRest := by
  induction lengths with
  | nil => exact Nat.add_comm _ _
  | cons first lengths ih =>
    show min first longestRest + timeSlept (lengths ++ [length]) = _
    rw [ih, ← Nat.add_assoc]
    rfl

/-- **Time may be let pass in any number of pieces.** -/
theorem performAll_sleeps (hw : ∀ f, s.flight = some f → f.rest.Keeps .wakeful)
    {lengths : List Nat} (hne : lengths ≠ []) :
    s.performAll (lengths.map .sleep) = s.passUntil (s.now.clock + timeSlept lengths) := by
  induction lengths using List.reverseRecOn with
  | nil => exact absurd rfl hne
  | append_singleton lengths length ih =>
    rw [List.map_append, performAll_append, timeSlept_append, ← Nat.add_assoc]
    show (s.performAll (lengths.map .sleep)).sleep length = _
    by_cases hnil : lengths = []
    · rw [hnil]
      rfl
    · rw [ih hnil]
      show (s.passUntil _).passUntil (s.now.clock + timeSlept lengths + min length longestRest) = _
      exact passUntil_passUntil hw (Nat.le_add_right _ _)

/-! ### Runs of the chain -/

/-- What a service makes of a run, where the routine of the chain, played from the same moment,
leaves observations of its own and its ending is reported. -/
structure EndsIn (s : Service σ) (report : Report) (p' : Playback σ) : Prop where
  /-- Whoever starts the first run and waits is answered with the phase of the report, and finds the
  service as after that run. -/
  acquire : s.phase = .notStarted → s.acquire = (report.phase, s.ran report p')
  /-- The same holds for whoever retries after a failure. -/
  retry : s.phase.isFailed = true → s.retry = (report.phase, s.ran report p')
  /-- Whoever starts the first run and does not wait finds it claimed, and no time has passed. -/
  begin : s.phase = .notStarted → s.begin.phase = .claimed ∧ s.begin.now = s.now
  /-- If time is let pass beyond the end of the run then, at once or in pieces, the service is the
  one that is found by whoever waits, only later. -/
  slept : s.phase = .notStarted → ∀ lengths, p'.clock < s.now.clock + timeSlept lengths →
    s.begin.performAll (lengths.map .sleep) =
      (s.ran report p').atTime (s.now.clock + timeSlept lengths)
  /-- After the run the board shows the phase of the report. -/
  shown : (s.ran report p').phase = report.phase
  /-- It keeps the report. -/
  kept : (s.ran report p').board.report = some report
  /-- What the routine makes heard is observed, at the same times, and nothing else. -/
  observed : (s.ran report p').now.events = s.now.events ++ p'.events
  /-- The run ends when the routine does, and leaves the same surroundings. -/
  left : (s.ran report p').now.clock = p'.clock ∧
    (s.ran report p').now.surroundings = p'.surroundings

/-- **A run ends for the service as the routine does.** -/
theorem endsIn_of_reported {ending : Ending Report}
    (h : run s.probe s.chain.run s.now.afresh = (ending, p'))
    (reported : ending.ReportedAs s.board.claims report) : s.EndsIn report p' := by
  have hplay : play s.probe none s.chain.run s.now.afresh = (ending.toStop σ, p') := by
    rw [play_none, h]
  have hawaited : await (.waiting, s.claimed) = (report.phase, s.ran report p') := by
    show ((s.claimed.advance none).phase, s.claimed.advance none) = _
    rw [advance_claimed rfl hplay reported]
    rfl
  refine ⟨fun hs => ?_, fun hs => ?_, fun hs => ?_, fun hs lengths hlt => ?_, rfl, rfl, ?_,
    rfl, rfl⟩
  · rw [acquire, acquireCall_eq_waiting hs, hawaited]
  · rw [retry, retryCall_eq_waiting hs, hawaited]
  · rw [begin_eq_claimed hs]
    exact ⟨rfl, rfl⟩
  · have hstarted : s.now.clock ≤ p'.clock := by
      have hclock := run_clock_le s.probe s.chain.run s.now.afresh
      rw [h] at hclock
      exact hclock
    have hne : lengths ≠ [] := by
      intro hnil
      rw [hnil] at hlt
      exact absurd hlt (Nat.not_lt_of_le hstarted)
    have hwakeful : ∀ f, s.claimed.flight = some f → f.rest.Keeps .wakeful := by
      intro f hf
      cases hf
      exact run_wakeful s.chain
    have hend : (run s.probe s.chain.run s.now.afresh).2.clock ≤
        s.now.clock + timeSlept lengths := by
      rw [h]
      exact Nat.le_of_lt hlt
    have hreaches : reaches (some (s.now.clock + timeSlept lengths)) s.now.clock = true :=
      decide_eq_true (Nat.le_add_right _ _)
    rw [begin_eq_claimed hs, performAll_sleeps hwakeful hne]
    show (s.claimed.advance (some (s.now.clock + timeSlept lengths))).atTime _ = _
    rw [advance_claimed hreaches ((play_of_run_le hend).trans hplay) reported]
    rfl
  · exact events_onto p' s.now.history

/-- How a service runs its chain, where the routine of the chain, played from the same moment, ends
with a report and leaves observations of its own. -/
structure RunsChain (s : Service σ) (report : Report) (p' : Playback σ) : Prop where
  /-- Whoever starts the first run and waits is answered with the phase in which the routine ends,
  and finds the service as after that run. -/
  acquire : s.phase = .notStarted → s.acquire = (report.phase, s.ran report p')
  /-- The same holds for whoever retries after a failure. -/
  retry : s.phase.isFailed = true → s.retry = (report.phase, s.ran report p')
  /-- Whoever starts the first run and does not wait finds it claimed, and no time has passed. -/
  begin : s.phase = .notStarted → s.begin.phase = .claimed ∧ s.begin.now = s.now
  /-- If more time than the run takes is let pass then, at once or in pieces, the service is the one
  that is found by whoever waits, only later. -/
  slept : s.phase = .notStarted → ∀ lengths, report.elapsed < timeSlept lengths →
    s.begin.performAll (lengths.map .sleep) =
      (s.ran report p').atTime (s.now.clock + timeSlept lengths)
  /-- After the run the board shows the phase in which the routine has ended. -/
  shown : (s.ran report p').phase = report.phase
  /-- It keeps the report of the routine. -/
  kept : (s.ran report p').board.report = some report
  /-- What the routine makes heard is observed, at the same times, and nothing else. -/
  observed : (s.ran report p').now.events = s.now.events ++ p'.events
  /-- The run ends when the routine does, and leaves the same surroundings. -/
  left : (s.ran report p').now.clock = s.now.clock + report.elapsed ∧
    (s.ran report p').now.surroundings = p'.surroundings

/-- **A service runs its chain.** -/
theorem runsChain_of_finished
    (h : run s.probe s.chain.run s.now.afresh = (.finished report, p')) :
    s.RunsChain report p' := by
  have hclock : p'.clock = s.now.clock + report.elapsed := (run_elapsed h).1
  have hends : s.EndsIn report p' := endsIn_of_reported h rfl
  refine ⟨hends.acquire, hends.retry, hends.begin, fun hs lengths hlt => ?_, hends.shown,
    hends.kept, hends.observed, hclock, rfl⟩
  refine hends.slept hs lengths ?_
  rw [hclock]
  exact Nat.add_lt_add_left hlt _

end Service

end CodePermit
