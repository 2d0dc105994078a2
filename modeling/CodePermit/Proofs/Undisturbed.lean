import CodePermit.Proofs.Lifecycle
import CodePermit.Proofs.Moments
import CodePermit.Proofs.ServiceRuns
/-!
# Undisturbed runs

When a run has been claimed and nobody else moves, the task that works on it, the one that settles
it and the clock still take turns.  In whatever order they do, the scene follows the routine of the
chain step by step, and at the end it is as if the routine had been played at once.

* `Scene.Undisturbed` — scenes to which only a run, its settling and the clock lead;
* `Scene.Tracks`, `Scene.Undisturbed.tracks` — such scenes follow the routine of the chain;
* `Scene.Tracks.ends` — and they come to its end;
* `Scene.Retraces`, `Scene.RunsChain` — what is found there, and on the way;
* `service_runs_chain` — scenes and services run the chain.
-/

namespace CodePermit

open Routine

variable {σ : Type} {chain : Chain σ} {probe : Probe σ}

/-! ### Scenes to which a run leads -/

/-- From one scene to another nobody moves but a run and whoever settles it, and time passes only
while the run is asleep, no further than to the time at which it goes on. -/
inductive Scene.Undisturbed (chain : Chain σ) (probe : Probe σ) (n : Nat) (s : Scene σ) :
    Scene σ → Prop
  | here : Undisturbed chain probe n s s
  | work {s' : Scene σ} (h : Undisturbed chain probe n s s') :
      Undisturbed chain probe n s (s'.move chain probe (.work n))
  | settle {s' : Scene σ} (h : Undisturbed chain probe n s s') :
      Undisturbed chain probe n s (s'.move chain probe (.settle n))
  | wait {s' : Scene σ} {length wake : Nat} {rest : Routine σ Report}
      (h : Undisturbed chain probe n s s') (found : s'.runs[n]? = some (.working wake rest))
      (asleep : s'.clock + length ≤ wake) :
      Undisturbed chain probe n s (s'.move chain probe (.wait length))

theorem Scene.Undisturbed.trans {n : Nat} {s s' s'' : Scene σ}
    (h : s.Undisturbed chain probe n s') (h' : s'.Undisturbed chain probe n s'') :
    s.Undisturbed chain probe n s'' := by
  induction h' with
  | here => exact h
  | work _ ih => exact .work ih
  | settle _ ih => exact .settle ih
  | wait _ found asleep ih => exact .wait ih found asleep

/-- The play of a run that is claimed in a scene. -/
def Scene.playback (s : Scene σ) : Playback σ :=
  ⟨s.clock, s.surroundings, []⟩

/-- Since a run was claimed, the board was written and events were observed as in a play. -/
structure Scene.Hears (s s' : Scene σ) (q : Playback σ) : Prop where
  surroundings : s'.surroundings = q.surroundings
  events : s'.history.filterMap Occurrence.event? =
    s.history.filterMap Occurrence.event? ++ q.events
  written : writtenIn s'.history =
    writtenIn s.history ++ .claimed :: publishedPhases q.history

/-- What is found when a run is settled that was claimed in a scene: the play of the chain has left
the same, the board was written for the claim, for each announcement and for the final phase, and it
keeps the report. -/
structure Scene.Retraces (s s' : Scene σ) (report : Report) (p' : Playback σ) : Prop where
  shown : s'.board.phase = report.phase
  kept : s'.board.report = some report
  written : writtenIn s'.history =
    writtenIn s.history ++ .claimed :: (publishedPhases p'.history ++ [report.phase])
  events : s'.history.filterMap Occurrence.event? =
    s.history.filterMap Occurrence.event? ++ p'.events
  clock : s'.clock = p'.clock
  surroundings : s'.surroundings = p'.surroundings

/-- The scene follows the play of a routine: the run is at work and its rest leads where the whole
leads, or it is over as the play is. -/
inductive Scene.Tracks (probe : Probe σ) (n : Nat) (s : Scene σ)
    (whole : Ending Report × Playback σ) (s' : Scene σ) : Prop
  | working {rest : Routine σ Report} {q : Playback σ}
      (found : s'.runs[n]? = some (.working q.clock rest)) (heard : s.Hears s' q)
      (early : s'.clock ≤ q.clock) (ahead : run probe rest q = whole)
  | ended {report : Report} (found : s'.runs[n]? = some (.ended report))
      (heard : s.Hears s' whole.2) (clock : s'.clock = whole.2.clock)
      (reported : whole.1.ReportedAs n report)
  | filed {report : Report} (found : s'.runs[n]? = some (.filed report))
      (heard : s.Hears s' whole.2) (clock : s'.clock = whole.2.clock)
      (reported : whole.1.ReportedAs n report) (kept : s'.board.report = some report)
  | settled {report : Report} (found : s'.runs[n]? = some (.settled report))
      (retraced : s.Retraces s' report whole.2) (reported : whole.1.ReportedAs n report)

/-! ### Step by step -/

section Steps

variable {n : Nat} {s s' s'' : Scene σ} {q : Playback σ}

theorem move_work (chain : Chain σ) (probe : Probe σ) {wake : Nat} {rest : Routine σ Report}
    (found : s.runs[n]? = some (.working wake rest)) (awake : wake ≤ s.clock) :
    s.move chain probe (.work n) = s.work probe n rest := by
  unfold Scene.move
  dsimp only
  rw [found]
  exact if_pos awake

theorem move_settle_ended {report : Report} (found : s.runs[n]? = some (.ended report)) :
    s.move chain probe (.settle n) = s.file n report := by
  unfold Scene.move
  dsimp only
  rw [found]

theorem move_settle_filed {report : Report} (found : s.runs[n]? = some (.filed report)) :
    s.move chain probe (.settle n) = s.conclude n report := by
  unfold Scene.move
  dsimp only
  rw [found]

/-- A run that is asleep or over makes no step. -/
theorem move_work_idle {stage : Stage σ} (found : s.runs[n]? = some stage)
    (idle : ∀ wake rest, stage = .working wake rest → ¬wake ≤ s.clock) :
    s.move chain probe (.work n) = s := by
  unfold Scene.move
  dsimp only
  rw [found]
  cases stage with
  | working wake rest => exact if_neg (idle wake rest rfl)
  | _ => rfl

/-- A run at work and one that is settled are not to be settled. -/
theorem move_settle_idle {stage : Stage σ} (found : s.runs[n]? = some stage)
    (idle : ∀ report, stage ≠ .ended report ∧ stage ≠ .filed report) :
    s.move chain probe (.settle n) = s := by
  unfold Scene.move
  dsimp only
  rw [found]
  cases stage with
  | ended report => exact absurd rfl (idle report).1
  | filed report => exact absurd rfl (idle report).2
  | _ => rfl

/-- What is observed of the run is observed in the play. -/
theorem Scene.Hears.observe (h : s.Hears s' q) (hc : s'.clock = q.clock) (e : Event) :
    s.Hears (s'.observe n e) (q.observe e) where
  surroundings := h.surroundings
  events := by
    have hlast : [Occurrence.observed n s'.clock e].filterMap Occurrence.event? =
        [(s'.clock, e)] := rfl
    rw [Scene.observe, List.filterMap_append, h.events, hlast, hc, List.append_assoc]
    simp only [Playback.events, Playback.observe, List.reverse_cons]
  written := by
    have hlast : writtenIn [Occurrence.observed n s'.clock e] =
        publishedPhases [(q.clock, e)] := by
      cases e <;> rfl
    have hplay : publishedPhases ((q.clock, e) :: q.history) =
        publishedPhases q.history ++ publishedPhases [(q.clock, e)] :=
      publishedPhases_append [(q.clock, e)] q.history
    have hscene : writtenIn (s'.history ++ [.observed n s'.clock e]) =
        writtenIn s'.history ++ writtenIn [.observed n s'.clock e] := List.filterMap_append
    rw [Scene.observe, Playback.observe, hplay, hscene, hlast, h.written, List.append_assoc]
    rfl

/-- Something happens of which nothing is heard. -/
theorem Scene.Hears.quiet {s'' : Scene σ} {o : Occurrence} (h : s.Hears s' q)
    (hs : s''.surroundings = s'.surroundings) (hh : s''.history = s'.history ++ [o])
    (he : o.event? = none) (hw : o.written? = none) : s.Hears s'' q where
  surroundings := hs.trans h.surroundings
  events := by
    rw [hh, List.filterMap_append, List.filterMap_cons_none he, List.filterMap_nil, List.append_nil,
      h.events]
  written := by
    rw [hh, writtenIn_append_none s'.history hw, h.written]

/-- The surroundings change for both. -/
theorem Scene.Hears.change (h : s.Hears s' q) (hc : s'.clock = q.clock) (f : Nat → σ → σ) :
    s.Hears (s'.change f) (q.change f) := by
  refine ⟨?_, h.events, h.written⟩
  show f s'.clock s'.surroundings = f q.clock q.surroundings
  rw [hc, h.surroundings]

variable {whole : Ending Report × Playback σ}

/-- A run that is awake makes the next step of its routine. -/
theorem tracks_work {rest : Routine σ Report} (found : s'.runs[n]? = some (.working q.clock rest))
    (heard : s.Hears s' q) (hc : s'.clock = q.clock) (ahead : run probe rest q = whole) :
    s.Tracks probe n whole (s'.work probe n rest) := by
  cases rest with
  | done report =>
    obtain rfl : (.finished report, q) = whole := ahead
    have hquiet : s.Hears (s'.finish n report) q := heard.quiet rfl rfl rfl rfl
    exact .ended (getElem?_set_found found) hquiet hc rfl
  | breakdown message =>
    obtain rfl : (.brokenDown message, q) = whole := ahead
    have hquiet : s.Hears (s'.finish n (.aborted (breakdownMessage (n + 1) message))) q :=
      heard.quiet rfl rfl rfl rfl
    exact .ended (getElem?_set_found found) hquiet hc rfl
  | hang => exact .working found heard (Nat.le_of_eq hc) ahead
  | sleep length next =>
    have hslept := heard.observe (n := n) hc (.slept length)
    have hnext : run probe next (q.pass length) = whole := ahead
    have hwake : s'.clock + length = (q.pass length).clock := congrArg (fun t => t + length) hc
    refine .working (q := q.pass length) ?_ ⟨hslept.surroundings, hslept.events, hslept.written⟩ ?_
      hnext
    · rw [← hwake]
      exact getElem?_set_found found
    · exact Nat.le_trans (Nat.le_add_right _ length) (Nat.le_of_eq hwake)
  | ask who next =>
    have hchange := heard.change hc fun time x => (probe time x).2
    have hasked := hchange.observe (n := n) hc (.asked who (probe s'.clock s'.surroundings).1)
    have hplay : (q.change fun time x => (probe time x).2).observe
        (.asked who (probe s'.clock s'.surroundings).1) = (q.ask probe who).2 := by
      rw [hc, heard.surroundings]
      rfl
    have hanswer : (probe s'.clock s'.surroundings).1 = (q.ask probe who).1 := by
      rw [hc, heard.surroundings]
      rfl
    rw [hplay] at hasked
    have hnext : run probe (next (q.ask probe who).1) (q.ask probe who).2 = whole := ahead
    refine .working (q := (q.ask probe who).2) ?_
      ⟨hasked.surroundings, hasked.events, hasked.written⟩ (Nat.le_of_eq hc) hnext
    rw [← hanswer]
    show _ = some (Stage.working q.clock _)
    rw [← hc]
    exact getElem?_set_found found
  | note event next =>
    have hnoted := heard.observe (n := n) hc event
    have hnext : run probe next (q.observe event) = whole := ahead
    refine .working (q := q.observe event) ?_
      ⟨hnoted.surroundings, hnoted.events, hnoted.written⟩ (Nat.le_of_eq hc) hnext
    show _ = some (Stage.working q.clock _)
    rw [← hc]
    exact getElem?_set_found found
  | act f next =>
    have hchange := heard.change hc f
    have hnext : run probe (next q.clock q.surroundings) (q.change f) = whole := ahead
    refine .working (q := q.change f) ?_
      ⟨hchange.surroundings, hchange.events, hchange.written⟩ (Nat.le_of_eq hc) hnext
    show _ = some (Stage.working q.clock _)
    rw [← hc, ← heard.surroundings]
    exact getElem?_set_found found

/-- The report of a run that is over is filed. -/
theorem tracks_file {report : Report} (found : s'.runs[n]? = some (.ended report))
    (heard : s.Hears s' whole.2) (hc : s'.clock = whole.2.clock)
    (reported : whole.1.ReportedAs n report) : s.Tracks probe n whole (s'.file n report) := by
  have hquiet : s.Hears (s'.file n report) whole.2 := heard.quiet rfl rfl rfl rfl
  exact .filed (getElem?_set_found found) hquiet hc reported rfl

/-- The final phase of a run whose report is filed is shown. -/
theorem tracks_conclude {report : Report} (found : s'.runs[n]? = some (.filed report))
    (heard : s.Hears s' whole.2) (hc : s'.clock = whole.2.clock)
    (reported : whole.1.ReportedAs n report) (kept : s'.board.report = some report) :
    s.Tracks probe n whole (s'.conclude n report) := by
  refine .settled (getElem?_set_found found) ⟨rfl, kept, ?_, ?_, hc, heard.surroundings⟩ reported
  · rw [Scene.conclude, writtenIn_append_some _ rfl, heard.written, List.append_assoc]
    rfl
  · rw [Scene.conclude, List.filterMap_append, heard.events]
    exact List.append_nil _

theorem Scene.Tracks.work (h : s.Tracks probe n whole s') :
    s.Tracks probe n whole (s'.move chain probe (.work n)) := by
  cases h with
  | @working rest q found heard early ahead =>
    by_cases awake : q.clock ≤ s'.clock
    · rw [move_work chain probe found awake]
      exact tracks_work found heard (Nat.le_antisymm early awake) ahead
    · have hidle : s'.move chain probe (.work n) = s' := by
        refine move_work_idle found fun wake rest heq => ?_
        cases heq
        exact awake
      rw [hidle]
      exact .working found heard early ahead
  | ended found heard clock reported =>
    rw [move_work_idle found nofun]
    exact .ended found heard clock reported
  | filed found heard clock reported kept =>
    rw [move_work_idle found nofun]
    exact .filed found heard clock reported kept
  | settled found retraced reported =>
    rw [move_work_idle found nofun]
    exact .settled found retraced reported

theorem Scene.Tracks.settle (h : s.Tracks probe n whole s') :
    s.Tracks probe n whole (s'.move chain probe (.settle n)) := by
  cases h with
  | working found heard early ahead =>
    rw [move_settle_idle found fun _ => ⟨nofun, nofun⟩]
    exact .working found heard early ahead
  | ended found heard clock reported =>
    rw [move_settle_ended found]
    exact tracks_file found heard clock reported
  | filed found heard clock reported kept =>
    rw [move_settle_filed found]
    exact tracks_conclude found heard clock reported kept
  | settled found retraced reported =>
    rw [move_settle_idle found fun _ => ⟨nofun, nofun⟩]
    exact .settled found retraced reported

/-- Time passes while the run is asleep. -/
theorem Scene.Tracks.wait (h : s.Tracks probe n whole s') {length wake : Nat}
    {rest : Routine σ Report} (found : s'.runs[n]? = some (.working wake rest))
    (asleep : s'.clock + length ≤ wake) :
    s.Tracks probe n whole (s'.move chain probe (.wait length)) := by
  cases h with
  | @working rest' q found' heard early ahead =>
    obtain rfl : wake = q.clock := by
      rw [found] at found'
      cases found'
      rfl
    exact .working found' ⟨heard.surroundings, heard.events, heard.written⟩ asleep ahead
  | ended found' => cases found.symm.trans found'
  | filed found' => cases found.symm.trans found'
  | settled found' => cases found.symm.trans found'

/-- **In whatever order they move, the scene follows the play.** -/
theorem Scene.Undisturbed.tracks (h : s'.Undisturbed chain probe n s'')
    (hs : s.Tracks probe n whole s') : s.Tracks probe n whole s'' := by
  induction h with
  | here => exact hs
  | work _ ih => exact ih.work
  | settle _ ih => exact ih.settle
  | wait _ found asleep ih => exact ih.wait found asleep

/-- A run that is over is settled by two moves. -/
theorem undisturbed_settled (chain : Chain σ) (probe : Probe σ) {report : Report}
    (found : s.runs[n]? = some (.ended report)) :
    ∃ s', s.Undisturbed chain probe n s' ∧ s'.runs[n]? = some (.settled report) := by
  have hfiled : (s.move chain probe (.settle n)).runs[n]? = some (.filed report) := by
    rw [move_settle_ended found]
    exact getElem?_set_found found
  refine ⟨_, .settle (.settle .here), ?_⟩
  rw [move_settle_filed hfiled]
  exact getElem?_set_found hfiled

/-- A run wakes up when its time has come, and makes its next step. -/
theorem undisturbed_work (chain : Chain σ) (probe : Probe σ) {wake : Nat}
    {rest : Routine σ Report}
    (found : s.runs[n]? = some (.working wake rest)) (early : s.clock ≤ wake) :
    ∃ s' : Scene σ, s'.runs[n]? = some (.working wake rest) ∧ s'.clock = wake ∧
      s.Undisturbed chain probe n (s'.work probe n rest) := by
  have hwaited : (s.move chain probe (.wait (wake - s.clock))).clock = wake :=
    Nat.add_sub_cancel' early
  have hwork := move_work chain probe (s := s.move chain probe (.wait (wake - s.clock)))
    found (Nat.le_of_eq hwaited.symm)
  refine ⟨s.move chain probe (.wait (wake - s.clock)), found, hwaited, ?_⟩
  rw [← hwork]
  exact .work (.wait .here found (Nat.le_of_eq hwaited))

/-- **Left alone, a run comes to its end**, unless it sleeps for ever. -/
theorem undisturbed_ends (chain : Chain σ) (probe : Probe σ) {wake : Nat}
    {rest : Routine σ Report} (hr : rest.Keeps .wakeful)
    (found : s.runs[n]? = some (.working wake rest)) (early : s.clock ≤ wake) :
    ∃ s' report, s.Undisturbed chain probe n s' ∧ s'.runs[n]? = some (.settled report) := by
  induction rest generalizing s wake with
  | done report =>
    obtain ⟨s', found', -, hwork⟩ := undisturbed_work chain probe found early
    have hended : (s'.finish n report).runs[n]? = some (.ended report) := getElem?_set_found found'
    obtain ⟨s'', hsettle, hsettled⟩ := undisturbed_settled chain probe hended
    exact ⟨s'', report, hwork.trans hsettle, hsettled⟩
  | breakdown message =>
    obtain ⟨s', found', -, hwork⟩ := undisturbed_work chain probe found early
    have hended : (s'.work probe n (.breakdown message)).runs[n]? =
        some (.ended (.aborted (breakdownMessage (n + 1) message))) := getElem?_set_found found'
    obtain ⟨s'', hsettle, hsettled⟩ := undisturbed_settled chain probe hended
    exact ⟨s'', _, hwork.trans hsettle, hsettled⟩
  | hang => exact absurd hr id
  | sleep length next ih =>
    obtain ⟨s', found', -, hwork⟩ := undisturbed_work chain probe found early
    obtain ⟨s'', report, hnext, hsettled⟩ := ih (s := s'.work probe n (.sleep length next)) hr.2
      (getElem?_set_found found') (Nat.le_add_right s'.clock length)
    exact ⟨s'', report, hwork.trans hnext, hsettled⟩
  | ask who next ih =>
    obtain ⟨s', found', -, hwork⟩ := undisturbed_work chain probe found early
    obtain ⟨s'', report, hnext, hsettled⟩ := ih _ (s := s'.work probe n (.ask who next)) (hr _).2
      (getElem?_set_found found') (Nat.le_refl s'.clock)
    exact ⟨s'', report, hwork.trans hnext, hsettled⟩
  | note event next ih =>
    obtain ⟨s', found', -, hwork⟩ := undisturbed_work chain probe found early
    obtain ⟨s'', report, hnext, hsettled⟩ := ih (s := s'.work probe n (.note event next)) hr.2
      (getElem?_set_found found') (Nat.le_refl s'.clock)
    exact ⟨s'', report, hwork.trans hnext, hsettled⟩
  | act change next ih =>
    obtain ⟨s', found', -, hwork⟩ := undisturbed_work chain probe found early
    obtain ⟨s'', report, hnext, hsettled⟩ := ih _ _ (s := s'.work probe n (.act change next))
      (hr _ _) (getElem?_set_found found') (Nat.le_refl s'.clock)
    exact ⟨s'', report, hwork.trans hnext, hsettled⟩

end Steps

/-! ### Whole runs -/

/-- What has been heard of a play on the way is the beginning of what is heard of it in the end. -/
theorem run_hears (probe : Probe σ) {α : Type} (r : Routine σ α) (q : Playback σ) :
    (∃ es, (run probe r q).2.events = q.events ++ es) ∧
      ∃ phases,
        publishedPhases (run probe r q).2.history = publishedPhases q.history ++ phases := by
  have hevents := events_run probe r q
  refine ⟨⟨_, hevents⟩, ?_⟩
  unfold Playback.events at hevents
  rw [publishedPhases, hevents, List.filterMap_append]
  exact ⟨_, rfl⟩

/-- How a run that is claimed in a scene runs the chain, where the routine of the chain, played from
the moment of the claim, ends with a report and leaves observations of its own. -/
structure Scene.RunsChain (chain : Chain σ) (probe : Probe σ) (s : Scene σ) (caller : Caller)
    (report : Report) (p' : Playback σ) : Prop where
  /-- Left alone, the run is settled in the end. -/
  ends : ∃ s', (s.call chain caller).Undisturbed chain probe s.runs.length s' ∧
    s'.runs[s.runs.length]? = some (.settled report)
  /-- Wherever it is settled its report is that of the routine, and what is found is what the
  routine has left. -/
  settled : ∀ s' r, (s.call chain caller).Undisturbed chain probe s.runs.length s' →
    s'.runs[s.runs.length]? = some (.settled r) → r = report ∧ s.Retraces s' report p'
  /-- On the way there, the phases written on the board and what is observed are those of the
  routine as far as it has come. -/
  onTheWay : ∀ s', (s.call chain caller).Undisturbed chain probe s.runs.length s' →
    writtenIn s'.history <+:
        writtenIn s.history ++ .claimed :: (publishedPhases p'.history ++ [report.phase]) ∧
      s'.history.filterMap Occurrence.event? <+:
        s.history.filterMap Occurrence.event? ++ p'.events ∧
      s'.clock ≤ p'.clock

/-- A run that was just claimed has the whole routine before it. -/
theorem tracks_claimed (chain : Chain σ) (probe : Probe σ) {s : Scene σ} {caller : Caller}
    (h : caller.admits s.board.phase = true) :
    s.Tracks probe s.runs.length (run probe chain.run s.playback) (s.call chain caller) ∧
      (s.call chain caller).runs[s.runs.length]? = some (.working s.clock chain.run) ∧
        (s.call chain caller).clock = s.clock := by
  have hclaim : s.board.claim caller.admits =
      some { s.board.publish .claimed with claims := s.board.claims + 1 } := if_pos h
  have hwritten : (Occurrence.called caller s.board.phase).written? = some .claimed := if_pos h
  have hcall : s.call chain caller =
      { s with
        board := { s.board.publish .claimed with claims := s.board.claims + 1 }
        runs := s.runs ++ [.working s.clock chain.run]
        history := s.history ++ [.called caller s.board.phase] } := by
    rw [Scene.call, hclaim]
  have hfound : (s.runs ++ [.working s.clock chain.run])[s.runs.length]? =
      some (.working s.clock chain.run) := List.getElem?_concat_length
  rw [hcall]
  refine ⟨.working (q := s.playback) hfound ⟨rfl, ?_, ?_⟩ (Nat.le_refl _) rfl, hfound, rfl⟩
  · rw [List.filterMap_append]
    rfl
  · rw [writtenIn_append_some _ hwritten]
    rfl

/-- **A scene runs the chain**, also where the routine of the chain breaks down. -/
theorem scene_runsChain {s : Scene σ} {caller : Caller} (h : caller.admits s.board.phase = true)
    {ending : Ending Report} {report : Report} {p' : Playback σ}
    (hrun : run probe chain.run s.playback = (ending, p'))
    (reported : ending.ReportedAs s.runs.length report) :
    s.RunsChain chain probe caller report p' := by
  obtain ⟨htracks, hfound, hclock⟩ := tracks_claimed chain probe h
  rw [hrun] at htracks
  have settled : ∀ s' r, (s.call chain caller).Undisturbed chain probe s.runs.length s' →
      s'.runs[s.runs.length]? = some (.settled r) → r = report ∧ s.Retraces s' report p' := by
    intro s' r hs' hr
    cases hs'.tracks htracks with
    | working found => cases hr.symm.trans found
    | ended found => cases hr.symm.trans found
    | filed found => cases hr.symm.trans found
    | settled found retraced reported' =>
      cases hr.symm.trans found
      obtain rfl := reported'.unique reported
      exact ⟨rfl, retraced⟩
  refine ⟨?_, settled, fun s' hs' => ?_⟩
  · obtain ⟨s', r, hs', hr⟩ := undisturbed_ends chain probe (run_wakeful chain) hfound
      (Nat.le_of_eq hclock)
    obtain ⟨rfl, -⟩ := settled s' r hs' hr
    exact ⟨s', hs', hr⟩
  · cases hs'.tracks htracks with
    | @working rest q found heard early ahead =>
      obtain ⟨⟨es, hes⟩, phases, hphases⟩ := run_hears probe rest q
      have hend := run_clock_le probe rest q
      rw [ahead] at hes hphases hend
      refine ⟨⟨phases ++ [report.phase], ?_⟩, ⟨es, ?_⟩, Nat.le_trans early hend⟩
      · rw [heard.written, hphases]
        simp
      · rw [heard.events, hes, List.append_assoc]
    | ended found heard clock reported' =>
      refine ⟨⟨[report.phase], ?_⟩, heard.events ▸ List.prefix_rfl, Nat.le_of_eq clock⟩
      rw [heard.written]
      simp
    | filed found heard clock reported' kept =>
      refine ⟨⟨[report.phase], ?_⟩, heard.events ▸ List.prefix_rfl, Nat.le_of_eq clock⟩
      rw [heard.written]
      simp
    | @settled r found retraced reported' =>
      obtain rfl := reported'.unique reported
      exact ⟨retraced.written ▸ List.prefix_rfl, retraced.events ▸ List.prefix_rfl,
        Nat.le_of_eq retraced.clock⟩

/-- **A service is its chain at work.**  Unless a technique breaks down, a run that is started ends
with the report with which the routine of the chain ends when it is played by itself from the same
moment, after the same announcements and with everything else observed alike: so it is for whoever
waits for it, for whoever lets time pass, and in whatever order the run, its settling and the clock
take turns. -/
theorem service_runs_chain (chain : Chain σ) (probe : Probe σ) (surroundings : σ) :
    (∀ s : Service σ,
      (∃ report p', run s.probe s.chain.run s.now.afresh = (.finished report, p') ∧
        s.RunsChain report p') ∨
      ¬s.chain.Calm ∧ ∃ message p', run s.probe s.chain.run s.now.afresh =
        (.brokenDown message, p')) ∧
    ∀ ms caller, caller.admits (Scene.after chain probe surroundings ms).board.phase = true →
      (∃ report p',
        run probe chain.run (Scene.after chain probe surroundings ms).playback =
          (.finished report, p') ∧
        (Scene.after chain probe surroundings ms).RunsChain chain probe caller report p') ∨
      ¬chain.Calm ∧ ∃ message p',
        run probe chain.run (Scene.after chain probe surroundings ms).playback =
          (.brokenDown message, p') := by
  refine ⟨fun s => ?_, fun ms caller h => ?_⟩
  · refine (run_ends s.chain s.probe s.now.afresh).imp_left ?_
    rintro ⟨report, p', hrun⟩
    exact ⟨report, p', hrun, Service.runsChain_of_finished hrun⟩
  · refine (run_ends chain probe _).imp_left ?_
    rintro ⟨report, p', hrun⟩
    exact ⟨report, p', hrun, scene_runsChain h hrun rfl⟩

end CodePermit
