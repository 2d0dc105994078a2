import CodePermit.Proofs.Priorities
import CodePermit.Proofs.Resumption
import CodePermit.Proofs.RunManners
import CodePermit.Proofs.RunShape
import CodePermit.Proofs.Timekeeping
import CodePermit.Proofs.Verdict
/-!
# Chains with more entries

Further entries whose turn comes after all others do not disturb a run.  If it succeeds without them
they are not even looked at; if it fails without them, it goes on with them where it would have
given up, and as long as none of them is refused, runs out of time or finds the permission there, it
fails for the same reason in the end.

* `visits`, `pass_append` — entries one after another, and what comes behind them;
* `visits_ended` — a run that is over before all entries are tried has succeeded;
* `tour_unmoved` — entries that turn out to be unavailable do not change why a run fails;
* `Extends`, `run_extended` — the run of a chain and that of a longer one.
-/

namespace CodePermit

open Routine

variable {σ : Type} {probe : Probe σ}

/-! ### Entries with others behind -/

/-- Goes on with the rest of a run, unless the run has ended. -/
def Course.andThen (next : Progress → Routine σ Conclusion) : Course → Routine σ Conclusion
  | .onward p => next p
  | .ended c => .done c

/-- The entries of a chain one after another, with nothing said when all of them are tried. -/
def visits (host : Option Version) : (index : Nat) → List (Entry σ) → Progress → Routine σ Course
  | _, [], p => .done (.onward p)
  | index, e :: entries, p =>
    (visit host e index p).bind fun course =>
      match course with
      | .ended c => .done (.ended c)
      | .onward p => visits host (index + 1) entries p

/-- **A run goes through the entries in front and then through those behind**, unless it has ended
before. -/
theorem pass_append (host : Option Version) (index : Nat) (entries more : List (Entry σ))
    (p : Progress) :
    pass host index (entries ++ more) p =
      (visits host index entries p).bind
        (Course.andThen (pass host (index + entries.length) more)) := by
  induction entries generalizing index p with
  | nil => rfl
  | cons e entries ih =>
    rw [List.cons_append, pass, visits, bind_assoc]
    refine congrArg (Routine.bind _) (funext fun course => ?_)
    cases course with
    | ended c => rfl
    | onward p =>
      have hindex : index + (e :: entries).length = index + 1 + entries.length := by
        rw [List.length_cons]
        omega
      rw [hindex]
      exact ih (index + 1) p

/-- What ends a run before all entries are tried is a success. -/
theorem visits_ended {host : Option Version} {index : Nat} {entries : List (Entry σ)}
    {p : Progress} {es : List Event} {c : Conclusion}
    (h : Leads (visits host index entries p) es (.done (.ended c))) :
    c.phase.isSucceeded = true := by
  induction entries generalizing index p es with
  | nil => cases (leads_done h).2
  | cons e entries ih =>
    obtain ⟨es₁, course, es₂, -, h₁, h₂⟩ := leads_bind h
    cases course with
    | onward p => exact ih h₂
    | ended c' =>
      obtain ⟨-, heq⟩ := leads_done h₂
      cases heq
      rcases leads_visit h₁ with ⟨-, heq⟩ | ⟨es', -, -, heq⟩ | ⟨es', rs, -, -, tries⟩
      · cases heq
        exact permitted_isSucceeded p
      · cases heq
      · exact (tries_verdict tries).1

theorem run_visits_ended {host : Option Version} {index : Nat} {entries : List (Entry σ)}
    {p : Progress} {q q' : Playback σ} {c : Conclusion}
    (h : run probe (visits host index entries p) q = (.finished (.ended c), q')) :
    c.phase.isSucceeded = true := by
  obtain ⟨es, -, hleads⟩ := run_leads probe h
  exact visits_ended hleads

/-! ### Entries that are unavailable -/

/-- Attempts that find the technique unavailable do not change why the run would fail. -/
theorem tries_unmoved {e : Entry σ} {index left n : Nat} {p p' : Progress} {es : List Event}
    {rs : List Record} (h : Tries e index left n p es rs (.onward p'))
    (hrs : ∀ r ∈ rs, r.outcome = .unavailable) : p'.failure = p.failure := by
  cases h with
  | spent => rfl
  | unavailable once => rfl
  | setback bad once rest =>
    -- whoever was refused or ran out of time is not unavailable
    obtain rfl : _ = Outcome.unavailable := hrs _ List.mem_cons_self
    cases bad

/-- **Entries that turn out to be unavailable do not change why a run fails**, as long as the probe
says no. -/
theorem tour_unmoved {host : Option Version} {index : Nat} {entries : List (Entry σ)} {p : Progress}
    {es : List Event} {blocks : List (List Record)} {c : Conclusion}
    (h : Tour host index entries p es blocks c)
    (hrs : ∀ rs ∈ blocks, ∀ r ∈ rs, r.outcome = .unavailable) (hes : Unconfirmed es) :
    c.phase = .failed p.lastFailure true := by
  induction h with
  | exhausted => rfl
  | permitted => exact absurd List.mem_cons_self hes
  | @skipped index p e entries es es' blocks c passed rest ih =>
    have hlater : Unconfirmed es' := fun hmem =>
      hes (List.mem_cons_of_mem _ (List.mem_append_right _ hmem))
    exact ih (fun rs hmem => hrs rs (List.mem_cons_of_mem _ hmem)) hlater
  | @tried index p p' e entries es es' rs blocks c fit tries rest ih =>
    have hlater : Unconfirmed es' := fun hmem =>
      hes (List.mem_cons_of_mem _ (List.mem_cons_of_mem _ (List.mem_append_right _ hmem)))
    have hfailure : p'.failure = p.failure := tries_unmoved tries (hrs rs List.mem_cons_self)
    rw [ih (fun rs hmem => hrs rs (List.mem_cons_of_mem _ hmem)) hlater, Progress.lastFailure,
      hfailure]
    rfl
  | @ended index p e entries es rs c fit tries =>
    obtain ⟨-, es', rfl, -⟩ := tries_verdict tries
    exact absurd (List.mem_cons_of_mem _ (List.mem_cons_of_mem _
      (List.mem_append_right _ List.mem_cons_self))) hes

/-- What is heard and recorded of entries when a run comes to them, and how it fails if they turn
out to be unavailable. -/
theorem run_pass_adds {host : Option Version} {index : Nat} {entries : List (Entry σ)}
    {p : Progress} {q q' : Playback σ} {c : Conclusion}
    (h : run probe (pass host index entries p) q = (.finished c, q')) :
    ∃ later records, q'.events = q.events ++ later ∧ c.records = p.records ++ records ∧
      ((∀ r ∈ records, r.outcome = .unavailable) → (∀ e ∈ later, e.2 ≠ .asked .run true) →
        c.phase = .failed p.lastFailure true) := by
  obtain ⟨es, hevents, hleads⟩ := run_leads probe h
  obtain ⟨blocks, tour⟩ := pass_tour hleads
  obtain ⟨extra, hrecords, -⟩ := tour_records tour
  rw [List.append_assoc] at hrecords
  refine ⟨es, blocks.flatten ++ extra, hevents, hrecords, fun hunavailable hno => ?_⟩
  refine tour_unmoved tour (fun rs hrs r hr => ?_) fun hmem => ?_
  · exact hunavailable r (List.mem_append_left _ (List.mem_flatten_of_mem hrs hr))
  · obtain ⟨e, he, hyes⟩ := List.mem_map.1 hmem
    exact hno e he hyes

/-! ### Longer chains -/

/-- How the run of a chain from a moment on compares with that of a chain with more entries. -/
inductive Extends (p : Playback σ) : Report → Playback σ → Report → Playback σ → Prop
  /-- The run succeeds, and with more entries it is the same. -/
  | untouched {report : Report} {p' : Playback σ} (succeeded : report.phase.isSucceeded = true) :
      Extends p report p' report p'
  /-- The run fails, and with more entries it goes on where it would have said so.  If none of them
  has left a record but that it was unavailable, and the probe has not said yes, it fails for the
  same reason. -/
  | goesOn {report report' : Report} {p' p'' : Playback σ} {failure : Failure}
      {common later : List (Nat × Event)} {records : List Record}
      (failed : report.phase = .failed failure true)
      (heard : p'.events = p.events ++ common ++ [(p'.clock, .warned (.runFailed failure))])
      (heardLater : p''.events = p.events ++ common ++ later)
      (recorded : report'.records = report.records ++ records)
      (unmoved : (∀ r ∈ records, r.outcome = .unavailable) →
        (∀ e ∈ later, e.2 ≠ .asked .run true) → report'.phase = .failed failure true) :
      Extends p report p' report' p''

/-- The run of a chain is a pass over its entries, and a stopwatch. -/
theorem run_pass {c : Chain σ} {p p' : Playback σ} {report : Report}
    (h : run probe c.run p = (.finished report, p')) :
    run probe (pass c.host 0 c.entries {}) p =
      (.finished ⟨report.records, report.phase⟩, p') := by
  obtain ⟨⟨conclusion, d⟩, q, hpass, hdone⟩ := finished_of_bind h
  cases hdone
  exact run_timedFrom hpass

/-- Reports of runs from one moment to another are the same if they conclude alike. -/
theorem report_eq {c c' : Chain σ} {p p' : Playback σ} {report report' : Report}
    (h : run probe c.run p = (.finished report, p'))
    (h' : run probe c'.run p = (.finished report', p'))
    (hrecords : report'.records = report.records) (hphase : report'.phase = report.phase) :
    report' = report := by
  have helapsed := (run_elapsed h).1
  have helapsed' := (run_elapsed h').1
  obtain ⟨records, phase, elapsed⟩ := report
  obtain ⟨records', phase', elapsed'⟩ := report'
  obtain rfl : elapsed' = elapsed := by
    simp only at helapsed helapsed'
    omega
  obtain rfl : records' = records := hrecords
  obtain rfl : phase' = phase := hphase
  rfl

section Behind

variable {c c' : Chain σ} {host : Option Version} {entries : List (Entry σ)}
  {next next' : Progress → Routine σ Conclusion} {p q p' p'' : Playback σ} {report report' : Report}

/-- A run that the entries in front have ended is the same with others behind. -/
theorem extends_ended {conclusion : Conclusion}
    (hrun : run probe c.run p = (.finished report, p'))
    (hrun' : run probe c'.run p = (.finished report', p''))
    (hvisits : run probe (visits host 0 entries {}) p = (.finished (.ended conclusion), q))
    (hrest : run probe (Course.andThen next (.ended conclusion)) q =
      (.finished ⟨report.records, report.phase⟩, p'))
    (hrest' : run probe (Course.andThen next' (.ended conclusion)) q =
      (.finished ⟨report'.records, report'.phase⟩, p'')) :
    Extends p report p' report' p'' := by
  have hc : conclusion = ⟨report.records, report.phase⟩ :=
    Ending.finished.inj (congrArg Prod.fst hrest)
  have hsame : (report'.records = report.records ∧ report'.phase = report.phase) ∧ p'' = p' := by
    simpa using hrest'.symm.trans hrest
  obtain ⟨⟨hrecords, hphase⟩, rfl⟩ := hsame
  obtain rfl : report' = report := report_eq hrun hrun' hrecords hphase
  have hsucceeded := run_visits_ended hvisits
  rw [hc] at hsucceeded
  exact .untouched hsucceeded

/-- A run that the entries in front have not ended fails, or goes on with others behind. -/
theorem extends_onward {index : Nat} {more : List (Entry σ)} {progress : Progress}
    (hvisits : run probe (visits host 0 entries {}) p = (.finished (.onward progress), q))
    (hrest : run probe (pass host index [] progress) q =
      (.finished ⟨report.records, report.phase⟩, p'))
    (hrest' : run probe (pass host index more progress) q =
      (.finished ⟨report'.records, report'.phase⟩, p'')) :
    Extends p report p' report' p'' := by
  have hgivesUp : (Ending.finished progress.exhausted,
      q.observe (.warned (.runFailed progress.lastFailure))) =
        (.finished ⟨report.records, report.phase⟩, p') := hrest
  have hc : progress.exhausted = ⟨report.records, report.phase⟩ :=
    Ending.finished.inj (congrArg Prod.fst hgivesUp)
  have hp' : p' = q.observe (.warned (.runFailed progress.lastFailure)) :=
    (congrArg Prod.snd hgivesUp).symm
  have hrecords : report.records = progress.records := (congrArg Conclusion.records hc).symm
  have hfailed : report.phase = .failed progress.lastFailure true :=
    (congrArg Conclusion.phase hc).symm
  obtain ⟨es, hevents, -⟩ := run_leads probe hvisits
  obtain ⟨es', records, hlater, hrecorded, hunmoved⟩ := run_pass_adds hrest'
  have heard : p'.events =
      p.events ++ es ++ [(p'.clock, .warned (.runFailed progress.lastFailure))] := by
    rw [← hevents, hp']
    exact List.reverse_cons
  rw [hevents] at hlater
  rw [← hrecords] at hrecorded
  exact .goesOn hfailed heard hlater hrecorded hunmoved

end Behind

/-- **A chain with more entries behind.**  If the priorities of further entries are not below those
of the others and no technique breaks down, the run of the longer chain is that of the shorter one
where that succeeds, and goes on from it where that fails. -/
theorem run_extended (first more : List (Entry σ)) (host : Option Version) (probe : Probe σ)
    (p : Playback σ)
    (later : ∀ e ∈ first, ∀ f ∈ more, e.policy.priority ≤ f.policy.priority)
    (calm : ∀ e ∈ first ++ more, e.strategy.Calm) :
    ∃ report p' report' p'',
      run probe (Chain.ofEntries first host).run p = (.finished report, p') ∧
      run probe (Chain.ofEntries (first ++ more) host).run p = (.finished report', p'') ∧
      Extends p report p' report' p'' := by
  have hcalm : (Chain.ofEntries first host).Calm :=
    fun e he => calm e (List.mem_append_left _ (mem_sorted.1 he))
  have hcalm' : (Chain.ofEntries (first ++ more) host).Calm :=
    fun e he => calm e (mem_sorted.1 he)
  obtain ⟨report, p', hrun⟩ := run_reports hcalm probe p
  obtain ⟨report', p'', hrun'⟩ := run_reports hcalm' probe p
  refine ⟨report, p', report', p'', hrun, hrun', ?_⟩
  have hpass : run probe (pass host 0 (sorted first ++ []) {}) p =
      (.finished ⟨report.records, report.phase⟩, p') := by
    rw [List.append_nil]
    exact run_pass hrun
  have hpass' : run probe (pass host 0 (sorted first ++ sorted more) {}) p =
      (.finished ⟨report'.records, report'.phase⟩, p'') := by
    rw [← sorted_append later]
    exact run_pass hrun'
  -- both runs go through the entries in front in the same way
  rw [pass_append] at hpass hpass'
  obtain ⟨course, q, hvisits, hrest⟩ := finished_of_bind hpass
  obtain ⟨course', q', hvisits', hrest'⟩ := finished_of_bind hpass'
  rw [hvisits] at hvisits'
  cases hvisits'
  cases course with
  | ended conclusion => exact extends_ended hrun hrun' hvisits hrest hrest'
  | onward progress => exact extends_onward hvisits hrest hrest'

/-- A technique that is refused. -/
def refusedEntry : Entry Unit :=
  ⟨{ technique := .selfElevation, priority := 0, timeout := 10 },
    .always (fun _ => .done (.denied "d")) fun _ => trivial⟩

/-- A technique of the same priority that finds itself unavailable. -/
def unavailableEntry : Entry Unit :=
  ⟨{ technique := .awaitDebugger, priority := 0, timeout := 10 },
    .always (fun _ => .done .unavailable) fun _ => trivial⟩

/-- With a technique that is unavailable the run still fails because the other one is refused. -/
theorem run_extended_unavailable :
    (∀ e ∈ [refusedEntry], ∀ f ∈ [unavailableEntry], e.policy.priority ≤ f.policy.priority) ∧
    (∀ e ∈ [refusedEntry] ++ [unavailableEntry], e.strategy.Calm) ∧
    ∃ report p' report' p'',
      run (fun _ s => (false, s)) (Chain.ofEntries [refusedEntry] none).run ⟨0, (), []⟩ =
        (.finished report, p') ∧
      run (fun _ s => (false, s))
        (Chain.ofEntries ([refusedEntry] ++ [unavailableEntry]) none).run ⟨0, (), []⟩ =
          (.finished report', p'') ∧
      Extends ⟨0, (), []⟩ report p' report' p'' ∧
      report.phase = .failed (.denied .selfElevation "d") true ∧
      report'.phase = .failed (.denied .selfElevation "d") true := by
  have later : ∀ e ∈ [refusedEntry], ∀ f ∈ [unavailableEntry],
      e.policy.priority ≤ f.policy.priority := by
    intro e he f hf
    rw [List.mem_singleton.1 he, List.mem_singleton.1 hf]
    exact Nat.le_refl 0
  have calm : ∀ e ∈ [refusedEntry] ++ [unavailableEntry], e.strategy.Calm := by
    intro e he
    rcases List.mem_cons.1 he with rfl | he
    · exact ⟨fun _ => trivial, nofun⟩
    · rw [List.mem_singleton.1 he]
      exact ⟨fun _ => trivial, nofun⟩
  refine ⟨later, calm, ?_⟩
  obtain ⟨report, p', report', p'', hrun, hrun', hextends⟩ :=
    run_extended [refusedEntry] [unavailableEntry] none (fun _ s => (false, s)) ⟨0, (), []⟩
      later calm
  refine ⟨report, p', report', p'', hrun, hrun', hextends, ?_, ?_⟩
  · have hchain : Chain.ofEntries [refusedEntry] none = ⟨[refusedEntry], none⟩ :=
      congrArg (Chain.mk · none) (List.mergeSort_singleton refusedEntry)
    rw [hchain] at hrun
    cases hrun
    rfl
  · have hchain : Chain.ofEntries ([refusedEntry] ++ [unavailableEntry]) none =
        ⟨[refusedEntry, unavailableEntry], none⟩ :=
      congrArg (Chain.mk · none) (List.mergeSort_of_pairwise (by decide))
    rw [hchain] at hrun'
    cases hrun'
    rfl

end CodePermit
