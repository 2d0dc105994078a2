import CodePermit.Proofs.GroundTruth
/-!
# Phase and report

The board shows a phase and keeps a report, and the two are written one after the other by somebody
else than those who claim runs.  Even so they agree whenever it matters: a terminal phase is the one
in which the report on the board ends, and that report stays until the next run files its own.

* `filedIn`, `LastFiled` — the reports filed, of which the board keeps the last one;
* `Orderly.report_of_unfiled` — what is kept during a run;
* `move_report`, `moves_report` — the report changes only when another one is filed;
* `Scene.Agrees`, `inOrder_agrees`, `phase_and_report` — the agreement of phase and report.
-/

namespace CodePermit

variable {σ : Type} {chain : Chain σ} {probe : Probe σ}

/-! ### Filed reports -/

/-- The report that was filed. -/
def Occurrence.filed? : Occurrence → Option Report
  | filed _ report => some report
  | _ => none

/-- The reports that were filed, in order. -/
def filedIn (history : List Occurrence) : List Report :=
  history.filterMap Occurrence.filed?

/-- The board keeps the report that was filed last. -/
def LastFiled (board : Board) (history : List Occurrence) : Prop :=
  board.report = (filedIn history).getLast?

theorem filedIn_append (history : List Occurrence) {o : Occurrence} (ho : o.filed? = none) :
    filedIn (history ++ [o]) = filedIn history := by
  rw [filedIn, List.filterMap_append, List.filterMap_cons_none ho, List.filterMap_nil,
    List.append_nil]
  rfl

/-- An occurrence that files nothing leaves the report as it is. -/
theorem LastFiled.append {board board' : Board} {history : List Occurrence} {o : Occurrence}
    (h : LastFiled board history) (hb : board'.report = board.report) (ho : o.filed? = none) :
    LastFiled board' (history ++ [o]) := by
  rw [LastFiled, filedIn_append history ho, hb]
  exact h

/-- **Every move keeps the report that was filed last.** -/
theorem LastFiled.changes {s : Scene σ} {board : Board} {runs : List (Stage σ)}
    {history : List Occurrence} (h : LastFiled s.board s.history)
    (hc : Changes chain s board runs history) : LastFiled board history := by
  cases hc with
  | nothing => exact h
  | claimed caller admitted => exact h.append rfl rfl
  | refused caller refused => exact h.append rfl rfl
  | observed found leads => exact h.append (hear_report _ _) rfl
  | unobserved found leads => exact h
  | completed found => exact h.append rfl rfl
  | brokenDown found => exact h.append rfl rfl
  | filed found =>
    rw [LastFiled, filedIn, List.filterMap_append]
    exact List.getLast?_concat.symm
  | concluded found => exact h.append rfl rfl

theorem after_lastFiled (chain : Chain σ) (probe : Probe σ) (surroundings : σ)
    (ms : List (Move σ)) :
    LastFiled (Scene.after chain probe surroundings ms).board
      (Scene.after chain probe surroundings ms).history :=
  after_induction (P := fun s => LastFiled s.board s.history) rfl
    (fun s m h => h.changes (move_changes chain probe s m)) ms

/-- The board keeps no report as long as none was filed. -/
theorem LastFiled.eq_none_iff {board : Board} {history : List Occurrence}
    (h : LastFiled board history) :
    board.report = none ↔ ∀ run r, .filed run r ∉ history := by
  rw [h, List.getLast?_eq_none_iff, filedIn, List.filterMap_eq_nil_iff]
  constructor
  · intro hn run r hmem
    cases hn _ hmem
  · intro hn o ho
    cases o with
    | filed run r => exact absurd ho (hn run r)
    | _ => rfl

/-! ### During a run -/

/-- The report of the run is not filed yet. -/
def Stage.isUnfiled : Stage σ → Bool
  | working _ _ | ended _ => true
  | filed _ | settled _ => false

theorem lastFiled_of_isUnfiled {stage : Stage σ} (past : List Report)
    (h : stage.isUnfiled = true) : lastFiled past (some stage) = past.getLast? := by
  cases stage <;> first | rfl | cases h

theorem isSettled_of_isUnfiled {stage : Stage σ} (h : stage.isUnfiled = true) :
    stage.isSettled = false := by
  cases stage <;> first | rfl | cases h

/-- **During a run the board keeps the report of the run before**, until the run files its own. -/
theorem Orderly.report_of_unfiled {board : Board} {runs : List (Stage σ)}
    {history : List Occurrence} {past : List Report} {current : Option (Stage σ)}
    (h : Orderly board runs history past current) {run : Nat} {stage : Stage σ}
    (found : runs[run]? = some stage) (hs : stage.isUnfiled = true) :
    run = 0 ∧ board.report = none ∨
      ∃ before r, run = before + 1 ∧ runs[before]? = some (.settled r) ∧
        board.report = some r := by
  obtain ⟨hrun, rfl⟩ := h.current_of_found found (isSettled_of_isUnfiled hs)
  have hreport := h.filed.trans (lastFiled_of_isUnfiled past hs)
  rcases List.eq_nil_or_concat past with rfl | ⟨past, r, rfl⟩
  · exact Or.inl ⟨hrun, hreport⟩
  · rw [List.concat_eq_append] at h hrun hreport
    rw [List.length_append, List.length_singleton] at hrun
    rw [List.getLast?_concat] at hreport
    exact Or.inr ⟨past.length, r, hrun, h.found_last, hreport⟩

/-! ### One more move -/

theorem work_report (probe : Probe σ) (s : Scene σ) (run : Nat) (rest : Routine σ Report) :
    (s.work probe run rest).board.report = s.board.report := by
  cases rest with
  | note event next => exact hear_report s.board event
  | _ => rfl

/-- **The report changes only when whoever settles a run files the report with which it has
ended.** -/
theorem move_report (chain : Chain σ) (probe : Probe σ) (s : Scene σ) (m : Move σ) :
    (s.move chain probe m).board.report = s.board.report ∨
      ∃ run r, m = .settle run ∧ s.runs[run]? = some (.ended r) ∧
        (s.move chain probe m).board.report = some r := by
  cases m with
  | call caller =>
    refine Or.inl ?_
    show (s.call chain caller).board.report = _
    unfold Scene.call Board.claim
    split <;> rename_i h
    · split at h
      · cases h
        rfl
      · cases h
    · rfl
  | work run =>
    refine Or.inl ?_
    unfold Scene.move
    dsimp only
    split
    · split
      · exact work_report probe s run _
      · rfl
    · rfl
  | settle run =>
    cases found : s.runs[run]? with
    | none =>
      refine Or.inl ?_
      unfold Scene.move
      dsimp only
      rw [found]
    | some stage =>
      unfold Scene.move
      dsimp only
      rw [found]
      cases stage with
      | ended r => exact Or.inr ⟨run, r, rfl, found, rfl⟩
      | _ => exact Or.inl rfl
  | wait length => exact Or.inl rfl
  | disturb f => exact Or.inl rfl

/-- A report on the board may be replaced but is never withdrawn. -/
theorem moves_report (chain : Chain σ) (probe : Probe σ) {s : Scene σ} (h : s.board.report ≠ none)
    (ms : List (Move σ)) : (s.moves chain probe ms).board.report ≠ none := by
  induction ms generalizing s with
  | nil => exact h
  | cons m ms ih =>
    refine ih ?_
    rcases move_report chain probe s m with hsame | ⟨run, r, -, -, hfiled⟩
    · rw [hsame]
      exact h
    · rw [hfiled]
      exact nofun

/-! ### Agreement -/

/-- Phase and report agree. -/
structure Scene.Agrees (chain : Chain σ) (probe : Probe σ) (s : Scene σ) : Prop where
  /-- Behind a terminal phase stands the run that was shown last, and the board keeps its report:
  the one with which the run itself has ended, or that of a run that broke off if it broke down. -/
  terminal : s.board.phase.isTerminal = true → ∃ run r, s.concluded.getLast? = some run ∧
    s.runs[run]? = some (.settled r) ∧ s.board.report = some r ∧ r.phase = s.board.phase ∧
      (Leads chain.run (s.eventsOf run) (.done r) ∨
        ∃ message, Leads chain.run (s.eventsOf run) (.breakdown message) ∧
          r = ⟨[], .failed (.aborted (breakdownMessage (run + 1) message)) false, 0⟩)
  /-- There is no report as long as none was filed. -/
  unreported : s.board.report = none ↔ ∀ run r, .filed run r ∉ s.history
  /-- As long as the report of a run is not filed, the board keeps that of the run before. -/
  previous : ∀ run stage, s.runs[run]? = some stage → stage.isUnfiled = true →
    run = 0 ∧ s.board.report = none ∨
      ∃ before r, run = before + 1 ∧ s.runs[before]? = some (.settled r) ∧
        s.board.report = some r
  /-- The report changes only when whoever settles a run files another one. -/
  changed : ∀ m, (s.move chain probe m).board.report = s.board.report ∨
    ∃ run r, m = .settle run ∧ s.runs[run]? = some (.ended r) ∧
      (s.move chain probe m).board.report = some r
  /-- Once there is a report there always is one. -/
  kept : s.board.report ≠ none → ∀ ms, (s.moves chain probe ms).board.report ≠ none

theorem inOrder_agrees {s : Scene σ} (h : s.InOrder chain) (hf : LastFiled s.board s.history) :
    s.Agrees chain probe where
  terminal := fun ht => by
    obtain ⟨run, r, -, hlast, found, hreport, hphase, hends⟩ := h.settledRun ht
    refine ⟨run, r, hlast, found, hreport, hphase.symm, ?_⟩
    cases hends with
    | completed hl => exact Or.inl hl
    | brokenDown hl => exact Or.inr ⟨_, hl, rfl⟩
  unreported := hf.eq_none_iff
  previous := fun run stage found hs => by
    obtain ⟨-, ⟨past, current, ho⟩, -⟩ := h
    exact ho.report_of_unfiled found hs
  changed := move_report chain probe s
  kept := moves_report chain probe

/-- **Phase and report agree** in every scene, whatever the order in which runs are claimed,
announce attempts, break down and are settled, and so they do for every service after any
operations. -/
theorem phase_and_report (chain : Chain σ) (probe : Probe σ) (surroundings : σ) :
    (∀ ms, (Scene.after chain probe surroundings ms).Agrees chain probe) ∧
      ∀ ops, ∃ sc,
        Depicts chain probe sc ((Service.start chain probe surroundings).performAll ops) ∧
          sc.Agrees chain probe := by
  refine scenes_and_services fun ms => ?_
  exact inOrder_agrees (after_inOrder chain probe surroundings ms)
    (after_lastFiled chain probe surroundings ms)

end CodePermit
