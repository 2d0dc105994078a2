import CodePermit.Proofs.Operations
/-!
# Ground truth

Techniques may say what they like: dynamic code is run only after the probe itself has said yes to a
run, and all entries are given up only after it has said nothing but no.  This holds in every scene,
whatever the order of moves and whatever the techniques, the probe and the surroundings do.

* `runAnswers` — what a run was told by the probe;
* `Scene.InOrder.settledRun` — behind a terminal phase stands the run that was claimed last;
* `Scene.GroundTruth`, `ground_truth` — what a terminal phase says about the answers of the probe.
-/

namespace CodePermit

variable {σ : Type} {chain : Chain σ}

/-! ### Answers of the probe -/

/-- The answers that the run itself got from the probe, in order. -/
def runAnswers (es : List Event) : List Bool :=
  es.filterMap fun e =>
    match e with
    | .asked .run answer => some answer
    | _ => none

theorem runAnswers_of_confirmed {es : List Event} (h : Confirmed es) :
    (runAnswers es).getLast? = some true := by
  obtain ⟨es', rfl, -⟩ := h
  rw [runAnswers, List.filterMap_append]
  exact List.getLast?_concat

theorem runAnswers_of_unconfirmed {es : List Event} (h : Unconfirmed es) :
    ∀ answer ∈ runAnswers es, answer = false := by
  intro answer hmem
  obtain ⟨e, he, hanswer⟩ := List.mem_filterMap.1 hmem
  split at hanswer
  · cases hanswer
    cases answer with
    | false => rfl
    | true => exact absurd he h
  · cases hanswer

/-! ### The run behind a phase -/

/-- The run that was settled last is found with its report. -/
theorem Orderly.found_last {board : Board} {runs : List (Stage σ)} {history : List Occurrence}
    {past : List Report} {current : Option (Stage σ)} {r : Report}
    (h : Orderly board runs history (past ++ [r]) current) :
    runs[past.length]? = some (.settled r) := by
  rw [h.runs_eq, List.map_append, List.append_assoc,
    List.getElem?_append_right (Nat.le_of_eq (List.length_map _)), List.length_map, Nat.sub_self]
  rfl

theorem eventsOf_eq {s : Scene σ} {run : Nat} {stage : Stage σ} {es : List (Nat × Event)}
    (h : storyOf s.history run = observations run es ++ stage.closing run) :
    s.eventsOf run = es.map Prod.snd := by
  have hclosing : (stage.closing run).filterMap (fun o => o.event?.map Prod.snd) = [] := by
    cases stage <;> rfl
  rw [Scene.eventsOf, h, List.filterMap_append, hclosing, List.append_nil, observations,
    List.filterMap_map]
  exact congrFun List.filterMap_eq_map es

/-- **Behind a terminal phase stands the run that was claimed last.**  It was shown last, it is
settled, and the board keeps its report. -/
theorem Scene.InOrder.settledRun {s : Scene σ} (h : s.InOrder chain)
    (ht : s.board.phase.isTerminal = true) :
    ∃ run r, s.runs.length = run + 1 ∧ s.concluded.getLast? = some run ∧
      s.runs[run]? = some (.settled r) ∧ s.board.report = some r ∧ s.board.phase = r.phase ∧
        EndsWith chain run (s.eventsOf run) r := by
  obtain ⟨told, ⟨past, current, ho⟩, -⟩ := h
  -- a terminal phase is shown only between runs
  have hcurrent : current = none := by
    have hp := Phase.isInProgress_of_isTerminal ht
    rw [Bool.eq_false_iff, ne_eq, ho.isInProgress_iff] at hp
    exact Decidable.not_not.1 hp
  subst hcurrent
  rcases ho.phase_of_none with ⟨-, he⟩ | ⟨past, r, rfl, -, he⟩
  · rw [he] at ht
    cases ht
  · have hlength : s.runs.length = past.length + 1 := by
      rw [ho.runs_eq, List.length_append, List.length_map, List.length_append,
        List.length_singleton]
      rfl
    have hlast : s.concluded.getLast? = some past.length := by
      have hc : s.concluded = List.range (past ++ [r]).length := ho.concluded
      rw [hc, List.length_append, List.length_singleton, List.range_succ, List.getLast?_concat]
    have hreport : s.board.report = some r := ho.filed.trans List.getLast?_concat
    obtain ⟨es, hes, hends⟩ := told.story _ _ ho.found_last
    rw [← eventsOf_eq hes] at hends
    exact ⟨past.length, r, hlength, hlast, ho.found_last, hreport, he, hends⟩

/-! ### Ground truth -/

/-- What the phase on the board says about the answers that the run which was shown last got from
the probe. -/
structure Scene.GroundTruth (s : Scene σ) : Prop where
  /-- Dynamic code is run after a success and not otherwise. -/
  mode : s.board.phase.mode = .recompiler ↔ s.board.phase.isSucceeded = true
  /-- After a success the last answer was yes. -/
  succeeded : s.board.phase.isSucceeded = true → ∃ run, s.concluded.getLast? = some run ∧
    (runAnswers (s.eventsOf run)).getLast? = some true
  /-- After a failure with all entries tried all answers were no. -/
  exhausted : ∀ f, s.board.phase = .failed f true → ∃ run, s.concluded.getLast? = some run ∧
    ∀ answer ∈ runAnswers (s.eventsOf run), answer = false

theorem inOrder_groundTruth {s : Scene σ} (h : s.InOrder chain) : s.GroundTruth := by
  refine ⟨?_, fun hs => ?_, fun f hf => ?_⟩
  · unfold Phase.mode
    split
    · rename_i hs
      exact ⟨fun _ => hs, fun _ => rfl⟩
    · rename_i hs
      exact ⟨nofun, fun hs' => absurd hs' hs⟩
  · obtain ⟨run, r, -, hlast, -, -, hphase, hends⟩ :=
      h.settledRun (Phase.isTerminal_of_isSucceeded hs)
    refine ⟨run, hlast, runAnswers_of_confirmed ?_⟩
    rw [hphase] at hs
    cases hends with
    | brokenDown hl => cases hs
    | completed hl =>
      rcases run_verdict hl with ⟨-, hc⟩ | ⟨⟨f, hf⟩, -⟩
      · exact hc
      · rw [hf] at hs
        cases hs
  · obtain ⟨run, r, -, hlast, -, -, hphase, hends⟩ := h.settledRun (hf ▸ rfl)
    refine ⟨run, hlast, runAnswers_of_unconfirmed ?_⟩
    rw [hphase] at hf
    cases hends with
    | brokenDown hl => cases hf
    | completed hl =>
      rcases run_verdict hl with ⟨hs, -⟩ | ⟨-, hu⟩
      · rw [hf] at hs
        cases hs
      · exact hu

/-- **Ground truth.**  The phase on the board is borne out by the answers of the probe in every
scene, and so it is for every service after any operations, since it is found in one. -/
theorem ground_truth (chain : Chain σ) (probe : Probe σ) (surroundings : σ) :
    (∀ ms, (Scene.after chain probe surroundings ms).GroundTruth) ∧
      ∀ ops, ∃ sc,
        Depicts chain probe sc ((Service.start chain probe surroundings).performAll ops) ∧
          sc.GroundTruth := by
  have truth := fun ms => inOrder_groundTruth (after_inOrder chain probe surroundings ms)
  refine ⟨truth, fun ops => ?_⟩
  obtain ⟨ms, hdepicts⟩ := performAll_depicts chain probe surroundings ops
  exact ⟨_, hdepicts, truth ms⟩

end CodePermit
