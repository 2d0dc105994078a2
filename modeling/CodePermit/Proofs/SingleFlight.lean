import CodePermit.Proofs.Operations
/-!
# Single flight

At most one run is in flight at any time, the board shows whether there is one, and each run is
settled once.  This holds in every scene, whatever the order in which callers, runs and those who
settle runs act, and so it holds of every service after any operations.

* `Told.inTurn` — what happens to a run, in its order;
* `Scene.SingleFlight`, `inOrder_singleFlight` — single flight as a property of a scene;
* `single_flight` — scenes and services have it.
-/

namespace CodePermit

variable {σ : Type} {chain : Chain σ}

/-- What happens to a run is the beginning of one story: it is observed, it ends, its report is
filed, its final phase is shown. -/
theorem Told.inTurn {runs : List (Stage σ)} {history : List Occurrence}
    (h : Told chain runs history) (run : Nat) :
    ∃ es r, storyOf history run <+:
      observations run es ++ [.ended run r, .filed run r, .concluded run r] := by
  rcases Nat.lt_or_ge run runs.length with hlt | hge
  · obtain ⟨es, hs, -⟩ := h.story run _ (List.getElem?_eq_getElem hlt)
    rw [hs]
    cases runs[run] with
    | working wake rest =>
      exact ⟨es, .aborted "", List.prefix_append_right_inj _ |>.2 (List.nil_prefix)⟩
    | ended r =>
      exact ⟨es, r, (List.prefix_append_right_inj _).2 ⟨[.filed run r, .concluded run r], rfl⟩⟩
    | filed r => exact ⟨es, r, (List.prefix_append_right_inj _).2 ⟨[.concluded run r], rfl⟩⟩
    | settled r => exact ⟨es, r, (List.prefix_append_right_inj _).2 (List.prefix_rfl)⟩
  · rw [h.silence run hge]
    exact ⟨[], .aborted "", List.nil_prefix⟩

/-- Single flight, as a property of a scene. -/
structure Scene.SingleFlight (s : Scene σ) : Prop where
  /-- A run is in flight when it was claimed and its final phase was not shown. -/
  inFlight_iff : ∀ run, s.inFlight run ↔ run < s.runs.length ∧ run ∉ s.concluded
  /-- At most one run is in flight. -/
  atMostOne : ∀ run run', s.inFlight run → s.inFlight run' → run = run'
  /-- The board shows a run in progress exactly as long as one is in flight. -/
  shown : s.board.phase.isInProgress = true ↔ ∃ run, s.inFlight run
  /-- The board shows that there was no run exactly as long as none was claimed. -/
  unstarted : s.board.phase = .notStarted ↔ s.runs = []
  /-- Each run is observed, ends, is filed and is shown, once each and in this order. -/
  inTurn : ∀ run, ∃ es r, storyOf s.history run <+:
    observations run es ++ [.ended run r, .filed run r, .concluded run r]
  /-- When its final phase is shown a run has ended and was not shown before, and nothing of it is
  observed afterwards. -/
  settledOnce : ∀ before run r after, s.history = before ++ .concluded run r :: after →
    .ended run r ∈ before ∧ .filed run r ∈ before ∧ (∀ r', .concluded run r' ∉ before) ∧
      storyOf after run = []
  /-- There are as many runs as claims that found no run yet and claims that found a failure. -/
  counted : s.runs.length =
    s.history.countP Occurrence.isFirstClaim + s.history.countP Occurrence.isRetryClaim
  /-- At most one claim found no run yet. -/
  firstOnce : s.history.countP Occurrence.isFirstClaim ≤ 1
  /-- The board counts the runs. -/
  claims : s.board.claims = s.runs.length

theorem inOrder_singleFlight {s : Scene σ} (h : s.InOrder chain) : s.SingleFlight := by
  obtain ⟨told, ⟨past, current, ho⟩, hc⟩ := h
  refine ⟨inFlight_iff_not_concluded ho, fun run run' h h' => ?_, ?_, ho.notStarted_iff,
    told.inTurn, ?_, hc.total, hc.first, ho.claims⟩
  · rw [((inFlight_iff ho run).1 h).1, ((inFlight_iff ho run').1 h').1]
  · rw [ho.isInProgress_iff]
    exact ⟨fun hne => ⟨_, (inFlight_iff ho _).2 ⟨rfl, hne⟩⟩,
      fun ⟨run, hrun⟩ => ((inFlight_iff ho run).1 hrun).2⟩
  · intro before run r after hs
    rw [hs] at told
    exact told.settledOnce

/-- **Single flight.**  Whatever the order of moves, at most one run is in flight, the board shows
whether there is one, and each run is settled at most once and only when it has ended.  A service
after any operations is found in a scene for which this holds. -/
theorem single_flight (chain : Chain σ) (probe : Probe σ) (surroundings : σ) :
    (∀ ms, (Scene.after chain probe surroundings ms).SingleFlight) ∧
      ∀ ops, ∃ sc,
        Depicts chain probe sc ((Service.start chain probe surroundings).performAll ops) ∧
          sc.SingleFlight := by
  have flight := fun ms => inOrder_singleFlight (after_inOrder chain probe surroundings ms)
  refine ⟨flight, fun ops => ?_⟩
  obtain ⟨ms, hdepicts⟩ := performAll_depicts chain probe surroundings ops
  exact ⟨_, hdepicts, flight ms⟩

/-- Of callers who come at the same time only one gets a run. -/
example (chain : Chain σ) (probe : Probe σ) (surroundings : σ) :
    (Scene.after chain probe surroundings
      [.call .retry, .call .acquire, .call .begin, .call .acquire, .call .retry]).runs.length = 1 :=
  rfl

end CodePermit
