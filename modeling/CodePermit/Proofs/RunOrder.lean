import CodePermit.Proofs.RunManners
import CodePermit.Proofs.RunStories
/-!
# Runs one after another

Nothing but the claims on the board keeps runs apart.  That is enough: whatever the order of moves,
all runs but the last are settled, and as long as the last one is not, the board shows that a run is
in progress and admits no claim.

* `Shown`, `lastFiled`, `Orderly` — runs one after another and what the board shows of them;
* `Orderly.changes` — every move keeps this order;
* `Orderly.isInProgress_iff`, `Orderly.notStarted_iff`, `inFlight_iff` — what the board tells;
* `Counted`, `Counted.changes` — how many runs were claimed;
* `Scene.InOrder`, `after_inOrder` — what holds of every scene.
-/

namespace CodePermit

variable {σ : Type} {chain : Chain σ}

/-! ### Runs one after another -/

/-- The phase that is shown when runs are over and another one is under way or not. -/
def Shown (past : List Report) (current : Option (Stage σ)) (phase : Phase) : Prop :=
  match current with
  | some _ => phase.isInProgress = true
  | none => phase = (past.getLast?.map Report.phase).getD .notStarted

/-- The report that is filed at that time. -/
def lastFiled (past : List Report) : Option (Stage σ) → Option Report
  | some (.filed r) => some r
  | _ => past.getLast?

/-- Runs were settled one after another with reports of the past, at most one more is under way, and
the board shows how far they have come. -/
structure Orderly (board : Board) (runs : List (Stage σ)) (history : List Occurrence)
    (past : List Report) (current : Option (Stage σ)) : Prop where
  runs_eq : runs = past.map .settled ++ current.toList
  unsettled : ∀ stage, current = some stage → stage.isSettled = false
  terminal : ∀ r ∈ past, r.phase.isTerminal = true
  shown : Shown past current board.phase
  filed : board.report = lastFiled past current
  concluded : history.filterMap Occurrence.concluded? = List.range past.length
  claims : board.claims = runs.length

theorem hear_report (board : Board) (e : Event) : (Scene.hear board e).report = board.report := by
  cases e <;> rfl

theorem hear_claims (board : Board) (e : Event) : (Scene.hear board e).claims = board.claims := by
  cases e <;> rfl

/-- A board that shows a run in progress does so after announcements of attempts too. -/
theorem hear_isInProgress {board : Board} {e : Event} (h : board.phase.isInProgress = true)
    (he : chain.announces.hears e) : (Scene.hear board e).phase.isInProgress = true := by
  cases e with
  | published phase =>
    obtain ⟨i, e, n, -, -, -, rfl⟩ := he phase rfl
    rfl
  | _ => exact h

theorem not_admits_of_isInProgress {phase : Phase} (h : phase.isInProgress = true)
    (caller : Caller) : caller.admits phase = false := by
  cases phase with
  | inProgress index attempt => cases caller <;> rfl
  | notStarted => cases h
  | succeeded technique => cases h
  | failed failure exhausted => cases h

namespace Orderly

variable {board : Board} {runs : List (Stage σ)} {history : List Occurrence} {past : List Report}
  {current : Option (Stage σ)}

/-- A run that is not settled is the one under way. -/
theorem current_of_found {run : Nat} {stage : Stage σ}
    (h : Orderly board runs history past current) (found : runs[run]? = some stage)
    (hs : stage.isSettled = false) : run = past.length ∧ current = some stage := by
  rw [h.runs_eq] at found
  rcases Nat.lt_or_ge run (past.map (Stage.settled (σ := σ))).length with hlt | hge
  · rw [List.getElem?_append_left hlt, List.getElem?_map] at found
    obtain ⟨r, -, rfl⟩ := Option.map_eq_some_iff.1 found
    cases hs
  · rw [List.getElem?_append_right hge] at found
    rw [List.length_map] at hge found
    cases current with
    | none => cases found
    | some stage' =>
      rw [Option.toList_some, List.getElem?_singleton] at found
      split at found
      · exact ⟨by omega, found⟩
      · cases found

/-- The run under way comes to another stage. -/
theorem set_current {stage stage' : Stage σ} (h : Orderly board runs history past (some stage)) :
    runs.set past.length stage' = past.map .settled ++ [stage'] := by
  rw [h.runs_eq, List.set_append_right _ _ (Nat.le_of_eq (List.length_map _)), List.length_map,
    Nat.sub_self]
  rfl

/-- Whoever may claim a run finds all runs settled. -/
theorem none_of_admits {caller : Caller} (h : Orderly board runs history past current)
    (admitted : caller.admits board.phase = true) : current = none := by
  cases current with
  | none => rfl
  | some stage =>
    rw [not_admits_of_isInProgress h.shown] at admitted
    cases admitted

/-! ### One more move -/

/-- A run is claimed when all others are settled. -/
theorem claim {stage : Stage σ} {o : Occurrence} (h : Orderly board runs history past none)
    (hs : stage.isSettled = false) (hf : lastFiled past (some stage) = past.getLast?)
    (ho : o.concluded? = none) :
    Orderly { board.publish .claimed with claims := board.claims + 1 } (runs ++ [stage])
      (history ++ [o]) past (some stage) where
  runs_eq := by
    rw [h.runs_eq, Option.toList_none, List.append_nil]
    rfl
  unsettled := fun stage' heq => Option.some.inj heq ▸ hs
  terminal := h.terminal
  shown := rfl
  filed := h.filed.trans hf.symm
  concluded := by
    rw [List.filterMap_append, List.filterMap_cons_none ho, List.filterMap_nil, List.append_nil]
    exact h.concluded
  claims := by
    rw [List.length_append, List.length_singleton, ← h.claims]

/-- The run under way makes a step after which it is still under way. -/
theorem advance {board' : Board} {history' : List Occurrence} {stage stage' : Stage σ}
    (h : Orderly board runs history past (some stage)) (hs : stage'.isSettled = false)
    (hp : board'.phase.isInProgress = true) (hf : board'.report = lastFiled past (some stage'))
    (hc : board'.claims = board.claims)
    (hh : history'.filterMap Occurrence.concluded? = history.filterMap Occurrence.concluded?) :
    Orderly board' (runs.set past.length stage') history' past (some stage') where
  runs_eq := h.set_current
  unsettled := fun stage'' heq => Option.some.inj heq ▸ hs
  terminal := h.terminal
  shown := hp
  filed := hf
  concluded := hh.trans h.concluded
  claims := by
    rw [List.length_set, hc, h.claims]

/-- The final phase of the run under way is shown. -/
theorem conclude {r : Report} (h : Orderly board runs history past (some (.filed r)))
    (ht : r.phase.isTerminal = true) :
    Orderly (board.conclude r) (runs.set past.length (.settled r))
      (history ++ [.concluded past.length r]) (past ++ [r]) none where
  runs_eq := by
    rw [h.set_current, List.map_append, Option.toList_none, List.append_nil]
    rfl
  unsettled := nofun
  terminal := fun r' hr' => by
    rcases List.mem_append.1 hr' with hr' | hr'
    · exact h.terminal r' hr'
    · rwa [List.mem_singleton.1 hr']
  shown := by
    rw [Shown, List.getLast?_concat]
    rfl
  filed := by
    rw [lastFiled, List.getLast?_concat]
    · exact h.filed
    · exact nofun
  concluded := by
    rw [List.filterMap_append, h.concluded, List.length_append, List.length_singleton,
      List.range_succ]
    rfl
  claims := by
    rw [List.length_set]
    exact h.claims

end Orderly

theorem filterMap_concluded_append {history : List Occurrence} {o : Occurrence}
    (ho : o.concluded? = none) : (history ++ [o]).filterMap Occurrence.concluded? =
      history.filterMap Occurrence.concluded? := by
  rw [List.filterMap_append, List.filterMap_cons_none ho, List.filterMap_nil, List.append_nil]

/-- **Every move keeps the order of runs.** -/
theorem Orderly.changes {s : Scene σ} {board : Board} {runs : List (Stage σ)}
    {history : List Occurrence} {past : List Report} {current : Option (Stage σ)}
    (h : Orderly s.board s.runs s.history past current) (told : Told chain s.runs s.history)
    (hc : Changes chain s board runs history) :
    ∃ past' current', Orderly board runs history past' current' := by
  cases hc with
  | nothing => exact ⟨past, current, h⟩
  | claimed caller admitted =>
    obtain rfl := h.none_of_admits admitted
    exact ⟨past, _, h.claim rfl rfl rfl⟩
  | refused caller refused =>
    refine ⟨past, current, { h with concluded := ?_ }⟩
    exact (filterMap_concluded_append rfl).trans h.concluded
  | @observed run wake wake' rest next event found leads =>
    obtain ⟨rfl, rfl⟩ := h.current_of_found found rfl
    -- what is left of a run announces attempts only, whatever it has done before
    obtain ⟨es, -, hr⟩ := told.story _ _ found
    have heard : chain.announces.hears event :=
      (leads.keeps (hr.keeps (run_announces chain)).2).1 event List.mem_cons_self
    refine ⟨past, _, h.advance rfl (hear_isInProgress h.shown heard) ?_ (hear_claims _ _)
      (filterMap_concluded_append rfl)⟩
    exact (hear_report _ _).trans h.filed
  | @unobserved run wake wake' rest next found leads =>
    obtain ⟨rfl, rfl⟩ := h.current_of_found found rfl
    exact ⟨past, _, h.advance rfl h.shown h.filed rfl rfl⟩
  | completed found =>
    obtain ⟨rfl, rfl⟩ := h.current_of_found found rfl
    exact ⟨past, _, h.advance rfl h.shown h.filed rfl (filterMap_concluded_append rfl)⟩
  | brokenDown found =>
    obtain ⟨rfl, rfl⟩ := h.current_of_found found rfl
    exact ⟨past, _, h.advance rfl h.shown h.filed rfl (filterMap_concluded_append rfl)⟩
  | filed found =>
    obtain ⟨rfl, rfl⟩ := h.current_of_found found rfl
    exact ⟨past, _, h.advance rfl h.shown rfl rfl (filterMap_concluded_append rfl)⟩
  | concluded found =>
    obtain ⟨rfl, rfl⟩ := h.current_of_found found rfl
    obtain ⟨es, -, hr⟩ := told.story _ _ found
    exact ⟨_, none, h.conclude hr.isTerminal⟩

/-! ### What the board tells -/

namespace Orderly

variable {board : Board} {runs : List (Stage σ)} {history : List Occurrence} {past : List Report}
  {current : Option (Stage σ)}

/-- Between runs the board shows the final phase of the last one, if there was one. -/
theorem phase_of_none (h : Orderly board runs history past none) :
    past = [] ∧ board.phase = .notStarted ∨
      ∃ past' r, past = past' ++ [r] ∧ r.phase.isTerminal = true ∧ board.phase = r.phase := by
  have hs := h.shown
  rcases List.eq_nil_or_concat past with rfl | ⟨past', r, rfl⟩
  · exact Or.inl ⟨rfl, hs⟩
  · rw [List.concat_eq_append] at hs h ⊢
    rw [Shown, List.getLast?_concat] at hs
    exact Or.inr ⟨past', r, rfl, h.terminal r (List.mem_append_right _ List.mem_cons_self), hs⟩

/-- The board shows a run in progress as long as one is under way, and only then. -/
theorem isInProgress_iff (h : Orderly board runs history past current) :
    board.phase.isInProgress = true ↔ current ≠ none := by
  cases current with
  | some stage => exact ⟨fun _ => nofun, fun _ => h.shown⟩
  | none =>
    refine ⟨fun hp => ?_, fun hne => absurd rfl hne⟩
    rcases h.phase_of_none with ⟨-, he⟩ | ⟨past', r, -, ht, he⟩
    · rw [he] at hp
      cases hp
    · rw [he, Phase.isInProgress_of_isTerminal ht] at hp
      cases hp

/-- The board shows that there was no run as long as that is so, and never again. -/
theorem notStarted_iff (h : Orderly board runs history past current) :
    board.phase = .notStarted ↔ runs = [] := by
  rw [h.runs_eq, List.append_eq_nil_iff, List.map_eq_nil_iff]
  cases current with
  | some stage =>
    refine ⟨fun hp => ?_, fun hn => absurd hn.2 (List.cons_ne_nil _ _)⟩
    have hs : board.phase.isInProgress = true := h.shown
    rw [hp] at hs
    cases hs
  | none =>
    refine ⟨fun hp => ⟨?_, rfl⟩, fun hn => ?_⟩
    · rcases h.phase_of_none with ⟨he, -⟩ | ⟨past', r, -, ht, he⟩
      · exact he
      · rw [← he, hp] at ht
        cases ht
    · rcases h.phase_of_none with ⟨-, he⟩ | ⟨past', r, he, -, -⟩
      · exact he
      · rw [hn.1] at he
        exact absurd he.symm (List.append_ne_nil_of_right_ne_nil _ (List.cons_ne_nil _ _))

end Orderly

/-- Of the runs in order, the one in flight is the one that is under way. -/
theorem inFlight_iff {s : Scene σ} {past : List Report} {current : Option (Stage σ)}
    (h : Orderly s.board s.runs s.history past current) (run : Nat) :
    s.inFlight run ↔ run = past.length ∧ current ≠ none := by
  constructor
  · rintro ⟨stage, found, hs⟩
    obtain ⟨hrun, hcurrent⟩ := h.current_of_found found hs
    exact ⟨hrun, hcurrent ▸ nofun⟩
  · rintro ⟨rfl, hne⟩
    cases current with
    | none => exact absurd rfl hne
    | some stage =>
      refine ⟨stage, ?_, h.unsettled stage rfl⟩
      rw [h.runs_eq, Option.toList_some,
        List.getElem?_append_right (Nat.le_of_eq (List.length_map _)), List.length_map,
        Nat.sub_self]
      rfl

/-- A run is in flight when it was claimed and its final phase was not shown yet. -/
theorem inFlight_iff_not_concluded {s : Scene σ} {past : List Report} {current : Option (Stage σ)}
    (h : Orderly s.board s.runs s.history past current) (run : Nat) :
    s.inFlight run ↔ run < s.runs.length ∧ run ∉ s.concluded := by
  have hl : s.runs.length = past.length + current.toList.length := by
    rw [h.runs_eq, List.length_append, List.length_map]
  have hc : s.concluded = List.range past.length := h.concluded
  rw [inFlight_iff h, hl, hc, List.mem_range]
  cases current with
  | none =>
    refine ⟨fun hn => absurd rfl hn.2, fun hn => ?_⟩
    exact absurd hn.1 hn.2
  | some stage =>
    rw [Option.toList_some, List.length_singleton]
    refine ⟨fun hn => ⟨by omega, by omega⟩, fun hn => ⟨by omega, nofun⟩⟩

/-! ### How many runs were claimed -/

/-- Each run was claimed by a first caller or by one who retried, and only one by a first caller. -/
structure Counted (runs : List (Stage σ)) (history : List Occurrence) : Prop where
  total : runs.length =
    history.countP Occurrence.isFirstClaim + history.countP Occurrence.isRetryClaim
  first : history.countP Occurrence.isFirstClaim ≤ 1

namespace Counted

variable {runs runs' : List (Stage σ)} {history : List Occurrence}

/-- Nobody claims anything. -/
theorem unclaimed {o : Occurrence} (h : Counted runs history) (hl : runs'.length = runs.length)
    (hf : o.isFirstClaim = false) (hr : o.isRetryClaim = false) :
    Counted runs' (history ++ [o]) := by
  have hf' : (history ++ [o]).countP Occurrence.isFirstClaim =
      history.countP Occurrence.isFirstClaim := by
    rw [List.countP_append, List.countP_singleton, hf]
    rfl
  have hr' : (history ++ [o]).countP Occurrence.isRetryClaim =
      history.countP Occurrence.isRetryClaim := by
    rw [List.countP_append, List.countP_singleton, hr]
    rfl
  refine ⟨?_, ?_⟩
  · rw [hl, hf', hr']
    exact h.total
  · rw [hf']
    exact h.first

theorem claimedFirst {o : Occurrence} {stage : Stage σ} (h : Counted runs history)
    (hn : runs = []) (hf : o.isFirstClaim = true) (hr : o.isRetryClaim = false) :
    Counted (runs ++ [stage]) (history ++ [o]) := by
  have ht := h.total
  rw [hn, List.length_nil] at ht
  refine ⟨?_, ?_⟩
  · rw [hn, List.countP_append, List.countP_append, List.countP_singleton, List.countP_singleton,
      hf, hr]
    simp only [List.nil_append, List.length_singleton, if_true, Bool.false_eq_true, if_false]
    omega
  · rw [List.countP_append, List.countP_singleton, hf, if_pos rfl]
    omega

theorem claimedRetry {o : Occurrence} {stage : Stage σ} (h : Counted runs history)
    (hf : o.isFirstClaim = false) (hr : o.isRetryClaim = true) :
    Counted (runs ++ [stage]) (history ++ [o]) := by
  have ht := h.total
  have hfirst := h.first
  refine ⟨?_, ?_⟩
  · rw [List.length_append, List.countP_append, List.countP_append, List.countP_singleton,
      List.countP_singleton, hf, hr]
    simp only [List.length_singleton, if_true, Bool.false_eq_true, if_false]
    omega
  · rw [List.countP_append, List.countP_singleton, hf]
    exact hfirst

/-- **Every move keeps the count.** -/
theorem changes {s : Scene σ} {board : Board} {runs : List (Stage σ)} {history : List Occurrence}
    {past : List Report} {current : Option (Stage σ)} (h : Counted s.runs s.history)
    (ho : Orderly s.board s.runs s.history past current) (hc : Changes chain s board runs history) :
    Counted runs history := by
  cases hc with
  | nothing => exact h
  | claimed caller admitted =>
    have hfirst : s.board.phase = .notStarted → s.runs = [] := ho.notStarted_iff.1
    cases caller with
    | acquire => exact h.claimedFirst (hfirst (of_decide_eq_true admitted)) admitted rfl
    | begin => exact h.claimedFirst (hfirst (of_decide_eq_true admitted)) admitted rfl
    | retry => exact h.claimedRetry rfl admitted
  | refused caller refused =>
    cases caller with
    | acquire => exact h.unclaimed rfl refused rfl
    | begin => exact h.unclaimed rfl refused rfl
    | retry => exact h.unclaimed rfl rfl refused
  | observed found leads => exact h.unclaimed (List.length_set ..) rfl rfl
  | unobserved found leads =>
    refine ⟨?_, h.first⟩
    rw [List.length_set]
    exact h.total
  | completed found => exact h.unclaimed (List.length_set ..) rfl rfl
  | brokenDown found => exact h.unclaimed (List.length_set ..) rfl rfl
  | filed found => exact h.unclaimed (List.length_set ..) rfl rfl
  | concluded found => exact h.unclaimed (List.length_set ..) rfl rfl

end Counted

/-! ### Every scene -/

/-- The runs of a scene come one after another, each has the story of its stage, and there are as
many as claims. -/
structure Scene.InOrder (chain : Chain σ) (s : Scene σ) : Prop where
  told : Told chain s.runs s.history
  orderly : ∃ past current, Orderly s.board s.runs s.history past current
  counted : Counted s.runs s.history

theorem inOrder_start (chain : Chain σ) (surroundings : σ) :
    ({ surroundings := surroundings } : Scene σ).InOrder chain where
  told := ⟨nofun, fun _ _ => rfl⟩
  orderly := ⟨[], none, rfl, nofun, nofun, rfl, rfl, rfl, rfl⟩
  counted := ⟨rfl, Nat.zero_le 1⟩

theorem inOrder_move (probe : Probe σ) {s : Scene σ} (m : Move σ) (h : s.InOrder chain) :
    (s.move chain probe m).InOrder chain := by
  have hc := move_changes chain probe s m
  obtain ⟨past, current, ho⟩ := h.orderly
  exact ⟨h.told.changes hc, ho.changes h.told hc, h.counted.changes ho hc⟩

/-- **Whatever the order of moves, runs come one after another.** -/
theorem after_inOrder (chain : Chain σ) (probe : Probe σ) (surroundings : σ) (ms : List (Move σ)) :
    (Scene.after chain probe surroundings ms).InOrder chain :=
  after_induction (inOrder_start chain surroundings) (fun _ m h => inOrder_move probe m h) ms

end CodePermit
