import CodePermit.Proofs.Scene
import CodePermit.Proofs.Verdict
/-!
# The story of a run

Whatever the order of moves, what happens to one run is always the same story: it is observed on its
way through the chain, it is over, its report is filed, its final phase is shown.  Each of these
happens once, and nothing happens to it afterwards.

* `Stage.closing`, `Stage.Reached` — what has happened to a run at a stage, besides its events;
* `Told`, `Told.changes` — every run has the story of its stage, and moves keep that;
* `Told.story_of_concluded`, `Told.settledOnce` — the story of a run whose final phase was shown.
-/

namespace CodePermit

variable {σ : Type} {chain : Chain σ}

/-! ### Stories -/

/-- What has happened to a run at a stage, after its events. -/
def Stage.closing (run : Nat) : Stage σ → List Occurrence
  | working _ _ => []
  | ended r => [.ended run r]
  | filed r => [.ended run r, .filed run r]
  | settled r => [.ended run r, .filed run r, .concluded run r]

/-- The reports with which a run can end after events: its own, or that of a run that broke down. -/
inductive EndsWith (chain : Chain σ) (run : Nat) (es : List Event) : Report → Prop
  | completed {report : Report} (h : Leads chain.run es (.done report)) :
      EndsWith chain run es report
  | brokenDown {message : String} (h : Leads chain.run es (.breakdown message)) :
      EndsWith chain run es (.aborted (breakdownMessage (run + 1) message))

/-- A run has come to a stage through events. -/
def Stage.Reached (chain : Chain σ) (run : Nat) (es : List Event) : Stage σ → Prop
  | working _ rest => Leads chain.run es rest
  | ended r | filed r | settled r => EndsWith chain run es r

/-- Events of a run with their times, as they stand in a history. -/
def observations (run : Nat) (es : List (Nat × Event)) : List Occurrence :=
  es.map fun e => .observed run e.1 e.2

/-- A story leads a run to a stage. -/
def Stage.HasStory (chain : Chain σ) (run : Nat) (stage : Stage σ) (story : List Occurrence) :
    Prop :=
  ∃ es, story = observations run es ++ stage.closing run ∧
    stage.Reached chain run (es.map Prod.snd)

/-- Every run has the story of its stage, and nothing has happened to runs that are not there. -/
structure Told (chain : Chain σ) (runs : List (Stage σ)) (history : List Occurrence) : Prop where
  story : ∀ run (stage : Stage σ), runs[run]? = some stage →
    stage.HasStory chain run (storyOf history run)
  silence : ∀ run, runs.length ≤ run → storyOf history run = []

/-- A run that ends does so in a terminal phase. -/
theorem EndsWith.isTerminal {run : Nat} {es : List Event} {report : Report}
    (h : EndsWith chain run es report) : report.phase.isTerminal = true := by
  cases h with
  | completed h =>
    rw [Phase.isTerminal, Bool.or_eq_true]
    rcases run_verdict h with ⟨hs, -⟩ | ⟨⟨f, hf⟩, -⟩
    · exact Or.inl hs
    · exact Or.inr (hf ▸ rfl)
  | brokenDown h => rfl

/-! ### One more occurrence -/

theorem mem_storyOf {history : List Occurrence} {o : Occurrence} {run : Nat}
    (h : o.run? = some run) : o ∈ storyOf history run ↔ o ∈ history := by
  rw [storyOf, List.mem_filter]
  exact ⟨fun hm => hm.1, fun hm => ⟨hm, decide_eq_true h⟩⟩

theorem storyOf_append_self {history : List Occurrence} {o : Occurrence} {run : Nat}
    (h : o.run? = some run) : storyOf (history ++ [o]) run = storyOf history run ++ [o] := by
  unfold storyOf
  rw [List.filter_append, List.filter_cons, if_pos (decide_eq_true h), List.filter_nil]

theorem storyOf_append_other {history : List Occurrence} {o : Occurrence} {run : Nat}
    (h : o.run? ≠ some run) : storyOf (history ++ [o]) run = storyOf history run := by
  unfold storyOf
  rw [List.filter_append, List.filter_cons, if_neg (by rwa [decide_eq_true_eq]), List.filter_nil,
    List.append_nil]

/-- A caller who claims nothing changes no story. -/
theorem Told.called {runs : List (Stage σ)} {history : List Occurrence}
    (h : Told chain runs history) (caller : Caller) (seen : Phase) :
    Told chain runs (history ++ [.called caller seen]) := by
  have hs : ∀ run, storyOf (history ++ [.called caller seen]) run = storyOf history run :=
    fun run => storyOf_append_other nofun
  refine ⟨fun run stage hrun => ?_, fun run hrun => ?_⟩
  · rw [hs]
    exact h.story run stage hrun
  · rw [hs]
    exact h.silence run hrun

/-- The story of a new run is empty. -/
theorem Told.claimed {runs : List (Stage σ)} {history : List Occurrence}
    (h : Told chain runs history) (wake : Nat) :
    Told chain (runs ++ [.working wake chain.run]) history := by
  refine ⟨fun run stage hrun => ?_, fun run hrun => ?_⟩
  · rcases Nat.lt_or_ge run runs.length with hlt | hge
    · rw [List.getElem?_append_left hlt] at hrun
      exact h.story run stage hrun
    · rw [List.getElem?_append_right hge, List.getElem?_singleton] at hrun
      split at hrun
      · cases hrun
        exact ⟨[], h.silence run hge, .here _⟩
      · cases hrun
  · rw [List.length_append, List.length_singleton] at hrun
    exact h.silence run (by omega)

/-- One run comes to another stage, and only its own story goes on. -/
theorem Told.set {runs : List (Stage σ)} {history history' : List Occurrence} {run : Nat}
    {stage stage' : Stage σ} (h : Told chain runs history) (found : runs[run]? = some stage)
    (others : ∀ run', run' ≠ run → storyOf history' run' = storyOf history run')
    (own : ∀ story, story = storyOf history run → stage.HasStory chain run story →
      stage'.HasStory chain run (storyOf history' run)) :
    Told chain (runs.set run stage') history' := by
  obtain ⟨hlt, -⟩ := List.getElem?_eq_some_iff.1 found
  refine ⟨fun run' stage'' hrun => ?_, fun run' hrun => ?_⟩
  · by_cases heq : run' = run
    · subst heq
      rw [List.getElem?_set_self hlt] at hrun
      cases hrun
      exact own _ rfl (h.story run' stage found)
    · rw [List.getElem?_set_ne (Ne.symm heq)] at hrun
      rw [others run' heq]
      exact h.story run' stage'' hrun
  · rw [List.length_set] at hrun
    rw [others run' (by omega)]
    exact h.silence run' hrun

/-- The same for a single occurrence of the run. -/
theorem Told.set_append {runs : List (Stage σ)} {history : List Occurrence} {run : Nat}
    {stage stage' : Stage σ} {o : Occurrence} (h : Told chain runs history)
    (found : runs[run]? = some stage) (ho : o.run? = some run)
    (own : ∀ story, stage.HasStory chain run story → stage'.HasStory chain run (story ++ [o])) :
    Told chain (runs.set run stage') (history ++ [o]) := by
  refine h.set found (fun run' hne => storyOf_append_other ?_) fun story hstory hs => ?_
  · rw [ho]
    exact fun heq => hne (Option.some.inj heq).symm
  · rw [storyOf_append_self ho, ← hstory]
    exact own story hs

theorem hasStory_observed {run wake wake' time : Nat} {rest next : Routine σ Report} {event : Event}
    {story : List Occurrence} (leads : Leads rest [event] next)
    (h : (Stage.working wake rest).HasStory chain run story) :
    (Stage.working wake' next).HasStory chain run (story ++ [.observed run time event]) := by
  obtain ⟨es, rfl, hr⟩ := h
  refine ⟨es ++ [(time, event)], ?_, ?_⟩
  · simp only [observations, Stage.closing, List.map_append, List.map_cons, List.map_nil,
      List.append_nil]
  · rw [List.map_append]
    exact hr.trans leads

theorem hasStory_unobserved {run wake wake' : Nat} {rest next : Routine σ Report}
    {story : List Occurrence} (leads : Leads rest [] next)
    (h : (Stage.working wake rest).HasStory chain run story) :
    (Stage.working wake' next).HasStory chain run story := by
  obtain ⟨es, rfl, hr⟩ := h
  refine ⟨es, rfl, ?_⟩
  have := hr.trans leads
  rwa [List.append_nil] at this

theorem hasStory_ended {run wake : Nat} {rest : Routine σ Report} {report : Report}
    {story : List Occurrence}
    (ends : ∀ es, Leads chain.run es rest → EndsWith chain run es report)
    (h : (Stage.working wake rest).HasStory chain run story) :
    (Stage.ended report : Stage σ).HasStory chain run (story ++ [.ended run report]) := by
  obtain ⟨es, rfl, hr⟩ := h
  refine ⟨es, ?_, ends _ hr⟩
  rw [Stage.closing, List.append_nil]
  rfl

/-- **Every move keeps the stories.** -/
theorem Told.changes {s : Scene σ} {board : Board} {runs : List (Stage σ)}
    {history : List Occurrence} (h : Told chain s.runs s.history)
    (hc : Changes chain s board runs history) : Told chain runs history := by
  cases hc with
  | nothing => exact h
  | claimed caller admitted => exact (h.claimed s.clock).called caller _
  | refused caller refused => exact h.called caller _
  | observed found leads => exact h.set_append found rfl fun _ => hasStory_observed leads
  | unobserved found leads =>
    exact h.set found (fun _ _ => rfl) fun _ heq hs => heq ▸ hasStory_unobserved leads hs
  | completed found =>
    exact h.set_append found rfl fun _ => hasStory_ended fun _ hl => .completed hl
  | brokenDown found =>
    exact h.set_append found rfl fun _ => hasStory_ended fun _ hl => .brokenDown hl
  | filed found =>
    refine h.set_append found rfl fun _ hs => ?_
    obtain ⟨es, rfl, hr⟩ := hs
    exact ⟨es, List.append_assoc _ _ _, hr⟩
  | concluded found =>
    refine h.set_append found rfl fun _ hs => ?_
    obtain ⟨es, rfl, hr⟩ := hs
    exact ⟨es, List.append_assoc _ _ _, hr⟩

/-! ### Runs whose final phase was shown -/

theorem concluded_not_mem_observations {run : Nat} {r : Report} {es : List (Nat × Event)} :
    .concluded run r ∉ observations run es := by
  unfold observations
  rw [List.mem_map]
  rintro ⟨e, -, he⟩
  cases he

/-- A run whose final phase was shown is settled. -/
theorem Told.settled_of_concluded {runs : List (Stage σ)} {history : List Occurrence} {run : Nat}
    {r : Report} (h : Told chain runs history) (hr : .concluded run r ∈ storyOf history run) :
    runs[run]? = some (.settled r) := by
  rcases Nat.lt_or_ge run runs.length with hlt | hge
  · have found := List.getElem?_eq_getElem hlt
    obtain ⟨es, hes, -⟩ := h.story run _ found
    rw [hes, List.mem_append] at hr
    rw [found]
    rcases hr with hr | hr
    · exact absurd hr concluded_not_mem_observations
    · generalize runs[run] = stage at hr ⊢
      cases stage <;>
        simp only [Stage.closing, List.mem_cons, List.not_mem_nil, or_false, reduceCtorEq, false_or,
          Occurrence.concluded.injEq, true_and] at hr ⊢
      rw [hr]
  · rw [h.silence run hge] at hr
    exact absurd hr List.not_mem_nil

/-- **Where the final phase of a run is shown, its story ends.**  Before, the run has been observed
on its way, it has ended and its report was filed; afterwards nothing happens to it. -/
theorem Told.story_of_concluded {runs : List (Stage σ)} {before after : List Occurrence} {run : Nat}
    {r : Report} (h : Told chain runs (before ++ .concluded run r :: after)) :
    (∃ es, storyOf before run = observations run es ++ [.ended run r, .filed run r] ∧
      EndsWith chain run (es.map Prod.snd) r) ∧ storyOf after run = [] := by
  have hsplit : storyOf (before ++ .concluded run r :: after) run =
      storyOf before run ++ .concluded run r :: storyOf after run := by
    have hrun : (Occurrence.concluded run r).run? = some run := rfl
    unfold storyOf
    rw [List.filter_append, List.filter_cons, if_pos (decide_eq_true hrun)]
  have hmem : Occurrence.concluded run r ∈ storyOf (before ++ .concluded run r :: after) run := by
    rw [hsplit]
    exact List.mem_append_right _ List.mem_cons_self
  have hsettled := h.settled_of_concluded hmem
  obtain ⟨es, hes, hends⟩ := h.story run _ hsettled
  rw [hsplit] at hes
  have hlast : observations run es ++ (Stage.settled r : Stage σ).closing run =
      (observations run es ++ [.ended run r, .filed run r]) ++ [.concluded run r] :=
    (List.append_assoc (observations run es) [.ended run r, .filed run r] [.concluded run r]).symm
  rw [hlast] at hes
  -- the story ends with the final phase, so if anything came after it there would be two of them
  rcases List.eq_nil_or_concat (storyOf after run) with hnil | ⟨rest, last, hconcat⟩
  · rw [hnil] at hes
    exact ⟨⟨es, (List.append_inj' hes rfl).1, hends⟩, hnil⟩
  · rw [hconcat, List.concat_eq_append, ← List.cons_append, ← List.append_assoc] at hes
    have hinit := (List.append_inj' hes rfl).1
    have hmem : .concluded run r ∈ observations run es ++ [.ended run r, .filed run r] :=
      hinit ▸ List.mem_append_right _ List.mem_cons_self
    rcases List.mem_append.1 hmem with hmem | hmem
    · exact absurd hmem concluded_not_mem_observations
    · simp only [List.mem_cons, reduceCtorEq, List.not_mem_nil, or_self] at hmem

/-- A run whose final phase is shown has ended, its report was filed, its final phase was not shown
before, and nothing happens to it afterwards. -/
theorem Told.settledOnce {runs : List (Stage σ)} {before after : List Occurrence} {run : Nat}
    {r : Report} (h : Told chain runs (before ++ .concluded run r :: after)) :
    .ended run r ∈ before ∧ .filed run r ∈ before ∧ (∀ r', .concluded run r' ∉ before) ∧
      storyOf after run = [] := by
  obtain ⟨⟨es, hstory, -⟩, hafter⟩ := h.story_of_concluded
  have hmem : ∀ o, o.run? = some run →
      (o ∈ before ↔ o ∈ observations run es ++ [.ended run r, .filed run r]) := fun o ho => by
    rw [← hstory, mem_storyOf ho]
  refine ⟨?_, ?_, fun r' hr' => ?_, hafter⟩
  · exact (hmem _ rfl).2 (List.mem_append_right _ List.mem_cons_self)
  · exact (hmem _ rfl).2 (List.mem_append_right _ (List.mem_cons_of_mem _ List.mem_cons_self))
  · rcases List.mem_append.1 ((hmem _ rfl).1 hr') with hm | hm
    · exact concluded_not_mem_observations hm
    · simp only [List.mem_cons, reduceCtorEq, List.not_mem_nil, or_self] at hm

end CodePermit
