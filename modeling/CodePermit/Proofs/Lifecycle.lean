import CodePermit.Proofs.Ascent
import CodePermit.Proofs.Operations
/-!
# The life of an acquisition

The phases that the board shows come in one order only: a first claim, attempts that go up, success
or failure, and after a failure another claim by somebody who retries.  After a success nothing ever
happens again.

* `Occurrence.written?`, `lastShown` — the phases that were written on the board;
* `Follows` — which phase may be written over which, and by what;
* `Trail`, `Trail.changes` — what was written on the board followed what it showed;
* `Scene.Lifecycle`, `Scene.InOrder.isOver` — the order of phases, and scenes after a success;
* `Service.Declines`, `Service.Over` — calls that change nothing, and services after a success;
* `lifecycle` — scenes and services live in this way.
-/

namespace CodePermit

variable {σ : Type} {chain : Chain σ} {probe : Probe σ}

/-! ### What is written on the board -/

/-- The phase that is written on the board when something happens. -/
def Occurrence.written? : Occurrence → Option Phase
  | called caller seen => if caller.admits seen then some .claimed else none
  | observed _ _ (.published phase) => some phase
  | concluded _ report => some report.phase
  | observed _ _ _ | ended _ _ | filed _ _ => none

/-- The phases that were written on the board, in order. -/
def writtenIn (history : List Occurrence) : List Phase :=
  history.filterMap Occurrence.written?

/-- The phase that the board shows after a history. -/
def lastShown (history : List Occurrence) : Phase :=
  (writtenIn history).getLast?.getD .notStarted

/-- A phase may be written over another one when something happens: a run is claimed first of all,
or after a failure by somebody who retries; a run announces a later attempt; a run is over. -/
inductive Follows : Phase → Occurrence → Phase → Prop
  | first {caller : Caller} (h : caller ≠ .retry) :
      Follows .notStarted (.called caller .notStarted) (.inProgress 0 0)
  | again {failure : Failure} {exhausted : Bool} :
      Follows (.failed failure exhausted) (.called .retry (.failed failure exhausted))
        (.inProgress 0 0)
  | onward {run time index n index' m : Nat}
      (h : (Phase.inProgress index n).Later (.inProgress index' m)) :
      Follows (.inProgress index n) (.observed run time (.published (.inProgress index' m)))
        (.inProgress index' m)
  | succeeded {run index n : Nat} {report : Report} {technique : Technique}
      (h : report.phase = .succeeded technique) :
      Follows (.inProgress index n) (.concluded run report) (.succeeded technique)
  | failed {run index n : Nat} {report : Report} {failure : Failure} {exhausted : Bool}
      (h : report.phase = .failed failure exhausted) :
      Follows (.inProgress index n) (.concluded run report) (.failed failure exhausted)

/-- The phase is not in progress, just claimed, or at an attempt of an entry that is there, and not
one too many. -/
def Placed (chain : Chain σ) (phase : Phase) : Prop :=
  ∀ index n, phase = .inProgress index n → 1 ≤ n →
    ∃ e, chain.entries[index]? = some e ∧ n ≤ e.policy.rounds

/-- Whatever is left of a run goes up from the phase on the board. -/
def Rising (board : Board) (runs : List (Stage σ)) : Prop :=
  ∀ (run wake : Nat) (rest : Routine σ Report), runs[run]? = some (.working wake rest) →
    Climbs (fun _ => True) board.phase rest

/-- Whatever was written on the board followed what the board showed. -/
structure Trail (chain : Chain σ) (board : Board) (runs : List (Stage σ))
    (history : List Occurrence) : Prop where
  shown : board.phase = lastShown history
  written : board.version = (writtenIn history).length
  follows : ∀ before o after phase, history = before ++ o :: after → o.written? = some phase →
    Follows (lastShown before) o phase
  placed : Placed chain board.phase
  rising : Rising board runs

/-! ### One more occurrence -/

theorem writtenIn_append_none (history : List Occurrence) {o : Occurrence}
    (ho : o.written? = none) : writtenIn (history ++ [o]) = writtenIn history := by
  rw [writtenIn, List.filterMap_append, List.filterMap_cons_none ho, List.filterMap_nil,
    List.append_nil]
  rfl

theorem writtenIn_append_some (history : List Occurrence) {o : Occurrence} {phase : Phase}
    (ho : o.written? = some phase) : writtenIn (history ++ [o]) = writtenIn history ++ [phase] := by
  rw [writtenIn, List.filterMap_append, List.filterMap_cons_some ho, List.filterMap_nil]
  rfl

theorem lastShown_append_none (history : List Occurrence) {o : Occurrence}
    (ho : o.written? = none) : lastShown (history ++ [o]) = lastShown history := by
  rw [lastShown, writtenIn_append_none history ho]
  rfl

theorem lastShown_append_some (history : List Occurrence) {o : Occurrence} {phase : Phase}
    (ho : o.written? = some phase) : lastShown (history ++ [o]) = phase := by
  rw [lastShown, writtenIn_append_some history ho, List.getLast?_concat]
  rfl

/-- What held of every occurrence so far and holds of the next one holds of all of them. -/
theorem follows_append {history : List Occurrence} {o : Occurrence}
    (h : ∀ before o after phase, history = before ++ o :: after → o.written? = some phase →
      Follows (lastShown before) o phase)
    (ho : ∀ phase, o.written? = some phase → Follows (lastShown history) o phase) :
    ∀ before o' after phase, history ++ [o] = before ++ o' :: after → o'.written? = some phase →
      Follows (lastShown before) o' phase := by
  intro before o' after phase hs hw
  rcases List.eq_nil_or_concat after with rfl | ⟨after, last, rfl⟩
  · obtain ⟨rfl, hlast⟩ := List.append_inj' hs rfl
    obtain rfl := List.singleton_inj.1 hlast
    exact ho phase hw
  · rw [List.concat_eq_append, ← List.cons_append, ← List.append_assoc] at hs
    exact h before o' after phase (List.append_inj' hs rfl).1 hw

namespace Trail

variable {board board' : Board} {runs runs' : List (Stage σ)} {history : List Occurrence}
  {o : Occurrence}

/-- Something happens and nothing is written on the board. -/
theorem unwritten (h : Trail chain board runs history) (hp : board'.phase = board.phase)
    (hv : board'.version = board.version) (ho : o.written? = none) (hr : Rising board runs') :
    Trail chain board' runs' (history ++ [o]) where
  shown := by
    rw [hp, h.shown, lastShown_append_none history ho]
  written := by
    rw [hv, h.written, writtenIn_append_none history ho]
  follows := follows_append h.follows fun phase hw => nomatch ho.symm.trans hw
  placed := hp ▸ h.placed
  rising := fun run wake rest found => hp ▸ hr run wake rest found

/-- Something happens and a phase is written on the board. -/
theorem write {phase : Phase} (h : Trail chain board runs history) (hp : board'.phase = phase)
    (hv : board'.version = board.version + 1) (ho : o.written? = some phase)
    (hf : Follows board.phase o phase) (hplaced : Placed chain phase) (hr : Rising board' runs') :
    Trail chain board' runs' (history ++ [o]) where
  shown := by
    rw [hp, lastShown_append_some history ho]
  written := by
    rw [hv, h.written, writtenIn_append_some history ho, List.length_append,
      List.length_singleton]
  follows := follows_append h.follows fun phase' hw => by
    obtain rfl := Option.some.inj (ho.symm.trans hw)
    rw [← h.shown]
    exact hf
  placed := hp ▸ hplaced
  rising := hr

end Trail

/-! ### One more move -/

theorem hear_phase (board : Board) (e : Event) :
    (Scene.hear board e).phase = e.showing board.phase := by
  cases e <;> rfl

theorem placed_claimed (chain : Chain σ) : Placed chain .claimed := by
  intro index n h hn
  cases h
  exact absurd hn (Nat.lt_irrefl 0)

theorem placed_of_isTerminal {phase : Phase} (h : phase.isTerminal = true) :
    Placed chain phase := by
  rintro index n rfl hn
  cases h

/-- A run that comes to another stage leaves the others as they are. -/
theorem getElem?_set_cases {runs : List (Stage σ)} {run run' : Nat} {stage stage' : Stage σ}
    (h : (runs.set run stage)[run']? = some stage') :
    run' = run ∧ stage' = stage ∨ run' ≠ run ∧ runs[run']? = some stage' := by
  rw [List.getElem?_set] at h
  split at h
  · rename_i heq
    split at h
    · exact Or.inl ⟨heq.symm, (Option.some.inj h).symm⟩
    · cases h
  · rename_i hne
    exact Or.inr ⟨fun heq => hne heq.symm, h⟩

/-- A run that is over is not going up any more. -/
theorem Rising.ended {board : Board} {runs : List (Stage σ)} {run : Nat} {stage : Stage σ}
    (h : Rising board runs) (hs : ∀ wake rest, stage ≠ .working wake rest) :
    Rising board (runs.set run stage) := by
  intro run' wake rest found
  rcases getElem?_set_cases found with ⟨-, heq⟩ | ⟨-, found⟩
  · exact absurd heq.symm (hs wake rest)
  · exact h run' wake rest found

/-- When a run has come to another stage, no other run is working. -/
theorem Orderly.only_working {board : Board} {runs : List (Stage σ)} {history : List Occurrence}
    {past : List Report} {current : Option (Stage σ)} (h : Orderly board runs history past current)
    {run run' wake : Nat} {stage stage' : Stage σ} {rest : Routine σ Report}
    (found : runs[run]? = some stage) (hs : stage.isSettled = false)
    (found' : (runs.set run stage')[run']? = some (.working wake rest)) :
    run' = run ∧ .working wake rest = stage' := by
  rcases getElem?_set_cases found' with h' | ⟨hne, found'⟩
  · exact h'
  · rw [(h.current_of_found found' rfl).1, (h.current_of_found found hs).1] at hne
    exact absurd rfl hne

/-- A claim that is admitted follows what the board shows. -/
theorem follows_of_admits {caller : Caller} {phase : Phase} (h : caller.admits phase = true) :
    Follows phase (.called caller phase) .claimed := by
  cases caller with
  | acquire => exact (of_decide_eq_true h : phase = .notStarted) ▸ .first nofun
  | begin => exact (of_decide_eq_true h : phase = .notStarted) ▸ .first nofun
  | retry =>
    have hfailed : phase.isFailed = true := h
    cases phase with
    | failed failure exhausted => exact .again
    | _ => cases hfailed

/-- The announcement of a later attempt follows what the board shows. -/
theorem follows_of_later {run time : Nat} {shown phase : Phase} (h : shown.Later phase) :
    Follows shown (.observed run time (.published phase)) phase := by
  cases h with
  | attempt h => exact .onward (.attempt h)
  | entry h => exact .onward (.entry h)

/-- The final phase of a run follows an attempt. -/
theorem follows_of_isTerminal {run : Nat} {shown : Phase} {report : Report}
    (hs : shown.isInProgress = true) (h : report.phase.isTerminal = true) :
    Follows shown (.concluded run report) report.phase := by
  cases shown with
  | inProgress index n =>
    rcases Phase.isTerminal_iff.1 h with ⟨t, ht⟩ | ⟨f, x, hf⟩
    · exact ht ▸ .succeeded ht
    · exact hf ▸ .failed hf
  | _ => cases hs

/-- A run that is claimed when no other one is at work goes up from its claim. -/
theorem Orderly.rising_claimed {board board' : Board} {runs : List (Stage σ)}
    {history : List Occurrence} {past : List Report} (h : Orderly board runs history past none)
    (hp : board'.phase = .claimed) (clock : Nat) :
    Rising board' (runs ++ [.working clock chain.run]) := by
  intro run wake rest found
  rcases Nat.lt_or_ge run runs.length with hlt | hge
  · rw [List.getElem?_append_left hlt] at found
    cases (h.current_of_found found rfl).2
  · rw [List.getElem?_append_right hge, List.getElem?_singleton] at found
    split at found
    · cases found
      exact hp ▸ climbs_run chain
    · cases found

/-- **Every move keeps the trail.** -/
theorem Trail.changes {s : Scene σ} {board : Board} {runs : List (Stage σ)}
    {history : List Occurrence} (h : Trail chain s.board s.runs s.history)
    (hs : s.InOrder chain) (hc : Changes chain s board runs history) :
    Trail chain board runs history := by
  obtain ⟨told, ⟨past, current, ho⟩, -⟩ := hs
  cases hc with
  | nothing => exact h
  | claimed caller admitted =>
    obtain rfl := ho.none_of_admits admitted
    have hwritten : (Occurrence.called caller s.board.phase).written? = some .claimed :=
      if_pos admitted
    exact h.write rfl rfl hwritten (follows_of_admits admitted) (placed_claimed chain)
      (ho.rising_claimed rfl s.clock)
  | refused caller refused =>
    have hunwritten : (Occurrence.called caller s.board.phase).written? = none :=
      if_neg (Bool.eq_false_iff.1 refused)
    exact h.unwritten rfl rfl hunwritten h.rising
  | @observed run wake wake' rest next event found leads =>
    have hclimbs := h.rising _ _ _ found
    have hnext : Rising (Scene.hear s.board event) (s.runs.set run (.working wake' next)) := by
      intro run' wake'' rest' found'
      obtain ⟨-, heq⟩ := ho.only_working found rfl found'
      cases heq
      rw [hear_phase]
      exact leads.climbs hclimbs
    cases event with
    | published phase =>
      -- what is announced is later than what is shown, and an attempt of an entry that is there
      have hlater : s.board.phase.Later phase := leads.ascends hclimbs
      obtain ⟨es, -, hr⟩ := told.story _ _ found
      obtain ⟨index, e, n, he, -, hn, rfl⟩ :=
        (leads.keeps (hr.keeps (run_announces chain)).2).1 _ List.mem_cons_self phase rfl
      refine h.write rfl rfl rfl (follows_of_later hlater) (fun index' n' heq hn' => ?_) hnext
      cases heq
      exact ⟨e, he, hn⟩
    | _ => exact h.unwritten rfl rfl rfl hnext
  | @unobserved run wake wake' rest next found leads =>
    refine { h with rising := fun run' wake'' rest' found' => ?_ }
    obtain ⟨-, heq⟩ := ho.only_working found rfl found'
    cases heq
    exact leads.climbs (h.rising _ _ _ found)
  | completed found => exact h.unwritten rfl rfl rfl (h.rising.ended nofun)
  | brokenDown found => exact h.unwritten rfl rfl rfl (h.rising.ended nofun)
  | filed found => exact h.unwritten rfl rfl rfl (h.rising.ended nofun)
  | @concluded run report found =>
    obtain ⟨es, -, hr⟩ := told.story _ _ found
    have hterminal : report.phase.isTerminal = true := hr.isTerminal
    have hprogress : s.board.phase.isInProgress = true :=
      ho.isInProgress_iff.2 ((ho.current_of_found found rfl).2 ▸ nofun)
    have hshown : (s.board.conclude report).phase = report.phase := rfl
    refine h.write hshown rfl rfl (follows_of_isTerminal hprogress hterminal)
      (placed_of_isTerminal hterminal) fun run' wake rest found' => ?_
    obtain ⟨-, heq⟩ := ho.only_working found rfl found'
    cases heq

theorem trail_start (chain : Chain σ) : Trail chain {} [] [] where
  shown := rfl
  written := rfl
  follows := fun _ _ _ _ hs => absurd hs.symm (List.append_ne_nil_of_right_ne_nil _ nofun)
  placed := nofun
  rising := nofun

/-- **Whatever the order of moves, the phases on the board follow one another.** -/
theorem after_trail (chain : Chain σ) (probe : Probe σ) (surroundings : σ) (ms : List (Move σ)) :
    Trail chain (Scene.after chain probe surroundings ms).board
      (Scene.after chain probe surroundings ms).runs
      (Scene.after chain probe surroundings ms).history := by
  have h : (Scene.after chain probe surroundings ms).InOrder chain ∧
      Trail chain (Scene.after chain probe surroundings ms).board
        (Scene.after chain probe surroundings ms).runs
        (Scene.after chain probe surroundings ms).history := by
    refine after_induction (P := fun s => s.InOrder chain ∧ Trail chain s.board s.runs s.history)
      ⟨inOrder_start chain surroundings, trail_start chain⟩ (fun s m h => ?_) ms
    exact ⟨inOrder_move probe m h.1, h.2.changes h.1 (move_changes chain probe s m)⟩
  exact h.2

/-! ### Scenes after a success -/

/-- A run has succeeded and all runs are settled. -/
structure Scene.IsOver (s : Scene σ) : Prop where
  succeeded : s.board.phase.isSucceeded = true
  settled : ∀ (run : Nat) (stage : Stage σ), s.runs[run]? = some stage → stage.isSettled = true

/-- From one scene to another nothing is written on the board, no run goes on and nothing is
observed. -/
structure Scene.Untouched (s s' : Scene σ) : Prop where
  board : s'.board = s.board
  runs : s'.runs = s.runs
  events : s'.history.filterMap Occurrence.event? = s.history.filterMap Occurrence.event?

/-- After a success all runs are settled. -/
theorem Scene.InOrder.isOver {s : Scene σ} (h : s.InOrder chain)
    (hs : s.board.phase.isSucceeded = true) : s.IsOver := by
  obtain ⟨-, ⟨past, current, ho⟩, -⟩ := h
  refine ⟨hs, fun run stage found => ?_⟩
  cases hstage : stage.isSettled with
  | true => rfl
  | false =>
    have hcurrent := (ho.current_of_found found hstage).2
    have hprogress := ho.isInProgress_iff.2 (hcurrent ▸ nofun)
    rw [Phase.isInProgress_of_isTerminal (Phase.isTerminal_of_isSucceeded hs)] at hprogress
    cases hprogress

theorem not_admits_of_isSucceeded {phase : Phase} (h : phase.isSucceeded = true)
    (caller : Caller) : caller.admits phase = false := by
  cases phase with
  | succeeded technique => cases caller <;> rfl
  | notStarted => cases h
  | inProgress index attempt => cases h
  | failed failure exhausted => cases h

namespace Scene.IsOver

variable {s : Scene σ}

/-- No run has anything to do. -/
theorem work (h : s.IsOver) (run : Nat) : s.move chain probe (.work run) = s := by
  unfold Scene.move
  dsimp only
  split
  · rename_i wake rest found
    cases h.settled run _ found
  · rfl

/-- No run is to be settled. -/
theorem settle (h : s.IsOver) (run : Nat) : s.move chain probe (.settle run) = s := by
  unfold Scene.move
  dsimp only
  split
  · rename_i report found
    cases h.settled run _ found
  · rename_i report found
    cases h.settled run _ found
  · rfl

/-- Callers go away again. -/
theorem call (h : s.IsOver) (caller : Caller) : s.move chain probe (.call caller) =
    { s with history := s.history ++ [.called caller s.board.phase] } := by
  show s.call chain caller = _
  unfold Scene.call Board.claim
  rw [not_admits_of_isSucceeded h.succeeded caller]
  rfl

/-- **After a success every move leaves the scene untouched.** -/
theorem move (h : s.IsOver) (m : Move σ) : s.Untouched (s.move chain probe m) := by
  cases m with
  | call caller =>
    rw [h.call caller]
    refine ⟨rfl, rfl, ?_⟩
    rw [List.filterMap_append]
    exact List.append_nil _
  | work run =>
    rw [h.work run]
    exact ⟨rfl, rfl, rfl⟩
  | settle run =>
    rw [h.settle run]
    exact ⟨rfl, rfl, rfl⟩
  | wait length => exact ⟨rfl, rfl, rfl⟩
  | disturb f => exact ⟨rfl, rfl, rfl⟩

theorem moves (h : s.IsOver) (ms : List (Move σ)) : s.Untouched (s.moves chain probe ms) := by
  induction ms generalizing s with
  | nil => exact ⟨rfl, rfl, rfl⟩
  | cons m ms ih =>
    have hm : s.Untouched (s.move chain probe m) := h.move m
    have hms := ih ⟨hm.board ▸ h.succeeded, hm.runs ▸ h.settled⟩
    exact ⟨hms.board.trans hm.board, hms.runs.trans hm.runs, hms.events.trans hm.events⟩

end Scene.IsOver

/-! ### Services after a success -/

namespace Service

/-- A service with nothing under way, at another time and in other surroundings. -/
def elsewhere (s : Service σ) (clock : Nat) (surroundings : σ) : Service σ :=
  { s with now := ⟨clock, surroundings, s.now.history⟩ }

/-- Calls that are not admitted are answered with the current phase and change nothing. -/
structure Declines (s : Service σ) : Prop where
  /-- Retrying does nothing unless a run has failed. -/
  retry : s.phase.isFailed = false →
    s.retryCall = (.answered s.phase, s) ∧ s.retry = (s.phase, s)
  /-- Starting the first run does nothing after a run. -/
  acquire : s.phase.isTerminal = true →
    s.acquireCall = (.answered s.phase, s) ∧ s.acquire = (s.phase, s)
  /-- Starting the first run without waiting does nothing after a run. -/
  begin : s.phase.isTerminal = true → s.begin = s

theorem startRun_eq_none {s : Service σ} {admits : Phase → Bool} (h : admits s.phase = false) :
    s.startRun admits = none := by
  have hclaim : s.board.claim admits = none := if_neg (Bool.eq_false_iff.1 h)
  rw [startRun, hclaim]
  rfl

theorem begin_of_started {s : Service σ} (h : s.phase ≠ .notStarted) : s.begin = s := by
  have hfirst : Board.admitsFirst s.phase = false := decide_eq_false h
  rw [begin, startRun_eq_none hfirst]
  rfl

theorem declines (s : Service σ) : s.Declines := by
  have hbegin : s.phase.isTerminal = true → s.begin = s := by
    intro ht
    refine begin_of_started fun hn => ?_
    rw [hn] at ht
    cases ht
  refine ⟨fun hf => ?_, fun ht => ?_, hbegin⟩
  · have hretry : Board.admitsRetry s.phase = false := hf
    have hcall : s.retryCall = (.answered s.phase, s) := by
      rw [retryCall, startRun_eq_none hretry]
    refine ⟨hcall, ?_⟩
    rw [retry, hcall]
    rfl
  · have hcall : s.acquireCall = (.answered s.phase, s) := by
      rw [acquireCall, hbegin ht]
      exact if_pos ht
    refine ⟨hcall, ?_⟩
    rw [acquire, hcall]
    rfl

/-- After a success all calls are answered at once. -/
theorem first_of_isSucceeded {s : Service σ} (hs : s.phase.isSucceeded = true) (call : Call) :
    call.first s = (.answered s.phase, s) := by
  cases call with
  | acquire => exact (s.declines.acquire (Phase.isTerminal_of_isSucceeded hs)).1
  | retry =>
    refine (s.declines.retry ?_).1
    cases hf : s.phase.isFailed with
    | false => rfl
    | true => cases (Phase.isSucceeded_of_isFailed hf).symm.trans hs

theorem firstSteps_of_isSucceeded {s : Service σ} (hs : s.phase.isSucceeded = true)
    (calls : List Call) :
    s.firstSteps calls = (List.replicate calls.length (.answered s.phase), s) := by
  induction calls with
  | nil => rfl
  | cons call calls ih =>
    rw [firstSteps, first_of_isSucceeded hs call]
    dsimp only
    rw [ih]
    rfl

/-- **After a success an operation changes nothing**, but time may pass, and the surroundings may be
changed from outside. -/
theorem perform_of_isSucceeded {s : Service σ} (hs : s.phase.isSucceeded = true)
    (hf : s.flight = none) (op : Operation σ) :
    ∃ clock surroundings, s.perform op = s.elsewhere clock surroundings ∧
      ((∀ f, op ≠ .change f) → surroundings = s.now.surroundings) := by
  have ht : s.phase.isTerminal = true := Phase.isTerminal_of_isSucceeded hs
  have hsame : ∀ s', s' = s → ∃ clock surroundings, s' = s.elsewhere clock surroundings ∧
      ((∀ f, op ≠ .change f) → surroundings = s.now.surroundings) :=
    fun s' h => ⟨s.now.clock, s.now.surroundings, h, fun _ => rfl⟩
  have hadvance : ∀ horizon, s.advance horizon = s := by
    intro horizon
    rw [advance, hf]
  cases op with
  | begin => exact hsame _ (s.declines.begin ht)
  | acquire => exact hsame _ (congrArg Prod.snd (s.declines.acquire ht).2)
  | retry =>
    refine hsame _ ?_
    have hcall := first_of_isSucceeded hs .retry
    show (await (Call.retry.first s)).2 = s
    rw [hcall]
    rfl
  | launch call => exact hsame _ (congrArg Prod.snd (first_of_isSucceeded hs call))
  | join calls =>
    refine hsame _ ?_
    show (s.join calls).2 = s
    rw [join, firstSteps_of_isSucceeded hs calls]
    dsimp only
    split
    · exact hadvance none
    · rfl
  | sleep length =>
    refine ⟨s.now.clock + min length longestRest, s.now.surroundings, ?_, fun _ => rfl⟩
    show (s.advance _).atTime _ = _
    rw [hadvance]
    rfl
  | waitTerminal length =>
    refine hsame _ ?_
    show (s.waitTerminal length).2 = s
    rw [waitTerminal, if_pos ht]
  | change f =>
    exact ⟨s.now.clock, f s.now.clock s.now.surroundings, rfl, fun h => absurd rfl (h f)⟩

/-- The acquisition is over: whatever operations come, nothing is written on the board, nothing is
observed, and the surroundings are left alone unless they are changed from outside. -/
structure Over (s : Service σ) : Prop where
  board : ∀ ops, (s.performAll ops).board = s.board
  observed : ∀ ops, (s.performAll ops).now.history = s.now.history
  untouched : ∀ ops, (∀ f, .change f ∉ ops) →
    (s.performAll ops).now.surroundings = s.now.surroundings
  idle : ∀ ops, (s.performAll ops).flight = none

theorem performAll_of_isSucceeded {s : Service σ} (hs : s.phase.isSucceeded = true)
    (hf : s.flight = none) (ops : List (Operation σ)) :
    ∃ clock surroundings, s.performAll ops = s.elsewhere clock surroundings ∧
      ((∀ f, .change f ∉ ops) → surroundings = s.now.surroundings) := by
  induction ops generalizing s with
  | nil => exact ⟨s.now.clock, s.now.surroundings, rfl, fun _ => rfl⟩
  | cons op ops ih =>
    obtain ⟨clock, surroundings, hop, hkept⟩ := perform_of_isSucceeded hs hf op
    obtain ⟨clock', surroundings', hops, hkept'⟩ := ih (s := s.elsewhere clock surroundings) hs hf
    refine ⟨clock', surroundings', ?_, fun h => ?_⟩
    · show (s.perform op).performAll ops = _
      rw [hop, hops]
      rfl
    · have hop' : ∀ f, op ≠ .change f := fun f heq => h f (heq ▸ List.mem_cons_self)
      exact (hkept' fun f hmem => h f (List.mem_cons_of_mem _ hmem)).trans (hkept hop')

theorem over_of_isSucceeded {s : Service σ} (hs : s.phase.isSucceeded = true)
    (hf : s.flight = none) : s.Over := by
  have hops := performAll_of_isSucceeded hs hf
  constructor
  · intro ops
    obtain ⟨clock, surroundings, heq, -⟩ := hops ops
    rw [heq]
    rfl
  · intro ops
    obtain ⟨clock, surroundings, heq, -⟩ := hops ops
    rw [heq]
    rfl
  · intro ops hunchanged
    obtain ⟨clock, surroundings, heq, hkept⟩ := hops ops
    rw [heq]
    exact hkept hunchanged
  · intro ops
    obtain ⟨clock, surroundings, heq, -⟩ := hops ops
    rw [heq]
    exact hf

end Service

/-- Nothing is under way in a service that shows a success. -/
theorem Depicts.idle {sc : Scene σ} {s : Service σ} (h : Depicts chain probe sc s)
    (ho : sc.InOrder chain) (hs : s.phase.isSucceeded = true) : s.flight = none := by
  cases hflight : s.flight with
  | none => rfl
  | some f =>
    obtain ⟨n, -, found, -⟩ := h.flight f hflight
    have hsucceeded : sc.board.phase.isSucceeded = true := h.board ▸ hs
    cases (ho.isOver hsucceeded).settled n _ found

/-! ### The order of phases -/

/-- How the phases on the board follow one another. -/
structure Scene.Lifecycle (chain : Chain σ) (probe : Probe σ) (s : Scene σ) : Prop where
  /-- The board shows the phase that was written last. -/
  shown : s.board.phase = lastShown s.history
  /-- It was written as often as something happened that writes on it. -/
  written : s.board.version = (writtenIn s.history).length
  /-- A phase is written only where it may follow the one that was shown. -/
  follows : ∀ before o after phase, s.history = before ++ o :: after → o.written? = some phase →
    Follows (lastShown before) o phase
  /-- An attempt in progress is one of an entry that is there, and not one too many. -/
  placed : ∀ index n, s.board.phase = .inProgress index n → 1 ≤ n →
    index < chain.entries.length ∧
      ∃ e, chain.entries[index]? = some e ∧ n ≤ Nat.max 1 e.policy.maxAttempts
  /-- After a success nothing is written, no run goes on and nothing is observed, whatever the moves
  that come. -/
  finished : s.board.phase.isSucceeded = true → ∀ ms, s.Untouched (s.moves chain probe ms)
  /-- After a success runs, and those who settle them, have nothing to do. -/
  still : s.board.phase.isSucceeded = true → ∀ run,
    s.move chain probe (.work run) = s ∧ s.move chain probe (.settle run) = s

theorem inOrder_lifecycle {s : Scene σ} (h : s.InOrder chain)
    (ht : Trail chain s.board s.runs s.history) : s.Lifecycle chain probe where
  shown := ht.shown
  written := ht.written
  follows := ht.follows
  placed := fun index n hp hn => by
    obtain ⟨e, he, hle⟩ := ht.placed index n hp hn
    exact ⟨(List.getElem?_eq_some_iff.1 he).1, e, he, hle⟩
  finished := fun hs => (h.isOver hs).moves
  still := fun hs run => ⟨(h.isOver hs).work run, (h.isOver hs).settle run⟩

/-- **The life of an acquisition.**  In every scene the phases on the board have followed one
another in order, and so they have for every service after any operations; after a success no
operation changes anything any more, and calls that are not admitted never do. -/
theorem lifecycle (chain : Chain σ) (probe : Probe σ) (surroundings : σ) :
    (∀ ms, (Scene.after chain probe surroundings ms).Lifecycle chain probe) ∧
      (∀ ops, (∃ sc,
        Depicts chain probe sc ((Service.start chain probe surroundings).performAll ops) ∧
          sc.Lifecycle chain probe) ∧
        (((Service.start chain probe surroundings).performAll ops).phase.isSucceeded = true →
          ((Service.start chain probe surroundings).performAll ops).Over)) ∧
      ∀ s : Service σ, s.Declines := by
  have alive : ∀ ms, (Scene.after chain probe surroundings ms).Lifecycle chain probe := fun ms =>
    inOrder_lifecycle (after_inOrder chain probe surroundings ms)
      (after_trail chain probe surroundings ms)
  refine ⟨alive, fun ops => ?_, Service.declines⟩
  obtain ⟨ms, hdepicts⟩ := performAll_depicts chain probe surroundings ops
  refine ⟨⟨_, hdepicts, alive ms⟩, fun hs => ?_⟩
  exact Service.over_of_isSucceeded hs
    (hdepicts.idle (after_inOrder chain probe surroundings ms) hs)

end CodePermit
