import CodePermit.Proofs.RunOrder
/-!
# Operations and scenes

A service goes through operations one after another, and a run makes all the progress it can as soon
as somebody lets time pass.  That is one of the many orders in which callers, runs and those who
settle runs may move: every service that operations lead to is found in some scene.

* `Operation`, `Service.perform`, `Service.performAll` — what may be done with a service;
* `Scene.Reaches` — moves lead from one scene to another;
* `Attends`, `play_reaches` — a run is played by moves of the run;
* `Depicts`, `perform_foundFrom` — a scene finds a service, and moves follow an operation;
* `performAll_depicts`, `scenes_and_services` — every service that operations lead to is found in a
  scene, and has what all scenes have.
-/

namespace CodePermit

variable {σ : Type} {chain : Chain σ} {probe : Probe σ}

/-! ### Operations -/

/-- What may be done with a service. -/
inductive Operation (σ : Type) where
  /-- Start the first run and do not wait. -/
  | begin
  /-- Start the first run or join it, and wait for its end. -/
  | acquire
  /-- Start another run after a failure and wait for its end. -/
  | retry
  /-- Make the first step of a call and let it wait on its own. -/
  | launch (call : Service.Call)
  /-- Make calls at once and wait for all answers. -/
  | join (calls : List Service.Call)
  /-- Let time pass. -/
  | sleep (length : Nat)
  /-- Wait for a terminal phase, but not longer than that. -/
  | waitTerminal (length : Nat)
  /-- Change the surroundings from outside. -/
  | change (f : Nat → σ → σ)

namespace Service

/-- The service after an operation. -/
def perform (s : Service σ) : Operation σ → Service σ
  | .begin => s.begin
  | .acquire => s.acquire.2
  | .retry => s.retry.2
  | .launch call => (call.first s).2
  | .join calls => (s.join calls).2
  | .sleep length => s.sleep length
  | .waitTerminal length => (s.waitTerminal length).2
  | .change f => s.change f

/-- The service after operations. -/
def performAll (s : Service σ) (ops : List (Operation σ)) : Service σ :=
  ops.foldl perform s

theorem performAll_append (s : Service σ) (ops ops' : List (Operation σ)) :
    s.performAll (ops ++ ops') = (s.performAll ops).performAll ops' :=
  List.foldl_append

end Service

/-! ### Moves that lead somewhere -/

/-- Some moves lead from one scene to another. -/
def Scene.Reaches (chain : Chain σ) (probe : Probe σ) (s s' : Scene σ) : Prop :=
  ∃ ms, s.moves chain probe ms = s'

theorem reaches_refl (s : Scene σ) : s.Reaches chain probe s := ⟨[], rfl⟩

theorem reaches_move (chain : Chain σ) (probe : Probe σ) (s : Scene σ) (m : Move σ) :
    s.Reaches chain probe (s.move chain probe m) := ⟨[m], rfl⟩

theorem Scene.Reaches.trans {s s' s'' : Scene σ} (h : s.Reaches chain probe s')
    (h' : s'.Reaches chain probe s'') : s.Reaches chain probe s'' := by
  obtain ⟨ms, rfl⟩ := h
  obtain ⟨ms', rfl⟩ := h'
  exact ⟨ms ++ ms', moves_append chain probe s ms ms'⟩

/-- What moves preserve holds wherever they lead. -/
theorem Scene.Reaches.inOrder {s s' : Scene σ} (h : s.Reaches chain probe s')
    (hs : s.InOrder chain) : s'.InOrder chain := by
  obtain ⟨ms, rfl⟩ := h
  induction ms generalizing s with
  | nil => exact hs
  | cons m ms ih => exact ih (inOrder_move probe m hs)

/-- A run that is awake makes its next step. -/
theorem reaches_work (chain : Chain σ) (probe : Probe σ) {s : Scene σ} {n wake : Nat}
    {rest : Routine σ Report} (found : s.runs[n]? = some (.working wake rest))
    (awake : wake ≤ s.clock) : s.Reaches chain probe (s.work probe n rest) := by
  have h := reaches_move chain probe s (.work n)
  unfold Scene.move at h
  dsimp only at h
  rw [found] at h
  dsimp only at h
  rwa [if_pos awake] at h

/-- A run that was found is found at the stage to which it comes. -/
theorem getElem?_set_found {runs : List (Stage σ)} {n : Nat} {stage stage' : Stage σ}
    (found : runs[n]? = some stage) : (runs.set n stage')[n]? = some stage' :=
  List.getElem?_set_self (List.getElem?_eq_some_iff.1 found).1

/-! ### Runs that are played -/

/-- A scene finds what a play has left, beyond a board and events from before. -/
structure Attends (board : Board) (events : List (Nat × Event)) (s : Scene σ) (p : Playback σ) :
    Prop where
  board : s.board = (publishedPhases p.history).foldl Board.publish board
  clock : s.clock = p.clock
  surroundings : s.surroundings = p.surroundings
  events : s.history.filterMap Occurrence.event? = events ++ p.events

theorem publishedPhases_cons (board : Board) (time : Nat) (e : Event) (h : List (Nat × Event)) :
    (publishedPhases ((time, e) :: h)).foldl Board.publish board =
      Scene.hear ((publishedPhases h).foldl Board.publish board) e := by
  unfold publishedPhases
  rw [List.reverse_cons, List.filterMap_append, List.foldl_append]
  cases e <;> rfl

/-- What a run is observed doing is found by the scene. -/
theorem Attends.observe {board : Board} {events : List (Nat × Event)} {s : Scene σ}
    {p : Playback σ} (h : Attends board events s p) (n : Nat) (e : Event) :
    Attends board events (s.observe n e) (p.observe e) where
  board := by
    rw [Playback.observe, publishedPhases_cons, ← h.board]
    rfl
  clock := h.clock
  surroundings := h.surroundings
  events := by
    rw [Scene.observe, List.filterMap_append, h.events, h.clock, Playback.events, Playback.events,
      Playback.observe, List.reverse_cons, List.append_assoc]
    rfl

/-- The scene finds the same when it is noted how the run goes on. -/
theorem Attends.proceed {board : Board} {events : List (Nat × Event)} {s : Scene σ}
    {p : Playback σ} (h : Attends board events s p) (n wake : Nat) (next : Routine σ Report) :
    Attends board events (s.proceed n wake next) p :=
  ⟨h.board, h.clock, h.surroundings, h.events⟩

/-- Time passes for both. -/
theorem Attends.wait {board : Board} {events : List (Nat × Event)} {s : Scene σ}
    {p : Playback σ} (h : Attends board events s p) (length : Nat) :
    Attends board events (s.move chain probe (.wait length)) { p with clock := p.clock + length } :=
  ⟨h.board, congrArg (fun t => t + length) h.clock, h.surroundings, h.events⟩

/-- The surroundings are changed for both. -/
theorem Attends.change {board : Board} {events : List (Nat × Event)} {s : Scene σ}
    {p : Playback σ} (h : Attends board events s p) (f : Nat → σ → σ) :
    Attends board events (s.change f) (p.change f) :=
  ⟨h.board, h.clock, by rw [Scene.change, Playback.change, h.clock, h.surroundings], h.events⟩

/-- The probe is asked for both. -/
theorem Attends.ask {board : Board} {events : List (Nat × Event)} {s : Scene σ}
    {p : Playback σ} (h : Attends board events s p) (n : Nat) (who : Asker) :
    Attends board events
      ((s.change fun _ _ => (probe p.clock p.surroundings).2).observe n
        (.asked who (probe p.clock p.surroundings).1)) (p.ask probe who).2 :=
  (h.change fun _ _ => (probe p.clock p.surroundings).2).observe n _

/-- How a play up to a horizon is found as a run of a scene when it has stopped. -/
def Stop.FoundAt (horizon : Option Nat) (s : Scene σ) (n : Nat) : Stop σ Report → Prop
  | finished report => s.runs[n]? = some (.ended report)
  | brokenDown message => s.runs[n]? = some (.ended (.aborted (breakdownMessage (n + 1) message)))
  | hung => False
  | asleep wake rest =>
    s.runs[n]? = some (.working wake rest) ∧ reaches horizon wake = false ∧ s.clock ≤ wake

/-- **A run is played by moves of the run**, between which time passes while it sleeps. -/
theorem play_reaches (chain : Chain σ) (probe : Probe σ) (horizon : Option Nat) {n wake : Nat}
    {rest : Routine σ Report} {board : Board} {events : List (Nat × Event)} {s : Scene σ}
    {p : Playback σ} (h : Attends board events s p) (found : s.runs[n]? = some (.working wake rest))
    (awake : wake ≤ s.clock) (hr : rest.Keeps .wakeful) :
    ∃ s', s.Reaches chain probe s' ∧ Attends board events s' (play probe horizon rest p).2 ∧
      (play probe horizon rest p).1.FoundAt horizon s' n := by
  induction rest generalizing s p wake with
  | done report =>
    refine ⟨_, reaches_work chain probe found awake, ⟨h.board, h.clock, h.surroundings, ?_⟩,
      getElem?_set_found found⟩
    rw [Scene.work, Scene.finish, List.filterMap_append, h.events]
    exact List.append_nil _
  | breakdown message =>
    refine ⟨_, reaches_work chain probe found awake, ⟨h.board, h.clock, h.surroundings, ?_⟩,
      getElem?_set_found found⟩
    rw [Scene.work, Scene.finish, List.filterMap_append, h.events]
    exact List.append_nil _
  | hang => exact absurd hr id
  | sleep length next ih =>
    -- the run goes to sleep by a move of its own; that it wakes up takes a move of the clock
    have step := reaches_work chain probe found awake
    have hslept := (h.observe n (.slept length)).proceed n (s.clock + length) next
    rw [play]
    split
    · obtain ⟨s', hreach, hattends, hfound⟩ :=
        ih (hslept.wait length) (getElem?_set_found found) (Nat.le_refl (s.clock + length)) hr.2
      exact ⟨s', (step.trans (reaches_move chain probe _ _)).trans hreach, hattends, hfound⟩
    · rename_i hbehind
      rw [← h.clock] at hbehind ⊢
      exact ⟨_, step, hslept, getElem?_set_found found, Bool.eq_false_iff.2 hbehind,
        Nat.le_add_right _ _⟩
  | ask who next ih =>
    have step := reaches_work chain probe found awake
    rw [Scene.work, h.clock, h.surroundings] at step
    obtain ⟨s', hreach, hattends, hfound⟩ := ih _ ((h.ask n who).proceed n p.clock _)
      (getElem?_set_found found) (Nat.le_of_eq h.clock.symm) (hr _).2
    exact ⟨s', step.trans hreach, hattends, hfound⟩
  | note event next ih =>
    have step := reaches_work chain probe found awake
    obtain ⟨s', hreach, hattends, hfound⟩ := ih ((h.observe n event).proceed n s.clock next)
      (getElem?_set_found found) (Nat.le_refl s.clock) hr.2
    exact ⟨s', step.trans hreach, hattends, hfound⟩
  | act change next ih =>
    have step := reaches_work chain probe found awake
    rw [Scene.work, h.clock, h.surroundings] at step
    obtain ⟨s', hreach, hattends, hfound⟩ := ih _ _ ((h.change change).proceed n p.clock _)
      (getElem?_set_found found) (Nat.le_of_eq h.clock.symm) (hr _ _)
    exact ⟨s', step.trans hreach, hattends, hfound⟩

/-- A play up to a horizon does not go beyond it. -/
theorem play_clock_le {r : Routine σ Report} {horizon : Nat} {p : Playback σ}
    (h : p.clock ≤ horizon) : (play probe (some horizon) r p).2.clock ≤ horizon := by
  induction r generalizing p with
  | done report => exact h
  | breakdown message => exact h
  | hang => exact h
  | sleep length next ih =>
    rw [play]
    split
    · rename_i hr
      exact ih (of_decide_eq_true hr)
    · exact h
  | ask who next ih => exact ih _ h
  | note event next ih => exact ih h
  | act change next ih => exact ih _ _ h

/-! ### Services found in scenes -/

/-- A scene finds a service: its board, its moment, what has been observed, and its run under
way. -/
structure Depicts (chain : Chain σ) (probe : Probe σ) (sc : Scene σ) (s : Service σ) : Prop where
  chain : s.chain = chain
  probe : s.probe = probe
  board : sc.board = s.board
  clock : sc.clock = s.now.clock
  surroundings : sc.surroundings = s.now.surroundings
  events : sc.history.filterMap Occurrence.event? = s.now.events
  flight : ∀ f, s.flight = some f → ∃ n, f.number = n + 1 ∧
    sc.runs[n]? = some (.working f.wake f.rest) ∧ s.now.clock ≤ f.wake

namespace Depicts

variable {sc : Scene σ} {s : Service σ}

/-- A caller moves, and the service makes the first step of a call. -/
theorem call (h : Depicts chain probe sc s) (ho : sc.InOrder chain) (caller : Caller) :
    Depicts chain probe (sc.call chain caller) ((s.startRun caller.admits).getD s) := by
  obtain ⟨past, current, ho⟩ := ho.orderly
  have hevents : (sc.history ++ [Occurrence.called caller sc.board.phase]).filterMap
      Occurrence.event? = s.now.events := by
    rw [List.filterMap_append, h.events]
    exact List.append_nil _
  unfold Scene.call Service.startRun Board.claim
  rw [← h.board]
  by_cases hc : caller.admits sc.board.phase = true
  · rw [if_pos hc]
    refine ⟨h.chain, h.probe, rfl, h.clock, h.surroundings, hevents, ?_⟩
    rintro f hf
    cases hf
    refine ⟨sc.runs.length, congrArg (· + 1) ho.claims, ?_, Nat.le_refl _⟩
    rw [List.getElem?_append_right (Nat.le_refl _), Nat.sub_self, h.chain, h.clock]
    rfl
  · rw [if_neg hc]
    exact ⟨h.chain, h.probe, h.board, h.clock, h.surroundings, hevents, h.flight⟩

/-- Time passes for a service whose run under way wakes later. -/
theorem atTime (h : Depicts chain probe sc s) {time : Nat} (hn : s.now.clock ≤ time)
    (hf : ∀ f, s.flight = some f → time < f.wake) :
    Depicts chain probe (sc.move chain probe (.wait (time - s.now.clock))) (s.atTime time) := by
  refine ⟨h.chain, h.probe, h.board, ?_, h.surroundings, h.events, fun f hflight => ?_⟩
  · have hc := h.clock
    show sc.clock + (time - s.now.clock) = time
    omega
  · obtain ⟨n, hnumber, hfound, -⟩ := h.flight f hflight
    exact ⟨n, hnumber, hfound, Nat.le_of_lt (hf f hflight)⟩

/-- The surroundings are changed from outside. -/
theorem change (h : Depicts chain probe sc s) (f : Nat → σ → σ) :
    Depicts chain probe (sc.move chain probe (.disturb f)) (s.change f) := by
  refine ⟨h.chain, h.probe, h.board, h.clock, ?_, h.events, h.flight⟩
  show f sc.clock sc.surroundings = f s.now.clock s.now.surroundings
  rw [h.clock, h.surroundings]

/-- The run under way is settled by two moves when it is over. -/
theorem settle (h : Depicts chain probe sc s) {n : Nat} {report : Report}
    (found : sc.runs[n]? = some (.ended report)) :
    ∃ sc', sc.Reaches chain probe sc' ∧
      Depicts chain probe sc' { s with board := s.board.settle report, flight := none } := by
  have hfile := reaches_move chain probe sc (.settle n)
  have hfiled : sc.move chain probe (.settle n) = sc.file n report := by
    unfold Scene.move
    dsimp only
    rw [found]
  have hconclude := reaches_move chain probe (sc.file n report) (.settle n)
  have hconcluded : (sc.file n report).move chain probe (.settle n) =
      (sc.file n report).conclude n report := by
    have hfound : (sc.file n report).runs[n]? = some (.filed report) := getElem?_set_found found
    unfold Scene.move
    dsimp only
    rw [hfound]
  rw [hfiled] at hfile
  rw [hconcluded] at hconclude
  refine ⟨_, hfile.trans hconclude, h.chain, h.probe, ?_, h.clock, h.surroundings, ?_, nofun⟩
  · rw [Board.settle, ← h.board]
    rfl
  · have hevents := h.events
    unfold Scene.conclude Scene.file
    rw [List.filterMap_append, List.filterMap_append, hevents]
    exact (List.append_nil _).trans (List.append_nil _)

/-- The run under way was played up to a horizon until it stopped. -/
theorem stopped (hc : s.chain = chain) (hp : s.probe = probe) {f : Flight σ} {n : Nat}
    (hn : f.number = n + 1) {horizon : Option Nat} {played : Stop σ Report × Playback σ}
    (h : Attends s.board s.now.events sc played.2) (hs : played.1.FoundAt horizon sc n) :
    ∃ sc', sc.Reaches chain probe sc' ∧ Depicts chain probe sc' (s.stopped f played) ∧
      ∀ f', (s.stopped f played).flight = some f' → reaches horizon f'.wake = false := by
  obtain ⟨stop, p⟩ := played
  have hevents : sc.history.filterMap Occurrence.event? = (p.history ++ s.now.history).reverse := by
    rw [h.events, List.reverse_append]
    rfl
  have halted : Depicts chain probe sc
      { s with
        board := (publishedPhases p.history).foldl Board.publish s.board
        flight := none
        now := { p with history := p.history ++ s.now.history } } :=
    ⟨hc, hp, h.board, h.clock, h.surroundings, hevents, nofun⟩
  cases stop with
  | finished report =>
    obtain ⟨sc', hreach, hdepicts⟩ := halted.settle hs
    exact ⟨sc', hreach, hdepicts, nofun⟩
  | brokenDown message =>
    obtain ⟨sc', hreach, hdepicts⟩ := halted.settle hs
    rw [← hn] at hdepicts
    exact ⟨sc', hreach, hdepicts, nofun⟩
  | hung => exact absurd hs id
  | asleep wake rest =>
    obtain ⟨hfound, hbehind, hwake⟩ := hs
    refine ⟨sc, reaches_refl sc, ⟨hc, hp, h.board, h.clock, h.surroundings, hevents, ?_⟩, ?_⟩
    · rintro f' hf'
      cases hf'
      exact ⟨n, hn, hfound, h.clock ▸ hwake⟩
    · rintro f' hf'
      cases hf'
      exact hbehind

/-- **The run under way makes progress by moves**, and if it is not over then it wakes behind the
horizon. -/
theorem advance (h : Depicts chain probe sc s) (ho : sc.InOrder chain) (horizon : Option Nat) :
    ∃ sc', sc.Reaches chain probe sc' ∧ Depicts chain probe sc' (s.advance horizon) ∧
      ∀ f, (s.advance horizon).flight = some f → reaches horizon f.wake = false := by
  unfold Service.advance
  split
  · rename_i hnone
    exact ⟨sc, reaches_refl sc, h, fun f hf => nomatch hnone.symm.trans hf⟩
  · rename_i f hf
    split
    · obtain ⟨n, hnumber, hfound, hwake⟩ := h.flight f hf
      have hkeeps : f.rest.Keeps .wakeful := by
        obtain ⟨es, -, hleads⟩ := ho.told.story n _ hfound
        exact (hleads.keeps (run_wakeful chain)).2
      have hattends : Attends s.board s.now.events
          (sc.move chain probe (.wait (f.wake - s.now.clock)))
          { s.now with clock := f.wake, history := [] } := by
        refine ⟨h.board, ?_, h.surroundings, h.events.trans (List.append_nil _).symm⟩
        have hclock := h.clock
        show sc.clock + (f.wake - s.now.clock) = f.wake
        omega
      obtain ⟨sc', hreach, hplayed, hstop⟩ := play_reaches chain s.probe horizon hattends hfound
        (Nat.le_of_eq hattends.clock.symm) hkeeps
      obtain ⟨sc'', hreach', hdepicts⟩ := stopped h.chain h.probe hnumber hplayed hstop
      rw [h.probe] at hreach
      exact ⟨sc'', ((reaches_move chain probe _ _).trans hreach).trans hreach', hdepicts⟩
    · rename_i hbehind
      refine ⟨sc, reaches_refl sc, h, fun f' hf' => ?_⟩
      rw [hf] at hf'
      cases hf'
      exact Bool.eq_false_iff.2 hbehind

end Depicts

theorem advance_clock_le {s : Service σ} {time : Nat} (h : s.now.clock ≤ time) :
    (s.advance (some time)).now.clock ≤ time := by
  unfold Service.advance
  split
  · exact h
  · rename_i f hf
    split
    · rename_i hreaches
      have hle : (s.resume (some time) f).2.clock ≤ time :=
        play_clock_le (of_decide_eq_true hreaches)
      unfold Service.stopped
      dsimp only
      split <;> exact hle
    · exact h

/-! ### Operations in scenes -/

/-- The service is found in a scene to which moves lead. -/
def FoundFrom (chain : Chain σ) (probe : Probe σ) (sc : Scene σ) (s : Service σ) : Prop :=
  ∃ sc', sc.Reaches chain probe sc' ∧ Depicts chain probe sc' s

section Operations

variable {sc : Scene σ} {s : Service σ}

theorem call_foundFrom (h : Depicts chain probe sc s) (ho : sc.InOrder chain) (caller : Caller) :
    FoundFrom chain probe sc ((s.startRun caller.admits).getD s) :=
  ⟨_, reaches_move chain probe sc (.call caller), h.call ho caller⟩

theorem first_foundFrom (h : Depicts chain probe sc s) (ho : sc.InOrder chain)
    (call : Service.Call) : FoundFrom chain probe sc (call.first s).2 := by
  cases call with
  | acquire =>
    have hfound := call_foundFrom h ho .acquire
    unfold Service.Call.first Service.acquireCall
    dsimp only
    split <;> exact hfound
  | retry =>
    have hfound := call_foundFrom h ho .retry
    unfold Service.Call.first Service.retryCall
    dsimp only
    split
    · rename_i s' hs
      have hs' : s.startRun Caller.retry.admits = some s' := hs
      rwa [hs'] at hfound
    · rename_i hs
      have hs' : s.startRun Caller.retry.admits = none := hs
      rwa [hs'] at hfound

theorem advance_foundFrom (h : Depicts chain probe sc s) (ho : sc.InOrder chain)
    (horizon : Option Nat) : FoundFrom chain probe sc (s.advance horizon) := by
  obtain ⟨sc', hreach, hdepicts, -⟩ := h.advance ho horizon
  exact ⟨sc', hreach, hdepicts⟩

/-- What can be done next is done in the scene where the service is found. -/
theorem FoundFrom.andThen {s' : Service σ} (h : FoundFrom chain probe sc s) (ho : sc.InOrder chain)
    (hnext : ∀ sc', Depicts chain probe sc' s → sc'.InOrder chain → FoundFrom chain probe sc' s') :
    FoundFrom chain probe sc s' := by
  obtain ⟨sc', hreach, hdepicts⟩ := h
  obtain ⟨sc'', hreach', hdepicts'⟩ := hnext sc' hdepicts (hreach.inOrder ho)
  exact ⟨sc'', hreach.trans hreach', hdepicts'⟩

theorem await_foundFrom {call : Service.Ticket × Service σ} (h : FoundFrom chain probe sc call.2)
    (ho : sc.InOrder chain) : FoundFrom chain probe sc (Service.await call).2 := by
  unfold Service.await
  split
  · exact h
  · exact h.andThen ho fun sc' hd ho' => advance_foundFrom hd ho' none

theorem firstSteps_foundFrom (calls : List Service.Call) (h : Depicts chain probe sc s)
    (ho : sc.InOrder chain) : FoundFrom chain probe sc (s.firstSteps calls).2 := by
  induction calls generalizing sc s with
  | nil => exact ⟨sc, reaches_refl sc, h⟩
  | cons call calls ih =>
    exact (first_foundFrom h ho call).andThen ho fun sc' hd ho' => ih hd ho'

theorem passUntil_foundFrom (h : Depicts chain probe sc s) (ho : sc.InOrder chain) {time : Nat}
    (hle : s.now.clock ≤ time) : FoundFrom chain probe sc (s.passUntil time) := by
  obtain ⟨sc', hreach, hdepicts, hbehind⟩ := h.advance ho (some time)
  refine ⟨_, hreach.trans (reaches_move chain probe _ _),
    hdepicts.atTime (advance_clock_le hle) fun f hf => ?_⟩
  exact Nat.lt_of_not_le (of_decide_eq_false (hbehind f hf))

/-- **Every operation is one of the orders in which moves may come.** -/
theorem perform_foundFrom (h : Depicts chain probe sc s) (ho : sc.InOrder chain)
    (op : Operation σ) : FoundFrom chain probe sc (s.perform op) := by
  cases op with
  | begin => exact call_foundFrom h ho .begin
  | acquire => exact await_foundFrom (first_foundFrom h ho .acquire) ho
  | retry => exact await_foundFrom (first_foundFrom h ho .retry) ho
  | launch call => exact first_foundFrom h ho call
  | join calls =>
    have hfirst := firstSteps_foundFrom calls h ho
    unfold Service.perform Service.join
    dsimp only
    split
    · exact hfirst.andThen ho fun sc' hd ho' => advance_foundFrom hd ho' none
    · exact hfirst
  | sleep length => exact passUntil_foundFrom h ho (Nat.le_add_right _ _)
  | waitTerminal length =>
    show FoundFrom chain probe sc (s.waitTerminal length).2
    unfold Service.waitTerminal
    split
    · exact ⟨sc, reaches_refl sc, h⟩
    · dsimp only
      split
      · exact advance_foundFrom h ho _
      · exact passUntil_foundFrom h ho (Nat.le_add_right _ _)
  | change f => exact ⟨_, reaches_move chain probe sc (.disturb f), h.change f⟩

end Operations

/-- **Every service that operations lead to is found in some scene.** -/
theorem performAll_depicts (chain : Chain σ) (probe : Probe σ) (surroundings : σ)
    (ops : List (Operation σ)) :
    ∃ ms, Depicts chain probe (Scene.after chain probe surroundings ms)
      ((Service.start chain probe surroundings).performAll ops) := by
  suffices h : ∀ sc s, Depicts chain probe sc s → sc.InOrder chain →
      FoundFrom chain probe sc (Service.performAll s ops) by
    have start : Depicts chain probe { surroundings := surroundings }
        (Service.start chain probe surroundings) :=
      ⟨rfl, rfl, rfl, rfl, rfl, rfl, nofun⟩
    obtain ⟨sc, ⟨ms, rfl⟩, hdepicts⟩ := h _ _ start (inOrder_start chain surroundings)
    exact ⟨ms, hdepicts⟩
  induction ops with
  | nil => exact fun sc s h _ => ⟨sc, reaches_refl sc, h⟩
  | cons op ops ih =>
    exact fun sc s h ho => (perform_foundFrom h ho op).andThen ho fun sc' => ih sc' _

/-- What holds of every scene holds wherever a service is found that operations lead to. -/
theorem scenes_and_services {surroundings : σ} {P : Scene σ → Prop}
    (h : ∀ ms, P (Scene.after chain probe surroundings ms)) :
    (∀ ms, P (Scene.after chain probe surroundings ms)) ∧
      ∀ ops, ∃ sc,
        Depicts chain probe sc ((Service.start chain probe surroundings).performAll ops) ∧
          P sc := by
  refine ⟨h, fun ops => ?_⟩
  obtain ⟨ms, hdepicts⟩ := performAll_depicts chain probe surroundings ops
  exact ⟨_, hdepicts, h ms⟩

end CodePermit
