import CodePermit.Proofs.GroundTruth
/-!
# Callers who wait

A caller who has started a run or joined it waits until the board shows a terminal phase, and looks
at the board only when it is resumed, which may be some moves after the run was over.  By then
somebody may have retried: the caller finds another run in progress and goes on waiting, and in the
end it is answered with the phase of a run that it has not joined.

* `Waiter`, `Lobby`, `Lobby.turn` — callers who wait, and the turns of a scene with such callers;
* `changes_settled`, `changes_length_le` — runs that are settled stay so, and no run is forgotten;
* `Served`, `Lobby.InOrder` — an answer is the final phase of the run joined or of a later one;
* `Lobby.Fair`, `waiters_served` — it is that of the run joined if no other run was claimed by then;
* `latecomer_answered_with_later_run` — and otherwise it may be that of a later run.
-/

namespace CodePermit

variable {σ : Type} {chain : Chain σ} {probe : Probe σ}

/-! ### Callers who wait -/

/-- A caller who waits for a run. -/
structure Waiter where
  /-- The run that the caller has started or joined. -/
  run : Nat
  /-- The phase with which the caller was answered, when it was. -/
  answer : Option Phase := none
deriving DecidableEq

/-- Whether a caller waits for a run, by the phase that it has found and the one that it has left:
whoever starts the first run or joins it waits while a run is in progress, whoever retries waits
after a claim. -/
def Caller.waits (found left : Phase) : Caller → Bool
  | acquire => left.isInProgress
  | begin => false
  | retry => found.isFailed

/-- A scene with callers who wait in it. -/
structure Lobby (σ : Type) where
  /-- The scene. -/
  scene : Scene σ
  /-- The callers who wait or have waited, in the order of their calls. -/
  waiters : List Waiter := []

/-- Whose turn it is. -/
inductive Lobby.Turn (σ : Type) where
  /-- Somebody makes a move. -/
  | move (m : Move σ)
  /-- A caller who waits is resumed. -/
  | resume (waiter : Nat)

namespace Lobby

/-- Somebody calls, and waits for the run claimed last if there is something to wait for. -/
def call (chain : Chain σ) (l : Lobby σ) (caller : Caller) : Lobby σ :=
  let scene := l.scene.call chain caller
  if caller.waits l.scene.board.phase scene.board.phase then
    ⟨scene, l.waiters ++ [⟨scene.runs.length - 1, none⟩]⟩
  else ⟨scene, l.waiters⟩

/-- A caller who waits looks at the board, and is answered if the phase is terminal. -/
def look (l : Lobby σ) (waiter : Nat) : Lobby σ :=
  match l.waiters[waiter]? with
  | some ⟨run, none⟩ =>
    if l.scene.board.phase.isTerminal then
      { l with waiters := l.waiters.set waiter ⟨run, some l.scene.board.phase⟩ }
    else l
  | _ => l

/-- The lobby after a turn. -/
def turn (chain : Chain σ) (probe : Probe σ) (l : Lobby σ) : Turn σ → Lobby σ
  | .move (.call caller) => l.call chain caller
  | .move m => { l with scene := l.scene.move chain probe m }
  | .resume waiter => l.look waiter

/-- The lobby after turns, from the beginning. -/
def after (chain : Chain σ) (probe : Probe σ) (surroundings : σ) (ts : List (Turn σ)) : Lobby σ :=
  ts.foldl (turn chain probe) { scene := { surroundings := surroundings } }

end Lobby

/-! ### What a move leaves -/

/-- Runs that are settled stay so. -/
theorem changes_settled {s : Scene σ} {board : Board} {runs : List (Stage σ)}
    {history : List Occurrence} (hc : Changes chain s board runs history) {run : Nat} {r : Report}
    (h : s.runs[run]? = some (.settled r)) : runs[run]? = some (.settled r) := by
  have other : ∀ {run' : Nat} {stage stage' : Stage σ}, s.runs[run']? = some stage →
      stage.isSettled = false → (s.runs.set run' stage')[run]? = some (.settled r) := by
    intro run' stage stage' found hs
    rw [List.getElem?_set_ne, h]
    rintro rfl
    rw [h] at found
    cases found
    cases hs
  cases hc with
  | nothing => exact h
  | claimed caller admitted =>
    rw [List.getElem?_append_left (List.getElem?_eq_some_iff.1 h).1]
    exact h
  | refused caller refused => exact h
  | observed found leads => exact other found rfl
  | unobserved found leads => exact other found rfl
  | completed found => exact other found rfl
  | brokenDown found => exact other found rfl
  | filed found => exact other found rfl
  | concluded found => exact other found rfl

/-- No run is forgotten. -/
theorem changes_length_le {s : Scene σ} {board : Board} {runs : List (Stage σ)}
    {history : List Occurrence} (hc : Changes chain s board runs history) :
    s.runs.length ≤ runs.length := by
  cases hc with
  | nothing => exact Nat.le_refl _
  | claimed caller admitted =>
    rw [List.length_append]
    exact Nat.le_add_right _ _
  | refused caller refused => exact Nat.le_refl _
  | observed found leads => exact Nat.le_of_eq (List.length_set ..).symm
  | unobserved found leads => exact Nat.le_of_eq (List.length_set ..).symm
  | completed found => exact Nat.le_of_eq (List.length_set ..).symm
  | brokenDown found => exact Nat.le_of_eq (List.length_set ..).symm
  | filed found => exact Nat.le_of_eq (List.length_set ..).symm
  | concluded found => exact Nat.le_of_eq (List.length_set ..).symm

/-- Whoever waits after a call waits for a run that is there. -/
theorem call_waits {s : Scene σ} (h : s.InOrder chain) {caller : Caller}
    (hw : caller.waits s.board.phase (s.call chain caller).board.phase = true) :
    0 < (s.call chain caller).runs.length := by
  cases caller with
  | acquire =>
    -- of the board it is asked only that it shows a run in progress, so the probe does not matter
    have hcall : (s.call chain .acquire).InOrder chain :=
      inOrder_move (fun _ x => (false, x)) (.call .acquire) h
    obtain ⟨-, ⟨past, current, ho⟩, -⟩ := hcall
    refine List.length_pos_iff.2 fun hnil => ?_
    have hprogress : (s.call chain .acquire).board.phase.isInProgress = true := hw
    rw [ho.notStarted_iff.2 hnil] at hprogress
    cases hprogress
  | begin => cases hw
  | retry =>
    have hadmitted : Caller.retry.admits s.board.phase = true := hw
    have hclaim : s.board.claim Caller.retry.admits =
        some { s.board.publish .claimed with claims := s.board.claims + 1 } := if_pos hadmitted
    rw [Scene.call, hclaim]
    dsimp only
    rw [List.length_append]
    exact Nat.succ_pos _

/-! ### Answers -/

/-- A caller waits for a run that is there, and if it was answered, then with the final phase of
that run or of a later one. -/
structure Served (runs : List (Stage σ)) (w : Waiter) : Prop where
  joined : w.run < runs.length
  answered : ∀ phase, w.answer = some phase →
    ∃ run r, w.run ≤ run ∧ runs[run]? = some (.settled r) ∧ r.phase = phase

theorem Served.changes {s : Scene σ} {board : Board} {runs : List (Stage σ)}
    {history : List Occurrence} {w : Waiter} (h : Served s.runs w)
    (hc : Changes chain s board runs history) : Served runs w where
  joined := Nat.lt_of_lt_of_le h.joined (changes_length_le hc)
  answered := fun phase hphase => by
    obtain ⟨run, r, hle, found, hr⟩ := h.answered phase hphase
    exact ⟨run, r, hle, changes_settled hc found, hr⟩

/-- The runs of a lobby come one after another, and all callers are served. -/
structure Lobby.InOrder (chain : Chain σ) (l : Lobby σ) : Prop where
  scene : l.scene.InOrder chain
  served : ∀ w ∈ l.waiters, Served l.scene.runs w

namespace Lobby.InOrder

variable {l : Lobby σ}

theorem call (h : l.InOrder chain) (caller : Caller) : (l.call chain caller).InOrder chain := by
  have hscene : (l.scene.call chain caller).InOrder chain :=
    inOrder_move (fun _ x => (false, x)) (.call caller) h.scene
  have hserved : ∀ w ∈ l.waiters, Served (l.scene.call chain caller).runs w :=
    fun w hw => (h.served w hw).changes (call_changes chain l.scene caller)
  unfold Lobby.call
  dsimp only
  split
  · rename_i hwaits
    have hlength := call_waits h.scene hwaits
    refine ⟨hscene, fun w hw => ?_⟩
    rcases List.mem_append.1 hw with hw | hw
    · exact hserved w hw
    · rw [List.mem_singleton.1 hw]
      exact ⟨Nat.sub_lt hlength Nat.one_pos, nofun⟩
  · exact ⟨hscene, hserved⟩

/-- Whoever looks at the board when the phase is terminal is answered with the final phase of the
run that was claimed last. -/
theorem look (h : l.InOrder chain) (waiter : Nat) : (l.look waiter).InOrder chain := by
  unfold Lobby.look
  split
  · rename_i run found
    split
    · rename_i hterminal
      have hw := h.served _ (List.mem_of_getElem? found)
      obtain ⟨last, r, hlength, -, hlast, -, hphase, -⟩ := h.scene.settledRun hterminal
      refine ⟨h.scene, fun w hmem => ?_⟩
      rcases List.mem_or_eq_of_mem_set hmem with hmem | rfl
      · exact h.served w hmem
      · refine ⟨hw.joined, fun phase hanswer => ⟨last, r, ?_, hlast, ?_⟩⟩
        · exact Nat.le_of_lt_succ (Nat.lt_of_lt_of_eq hw.joined hlength)
        · exact hphase.symm.trans (Option.some.inj hanswer)
    · exact h
  · exact h

/-- **Every turn keeps callers served.** -/
theorem turn (h : l.InOrder chain) (t : Lobby.Turn σ) : (l.turn chain probe t).InOrder chain := by
  have moved : ∀ m, Lobby.InOrder chain { l with scene := l.scene.move chain probe m } :=
    fun m => ⟨inOrder_move probe m h.scene,
      fun w hw => (h.served w hw).changes (move_changes chain probe l.scene m)⟩
  cases t with
  | move m =>
    cases m with
    | call caller => exact h.call caller
    | work run => exact moved (.work run)
    | settle run => exact moved (.settle run)
    | wait length => exact moved (.wait length)
    | disturb f => exact moved (.disturb f)
  | resume waiter => exact h.look waiter

end Lobby.InOrder

theorem after_lobby_inOrder (chain : Chain σ) (probe : Probe σ) (surroundings : σ)
    (ts : List (Lobby.Turn σ)) : (Lobby.after chain probe surroundings ts).InOrder chain := by
  suffices h : ∀ l : Lobby σ, l.InOrder chain → (ts.foldl (Lobby.turn chain probe) l).InOrder chain
    from h _ ⟨inOrder_start chain surroundings, nofun⟩
  induction ts with
  | nil => exact fun l h => h
  | cons t ts ih => exact fun l h => ih _ (h.turn t)

/-- What callers who wait can rely on. -/
structure Lobby.Fair (l : Lobby σ) : Prop where
  /-- An answer is the final phase of the run that was joined, or of a later one. -/
  answered : ∀ w ∈ l.waiters, ∀ phase, w.answer = some phase →
    ∃ run r, w.run ≤ run ∧ l.scene.runs[run]? = some (.settled r) ∧ r.phase = phase
  /-- Whoever is resumed when the run joined is over, and before another one is claimed, is answered
  with the final phase of that run. -/
  prompt : ∀ waiter run, l.waiters[waiter]? = some ⟨run, none⟩ →
    l.scene.board.phase.isTerminal = true → l.scene.runs.length = run + 1 →
      ∃ r, l.scene.runs[run]? = some (.settled r) ∧
        (l.look waiter).waiters[waiter]? = some ⟨run, some r.phase⟩

/-- **Callers who wait are served** with the final phase of the run that they have joined or of a
later one, whatever the order of turns. -/
theorem waiters_served (chain : Chain σ) (probe : Probe σ) (surroundings : σ)
    (ts : List (Lobby.Turn σ)) : (Lobby.after chain probe surroundings ts).Fair := by
  have h := after_lobby_inOrder chain probe surroundings ts
  refine ⟨fun w hw => (h.served w hw).answered, fun waiter run found hterminal hlast => ?_⟩
  obtain ⟨last, r, hlength, -, hsettled, -, hphase, -⟩ := h.scene.settledRun hterminal
  obtain rfl : last = run := Nat.succ.inj (hlength.symm.trans hlast)
  refine ⟨r, hsettled, ?_⟩
  rw [Lobby.look, found]
  dsimp only
  rw [if_pos hterminal, ← hphase]
  exact List.getElem?_set_self (List.getElem?_eq_some_iff.1 found).1

/-- One technique that is always refused. -/
def refusedChain : Chain Bool where
  entries :=
    [⟨{ technique := .selfElevation, priority := 0, timeout := 10 },
      .always (fun _ => .done (.denied "d")) fun _ => trivial⟩]
  host := none

/-- The surroundings tell whether the permission is there. -/
def plainProbe : Probe Bool :=
  fun _ s => (s, s)

/-- A run goes on to its end and is settled. -/
def wholeRun (run : Nat) : List (Lobby.Turn Bool) :=
  List.replicate 9 (.move (.work run)) ++ [.move (.settle run), .move (.settle run)]

/-- A caller starts a run, which fails.  Before the caller is resumed somebody retries, the
permission is given, and the other run succeeds. -/
def lateResumption : List (Lobby.Turn Bool) :=
  [.move (.call .acquire)] ++ wholeRun 0 ++
    [.move (.call .retry), .move (.disturb fun _ _ => true)] ++ wholeRun 1 ++ [.resume 0]

/-- Whoever is resumed late is answered with the phase of a run that it has not joined. -/
theorem latecomer_answered_with_later_run :
    ∃ r r', (Lobby.after refusedChain plainProbe false lateResumption).scene.runs =
        [.settled r, .settled r'] ∧
      r.phase = .failed (.denied .selfElevation "d") true ∧ r'.phase = .succeeded .preGranted ∧
      (Lobby.after refusedChain plainProbe false lateResumption).waiters =
        [⟨0, some (.succeeded .preGranted)⟩, ⟨1, none⟩] :=
  ⟨_, _, rfl, rfl, rfl, rfl⟩

end CodePermit
