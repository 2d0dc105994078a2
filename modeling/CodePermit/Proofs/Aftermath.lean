import CodePermit.Proofs.Breakdown
import CodePermit.Proofs.Undisturbed
import CodePermit.Proofs.Waiting
/-!
# After a breakdown

When a run breaks down, whoever settles it finds out at the same moment and puts the report of a run
that broke off in the place of everything the run has announced.  Callers may come, wait, and be
resumed in between, in any number and any order: nobody who waits is lost, and until another run is
claimed nobody is answered with anything else.

* `Lobby.turns`, `Lobby.Prompt` — any turns, and turns by which nobody who has something to do is
  kept waiting;
* `Scene.Breaks`, `breaks_move` — how far a run has come that breaks down at a time;
* `Scene.InOrder.shows` — what the board shows when the run claimed last is settled;
* `turns_breaks`, `turns_answered` — what is observed of the run, and what callers are answered;
* `breaks_settles` — it can be settled at once;
* `Lobby.Contained`, `after_contained` — the aftermath of a breakdown.
-/

namespace CodePermit

variable {σ : Type} {chain : Chain σ} {probe : Probe σ} {n time : Nat} {message : String}

/-! ### Turns -/

/-- The lobby after turns. -/
def Lobby.turns (chain : Chain σ) (probe : Probe σ) (l : Lobby σ) (ts : List (Lobby.Turn σ)) :
    Lobby σ :=
  ts.foldl (Lobby.turn chain probe) l

/-- For so long no run has anything to do: each of them is settled, or asleep until later. -/
def Scene.Idle (s : Scene σ) (length : Nat) : Prop :=
  ∀ stage ∈ s.runs, stage.isSettled = true ∨
    ∃ wake rest, stage = .working wake rest ∧ s.clock + length ≤ wake

/-- Turns lead from one lobby to another, and time passes only while no run has anything to do. -/
inductive Lobby.Prompt (chain : Chain σ) (probe : Probe σ) (l : Lobby σ) : Lobby σ → Prop
  | here : Prompt chain probe l l
  | turn {l' : Lobby σ} (h : Prompt chain probe l l') (t : Lobby.Turn σ)
      (idle : ∀ length, t = .move (.wait length) → l'.scene.Idle length) :
      Prompt chain probe l (l'.turn chain probe t)

theorem Lobby.Prompt.trans {l l' l'' : Lobby σ} (h : l.Prompt chain probe l')
    (h' : l'.Prompt chain probe l'') : l.Prompt chain probe l'' := by
  induction h' with
  | here => exact h
  | turn _ t idle ih => exact .turn ih t idle

theorem Lobby.Prompt.inOrder {l l' : Lobby σ} (h : l.Prompt chain probe l')
    (hl : l.InOrder chain) : l'.InOrder chain := by
  induction h with
  | here => exact hl
  | turn _ t _ ih => exact ih.turn t

theorem turns_inOrder (probe : Probe σ) {l : Lobby σ} (hl : l.InOrder chain)
    (ts : List (Lobby.Turn σ)) : (l.turns chain probe ts).InOrder chain := by
  induction ts generalizing l with
  | nil => exact hl
  | cons t ts ih => exact ih (hl.turn t)

/-- What a turn does to the scene. -/
def Lobby.Turn.onScene (chain : Chain σ) (probe : Probe σ) (s : Scene σ) : Lobby.Turn σ → Scene σ
  | move m => s.move chain probe m
  | resume _ => s

theorem turn_scene (l : Lobby σ) (t : Lobby.Turn σ) :
    (l.turn chain probe t).scene = t.onScene chain probe l.scene := by
  cases t with
  | move m =>
    cases m with
    | call caller =>
      show (l.call chain caller).scene = l.scene.call chain caller
      unfold Lobby.call
      dsimp only
      split <;> rfl
    | _ => rfl
  | resume waiter =>
    show (l.look waiter).scene = l.scene
    unfold Lobby.look
    split
    · split <;> rfl
    · rfl

/-! ### Runs that break down -/

/-- The report of a run that breaks down. -/
def brokenReport (n : Nat) (message : String) : Report :=
  .aborted (breakdownMessage (n + 1) message)

/-- How far a run has come that breaks down at a time: it will, it has, its report is filed, or it
is settled. -/
inductive Scene.Breaks (n time : Nat) (message : String) (s : Scene σ) : Prop
  | ahead {wake : Nat} (found : s.runs[n]? = some (.working wake (.breakdown message)))
      (due : max wake s.clock = time)
  | ended (found : s.runs[n]? = some (.ended (brokenReport n message))) (clock : s.clock = time)
  | filed (found : s.runs[n]? = some (.filed (brokenReport n message))) (clock : s.clock = time)
  | settled (found : s.runs[n]? = some (.settled (brokenReport n message)))

section Steps

variable {s s' : Scene σ}

theorem Scene.Breaks.congr (h : s.Breaks n time message) (hr : s'.runs[n]? = s.runs[n]?)
    (hc : s'.clock = s.clock) : s'.Breaks n time message := by
  cases h with
  | ahead found due => exact .ahead (hr.trans found) (hc ▸ due)
  | ended found clock => exact .ended (hr.trans found) (hc.trans clock)
  | filed found clock => exact .filed (hr.trans found) (hc.trans clock)
  | settled found => exact .settled (hr.trans found)

theorem Scene.Breaks.lt (h : s.Breaks n time message) : n < s.runs.length := by
  cases h with
  | ahead found => exact (List.getElem?_eq_some_iff.1 found).1
  | ended found => exact (List.getElem?_eq_some_iff.1 found).1
  | filed found => exact (List.getElem?_eq_some_iff.1 found).1
  | settled found => exact (List.getElem?_eq_some_iff.1 found).1

theorem not_inFlight_of_settled {r : Report} (found : s.runs[n]? = some (.settled r)) :
    ¬s.inFlight n := by
  rintro ⟨stage, found', hstage⟩
  cases found.symm.trans found'
  cases hstage

theorem Scene.Breaks.clock_le (h : s.Breaks n time message) (hf : s.inFlight n) :
    s.clock ≤ time := by
  cases h with
  | ahead found due => exact due ▸ Nat.le_max_right _ _
  | ended found clock => exact Nat.le_of_eq clock
  | filed found clock => exact Nat.le_of_eq clock
  | settled found => exact absurd hf (not_inFlight_of_settled found)

theorem Scene.Breaks.settled_of_not_inFlight (h : s.Breaks n time message)
    (hf : ¬s.inFlight n) : s.runs[n]? = some (.settled (brokenReport n message)) := by
  cases h with
  | ahead found => exact absurd ⟨_, found, rfl⟩ hf
  | ended found => exact absurd ⟨_, found, rfl⟩ hf
  | filed found => exact absurd ⟨_, found, rfl⟩ hf
  | settled found => exact found

/-- While time passes a run stays where it is, if perhaps too late. -/
theorem Scene.Breaks.wait (h : s.Breaks n time message) (length : Nat) :
    ∃ time', ({ s with clock := s.clock + length } : Scene σ).Breaks n time' message := by
  cases h with
  | ahead found => exact ⟨_, .ahead found rfl⟩
  | ended found => exact ⟨_, .ended found rfl⟩
  | filed found => exact ⟨_, .filed found rfl⟩
  | settled found => exact ⟨time, .settled found⟩

/-- A step of a run leaves the other runs alone. -/
theorem work_frame (probe : Probe σ) {run : Nat} (hne : run ≠ n) (rest : Routine σ Report) :
    (s.work probe run rest).runs[n]? = s.runs[n]? := by
  cases rest with
  | hang => rfl
  | _ => exact List.getElem?_set_ne hne

theorem move_clock (m : Move σ) (hm : ∀ length, m ≠ .wait length) :
    (s.move chain probe m).clock = s.clock := by
  cases m with
  | call caller =>
    show (s.call chain caller).clock = s.clock
    unfold Scene.call
    dsimp only
    split <;> rfl
  | work run =>
    unfold Scene.move
    dsimp only
    split
    · rename_i wake rest found
      split
      · cases rest <;> rfl
      · rfl
    · rfl
  | settle run =>
    unfold Scene.move
    dsimp only
    split <;> rfl
  | wait length => exact absurd rfl (hm length)
  | disturb f => rfl

/-- Only a run itself and whoever settles it bring it to another stage. -/
theorem move_frame (hlt : n < s.runs.length) (m : Move σ) (hw : m ≠ .work n) (hs : m ≠ .settle n) :
    (s.move chain probe m).runs[n]? = s.runs[n]? := by
  cases m with
  | call caller =>
    show (s.call chain caller).runs[n]? = s.runs[n]?
    unfold Scene.call
    dsimp only
    split
    · exact List.getElem?_append_left hlt
    · rfl
  | work run =>
    have hne : run ≠ n := by
      intro h
      exact hw (h ▸ rfl)
    unfold Scene.move
    dsimp only
    split
    · split
      · exact work_frame probe hne _
      · rfl
    · rfl
  | settle run =>
    have hne : run ≠ n := by
      intro h
      exact hs (h ▸ rfl)
    unfold Scene.move
    dsimp only
    split
    · exact List.getElem?_set_ne hne
    · exact List.getElem?_set_ne hne
    · rfl
  | wait length => rfl
  | disturb f => rfl

/-- From one scene to another a run that breaks down has stayed on its way, and if it was settled
that was at the time at which it has broken down. -/
structure Scene.BreaksOn (n time : Nat) (message : String) (s s' : Scene σ) : Prop where
  breaks : s'.Breaks n time message
  onTime : s.inFlight n → ¬s'.inFlight n → s'.clock = time

theorem Scene.Breaks.unmoved (h : s.Breaks n time message) (hr : s'.runs[n]? = s.runs[n]?)
    (hc : s'.clock = s.clock) : s.BreaksOn n time message s' := by
  refine ⟨h.congr hr hc, ?_⟩
  rintro ⟨stage, found, hstage⟩ hf
  exact absurd ⟨stage, hr.trans found, hstage⟩ hf

theorem Scene.Breaks.goingOn {stage : Stage σ} (h : s'.Breaks n time message)
    (found : s'.runs[n]? = some stage) (hstage : stage.isSettled = false) :
    s.BreaksOn n time message s' :=
  ⟨h, fun _ hf => absurd ⟨stage, found, hstage⟩ hf⟩

theorem breaks_work (h : s.Breaks n time message) :
    s.BreaksOn n time message (s.move chain probe (.work n)) := by
  cases h with
  | @ahead wake found due =>
    by_cases awake : wake ≤ s.clock
    · rw [move_work chain probe found awake]
      have hended : (s.work probe n (.breakdown message)).runs[n]? =
          some (.ended (brokenReport n message)) := getElem?_set_found found
      have hclock : s.clock = time := by omega
      exact Scene.Breaks.goingOn (.ended hended hclock) hended rfl
    · have hidle : s.move chain probe (.work n) = s := by
        refine move_work_idle found fun wake' rest heq => ?_
        cases heq
        exact awake
      rw [hidle]
      exact Scene.Breaks.unmoved (.ahead found due) rfl rfl
  | ended found clock =>
    rw [move_work_idle found nofun]
    exact Scene.Breaks.unmoved (.ended found clock) rfl rfl
  | filed found clock =>
    rw [move_work_idle found nofun]
    exact Scene.Breaks.unmoved (.filed found clock) rfl rfl
  | settled found =>
    rw [move_work_idle found nofun]
    exact Scene.Breaks.unmoved (.settled found) rfl rfl

theorem breaks_settle (h : s.Breaks n time message) :
    s.BreaksOn n time message (s.move chain probe (.settle n)) := by
  cases h with
  | ahead found due =>
    rw [move_settle_idle found fun _ => ⟨nofun, nofun⟩]
    exact Scene.Breaks.unmoved (.ahead found due) rfl rfl
  | ended found clock =>
    rw [move_settle_ended found]
    have hfiled : (s.file n (brokenReport n message)).runs[n]? =
        some (.filed (brokenReport n message)) := getElem?_set_found found
    exact Scene.Breaks.goingOn (.filed hfiled clock) hfiled rfl
  | filed found clock =>
    rw [move_settle_filed found]
    exact ⟨.settled (getElem?_set_found found), fun _ _ => clock⟩
  | settled found =>
    rw [move_settle_idle found fun _ => ⟨nofun, nofun⟩]
    exact Scene.Breaks.unmoved (.settled found) rfl rfl

/-- While time passes a run that is about to break down sleeps, and one that has is settled. -/
theorem breaks_wait (h : s.Breaks n time message) {length : Nat} (idle : s.Idle length) :
    s.BreaksOn n time message (s.move chain probe (.wait length)) := by
  have asleep : ∀ stage, s.runs[n]? = some stage → stage.isSettled = false →
      ∃ wake rest, stage = .working wake rest ∧ s.clock + length ≤ wake := by
    intro stage found hstage
    rcases idle stage (List.mem_of_getElem? found) with hsettled | hasleep
    · cases hstage.symm.trans hsettled
    · exact hasleep
  cases h with
  | @ahead wake found due =>
    obtain ⟨_, _, heq, hlater⟩ := asleep _ found rfl
    cases heq
    have hdue : max wake (s.clock + length) = time := by omega
    exact Scene.Breaks.goingOn (.ahead found hdue) found rfl
  | ended found | filed found =>
    obtain ⟨wake, rest, heq, -⟩ := asleep _ found rfl
    cases heq
  | settled found =>
    exact ⟨.settled found, fun hf => absurd hf (not_inFlight_of_settled found)⟩

/-- **A prompt move keeps a run that breaks down on its way**, and it is settled at the time at
which it has broken down. -/
theorem breaks_move (h : s.Breaks n time message) (m : Move σ)
    (idle : ∀ length, m = .wait length → s.Idle length) :
    s.BreaksOn n time message (s.move chain probe m) := by
  by_cases hwork : m = .work n
  · subst hwork
    exact breaks_work h
  by_cases hsettle : m = .settle n
  · subst hsettle
    exact breaks_settle h
  by_cases hwait : ∃ length, m = .wait length
  · obtain ⟨length, rfl⟩ := hwait
    exact breaks_wait h (idle length rfl)
  · exact h.unmoved (move_frame h.lt m hwork hsettle)
      (move_clock m fun length heq => hwait ⟨length, heq⟩)

/-- Once a run is about to break down nothing more is observed of it. -/
theorem changes_eventsOf {board : Board} {runs : List (Stage σ)} {history : List Occurrence}
    (hc : Changes chain s board runs history) (h : s.Breaks n time message) :
    (storyOf history n).filterMap (fun o => o.event?.map Prod.snd) = s.eventsOf n := by
  have quiet : ∀ o : Occurrence, o.event? = none →
      (storyOf (s.history ++ [o]) n).filterMap (fun o => o.event?.map Prod.snd) =
        s.eventsOf n := by
    intro o ho
    by_cases hrun : o.run? = some n
    · rw [storyOf_append_self hrun, List.filterMap_append]
      simp [ho, Scene.eventsOf]
    · rw [storyOf_append_other hrun]
      rfl
  cases hc with
  | nothing => rfl
  | claimed caller admitted => exact quiet _ rfl
  | refused caller refused => exact quiet _ rfl
  | @observed run wake wake' rest next event found leads =>
    by_cases hrun : run = n
    · subst hrun
      cases h with
      | ahead found' =>
        cases found.symm.trans found'
        cases leads
      | ended found' | filed found' | settled found' => cases found.symm.trans found'
    · have hother : (Occurrence.observed run s.clock event).run? ≠ some n :=
        fun heq => hrun (Option.some.inj heq)
      rw [storyOf_append_other hother]
      rfl
  | unobserved found leads => rfl
  | completed found => exact quiet _ rfl
  | brokenDown found => exact quiet _ rfl
  | filed found => exact quiet _ rfl
  | concluded found => exact quiet _ rfl

/-- If the run claimed last is settled the board shows how it has ended, and keeps its report. -/
theorem Scene.InOrder.shows (h : s.InOrder chain) {r : Report}
    (found : s.runs[n]? = some (.settled r)) (last : s.runs.length = n + 1) :
    s.board.phase = r.phase ∧ s.board.report = some r := by
  obtain ⟨told, ⟨past, current, ho⟩, -⟩ := h
  have hlength : s.runs.length = past.length + current.toList.length := by
    rw [ho.runs_eq, List.length_append, List.length_map]
  cases current with
  | some stage =>
    -- the run under way is the last one, and it is not settled
    have hn : n = past.length := by
      rw [last] at hlength
      exact Nat.succ.inj hlength
    exact absurd ((inFlight_iff ho n).2 ⟨hn, nofun⟩) (not_inFlight_of_settled found)
  | none =>
    rcases ho.phase_of_none with ⟨rfl, -⟩ | ⟨past', r', rfl, -, hphase⟩
    · rw [last] at hlength
      cases hlength
    · have hn : n = past'.length := by
        rw [last, List.length_append] at hlength
        exact Nat.succ.inj hlength
      subst hn
      cases found.symm.trans ho.found_last
      exact ⟨hphase, ho.filed.trans List.getLast?_concat⟩

end Steps

/-! ### Callers who wait meanwhile -/

theorem turns_length_le (chain : Chain σ) (probe : Probe σ) (l : Lobby σ)
    (ts : List (Lobby.Turn σ)) :
    l.scene.runs.length ≤ (l.turns chain probe ts).scene.runs.length := by
  induction ts generalizing l with
  | nil => exact Nat.le_refl _
  | cons t ts ih =>
    refine Nat.le_trans ?_ (ih (l.turn chain probe t))
    rw [turn_scene]
    cases t with
    | move m => exact changes_length_le (move_changes chain probe l.scene m)
    | resume waiter => exact Nat.le_refl _

/-- **Whatever turns are made**, a run that breaks down comes no further than to its end, and
nothing more is observed of it. -/
theorem turns_breaks (chain : Chain σ) (probe : Probe σ) {l : Lobby σ}
    (hb : l.scene.Breaks n time message) (ts : List (Lobby.Turn σ)) :
    (∃ time', (l.turns chain probe ts).scene.Breaks n time' message) ∧
      (l.turns chain probe ts).scene.eventsOf n = l.scene.eventsOf n := by
  induction ts generalizing l time with
  | nil => exact ⟨⟨time, hb⟩, rfl⟩
  | cons t ts ih =>
    have hturn : (∃ time', (l.turn chain probe t).scene.Breaks n time' message) ∧
        (l.turn chain probe t).scene.eventsOf n = l.scene.eventsOf n := by
      rw [turn_scene]
      cases t with
      | move m =>
        refine ⟨?_, changes_eventsOf (move_changes chain probe l.scene m) hb⟩
        by_cases hwait : ∃ length, m = .wait length
        · obtain ⟨length, rfl⟩ := hwait
          exact hb.wait length
        · exact ⟨time, (breaks_move hb m fun length heq => absurd ⟨length, heq⟩ hwait).breaks⟩
      | resume waiter => exact ⟨⟨time, hb⟩, rfl⟩
    obtain ⟨⟨time', hb'⟩, hevents⟩ := hturn
    obtain ⟨hbreaks, hevents'⟩ := ih hb'
    exact ⟨hbreaks, hevents'.trans hevents⟩

/-- What a turn does to callers who wait: it answers one with the phase on the board, which is
terminal, or another one begins to wait. -/
theorem turn_waiters (l : Lobby σ) (t : Lobby.Turn σ) {k : Nat} {w : Waiter} {phase : Phase}
    (hk : (l.turn chain probe t).waiters[k]? = some w) (hw : w.answer = some phase) :
    l.waiters[k]? = some w ∨
      l.scene.board.phase.isTerminal = true ∧ phase = l.scene.board.phase := by
  cases t with
  | move m =>
    cases m with
    | call caller =>
      have hcall : (l.call chain caller).waiters[k]? = some w := hk
      unfold Lobby.call at hcall
      dsimp only at hcall
      split at hcall
      · rcases Nat.lt_or_ge k l.waiters.length with hlt | hge
        · rw [List.getElem?_append_left hlt] at hcall
          exact Or.inl hcall
        · rw [List.getElem?_append_right hge, List.getElem?_singleton] at hcall
          split at hcall
          · cases hcall
            cases hw
          · cases hcall
      · exact Or.inl hcall
    | _ => exact Or.inl hk
  | resume waiter =>
    have hlook : (l.look waiter).waiters[k]? = some w := hk
    unfold Lobby.look at hlook
    split at hlook
    · rename_i run found
      split at hlook
      · rename_i hterminal
        by_cases heq : waiter = k
        · subst heq
          rw [List.getElem?_set_self (List.getElem?_eq_some_iff.1 found).1] at hlook
          cases hlook
          exact Or.inr ⟨hterminal, (Option.some.inj hw).symm⟩
        · rw [List.getElem?_set_ne heq] at hlook
          exact Or.inl hlook
      · exact Or.inl hlook
    · exact Or.inl hlook

/-- If the run claimed last breaks down, the only terminal phase is that of its report. -/
theorem Scene.Breaks.shown {s : Scene σ} (hb : s.Breaks n time message) (h : s.InOrder chain)
    (last : s.runs.length = n + 1) (hterminal : s.board.phase.isTerminal = true) :
    s.board.phase = (brokenReport n message).phase := by
  obtain ⟨run, r, hlength, -, found, -, hphase, -⟩ := h.settledRun hterminal
  obtain rfl : run = n := Nat.succ.inj (hlength.symm.trans last)
  have hsettled : s.runs[run]? = some (.settled (brokenReport run message)) :=
    hb.settled_of_not_inFlight (not_inFlight_of_settled found)
  cases found.symm.trans hsettled
  exact hphase

/-- **Until another run is claimed** nobody is answered otherwise than with the phase of the run
that has broken down. -/
theorem turns_answered {l : Lobby σ} (hl : l.InOrder chain) (hb : l.scene.Breaks n time message)
    (ts : List (Lobby.Turn σ)) (last : (l.turns chain probe ts).scene.runs.length = n + 1) {k : Nat}
    {w : Waiter} {phase : Phase} (hk : (l.turns chain probe ts).waiters[k]? = some w)
    (hw : w.answer = some phase) :
    l.waiters[k]? = some w ∨ phase = (brokenReport n message).phase := by
  induction ts generalizing l time with
  | nil => exact Or.inl hk
  | cons t ts ih =>
    obtain ⟨⟨time', hb'⟩, -⟩ := turns_breaks chain probe hb [t]
    rcases ih (hl.turn t) hb' last hk with hold | hphase
    · rcases turn_waiters l t hold hw with hold | ⟨hterminal, rfl⟩
      · exact Or.inl hold
      · have hlast : l.scene.runs.length = n + 1 := by
          have hle := turns_length_le chain probe l (t :: ts)
          have hlt := hb.lt
          omega
        exact Or.inr (hb.shown hl.scene hlast hterminal)
    · exact Or.inr hphase

/-! ### Settling at once -/

theorem Lobby.Prompt.breaks {l l' : Lobby σ} (h : l.Prompt chain probe l')
    (hb : l.scene.Breaks n time message) : l'.scene.Breaks n time message := by
  induction h with
  | here => exact hb
  | @turn l' h t idle ih =>
    rw [turn_scene]
    cases t with
    | move m => exact (breaks_move ih m fun length heq => idle length (heq ▸ rfl)).breaks
    | resume waiter => exact ih

/-- While a run is under way all others are settled. -/
theorem Scene.InOrder.others {s : Scene σ} (h : s.InOrder chain) (hf : s.inFlight n) {i : Nat}
    {stage : Stage σ} (found : s.runs[i]? = some stage) (hne : i ≠ n) : stage.isSettled = true := by
  obtain ⟨-, ⟨past, current, ho⟩, -⟩ := h
  cases hs : stage.isSettled with
  | true => rfl
  | false =>
    have hi := (ho.current_of_found found hs).1
    have hn := ((inFlight_iff ho n).1 hf).1
    exact absurd (hi.trans hn.symm) hne

/-- Somebody makes a move that lets no time pass. -/
theorem prompt_move (chain : Chain σ) (probe : Probe σ) (l : Lobby σ) (m : Move σ)
    (hm : ∀ length, m ≠ .wait length) :
    ∃ l', l.Prompt chain probe l' ∧ l'.scene = l.scene.move chain probe m :=
  ⟨_, .turn .here (.move m) fun length heq => absurd (Lobby.Turn.move.inj heq) (hm length),
    turn_scene l _⟩

/-- A run that is over is settled by two moves. -/
theorem prompt_settled (chain : Chain σ) (probe : Probe σ) {l : Lobby σ} {r : Report}
    (found : l.scene.runs[n]? = some (.ended r)) :
    ∃ l', l.Prompt chain probe l' ∧ l'.scene.runs[n]? = some (.settled r) := by
  obtain ⟨l', h, hscene⟩ := prompt_move chain probe l (.settle n) nofun
  rw [move_settle_ended found] at hscene
  have hfiled : l'.scene.runs[n]? = some (.filed r) := by
    rw [hscene]
    exact getElem?_set_found found
  obtain ⟨l'', h', hscene'⟩ := prompt_move chain probe l' (.settle n) nofun
  rw [move_settle_filed hfiled] at hscene'
  refine ⟨l'', h.trans h', ?_⟩
  rw [hscene']
  exact getElem?_set_found hfiled

/-- **A run that breaks down can be settled at once.** -/
theorem breaks_settles {l : Lobby σ} (hl : l.InOrder chain) (hb : l.scene.Breaks n time message)
    (hf : l.scene.inFlight n) :
    ∃ l', l.Prompt chain probe l' ∧ ∃ r, l'.scene.runs[n]? = some (.settled r) := by
  have awake : ∀ (l : Lobby σ) (wake : Nat),
      l.scene.runs[n]? = some (.working wake (.breakdown message)) → wake ≤ l.scene.clock →
      ∃ l', l.Prompt chain probe l' ∧ ∃ r, l'.scene.runs[n]? = some (.settled r) := by
    intro l wake found hwake
    obtain ⟨l', h, hscene⟩ := prompt_move chain probe l (.work n) nofun
    rw [move_work chain probe found hwake] at hscene
    have hended : l'.scene.runs[n]? = some (.ended (brokenReport n message)) := by
      rw [hscene]
      exact getElem?_set_found found
    obtain ⟨l'', h', hsettled⟩ := prompt_settled chain probe hended
    exact ⟨l'', h.trans h', _, hsettled⟩
  cases hb with
  | @ahead wake found due =>
    by_cases hwake : wake ≤ l.scene.clock
    · exact awake l wake found hwake
    · -- nothing else is to be done, so time passes until the run wakes up
      have hidle : l.scene.Idle (wake - l.scene.clock) := by
        intro stage hmem
        obtain ⟨i, hi⟩ := List.getElem?_of_mem hmem
        by_cases hne : i = n
        · subst hne
          cases found.symm.trans hi
          refine Or.inr ⟨wake, _, rfl, ?_⟩
          omega
        · exact Or.inl (hl.scene.others hf hi hne)
      have hwaits : l.Prompt chain probe
          (l.turn chain probe (.move (.wait (wake - l.scene.clock)))) := by
        refine .turn .here _ fun length heq => ?_
        cases heq
        exact hidle
      have hwake' : wake ≤ l.scene.clock + (wake - l.scene.clock) := by omega
      obtain ⟨l', h, hsettled⟩ := awake (l.turn chain probe (.move (.wait (wake - l.scene.clock))))
        wake found hwake'
      exact ⟨l', hwaits.trans h, hsettled⟩
  | ended found =>
    obtain ⟨l', h, hsettled⟩ := prompt_settled chain probe found
    exact ⟨l', h, _, hsettled⟩
  | filed found =>
    obtain ⟨l', h, hscene⟩ := prompt_move chain probe l (.settle n) nofun
    rw [move_settle_filed found] at hscene
    refine ⟨l', h, brokenReport n message, ?_⟩
    rw [hscene]
    exact getElem?_set_found found
  | settled found => exact ⟨l, .here, _, found⟩

/-! ### The aftermath -/

/-- The aftermath of a run that breaks down at a time. -/
structure Lobby.Contained (chain : Chain σ) (probe : Probe σ) (n time : Nat) (message : String)
    (l : Lobby σ) : Prop where
  /-- One of the techniques has broken down, and no later one was called. -/
  caused : BreaksOff chain.entries 0 message (l.scene.eventsOf n)
  /-- Nothing more is observed of the run. -/
  quiet : ∀ ts, (l.turns chain probe ts).scene.eventsOf n = l.scene.eventsOf n
  /-- As long as turns are prompt the run can be settled, and time does not pass before it is. -/
  inTime : ∀ l', l.Prompt chain probe l' → l'.scene.inFlight n → l'.scene.clock ≤ time ∧
    ∃ l'', l'.Prompt chain probe l'' ∧ ¬l''.scene.inFlight n
  /-- The turn that settles it is made at the time at which it has broken down. -/
  atOnce : ∀ l' t, l.Prompt chain probe l' →
    (∀ length, t = .move (.wait length) → l'.scene.Idle length) → l'.scene.inFlight n →
      ¬(l'.turn chain probe t).scene.inFlight n → (l'.turn chain probe t).scene.clock = time
  /-- Then the board shows a failure that is not one of all entries, with a report that keeps
  nothing of what the run has announced, until another run is claimed. -/
  shown : ∀ ts, ¬(l.turns chain probe ts).scene.inFlight n →
    (l.turns chain probe ts).scene.runs.length = n + 1 →
      (l.turns chain probe ts).scene.board.phase =
          .failed (.aborted (breakdownMessage (n + 1) message)) false ∧
        (l.turns chain probe ts).scene.board.report =
          some ⟨[], .failed (.aborted (breakdownMessage (n + 1) message)) false, 0⟩
  /-- Whoever waits and is resumed then is answered with that phase. -/
  resumed : ∀ ts, ¬(l.turns chain probe ts).scene.inFlight n →
    (l.turns chain probe ts).scene.runs.length = n + 1 → ∀ (k run : Nat),
      (l.turns chain probe ts).waiters[k]? = some ⟨run, none⟩ →
        ((l.turns chain probe ts).look k).waiters[k]? =
          some ⟨run, some (.failed (.aborted (breakdownMessage (n + 1) message)) false)⟩
  /-- Nobody who has waited is answered with anything else. -/
  answered : ∀ ts, (l.turns chain probe ts).scene.runs.length = n + 1 →
    ∀ (k : Nat) (w : Waiter) (phase : Phase), (l.turns chain probe ts).waiters[k]? = some w →
      w.answer = some phase → l.waiters[k]? = some w ∨
        phase = .failed (.aborted (breakdownMessage (n + 1) message)) false

/-- **After a breakdown** all is as it should be, whenever a run comes to one and whatever turns
were made before. -/
theorem after_contained (chain : Chain σ) (probe : Probe σ) (surroundings : σ)
    (ts : List (Lobby.Turn σ)) {n wake : Nat} {message : String}
    (found : (Lobby.after chain probe surroundings ts).scene.runs[n]? =
      some (.working wake (.breakdown message))) :
    (Lobby.after chain probe surroundings ts).Contained chain probe n
      (max wake (Lobby.after chain probe surroundings ts).scene.clock) message := by
  have hl := after_lobby_inOrder chain probe surroundings ts
  generalize Lobby.after chain probe surroundings ts = l at found hl ⊢
  have hb : l.scene.Breaks n (max wake l.scene.clock) message := .ahead found rfl
  have hshown : ∀ ts, ¬(l.turns chain probe ts).scene.inFlight n →
      (l.turns chain probe ts).scene.runs.length = n + 1 →
        (l.turns chain probe ts).scene.board.phase = (brokenReport n message).phase ∧
          (l.turns chain probe ts).scene.board.report = some (brokenReport n message) := by
    intro ts hf last
    obtain ⟨⟨time', hb'⟩, -⟩ := turns_breaks chain probe hb ts
    exact (turns_inOrder probe hl ts).scene.shows (hb'.settled_of_not_inFlight hf) last
  refine ⟨?_, fun ts => (turns_breaks chain probe hb ts).2, ?_, ?_, hshown, ?_, ?_⟩
  · obtain ⟨es, hes, hr⟩ := hl.scene.told.story n _ found
    rw [eventsOf_eq hes]
    exact run_breaksOff hr
  · intro l' h hf
    have hb' := h.breaks hb
    refine ⟨hb'.clock_le hf, ?_⟩
    obtain ⟨l'', h', r, hr⟩ := breaks_settles (h.inOrder hl) hb' hf
    exact ⟨l'', h', not_inFlight_of_settled hr⟩
  · intro l' t h idle hf hf'
    rw [turn_scene] at hf' ⊢
    cases t with
    | move m =>
      exact (breaks_move (h.breaks hb) m fun length heq => idle length (heq ▸ rfl)).onTime hf hf'
    | resume waiter => exact absurd hf hf'
  · intro ts hf last k run hk
    have hphase := (hshown ts hf last).1
    have hterminal : (l.turns chain probe ts).scene.board.phase.isTerminal = true := by
      rw [hphase]
      rfl
    rw [Lobby.look, hk]
    dsimp only
    rw [if_pos hterminal, hphase]
    exact List.getElem?_set_self (List.getElem?_eq_some_iff.1 hk).1
  · intro ts last k w phase hk hw
    exact turns_answered hl hb ts last hk hw

end CodePermit
