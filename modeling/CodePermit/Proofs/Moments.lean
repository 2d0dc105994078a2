import CodePermit.Manners
import CodePermit.Playback
/-!
# Moments of a play

The permission may come and go at any time, and what matters is what the probe would say at a
moment, whether it is asked then or not.  A play goes through moments: one for each step, and one
for each millisecond that passes while it sleeps.

* `Moment`, `moments` — the moments through which a play goes;
* `moments_bind`, `events_run` — the moments of composed routines, and what is observed in them;
* `Permitted` — what the probe would say;
* `Vigilant` — no attempt begins where the probe would say yes, and the play ends in good order;
* `vigilant_bind` and others — the rules by which routines are vigilant.
-/

namespace CodePermit

variable {σ α β : Type}

/-! ### Moments -/

/-- A moment of a play, with what is observed at it. -/
structure Moment (σ : Type) where
  /-- The time in milliseconds. -/
  time : Nat
  /-- The surroundings. -/
  surroundings : σ
  /-- What is observed. -/
  event : Option Event := none

/-- The moment at which a play stands. -/
def Playback.moment (p : Playback σ) (event : Option Event) : Moment σ :=
  ⟨p.clock, p.surroundings, event⟩

/-- What is observed at a moment, with its time. -/
def Moment.observation (m : Moment σ) : Option (Nat × Event) :=
  m.event.map fun e => (m.time, e)

/-- The moments at which time passes, one for each millisecond. -/
def Playback.passing (p : Playback σ) (length : Nat) : List (Moment σ) :=
  (List.range' (p.clock + 1) length).map fun time => ⟨time, p.surroundings, none⟩

/-- The moments through which a routine goes until it is over. -/
def moments (probe : Probe σ) : Routine σ α → Playback σ → List (Moment σ)
  | .done _, _ => []
  | .breakdown _, _ => []
  | .hang, _ => []
  | .sleep length next, p =>
    p.moment (some (.slept length)) :: (p.passing length ++ moments probe next (p.pass length))
  | .ask who next, p =>
    let asked := p.ask probe who
    p.moment (some (.asked who asked.1)) :: moments probe (next asked.1) asked.2
  | .note event next, p => p.moment (some event) :: moments probe next (p.observe event)
  | .act change next, p =>
    p.moment none :: moments probe (next p.clock p.surroundings) (p.change change)

theorem moments_bind (probe : Probe σ) (r : Routine σ α) (f : α → Routine σ β) (p : Playback σ) :
    moments probe (r.bind f) p = moments probe r p ++
      match run probe r p with
      | (.finished a, p') => moments probe (f a) p'
      | _ => [] := by
  induction r generalizing p with
  | done a => rfl
  | breakdown message => rfl
  | hang => rfl
  | sleep length next ih =>
    simp only [Routine.bind, moments, run, ih, List.cons_append, List.append_assoc]
  | ask who next ih => simp only [Routine.bind, moments, run, ih, List.cons_append]
  | note event next ih => simp only [Routine.bind, moments, run, ih, List.cons_append]
  | act change next ih => simp only [Routine.bind, moments, run, ih, List.cons_append]

theorem moments_timedFrom (probe : Probe σ) (r : Routine σ α) (spent : Nat) (p : Playback σ) :
    moments probe (r.timedFrom spent) p = moments probe r p := by
  induction r generalizing p spent with
  | done a => rfl
  | breakdown message => rfl
  | hang => rfl
  | sleep length next ih => simp only [Routine.timedFrom, moments, ih]
  | ask who next ih => simp only [Routine.timedFrom, moments, ih]
  | note event next ih => simp only [Routine.timedFrom, moments, ih]
  | act change next ih => simp only [Routine.timedFrom, moments, ih]

theorem filterMap_passing (p : Playback σ) (length : Nat) :
    (p.passing length).filterMap Moment.observation = [] := by
  rw [Playback.passing, List.filterMap_map, List.filterMap_eq_nil_iff]
  exact fun _ _ => rfl

/-- What is observed of a play is what is observed at its moments. -/
theorem events_run (probe : Probe σ) (r : Routine σ α) (p : Playback σ) :
    (run probe r p).2.events = p.events ++ (moments probe r p).filterMap Moment.observation := by
  have step : ∀ (p : Playback σ) (e : Event), (p.observe e).events = p.events ++ [(p.clock, e)] :=
    fun p e => List.reverse_cons
  induction r generalizing p with
  | done a => exact (List.append_nil _).symm
  | breakdown message => exact (List.append_nil _).symm
  | hang => exact (List.append_nil _).symm
  | sleep length next ih =>
    have hstep := step p (.slept length)
    rw [moments, List.filterMap_cons, List.filterMap_append, filterMap_passing]
    refine (ih _).trans ?_
    exact (congrArg (· ++ _) hstep).trans (List.append_assoc _ _ _)
  | ask who next ih =>
    have hstep := step p (.asked who (p.ask probe who).1)
    refine (ih _ _).trans ?_
    exact (congrArg (· ++ _) hstep).trans (List.append_assoc _ _ _)
  | note event next ih =>
    have hstep := step p event
    refine (ih _).trans ?_
    exact (congrArg (· ++ _) hstep).trans (List.append_assoc _ _ _)
  | act change next ih => exact ih _ _ _

/-! ### Vigilance -/

/-- The probe would say yes. -/
def Permitted (probe : Probe σ) (m : Moment σ) : Prop :=
  (probe m.time m.surroundings).1 = true

/-- The probe would say no where a play stands. -/
def Denied (probe : Probe σ) (p : Playback σ) : Prop :=
  (probe p.clock p.surroundings).1 = false

/-- The event is the beginning of an attempt. -/
def Event.isAttempt : Event → Bool
  | attempted _ _ _ => true
  | _ => false

theorem isAttempt_of_isAside {e : Event} (h : e.isAside = true) : e.isAttempt = false := by
  cases e <;> first | rfl | cases h

/-- No attempt begins at a moment at which the probe would say yes. -/
def Needful (probe : Probe σ) (ms : List (Moment σ)) : Prop :=
  ∀ m ∈ ms, ∀ e, m.event = some e → e.isAttempt = true → ¬Permitted probe m

/-- Played from a moment on, the routine begins no attempt where the probe would say yes, and where
it is over its result suits the moment. -/
def Vigilant (probe : Probe σ) (r : Routine σ α) (p : Playback σ)
    (post : α → Playback σ → Prop) : Prop :=
  Needful probe (moments probe r p) ∧ ∀ a p', run probe r p = (.finished a, p') → post a p'

section Rules

variable {probe : Probe σ} {p : Playback σ} {post : α → Playback σ → Prop}

theorem not_permitted {m : Moment σ} (h : (probe m.time m.surroundings).1 = false) :
    ¬Permitted probe m := by
  unfold Permitted
  rw [h]
  exact Bool.false_ne_true

theorem needful_cons {m : Moment σ} {ms : List (Moment σ)}
    (hm : ∀ e, m.event = some e → e.isAttempt = true → ¬Permitted probe m)
    (h : Needful probe ms) : Needful probe (m :: ms) :=
  List.forall_mem_cons.2 ⟨hm, h⟩

theorem needful_append {ms ms' : List (Moment σ)} (h : Needful probe ms)
    (h' : Needful probe ms') : Needful probe (ms ++ ms') :=
  fun m hm => (List.mem_append.1 hm).elim (h m) (h' m)

theorem needful_passing (length : Nat) : Needful probe (p.passing length) := by
  intro m hm e he
  obtain ⟨time, -, rfl⟩ := List.mem_map.1 hm
  cases he

theorem vigilant_done {a : α} (h : post a p) : Vigilant probe (.done a) p post := by
  refine ⟨nofun, fun b p' hrun => ?_⟩
  cases hrun
  exact h

theorem vigilant_sleep {length : Nat} {next : Routine σ α}
    (h : Vigilant probe next (p.pass length) post) :
    Vigilant probe (.sleep length next) p post := by
  refine ⟨needful_cons ?_ (needful_append (needful_passing length) h.1), h.2⟩
  rintro e he hattempt
  cases he
  cases hattempt

theorem vigilant_ask {who : Asker} {next : Bool → Routine σ α}
    (h : Vigilant probe (next (p.ask probe who).1) (p.ask probe who).2 post) :
    Vigilant probe (.ask who next) p post := by
  refine ⟨needful_cons ?_ h.1, h.2⟩
  rintro e he hattempt
  cases he
  cases hattempt

theorem vigilant_note {e : Event} {next : Routine σ α} (he : e.isAttempt = true → Denied probe p)
    (h : Vigilant probe next (p.observe e) post) : Vigilant probe (.note e next) p post := by
  refine ⟨needful_cons ?_ h.1, h.2⟩
  rintro e' he' hattempt
  cases he'
  exact not_permitted (he hattempt)

theorem vigilant_act {change : Nat → σ → σ} {next : Nat → σ → Routine σ α}
    (h : Vigilant probe (next p.clock p.surroundings) (p.change change) post) :
    Vigilant probe (.act change next) p post := by
  refine ⟨needful_cons ?_ h.1, h.2⟩
  rintro e he
  cases he

theorem Vigilant.mono {r : Routine σ α} {post' : α → Playback σ → Prop}
    (h : Vigilant probe r p post) (hpost : ∀ a p', post a p' → post' a p') :
    Vigilant probe r p post' :=
  ⟨h.1, fun a p' hrun => hpost a p' (h.2 a p' hrun)⟩

/-- **One vigilant routine after another is vigilant.** -/
theorem vigilant_bind {r : Routine σ α} {f : α → Routine σ β} {post' : β → Playback σ → Prop}
    (hr : Vigilant probe r p post) (hf : ∀ a p', post a p' → Vigilant probe (f a) p' post') :
    Vigilant probe (r.bind f) p post' := by
  obtain ⟨ending, q, hrun⟩ : ∃ ending q, run probe r p = (ending, q) := ⟨_, _, rfl⟩
  have hmoments := moments_bind probe r f p
  have hends := run_bind probe r f p
  rw [hrun] at hmoments hends
  cases ending with
  | finished a =>
    have hnext := hf a q (hr.2 a q hrun)
    refine ⟨hmoments ▸ needful_append hr.1 hnext.1, fun b p' hb => ?_⟩
    exact hnext.2 b p' (hends.symm.trans hb)
  | brokenDown message =>
    refine ⟨hmoments ▸ needful_append hr.1 nofun, fun b p' hb => ?_⟩
    cases hends.symm.trans hb
  | hung =>
    refine ⟨hmoments ▸ needful_append hr.1 nofun, fun b p' hb => ?_⟩
    cases hends.symm.trans hb

/-- Techniques do not begin attempts. -/
theorem vigilant_of_aside {r : Routine σ α} (hr : r.Keeps .aside) :
    Vigilant probe r p fun _ _ => True := by
  induction r generalizing p with
  | done a => exact vigilant_done trivial
  | breakdown message => exact ⟨nofun, fun _ _ _ => trivial⟩
  | hang => exact ⟨nofun, fun _ _ _ => trivial⟩
  | sleep length next ih => exact vigilant_sleep (ih hr.2)
  | ask who next ih => exact vigilant_ask (ih _ (hr _).2)
  | note event next ih =>
    refine vigilant_note (fun hattempt => ?_) (ih hr.2)
    rw [isAttempt_of_isAside hr.1] at hattempt
    cases hattempt
  | act change next ih => exact vigilant_act (ih _ _ (hr _ _))

theorem run_timedFrom {r : Routine σ α} {spent d : Nat} {a : α} {p' : Playback σ}
    (h : run probe (r.timedFrom spent) p = (.finished (a, d), p')) :
    run probe r p = (.finished a, p') := by
  induction r generalizing p spent with
  | done b =>
    cases h
    rfl
  | breakdown message => cases h
  | hang => cases h
  | sleep length next ih => exact ih h
  | ask who next ih => exact ih _ h
  | note event next ih => exact ih h
  | act change next ih => exact ih _ _ h

/-- A stopwatch changes nothing. -/
theorem vigilant_timed {r : Routine σ α} (h : Vigilant probe r p post) :
    Vigilant probe r.timed p fun x p' => post x.1 p' := by
  refine ⟨?_, fun x p' hrun => h.2 x.1 p' (run_timedFrom hrun)⟩
  rw [Routine.timed, moments_timedFrom]
  exact h.1

end Rules

end CodePermit
