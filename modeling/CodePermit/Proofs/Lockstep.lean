import CodePermit.Manners
import CodePermit.Playback
/-!
# Routines in lockstep

Two routines that do the same step by step, told the same things, are played alike in surroundings
that are alike.  Surroundings are alike at a time if nobody will tell them apart from then on: the
probe gives the same answers in both, and asking it leaves no trace that anybody would find.

* `Likeness` — surroundings that nobody tells apart;
* `Tallies` — two routines that do the same step by step, up to how events are told and results are
  given;
* `tallies_bind`, `tallies_within`, `tallies_timed` and others — composed routines;
* `Event.renumber`, `Abreast` — two plays of which the same is heard, with entries numbered in
  different ways;
* `run_abreast` — two routines in lockstep are played alike.
-/

namespace CodePermit

open Routine

variable {σ α β γ δ : Type}

/-! ### Surroundings that are alike -/

/-- Surroundings that are alike at a time: the probe answers alike from then on, and it makes no
difference whether it was asked. -/
structure Likeness (probe : Probe σ) where
  /-- The surroundings are alike at a time. -/
  alike : Nat → σ → σ → Prop
  /-- Likeness sorts surroundings into kinds. -/
  equivalence : ∀ time, Equivalence (alike time)
  /-- Surroundings that are alike stay so while time passes. -/
  lasts : ∀ {time later s s'}, time ≤ later → alike time s s' → alike later s s'
  /-- The probe gives the same answer in both. -/
  answers : ∀ {time s s'}, alike time s s' → (probe time s).1 = (probe time s').1
  /-- Asking the probe leaves surroundings of the same kind. -/
  asked : ∀ time s, alike time s (probe time s).2

namespace Likeness

variable {probe : Probe σ} (L : Likeness probe)

theorem ask_left {time : Nat} {s s' : σ} (h : L.alike time s s') :
    L.alike time (probe time s).2 s' :=
  (L.equivalence time).trans ((L.equivalence time).symm (L.asked time s)) h

theorem ask_both {time : Nat} {s s' : σ} (h : L.alike time s s') :
    L.alike time (probe time s).2 (probe time s').2 :=
  (L.equivalence time).trans (L.ask_left h) (L.asked time s')

/-- Where the probe changes nothing when it is asked, surroundings may be told apart at will. -/
def same (h : ∀ time s, (probe time s).2 = s) : Likeness probe where
  alike := fun _ s s' => s = s'
  equivalence := fun _ => ⟨fun _ => rfl, Eq.symm, Eq.trans⟩
  lasts := fun _ heq => heq
  answers := fun heq => heq ▸ rfl
  asked := fun time s => (h time s).symm

end Likeness

/-! ### Two routines in lockstep -/

/-- Told the same things in surroundings that are alike, two routines do the same step by step, up
to how their events are told, and give results that belong together. -/
inductive Tallies {probe : Probe σ} (L : Likeness probe) (told : Event → Event → Prop)
    (given : α → β → Prop) : Routine σ α → Routine σ β → Prop
  | done {a : α} {b : β} (h : given a b) : Tallies L told given (.done a) (.done b)
  | breakdown (message : String) : Tallies L told given (.breakdown message) (.breakdown message)
  | hang : Tallies L told given .hang .hang
  | sleep {length : Nat} {next : Routine σ α} {next' : Routine σ β}
      (h : Tallies L told given next next') :
      Tallies L told given (.sleep length next) (.sleep length next')
  | ask {who : Asker} {next : Bool → Routine σ α} {next' : Bool → Routine σ β}
      (h : ∀ answer, Tallies L told given (next answer) (next' answer)) :
      Tallies L told given (.ask who next) (.ask who next')
  | note {e e' : Event} {next : Routine σ α} {next' : Routine σ β} (he : told e e')
      (h : Tallies L told given next next') : Tallies L told given (.note e next) (.note e' next')
  | act {change change' : Nat → σ → σ} {next : Nat → σ → Routine σ α}
      {next' : Nat → σ → Routine σ β}
      (kept : ∀ time s s', L.alike time s s' → L.alike time (change time s) (change' time s'))
      (h : ∀ time s s', L.alike time s s' → Tallies L told given (next time s) (next' time s')) :
      Tallies L told given (.act change next) (.act change' next')

section Composition

variable {probe : Probe σ} {L : Likeness probe} {told : Event → Event → Prop}
  {given : α → β → Prop} {given' : γ → δ → Prop}

theorem tallies_bind {r : Routine σ α} {r' : Routine σ β} {f : α → Routine σ γ}
    {f' : β → Routine σ δ} (hr : Tallies L told given r r')
    (hf : ∀ a b, given a b → Tallies L told given' (f a) (f' b)) :
    Tallies L told given' (r.bind f) (r'.bind f') := by
  induction hr with
  | done h => exact hf _ _ h
  | breakdown message => exact .breakdown message
  | hang => exact .hang
  | sleep _ ih => exact .sleep ih
  | ask _ ih => exact .ask ih
  | note he _ ih => exact .note he ih
  | act kept _ ih => exact .act kept ih

theorem tallies_pause {r : Routine σ α} {r' : Routine σ β} (length : Nat)
    (h : Tallies L told given r r') : Tallies L told given (pause length r) (pause length r') := by
  unfold pause
  split
  · exact h
  · exact .sleep h

theorem tallies_rest {r : Routine σ α} {r' : Routine σ β} (length : Nat)
    (h : Tallies L told given r r') : Tallies L told given (rest length r) (rest length r') :=
  tallies_pause _ h

/-- Two routines in lockstep are cut off at the same step. -/
theorem tallies_within {r r' : Routine σ α} (limit : Nat) (h : Tallies L told Eq r r') :
    Tallies L told Eq (r.within limit) (r'.within limit) := by
  induction h generalizing limit with
  | done h => exact .done (congrArg some h)
  | breakdown message => exact .breakdown message
  | hang => exact tallies_pause limit (.done rfl)
  | sleep _ ih =>
    unfold within
    split
    · exact .sleep (ih _)
    · exact tallies_pause limit (.done rfl)
  | ask _ ih => exact .ask fun answer => ih answer limit
  | note he _ ih => exact .note he (ih limit)
  | act kept _ ih => exact .act kept fun time s s' h => ih time s s' h limit

theorem tallies_timedFrom {r r' : Routine σ α} (spent : Nat) (h : Tallies L told Eq r r') :
    Tallies L told Eq (r.timedFrom spent) (r'.timedFrom spent) := by
  induction h generalizing spent with
  | done h => exact .done (congrArg (fun a => (a, spent)) h)
  | breakdown message => exact .breakdown message
  | hang => exact .hang
  | sleep _ ih => exact .sleep (ih _)
  | ask _ ih => exact .ask fun answer => ih answer spent
  | note he _ ih => exact .note he (ih spent)
  | act kept _ ih => exact .act kept fun time s s' h => ih time s s' h spent

theorem tallies_timed {r r' : Routine σ α} (h : Tallies L told Eq r r') :
    Tallies L told Eq r.timed r'.timed :=
  tallies_timedFrom 0 h

/-- Events may be told in another way if those that are heard of the routine agree with it. -/
theorem Tallies.mono {told' : Event → Event → Prop} {m : Manners} {r : Routine σ α}
    {r' : Routine σ β} (h : Tallies L told given r r') (hr : r.Keeps m)
    (ht : ∀ e e', m.hears e → told e e' → told' e e') : Tallies L told' given r r' := by
  induction h with
  | done h => exact .done h
  | breakdown message => exact .breakdown message
  | hang => exact .hang
  | sleep _ ih => exact .sleep (ih hr.2)
  | ask _ ih => exact .ask fun answer => ih answer (hr answer).2
  | note he _ ih => exact .note (ht _ _ hr.1 he) (ih hr.2)
  | act kept _ ih => exact .act kept fun time s s' h => ih time s s' h (hr time s)

/-- Where surroundings may be told apart at will, every routine is in lockstep with itself. -/
theorem tallies_same (h : ∀ time s, (probe time s).2 = s) (r : Routine σ α) :
    Tallies (Likeness.same h) Eq Eq r r := by
  induction r with
  | done a => exact .done rfl
  | breakdown message => exact .breakdown message
  | hang => exact .hang
  | sleep length next ih => exact .sleep ih
  | ask who next ih => exact .ask ih
  | note event next ih => exact .note rfl ih
  | act change next ih =>
    refine .act (fun time s s' heq => congrArg (change time) heq) fun time s s' heq => ?_
    obtain rfl : s = s' := heq
    exact ih time s

end Composition

/-! ### Plays of which the same is heard -/

/-- The event with the entries numbered in another way. -/
def Event.renumber (number : Nat → Nat) : Event → Event
  | published (.inProgress index attempt) => .published (.inProgress (number index) attempt)
  | inspected index answer => .inspected (number index) answer
  | attempted index attempt limit => .attempted (number index) attempt limit
  | e => e

/-- The run asks the probe. -/
def Event.isQuestion : Event → Bool
  | asked .run _ => true
  | _ => false

/-- What is heard of a run besides its questions. -/
def aloud (es : List (Nat × Event)) : List (Nat × Event) :=
  es.filter fun e => !e.2.isQuestion

/-- Events at their times, with the entries numbered in another way. -/
def renumbered (number : Nat → Nat) (es : List (Nat × Event)) : List (Nat × Event) :=
  es.map fun e => (e.1, e.2.renumber number)

/-- An event is told as another one, with the entries numbered in another way. -/
def Event.ToldAs (number : Nat → Nat) (e e' : Event) : Prop :=
  e' = e.renumber number

theorem renumber_of_isAside (number : Nat → Nat) {e : Event} (h : e.isAside = true) :
    e.renumber number = e := by
  cases e <;> first | rfl | cases h

theorem isQuestion_renumber (number : Nat → Nat) (e : Event) :
    (e.renumber number).isQuestion = e.isQuestion := by
  cases e with
  | published phase => cases phase <;> rfl
  | _ => rfl

/-- Two plays stand at the same time in surroundings that are alike, and the same was heard of them
besides the questions of the runs, with the entries numbered in different ways. -/
structure Abreast {probe : Probe σ} (L : Likeness probe) (number : Nat → Nat) (q q' : Playback σ) :
    Prop where
  clock : q'.clock = q.clock
  alike : L.alike q.clock q.surroundings q'.surroundings
  heard : renumbered number (aloud q.history) = aloud q'.history

namespace Abreast

variable {probe : Probe σ} {L : Likeness probe} {number : Nat → Nat} {q q' : Playback σ}

/-- Both answers of the probe are the same. -/
theorem answer (h : Abreast L number q q') :
    (probe q'.clock q'.surroundings).1 = (probe q.clock q.surroundings).1 := by
  rw [h.clock]
  exact (L.answers h.alike).symm

theorem observe (h : Abreast L number q q') (e : Event) :
    Abreast L number (q.observe e) (q'.observe (e.renumber number)) := by
  refine ⟨h.clock, h.alike, ?_⟩
  have hheard := h.heard
  unfold renumbered aloud at hheard ⊢
  rw [Playback.observe, Playback.observe, List.filter_cons, List.filter_cons, isQuestion_renumber,
    h.clock]
  cases e.isQuestion with
  | true => exact hheard
  | false => exact congrArg (List.cons (q.clock, e.renumber number)) hheard

theorem pass (h : Abreast L number q q') (length : Nat) :
    Abreast L number (q.pass length) (q'.pass length) := by
  obtain ⟨hclock, halike, hheard⟩ := h.observe (.slept length)
  refine ⟨congrArg (· + length) hclock, ?_, hheard⟩
  exact L.lasts (Nat.le_add_right q.clock length) halike

theorem ask (h : Abreast L number q q') (who : Asker) :
    (q'.ask probe who).1 = (q.ask probe who).1 ∧
      Abreast L number (q.ask probe who).2 (q'.ask probe who).2 := by
  have hanswer := h.answer
  obtain ⟨hclock, -, hheard⟩ := h.observe (.asked who (probe q.clock q.surroundings).1)
  refine ⟨hanswer, hclock, ?_, ?_⟩
  · show L.alike q.clock (probe q.clock q.surroundings).2 (probe q'.clock q'.surroundings).2
    rw [h.clock]
    exact L.ask_both h.alike
  · refine hheard.trans ?_
    rw [← hanswer]
    rfl

/-- A question of the run that only one of the two asks goes unheard. -/
theorem ask_left (h : Abreast L number q q') : Abreast L number (q.ask probe .run).2 q' :=
  ⟨h.clock, L.ask_left h.alike, h.heard⟩

theorem change (h : Abreast L number q q') {f f' : Nat → σ → σ}
    (kept : ∀ time s s', L.alike time s s' → L.alike time (f time s) (f' time s')) :
    Abreast L number (q.change f) (q'.change f') := by
  refine ⟨h.clock, ?_, h.heard⟩
  show L.alike q.clock (f q.clock q.surroundings) (f' q'.clock q'.surroundings)
  rw [h.clock]
  exact kept _ _ _ h.alike

/-- What is heard of the two in order is the same. -/
theorem events (h : Abreast L number q q') :
    renumbered number (aloud q.events) = aloud q'.events := by
  have hheard := congrArg List.reverse h.heard
  unfold renumbered aloud at hheard ⊢
  rw [Playback.events, Playback.events, List.filter_reverse, List.filter_reverse, List.map_reverse]
  exact hheard

end Abreast

/-- Two routines have ended alike, with results that belong together. -/
inductive Ending.Tally (given : α → β → Prop) : Ending α → Ending β → Prop
  | finished {a : α} {b : β} (h : given a b) : Tally given (.finished a) (.finished b)
  | brokenDown (message : String) : Tally given (.brokenDown message) (.brokenDown message)
  | hung : Tally given .hung .hung

/-- **Two routines in lockstep are played alike.** -/
theorem run_abreast {probe : Probe σ} {L : Likeness probe} {number : Nat → Nat}
    {given : α → β → Prop} {r : Routine σ α} {r' : Routine σ β} {q q' : Playback σ}
    (h : Tallies L (Event.ToldAs number) given r r')
    (hq : Abreast L number q q') :
    (run probe r q).1.Tally given (run probe r' q').1 ∧
      Abreast L number (run probe r q).2 (run probe r' q').2 := by
  induction h generalizing q q' with
  | done h => exact ⟨.finished h, hq⟩
  | breakdown message => exact ⟨.brokenDown message, hq⟩
  | hang => exact ⟨.hung, hq⟩
  | @sleep length next next' _ ih => exact ih (hq.pass length)
  | @ask who next next' _ ih =>
    obtain ⟨hanswer, hasked⟩ := hq.ask who
    have hnext := ih (q.ask probe who).1 hasked
    rw [← hanswer] at hnext
    rw [run, run, ← hanswer]
    exact hnext
  | @note e e' next next' he _ ih =>
    obtain rfl : e' = e.renumber number := he
    exact ih (hq.observe e)
  | act kept _ ih =>
    have hnext := ih q.clock q.surroundings q'.surroundings hq.alike (hq.change kept)
    rw [run, run, hq.clock]
    exact hnext

end CodePermit
