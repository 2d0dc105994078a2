import CodePermit.Playback
import CodePermit.Manners
/-!
# Where routines lead

A routine goes on according to what it is told: the answers of the probe, the time, the
surroundings.  What it can be observed doing, whatever it is told, is a relation between routines
that is carried along one step at a time, so that it covers runs that are not over as well.

* `Leads` — a routine can come to another one while events are observed;
* `Leads.trans` — one stretch after another;
* `Leads.keeps` — what can be observed of a routine that keeps manners;
* `leads_bind` — a composed routine that ends has ended its first part before;
* `run_leads` — a play is one of the ways in which a routine can go;
* `run_finishes` — a routine that neither breaks down nor sleeps for ever ends.
-/

namespace CodePermit

open Routine

variable {σ α β : Type}

/-! ### Stretches of a routine -/

/-- Told suitable things, the first routine comes to the second one while the events are
observed. -/
inductive Leads : Routine σ α → List Event → Routine σ α → Prop
  | here (r : Routine σ α) : Leads r [] r
  | sleep {length : Nat} {next r : Routine σ α} {es : List Event} :
      Leads next es r → Leads (.sleep length next) (.slept length :: es) r
  | ask {who : Asker} {next : Bool → Routine σ α} {r : Routine σ α} {es : List Event}
      (answer : Bool) :
      Leads (next answer) es r → Leads (.ask who next) (.asked who answer :: es) r
  | note {event : Event} {next r : Routine σ α} {es : List Event} :
      Leads next es r → Leads (.note event next) (event :: es) r
  | act {change : Nat → σ → σ} {next : Nat → σ → Routine σ α} {r : Routine σ α}
      {es : List Event} (time : Nat) (s : σ) :
      Leads (next time s) es r → Leads (.act change next) es r

theorem Leads.trans {r s t : Routine σ α} {es es' : List Event} (h : Leads r es s)
    (h' : Leads s es' t) : Leads r (es ++ es') t := by
  induction h with
  | here r => exact h'
  | sleep _ ih => exact .sleep (ih h')
  | ask answer _ ih => exact .ask answer (ih h')
  | note _ ih => exact .note (ih h')
  | act time s _ ih => exact .act time s (ih h')

/-- Whatever is observed of a routine that keeps manners agrees with them, and what is left of the
routine keeps them too. -/
theorem Leads.keeps {m : Manners} {r s : Routine σ α} {es : List Event} (h : Leads r es s)
    (hr : r.Keeps m) : (∀ e ∈ es, m.hears e) ∧ s.Keeps m := by
  induction h with
  | here r => exact ⟨fun e he => absurd he List.not_mem_nil, hr⟩
  | sleep _ ih =>
    obtain ⟨hes, hs⟩ := ih hr.2
    exact ⟨List.forall_mem_cons.2 ⟨hr.1, hes⟩, hs⟩
  | ask answer _ ih =>
    obtain ⟨hes, hs⟩ := ih (hr answer).2
    exact ⟨List.forall_mem_cons.2 ⟨(hr answer).1, hes⟩, hs⟩
  | note _ ih =>
    obtain ⟨hes, hs⟩ := ih hr.2
    exact ⟨List.forall_mem_cons.2 ⟨hr.1, hes⟩, hs⟩
  | act time s _ ih => exact ih (hr time s)

theorem leads_done {a b : α} {es : List Event} (h : Leads (.done a : Routine σ α) es (.done b)) :
    es = [] ∧ b = a := by
  cases h with
  | here => exact ⟨rfl, rfl⟩

theorem leads_note {e : Event} {next : Routine σ α} {es : List Event} {b : α}
    (h : Leads (.note e next) es (.done b)) : ∃ es', es = e :: es' ∧ Leads next es' (.done b) := by
  cases h with
  | note h => exact ⟨_, rfl, h⟩

theorem leads_ask {who : Asker} {next : Bool → Routine σ α} {es : List Event} {b : α}
    (h : Leads (.ask who next) es (.done b)) :
    ∃ answer es', es = .asked who answer :: es' ∧ Leads (next answer) es' (.done b) := by
  cases h with
  | ask answer h => exact ⟨answer, _, rfl, h⟩

/-- A composed routine that ends has ended its first part before. -/
theorem leads_bind {r : Routine σ α} {f : α → Routine σ β} {es : List Event} {b : β}
    (h : Leads (r.bind f) es (.done b)) :
    ∃ es₁ a es₂, es = es₁ ++ es₂ ∧ Leads r es₁ (.done a) ∧ Leads (f a) es₂ (.done b) := by
  induction r generalizing es with
  | done a => exact ⟨[], a, es, rfl, .here _, h⟩
  | breakdown message => cases h
  | hang => cases h
  | sleep length next ih =>
    cases h with
    | sleep h =>
      obtain ⟨es₁, a, es₂, rfl, h₁, h₂⟩ := ih h
      exact ⟨_, a, es₂, rfl, .sleep h₁, h₂⟩
  | ask who next ih =>
    cases h with
    | ask answer h =>
      obtain ⟨es₁, a, es₂, rfl, h₁, h₂⟩ := ih answer h
      exact ⟨_, a, es₂, rfl, .ask answer h₁, h₂⟩
  | note event next ih =>
    cases h with
    | note h =>
      obtain ⟨es₁, a, es₂, rfl, h₁, h₂⟩ := ih h
      exact ⟨_, a, es₂, rfl, .note h₁, h₂⟩
  | act change next ih =>
    cases h with
    | act time s h =>
      obtain ⟨es₁, a, es₂, rfl, h₁, h₂⟩ := ih time s h
      exact ⟨_, a, es₂, rfl, .act time s h₁, h₂⟩

/-! ### Plays -/

/-- **A play is one of the ways in which a routine can go.**  What it adds to the events is observed
on the way to its end. -/
theorem run_leads (probe : Probe σ) {r : Routine σ α} {p p' : Playback σ} {a : α}
    (h : run probe r p = (.finished a, p')) :
    ∃ es : List (Nat × Event),
      p'.events = p.events ++ es ∧ Leads r (es.map Prod.snd) (.done a) := by
  induction r generalizing p with
  | done b =>
    cases h
    exact ⟨[], (List.append_nil _).symm, .here _⟩
  | breakdown message => cases h
  | hang => cases h
  | sleep length next ih =>
    obtain ⟨es, he, hl⟩ := ih h
    refine ⟨(p.clock, .slept length) :: es, ?_, .sleep hl⟩
    rw [he]
    simp only [Playback.events, Playback.pass, Playback.observe, List.reverse_cons,
      List.append_assoc, List.singleton_append]
  | ask who next ih =>
    obtain ⟨es, he, hl⟩ := ih _ h
    refine ⟨(p.clock, .asked who (p.ask probe who).1) :: es, ?_, .ask _ hl⟩
    rw [he]
    simp only [Playback.events, Playback.ask, Playback.observe, List.reverse_cons,
      List.append_assoc, List.singleton_append]
  | note event next ih =>
    obtain ⟨es, he, hl⟩ := ih h
    refine ⟨(p.clock, event) :: es, ?_, .note hl⟩
    rw [he]
    simp only [Playback.events, Playback.observe, List.reverse_cons, List.append_assoc,
      List.singleton_append]
  | act change next ih =>
    obtain ⟨es, he, hl⟩ := ih _ _ h
    exact ⟨es, he, .act _ _ hl⟩

/-- The manners of a routine that ends whatever it is told. -/
def Manners.brisk : Manners where
  hears := fun _ => True
  breaksDown := False
  hangs := False

theorem run_finishes (probe : Probe σ) {r : Routine σ α} (hr : r.Keeps .brisk) (p : Playback σ) :
    ∃ a p', run probe r p = (.finished a, p') := by
  induction r generalizing p with
  | done a => exact ⟨a, p, rfl⟩
  | breakdown message => exact hr.elim
  | hang => exact hr.elim
  | sleep length next ih => exact ih hr.2 _
  | ask who next ih => exact ih _ (hr _).2 _
  | note event next ih => exact ih hr.2 _
  | act change next ih => exact ih _ _ (hr _ _) _

end CodePermit
