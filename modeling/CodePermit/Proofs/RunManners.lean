import CodePermit.Chain
import CodePermit.Proofs.Leading
/-!
# Manners of runs

A run is heard asking the probe, announcing the attempts of its entries and making them; all else is
heard of the techniques.  Whatever holds of these events one by one therefore holds of the whole
run, and a run ends unless one of its techniques breaks down.

* `run_keeps` — a run keeps the manners that its own events and its techniques keep;
* `run_announces` — a run announces nothing but attempts of its entries;
* `run_wakeful` — a run does not sleep for ever, even if its techniques would;
* `Chain.Calm`, `run_reports` — a run whose techniques do not break down ends with a report;
* `run_ends` — nothing else keeps a run from ending with one.
-/

namespace CodePermit

open Routine

variable {σ : Type} {m : Manners}

/-! ### From techniques to runs -/

/-- The event is one by which a run asks, looks, tries or waits; announcements are not among
them. -/
def Event.isProcedure : Event → Bool
  | asked .run _ | inspected _ _ | attempted _ _ _ | warned _ | slept _ => true
  | asked .technique _ | published _ | requested _ | called _ _ => false

/-- The strategy keeps the manners in every attempt, and where they forbid to break down it never
does so when it is asked whether it applies. -/
structure Strategy.Keeps (m : Manners) (s : Strategy σ) : Prop where
  attempt : ∀ limit, (s.attempt limit).Keeps m
  applicable : ∀ time x message, (s.applicable time x).1 = .error message → m.breaksDown

theorem keeps_checkpoint {next : Routine σ Course} (p : Progress)
    (hm : ∀ e, e.isProcedure = true → m.hears e) (hn : next.Keeps m) :
    (checkpoint p next).Keeps m := by
  intro answer
  refine ⟨hm _ rfl, ?_⟩
  cases answer with
  | true => trivial
  | false => exact hn

theorem keeps_attemptOnce {e : Entry σ} (index attempt : Nat)
    (hm : ∀ e, e.isProcedure = true → m.hears e) (he : e.strategy.Keeps m.drowsy) :
    (attemptOnce e index attempt).Keeps m := by
  refine ⟨hm _ rfl, ?_⟩
  refine keeps_bind (keeps_timed (keeps_within _ (fun _ => hm _ rfl) (he.attempt _))) ?_
  exact fun _ _ => ⟨hm _ rfl, trivial⟩

theorem keeps_rounds {e : Entry σ} {index left attempt : Nat} (p : Progress)
    (hm : ∀ e, e.isProcedure = true → m.hears e)
    (hp : ∀ n, attempt ≤ n → n < attempt + left → m.hears (.published (.inProgress index n)))
    (he : e.strategy.Keeps m.drowsy) : (rounds e index left attempt p).Keeps m := by
  induction left generalizing attempt p with
  | zero => trivial
  | succ left ih =>
    refine ⟨hp attempt (Nat.le_refl _) (by omega), keeps_bind ?_ ?_⟩
    · unfold interlude
      split
      · trivial
      · exact keeps_rest _ (fun _ => hm _ rfl) (keeps_checkpoint p hm trivial)
    · rintro (p | c)
      · refine keeps_bind (keeps_attemptOnce index attempt hm he) ?_
        intro result
        have hrest : ∀ p, (rounds e index left (attempt + 1) p).Keeps m :=
          fun p => ih p fun n h₁ h₂ => hp n (by omega) (by omega)
        dsimp only
        split
        · trivial
        · trivial
        · exact keeps_warn _ (fun _ => hm _ rfl) (hrest _)
      · trivial

theorem keeps_visit {host : Option Version} {e : Entry σ} {index : Nat} (p : Progress)
    (hm : ∀ e, e.isProcedure = true → m.hears e)
    (hp : ∀ n, 1 ≤ n → n ≤ e.policy.rounds → m.hears (.published (.inProgress index n)))
    (he : e.strategy.Keeps m.drowsy) : (visit host e index p).Keeps m := by
  refine keeps_checkpoint p hm ?_
  split
  · intro time x
    dsimp only
    split
    · refine ⟨hm _ rfl, ?_⟩
      split
      · exact keeps_rounds p hm (fun n h₁ h₂ => hp n h₁ (by omega)) he
      · trivial
    · rename_i message hx
      exact he.applicable time x message hx
  · trivial

theorem keeps_pass {host : Option Version} {index : Nat} {entries : List (Entry σ)} (p : Progress)
    (hm : ∀ e, e.isProcedure = true → m.hears e)
    (hp : ∀ i e, entries[i]? = some e → ∀ n, 1 ≤ n → n ≤ e.policy.rounds →
      m.hears (.published (.inProgress (index + i) n)))
    (he : ∀ e ∈ entries, e.strategy.Keeps m.drowsy) : (pass host index entries p).Keeps m := by
  induction entries generalizing index p with
  | nil => exact ⟨hm _ rfl, trivial⟩
  | cons e entries ih =>
    refine keeps_bind (keeps_visit p hm (hp 0 e rfl) (he e List.mem_cons_self)) ?_
    rintro (p | c)
    · refine ih p (fun i e' hi n h₁ h₂ => ?_) fun e' h => he e' (List.mem_cons_of_mem _ h)
      have h := hp (i + 1) e' hi n h₁ h₂
      rwa [show index + (i + 1) = index + 1 + i by omega] at h
    · trivial

/-- **A run keeps the manners that its own events and its techniques keep.**  That a technique would
sleep for ever does not matter, since attempts are cut off. -/
theorem run_keeps {c : Chain σ} (hm : ∀ e, e.isProcedure = true → m.hears e)
    (hp : ∀ i e, c.entries[i]? = some e → ∀ n, 1 ≤ n → n ≤ e.policy.rounds →
      m.hears (.published (.inProgress i n)))
    (he : ∀ e ∈ c.entries, e.strategy.Keeps m.drowsy) : c.run.Keeps m := by
  refine keeps_bind (keeps_timed (keeps_pass {} hm (fun i e hi n h₁ h₂ => ?_) he)) fun _ => trivial
  rw [Nat.zero_add]
  exact hp i e hi n h₁ h₂

/-! ### What all runs keep -/

/-- What is announced is an attempt of an entry that is there, and not one too many. -/
def Chain.announces (c : Chain σ) : Manners where
  hears := fun event => ∀ phase, event = .published phase →
    ∃ i e n, c.entries[i]? = some e ∧ 1 ≤ n ∧ n ≤ e.policy.rounds ∧ phase = .inProgress i n

theorem run_announces (c : Chain σ) : c.run.Keeps c.announces := by
  refine run_keeps (fun event h phase hp => ?_) (fun i e hi n h₁ h₂ phase hp => ?_) ?_
  · rw [hp] at h
    exact absurd h Bool.false_ne_true
  · exact ⟨i, e, n, hi, h₁, h₂, (Event.published.inj hp).symm⟩
  · refine fun e _ => ⟨fun limit => (e.strategy.aside limit).mono ?_ id id, fun _ _ _ _ => trivial⟩
    intro event h phase hp
    rw [hp] at h
    exact absurd h Bool.false_ne_true

/-- The manners of a routine that does not sleep for ever. -/
def Manners.wakeful : Manners where
  hears := fun _ => True
  hangs := False

theorem run_wakeful (c : Chain σ) : c.run.Keeps .wakeful :=
  run_keeps (fun _ _ => trivial) (fun _ _ _ _ _ _ => trivial) fun e _ =>
    ⟨fun limit => (e.strategy.aside limit).mono (fun _ _ => trivial) id id,
      fun _ _ _ _ => trivial⟩

/-- A routine that never sleeps for ever ends or breaks down. -/
theorem run_ne_hung {α : Type} (probe : Probe σ) {r : Routine σ α} (hr : r.Keeps .wakeful)
    (p : Playback σ) : (run probe r p).1 ≠ .hung := by
  induction r generalizing p with
  | done a => exact nofun
  | breakdown message => exact nofun
  | hang => exact absurd hr id
  | sleep length next ih => exact ih hr.2 _
  | ask who next ih => exact ih _ (hr _).2 _
  | note event next ih => exact ih hr.2 _
  | act change next ih => exact ih _ _ (hr _ _) _

/-! ### Techniques that do not break down -/

/-- The strategy does not break down, neither when it is asked whether it applies nor in an attempt;
it may sleep for ever. -/
def Strategy.Calm (s : Strategy σ) : Prop :=
  s.Keeps Manners.brisk.drowsy

/-- No strategy of the chain breaks down. -/
def Chain.Calm (c : Chain σ) : Prop :=
  ∀ e ∈ c.entries, e.strategy.Calm

/-- **A run whose techniques do not break down ends with a report.** -/
theorem run_reports {c : Chain σ} (hc : c.Calm) (probe : Probe σ) (p : Playback σ) :
    ∃ report p', run probe c.run p = (.finished report, p') :=
  run_finishes probe (run_keeps (fun _ _ => trivial) (fun _ _ _ _ _ _ => trivial) hc) p

/-- **A run ends with a report, unless one of its techniques breaks down.** -/
theorem run_ends (c : Chain σ) (probe : Probe σ) (p : Playback σ) :
    (∃ report p', run probe c.run p = (.finished report, p')) ∨
      ¬c.Calm ∧ ∃ message p', run probe c.run p = (.brokenDown message, p') := by
  have hwakes := run_ne_hung probe (run_wakeful c) p
  obtain ⟨ending, p', hrun⟩ : ∃ ending p', run probe c.run p = (ending, p') := ⟨_, _, rfl⟩
  rw [hrun] at hwakes ⊢
  cases ending with
  | finished report => exact Or.inl ⟨report, p', rfl⟩
  | brokenDown message =>
    refine Or.inr ⟨fun hc => ?_, message, p', rfl⟩
    obtain ⟨report, p'', h⟩ := run_reports hc probe p
    rw [hrun] at h
    cases h
  | hung => exact absurd rfl hwakes

end CodePermit
