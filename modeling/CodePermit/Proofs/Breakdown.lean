import CodePermit.Proofs.RunManners
import CodePermit.Proofs.Tour
/-!
# Runs that break down

A run breaks down when one of its techniques does, while it is asked whether it applies or in the
course of an attempt.  The breakdown is the last thing that is heard of the run: the entries that
come later are not asked, not announced and not attempted.

* `breakdown_bind`, `breakdown_timedFrom`, `breakdown_within` — breakdowns of composed routines;
* `Event.UpTo`, `tries_upTo` — events that concern no later entry;
* `Entry.BreaksOff` — a technique breaks down;
* `run_breaksOff` — behind a run that breaks down stands a technique that does.
-/

namespace CodePermit

open Routine

variable {σ α β : Type} {message : String}

/-! ### Composed routines -/

theorem breakdown_bind {r : Routine σ α} {f : α → Routine σ β} {es : List Event}
    (h : Leads (r.bind f) es (.breakdown message)) :
    Leads r es (.breakdown message) ∨ ∃ es₁ a es₂, es = es₁ ++ es₂ ∧ Leads r es₁ (.done a) ∧
      Leads (f a) es₂ (.breakdown message) := by
  induction r generalizing es with
  | done a => exact Or.inr ⟨[], a, es, rfl, .here _, h⟩
  | breakdown message' =>
    cases h with
    | here => exact Or.inl (.here _)
  | hang => cases h
  | sleep length next ih =>
    cases h with
    | sleep h =>
      rcases ih h with h | ⟨es₁, a, es₂, rfl, h₁, h₂⟩
      · exact Or.inl (.sleep h)
      · exact Or.inr ⟨_, a, es₂, rfl, .sleep h₁, h₂⟩
  | ask who next ih =>
    cases h with
    | ask answer h =>
      rcases ih answer h with h | ⟨es₁, a, es₂, rfl, h₁, h₂⟩
      · exact Or.inl (.ask answer h)
      · exact Or.inr ⟨_, a, es₂, rfl, .ask answer h₁, h₂⟩
  | note event next ih =>
    cases h with
    | note h =>
      rcases ih h with h | ⟨es₁, a, es₂, rfl, h₁, h₂⟩
      · exact Or.inl (.note h)
      · exact Or.inr ⟨_, a, es₂, rfl, .note h₁, h₂⟩
  | act change next ih =>
    cases h with
    | act time s h =>
      rcases ih time s h with h | ⟨es₁, a, es₂, rfl, h₁, h₂⟩
      · exact Or.inl (.act time s h)
      · exact Or.inr ⟨_, a, es₂, rfl, .act time s h₁, h₂⟩

theorem breakdown_timedFrom {r : Routine σ α} {spent : Nat} {es : List Event}
    (h : Leads (r.timedFrom spent) es (.breakdown message)) : Leads r es (.breakdown message) := by
  induction r generalizing spent es with
  | done a => cases h
  | breakdown message' =>
    cases h with
    | here => exact .here _
  | hang => cases h
  | sleep length next ih =>
    cases h with
    | sleep h => exact .sleep (ih h)
  | ask who next ih =>
    cases h with
    | ask answer h => exact .ask answer (ih answer h)
  | note event next ih =>
    cases h with
    | note h => exact .note (ih h)
  | act change next ih =>
    cases h with
    | act time s h => exact .act time s (ih time s h)

/-- A routine that is cut off does not break down where it would only have done so later. -/
theorem breakdown_within {r : Routine σ α} {limit : Nat} {es : List Event}
    (h : Leads (r.within limit) es (.breakdown message)) : Leads r es (.breakdown message) := by
  have hpause : ∀ (limit : Nat) (es : List Event),
      ¬Leads (pause limit (.done none) : Routine σ (Option α)) es (.breakdown message) := by
    intro limit es h
    have hbrisk : Keeps .brisk (pause limit (.done none) : Routine σ (Option α)) :=
      keeps_pause trivial trivial
    exact (h.keeps hbrisk).2
  induction r generalizing limit es with
  | done a => cases h
  | breakdown message' =>
    cases h with
    | here => exact .here _
  | hang => exact absurd h (hpause limit es)
  | sleep length next ih =>
    unfold within at h
    split at h
    · cases h with
      | sleep h => exact .sleep (ih h)
    · exact absurd h (hpause limit es)
  | ask who next ih =>
    cases h with
    | ask answer h => exact .ask answer (ih answer h)
  | note event next ih =>
    cases h with
    | note h => exact .note (ih h)
  | act change next ih =>
    cases h with
    | act time s h => exact .act time s (ih time s h)

/-! ### Events and entries -/

/-- The entry that an event concerns. -/
def Event.entry? : Event → Option Nat
  | published (.inProgress index _) => some index
  | inspected index _ | attempted index _ _ => some index
  | _ => none

/-- The event concerns no entry that comes later than the one at an index. -/
def Event.UpTo (index : Nat) (e : Event) : Prop :=
  ∀ i, e.entry? = some i → i ≤ index

theorem upTo_of_none {index : Nat} {e : Event} (h : e.entry? = none) : e.UpTo index := by
  intro i hi
  rw [h] at hi
  cases hi

theorem upTo_of_some {index : Nat} {e : Event} (h : e.entry? = some index) : e.UpTo index := by
  intro i hi
  rw [h] at hi
  exact Nat.le_of_eq (Option.some.inj hi).symm

theorem upTo_of_isAside {index : Nat} {e : Event} (h : e.isAside = true) : e.UpTo index := by
  apply upTo_of_none
  cases e <;> first | rfl | cases h

theorem Event.UpTo.mono {index index' : Nat} {e : Event} (h : e.UpTo index) (hle : index ≤ index') :
    e.UpTo index' :=
  fun i hi => Nat.le_trans (h i hi) hle

theorem upTo_restEvents (index length : Nat) : ∀ x ∈ restEvents length, x.UpTo index := by
  intro x hx
  unfold restEvents at hx
  split at hx
  · cases hx
  · rw [List.mem_singleton.1 hx]
    exact upTo_of_none rfl

theorem upTo_leadIn (index : Nat) (policy : Policy) (n : Nat) :
    ∀ x ∈ leadIn policy n, x.UpTo index := by
  intro x hx
  unfold leadIn at hx
  split at hx
  · cases hx
  · rcases List.mem_append.1 hx with hx | hx
    · exact upTo_restEvents index _ x hx
    · rw [List.mem_singleton.1 hx]
      exact upTo_of_none rfl

theorem attemptOnce_upTo {e : Entry σ} {index n d : Nat} {es : List Event} {o : Outcome}
    (h : Leads (attemptOnce e index n) es (.done (o, d))) : ∀ x ∈ es, x.UpTo index := by
  obtain ⟨asides, reported, confirmed, rfl, hasides, -⟩ := leads_attemptOnce h
  refine List.forall_mem_cons.2 ⟨upTo_of_some rfl, ?_⟩
  refine List.forall_mem_append.2 ⟨fun x hx => upTo_of_isAside (hasides x hx), ?_⟩
  exact List.forall_mem_singleton.2 (upTo_of_none rfl)

/-- The attempts on an entry concern that entry only. -/
theorem tries_upTo {e : Entry σ} {index left n : Nat} {p : Progress} {es : List Event}
    {rs : List Record} {c : Course} (h : Tries e index left n p es rs c) :
    ∀ x ∈ es, x.UpTo index := by
  have announced : ∀ n, (Event.published (.inProgress index n)).UpTo index :=
    fun n => upTo_of_some rfl
  induction h with
  | spent => exact nofun
  | interrupted later =>
    refine List.forall_mem_cons.2 ⟨announced _, ?_⟩
    refine List.forall_mem_append.2 ⟨upTo_restEvents index _, ?_⟩
    exact List.forall_mem_singleton.2 (upTo_of_none rfl)
  | granted once | unavailable once =>
    refine List.forall_mem_cons.2 ⟨announced _, ?_⟩
    exact List.forall_mem_append.2 ⟨upTo_leadIn index _ _, attemptOnce_upTo once⟩
  | setback bad once rest ih =>
    refine List.forall_mem_cons.2 ⟨announced _, ?_⟩
    refine List.forall_mem_append.2 ⟨?_, List.forall_mem_cons.2 ⟨upTo_of_none rfl, ih⟩⟩
    exact List.forall_mem_append.2 ⟨upTo_leadIn index _ _, attemptOnce_upTo once⟩

/-! ### Techniques that break down -/

/-- The technique of the entry at an index breaks down after events, with a message: it was asked
whether it applies, or an attempt on it has begun. -/
inductive Entry.BreaksOff (e : Entry σ) (index : Nat) (message : String) : List Event → Prop
  | asked {es : List Event} {time : Nat} {s : σ}
      (h : (e.strategy.applicable time s).1 = .error message) :
      BreaksOff e index message (es ++ [.asked .run false])
  | attempted {es asides : List Event} {n : Nat} (first : 1 ≤ n) (last : n ≤ e.policy.rounds)
      (h : Leads (e.strategy.attempt e.policy.timeout) asides (.breakdown message)) :
      BreaksOff e index message (es ++ .attempted index n e.policy.timeout :: asides)

theorem Entry.BreaksOff.prepend {e : Entry σ} {index : Nat} {es : List Event}
    (h : e.BreaksOff index message es) (before : List Event) :
    e.BreaksOff index message (before ++ es) := by
  cases h with
  | asked h =>
    rw [← List.append_assoc]
    exact .asked h
  | attempted first last h =>
    rw [← List.append_assoc]
    exact .attempted first last h

/-- A run breaks down after events: one of its techniques does, and no event concerns an entry that
comes later. -/
def BreaksOff (entries : List (Entry σ)) (start : Nat) (message : String) (es : List Event) :
    Prop :=
  ∃ i e, entries[i]? = some e ∧ e.BreaksOff (start + i) message es ∧ ∀ x ∈ es, x.UpTo (start + i)

theorem attemptOnce_breaks {e : Entry σ} {index n : Nat} {es : List Event}
    (h : Leads (attemptOnce e index n) es (.breakdown message)) :
    ∃ asides, es = .attempted index n e.policy.timeout :: asides ∧
      Leads (e.strategy.attempt e.policy.timeout) asides (.breakdown message) := by
  cases h with
  | @note _ _ _ asides h =>
    refine ⟨asides, rfl, ?_⟩
    rcases breakdown_bind h with h | ⟨es₁, reported, es₂, rfl, -, h⟩
    · exact breakdown_within (breakdown_timedFrom h)
    · -- once the attempt is over the probe is asked, which never breaks down
      cases h with
      | ask confirmed h => cases h

theorem interlude_not_breaks {e : Entry σ} {n : Nat} {p : Progress} {es : List Event} :
    ¬Leads (interlude e n p) es (.breakdown message) := by
  intro h
  have hbrisk : (interlude e n p).Keeps .brisk := by
    unfold interlude
    split
    · trivial
    · exact keeps_rest _ (fun _ => trivial) (keeps_checkpoint p (fun _ _ => trivial) trivial)
  exact (h.keeps hbrisk).2

/-- One of the attempts on the entry at an index breaks down, the one of a number in a range. -/
def Entry.BreaksDuring (e : Entry σ) (index first past : Nat) (message : String)
    (es : List Event) : Prop :=
  ∃ es' n asides, es = es' ++ .attempted index n e.policy.timeout :: asides ∧ first ≤ n ∧
    n < past ∧ (∀ x ∈ es', x.UpTo index) ∧
      Leads (e.strategy.attempt e.policy.timeout) asides (.breakdown message)

theorem Entry.BreaksDuring.prepend {e : Entry σ} {index n past : Nat} {es before : List Event}
    (h : e.BreaksDuring index (n + 1) past message es) (hbefore : ∀ x ∈ before, x.UpTo index) :
    e.BreaksDuring index n past message (before ++ es) := by
  obtain ⟨es', m, asides, rfl, hle, hlt, hes', hbreaks⟩ := h
  exact ⟨before ++ es', m, asides, (List.append_assoc ..).symm, Nat.le_of_lt hle, hlt,
    List.forall_mem_append.2 ⟨hbefore, hes'⟩, hbreaks⟩

theorem rounds_breaks {e : Entry σ} {index left n : Nat} {p : Progress} {es : List Event}
    (h : Leads (rounds e index left n p) es (.breakdown message)) :
    e.BreaksDuring index n (n + left) message es := by
  induction left generalizing n p es with
  | zero => cases h
  | succ left ih =>
    cases h with
    | note h =>
      rcases breakdown_bind h with h | ⟨es₁, course, es₂, rfl, hinterlude, h⟩
      · exact absurd h interlude_not_breaks
      rcases leads_interlude hinterlude with ⟨rfl, rfl⟩ | ⟨-, -, rfl⟩
      · have announced : ∀ x ∈ Event.published (.inProgress index n) :: leadIn e.policy n,
            x.UpTo index := List.forall_mem_cons.2 ⟨upTo_of_some rfl, upTo_leadIn index _ _⟩
        rcases breakdown_bind h with h | ⟨es₃, ⟨o, d⟩, es₄, rfl, once, h⟩
        · obtain ⟨asides, rfl, hbreaks⟩ := attemptOnce_breaks h
          exact ⟨_, n, asides, rfl, Nat.le_refl n, by omega, announced, hbreaks⟩
        · -- the attempt was over, so one of the later ones breaks down
          have later : ∀ {p : Progress} {es : List Event} (w : Warning),
              Leads (rounds e index left (n + 1) p) es (.breakdown message) →
              e.BreaksDuring index n (n + (left + 1)) message (.published (.inProgress index n) ::
                (leadIn e.policy n ++ (es₃ ++ .warned w :: es))) := by
            intro p es w h
            have hrest := ih h
            rw [Nat.add_assoc, Nat.add_comm 1 left] at hrest
            have hbefore : ∀ x ∈ es₃ ++ [.warned w], x.UpTo index := List.forall_mem_append.2
              ⟨attemptOnce_upTo once, List.forall_mem_singleton.2 (upTo_of_none rfl)⟩
            have hwhole := hrest.prepend (List.forall_mem_append.2 ⟨announced, hbefore⟩)
            simpa using hwhole
          cases o with
          | granted => cases h
          | unavailable => cases h
          | denied reason =>
            cases h with
            | note h => exact later _ h
          | timedOut =>
            cases h with
            | note h => exact later _ h
      · cases h

theorem visit_breaks {host : Option Version} {e : Entry σ} {index : Nat} {p : Progress}
    {es : List Event} (h : Leads (visit host e index p) es (.breakdown message)) :
    e.BreaksOff index message es ∧ ∀ x ∈ es, x.UpTo index := by
  have asked : (Event.asked .run false).UpTo index := upTo_of_none rfl
  cases h with
  | ask answer h =>
    cases answer with
    | true => cases h
    | false =>
      simp only [Bool.false_eq_true, if_false] at h
      by_cases fit : e.policy.eligibility.permits host = true
      · rw [if_pos fit] at h
        cases h with
        | act time s h =>
          dsimp only at h
          split at h
          · rename_i applies happlies
            cases h with
            | note h =>
              cases applies with
              | true =>
                obtain ⟨es', m, asides, rfl, hfirst, hlast, hes', hbreaks⟩ := rounds_breaks h
                have hheard := hbreaks.keeps (e.strategy.aside e.policy.timeout)
                refine ⟨Entry.BreaksOff.prepend (.attempted hfirst (by omega) hbreaks)
                  [.asked .run false, .inspected index true], ?_⟩
                refine List.forall_mem_cons.2 ⟨asked, List.forall_mem_cons.2 ⟨upTo_of_some rfl, ?_⟩⟩
                refine List.forall_mem_append.2 ⟨hes', List.forall_mem_cons.2
                  ⟨upTo_of_some rfl, fun x hx => upTo_of_isAside (hheard.1 x hx)⟩⟩
              | false => cases h
          · rename_i message' happlies
            cases h with
            | here =>
              have hbreaks : e.BreaksOff index message ([] ++ [.asked .run false]) :=
                .asked happlies
              exact ⟨hbreaks, List.forall_mem_singleton.2 asked⟩
      · rw [if_neg fit] at h
        cases h

theorem visit_upTo {host : Option Version} {e : Entry σ} {index : Nat} {p : Progress}
    {es : List Event} {c : Course} (h : Leads (visit host e index p) es (.done c)) :
    ∀ x ∈ es, x.UpTo index := by
  have asked : ∀ answer, (Event.asked .run answer).UpTo index := fun _ => upTo_of_none rfl
  rcases leads_visit h with ⟨rfl, -⟩ | ⟨es, rfl, passed, -⟩ | ⟨es, rs, rfl, -, tries⟩
  · exact List.forall_mem_singleton.2 (asked true)
  · refine List.forall_mem_cons.2 ⟨asked false, ?_⟩
    cases passed with
    | unfit => exact nofun
    | declined => exact List.forall_mem_singleton.2 (upTo_of_some rfl)
  · exact List.forall_mem_cons.2 ⟨asked false,
      List.forall_mem_cons.2 ⟨upTo_of_some rfl, tries_upTo tries⟩⟩

theorem pass_breaks {host : Option Version} {index : Nat} {entries : List (Entry σ)} {p : Progress}
    {es : List Event} (h : Leads (pass host index entries p) es (.breakdown message)) :
    BreaksOff entries index message es := by
  induction entries generalizing index p es with
  | nil =>
    cases h with
    | note h => cases h
  | cons e entries ih =>
    rcases breakdown_bind h with h | ⟨es₁, course, es₂, rfl, hvisit, h⟩
    · obtain ⟨hbreaks, hupTo⟩ := visit_breaks h
      exact ⟨0, e, rfl, hbreaks, hupTo⟩
    · cases course with
      | ended c => cases h
      | onward p =>
        obtain ⟨i, e', he', hbreaks, hupTo⟩ := ih h
        have hindex : index + 1 + i = index + (i + 1) := by omega
        rw [hindex] at hbreaks hupTo
        refine ⟨i + 1, e', he', hbreaks.prepend es₁, List.forall_mem_append.2 ⟨?_, hupTo⟩⟩
        exact fun x hx => (visit_upTo hvisit x hx).mono (Nat.le_add_right index (i + 1))

/-- **A run breaks down with one of its techniques**, and what comes later is left alone. -/
theorem run_breaksOff {c : Chain σ} {es : List Event} (h : Leads c.run es (.breakdown message)) :
    BreaksOff c.entries 0 message es := by
  rcases breakdown_bind h with h | ⟨es₁, result, es₂, rfl, -, h⟩
  · exact pass_breaks (breakdown_timedFrom h)
  · cases h

end CodePermit
