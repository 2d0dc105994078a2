import CodePermit.Chain
import CodePermit.Proofs.Leading
/-!
# Ascent

A run announces what it is about to do, and the announcements only go up: from attempt to attempt on
one entry, and from entry to entry.  Whatever the run is told, it never announces an attempt that it
has announced before, or one that comes before it.

* `Phase.Later` — one announcement comes after another;
* `Climbs` — from a phase on, a routine announces later and later phases;
* `climbs_bind`, `climbs_of_aside` — how ascents are composed, and routines that announce nothing;
* `Leads.climbs` — an ascent goes on wherever a routine has come;
* `climbs_rounds`, `climbs_pass`, `climbs_run` — attempts, entries and runs go up.
-/

namespace CodePermit

open Routine

variable {σ α β : Type}

/-! ### Announcements one after another -/

/-- The second phase announces an attempt that comes after the one announced by the first: a later
attempt on the same entry, or an attempt on a later entry. -/
inductive Phase.Later : Phase → Phase → Prop
  | attempt {index n m : Nat} (h : n < m) : Later (.inProgress index n) (.inProgress index m)
  | entry {index index' n m : Nat} (h : index < index') :
      Later (.inProgress index n) (.inProgress index' m)

/-- Whoever can announce an attempt on an entry can go on to the next entry. -/
theorem Phase.Later.nextEntry {p : Phase} {index n m : Nat} (h : p.Later (.inProgress index n)) :
    p.Later (.inProgress (index + 1) m) := by
  cases h with
  | attempt h => exact .entry (Nat.lt_succ_self index)
  | entry h => exact .entry (Nat.lt_succ_of_lt h)

/-- The phase that is shown after an event. -/
def Event.showing (shown : Phase) : Event → Phase
  | published phase => phase
  | _ => shown

/-- What the event announces, if anything, comes after the phase that is shown. -/
def Event.Ascends (shown : Phase) : Event → Prop
  | published phase => shown.Later phase
  | _ => True

/-- While a phase is shown, the routine announces later and later ones; where it is over the phase
shown then is as stated. -/
def Climbs (post : Phase → Prop) : Phase → Routine σ α → Prop
  | shown, done _ => post shown
  | _, breakdown _ => True
  | _, hang => True
  | shown, sleep _ next => Climbs post shown next
  | shown, ask _ next => ∀ answer, Climbs post shown (next answer)
  | shown, note event next => event.Ascends shown ∧ Climbs post (event.showing shown) next
  | shown, act _ next => ∀ time s, Climbs post shown (next time s)

section Rules

variable {post post' : Phase → Prop} {shown : Phase}

/-- **One ascent after another is an ascent.** -/
theorem climbs_bind {r : Routine σ α} {f : α → Routine σ β} (hr : Climbs post shown r)
    (hf : ∀ a shown, post shown → Climbs post' shown (f a)) :
    Climbs post' shown (r.bind f) := by
  induction r generalizing shown with
  | done a => exact hf a shown hr
  | breakdown message => trivial
  | hang => trivial
  | sleep length next ih => exact ih hr
  | ask who next ih => exact fun answer => ih answer (hr answer)
  | note event next ih => exact ⟨hr.1, ih hr.2⟩
  | act change next ih => exact fun time s => ih time s (hr time s)

theorem climbs_timedFrom {r : Routine σ α} (spent : Nat) (hr : Climbs post shown r) :
    Climbs post shown (r.timedFrom spent) := by
  induction r generalizing shown spent with
  | done a => exact hr
  | breakdown message => trivial
  | hang => trivial
  | sleep length next ih => exact ih _ hr
  | ask who next ih => exact fun answer => ih answer _ (hr answer)
  | note event next ih => exact ⟨hr.1, ih _ hr.2⟩
  | act change next ih => exact fun time s => ih time s _ (hr time s)

/-- A technique announces nothing. -/
theorem climbs_of_aside {r : Routine σ α} (hr : r.Keeps .aside) (h : post shown) :
    Climbs post shown r := by
  induction r with
  | done a => exact h
  | breakdown message => trivial
  | hang => trivial
  | sleep length next ih => exact ih hr.2
  | ask who next ih => exact fun answer => ih answer (hr answer).2
  | note event next ih =>
    cases event with
    | published phase => cases hr.1
    | _ => exact ⟨trivial, ih hr.2⟩
  | act change next ih => exact fun time s => ih time s (hr time s)

/-- **What is left of an ascent is one**, from the phase that is shown by then. -/
theorem Leads.climbs {r s : Routine σ α} {es : List Event} (h : Leads r es s)
    (hr : Climbs post shown r) : Climbs post (es.foldl Event.showing shown) s := by
  induction h generalizing shown with
  | here r => exact hr
  | sleep h ih => exact ih hr
  | ask answer h ih => exact ih (hr answer)
  | note h ih => exact ih hr.2
  | act time s h ih => exact ih (hr time s)

/-- Whatever comes next in an ascent goes up. -/
theorem Leads.ascends {r s : Routine σ α} {e : Event} {es : List Event} (h : Leads r (e :: es) s)
    (hr : Climbs post shown r) : e.Ascends shown := by
  generalize hes : e :: es = all at h
  induction h with
  | here r => cases hes
  | sleep h ih =>
    cases hes
    trivial
  | ask answer h ih =>
    cases hes
    trivial
  | note h ih =>
    cases hes
    exact hr.1
  | act time s h ih => exact ih (hr time s) hes

end Rules

/-! ### Runs go up -/

section Runs

variable {post : Phase → Prop} {shown : Phase}

theorem climbs_checkpoint {p : Progress} {next : Routine σ Course} (h : post shown)
    (hn : Climbs post shown next) : Climbs post shown (checkpoint p next) := by
  intro answer
  cases answer with
  | true => exact h
  | false => exact hn

theorem climbs_interlude {e : Entry σ} {n : Nat} {p : Progress} (h : post shown) :
    Climbs post shown (interlude e n p) := by
  have hlook : Climbs post shown (checkpoint p (.done (.onward p)) : Routine σ Course) :=
    climbs_checkpoint h h
  unfold interlude rest pause
  split
  · exact h
  · split <;> exact hlook

theorem climbs_attemptOnce {e : Entry σ} {index n : Nat} (h : post shown) :
    Climbs post shown (attemptOnce e index n) := by
  have hk : Routine.Keeps .aside
      ((e.strategy.attempt e.policy.timeout).within e.policy.timeout).timed :=
    keeps_timed (keeps_within _ (fun _ => rfl) (e.strategy.aside _))
  exact ⟨trivial, climbs_bind (climbs_of_aside hk h) fun _ _ h _ => h⟩

/-- **The attempts on an entry go up**, and leave the next entry above them. -/
theorem climbs_rounds {e : Entry σ} {index left n : Nat} {p : Progress}
    (h : shown.Later (.inProgress index n)) :
    Climbs (fun q => q.Later (.inProgress (index + 1) 1)) shown (rounds e index left n p) := by
  induction left generalizing n p shown with
  | zero => exact h.nextEntry
  | succ left ih =>
    refine ⟨h, ?_⟩
    have hnext : (Phase.inProgress index n).Later (.inProgress index (n + 1)) :=
      .attempt (Nat.lt_succ_self n)
    -- from the announcement of this attempt to that of the next one nothing is announced
    have hinterlude : Climbs (· = .inProgress index n) (.inProgress index n) (interlude e n p) :=
      climbs_interlude rfl
    have honce : Climbs (· = .inProgress index n) (.inProgress index n) (attemptOnce e index n) :=
      climbs_attemptOnce rfl
    refine climbs_bind hinterlude ?_
    rintro (p | c) shown rfl
    · refine climbs_bind honce ?_
      rintro ⟨o, d⟩ shown rfl
      cases o with
      | granted => exact hnext.nextEntry
      | unavailable => exact hnext.nextEntry
      | denied reason => exact ⟨trivial, ih hnext⟩
      | timedOut => exact ⟨trivial, ih hnext⟩
    · exact hnext.nextEntry

theorem climbs_visit {host : Option Version} {e : Entry σ} {index : Nat} {p : Progress}
    (h : shown.Later (.inProgress index 1)) :
    Climbs (fun q => q.Later (.inProgress (index + 1) 1)) shown (visit host e index p) := by
  refine climbs_checkpoint h.nextEntry ?_
  dsimp only
  split
  · intro time s
    dsimp only
    split
    · refine ⟨trivial, ?_⟩
      split
      · exact climbs_rounds h
      · exact h.nextEntry
    · trivial
  · exact h.nextEntry

/-- **Entries one after another go up.** -/
theorem climbs_pass {host : Option Version} {index : Nat} {entries : List (Entry σ)} {p : Progress}
    (h : shown.Later (.inProgress index 1)) :
    Climbs (fun _ => True) shown (pass host index entries p) := by
  induction entries generalizing index p shown with
  | nil => exact ⟨trivial, trivial⟩
  | cons e entries ih =>
    refine climbs_bind (climbs_visit h) ?_
    rintro (p | c) shown h
    · exact ih h
    · trivial

/-- **A run goes up from its claim.** -/
theorem climbs_run (c : Chain σ) : Climbs (fun _ => True) .claimed c.run :=
  climbs_bind (climbs_timedFrom 0 (climbs_pass (.attempt Nat.zero_lt_one))) fun _ _ _ => trivial

end Runs

end CodePermit
