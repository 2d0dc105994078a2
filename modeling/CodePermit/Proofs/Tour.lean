import CodePermit.Chain
import CodePermit.Proofs.Leading
/-!
# Tours of a chain

A run goes from entry to entry and from attempt to attempt.  Which ways it can take, with what is
observed and what is recorded on each of them, is said here once, case by case; whatever holds of
all runs of a chain is proved by induction on these ways.

* `Tries` — the attempts on one entry;
* `leads_attemptOnce` — what is observed of one attempt;
* `Tour` — the entries of a chain, with one block of records for each entry visited;
* `rounds_tries`, `pass_tour` — the routines of a run take these ways and no other;
* `run_tour` — the tour behind the report of a run.
-/

namespace CodePermit

open Routine

variable {σ α : Type}

/-! ### Attempts on one entry -/

/-- What is observed of a rest. -/
def restEvents (length : Nat) : List Event :=
  if min length longestRest = 0 then [] else [.slept (min length longestRest)]

/-- What is observed between the announcement of an attempt and its beginning. -/
def leadIn (policy : Policy) (attempt : Nat) : List Event :=
  if attempt ≤ 1 then [] else restEvents policy.backoff ++ [.asked .run false]

/-- The attempts on an entry, with what is observed, what is recorded and how they end. -/
inductive Tries (e : Entry σ) (index : Nat) :
    (left attempt : Nat) → Progress → List Event → List Record → Course → Prop
  | spent {n : Nat} {p : Progress} : Tries e index 0 n p [] [] (.onward p)
  | interrupted {left n : Nat} {p : Progress} (later : 1 < n) :
      Tries e index (left + 1) n p
        (.published (.inProgress index n) :: (restEvents e.policy.backoff ++ [.asked .run true]))
        [] (.ended p.permitted)
  | granted {left n d : Nat} {p : Progress} {es : List Event}
      (once : Leads (attemptOnce e index n) es (.done (.granted, d))) :
      Tries e index (left + 1) n p
        (.published (.inProgress index n) :: (leadIn e.policy n ++ es))
        [⟨e.policy.technique, n, .granted, d⟩]
        (.ended ⟨p.records ++ [⟨e.policy.technique, n, .granted, d⟩],
          .succeeded e.policy.technique⟩)
  | unavailable {left n d : Nat} {p : Progress} {es : List Event}
      (once : Leads (attemptOnce e index n) es (.done (.unavailable, d))) :
      Tries e index (left + 1) n p
        (.published (.inProgress index n) :: (leadIn e.policy n ++ es))
        [⟨e.policy.technique, n, .unavailable, d⟩]
        (.onward (p.attempted e.policy n .unavailable d))
  | setback {left n d : Nat} {p : Progress} {o : Outcome} {w : Warning} {es es' : List Event}
      {rs : List Record} {course : Course} (bad : setback e.policy.technique n o = some w)
      (once : Leads (attemptOnce e index n) es (.done (o, d)))
      (rest : Tries e index left (n + 1) (p.attempted e.policy n o d) es' rs course) :
      Tries e index (left + 1) n p
        (.published (.inProgress index n) :: (leadIn e.policy n ++ es ++ .warned w :: es'))
        (⟨e.policy.technique, n, o, d⟩ :: rs) course

theorem leads_rest {n : Nat} {r : Routine σ α} {es : List Event} {b : α}
    (h : Leads (rest n r) es (.done b)) :
    ∃ es', es = restEvents n ++ es' ∧ Leads r es' (.done b) := by
  unfold rest pause at h
  unfold restEvents
  split at h
  · rename_i hz
    rw [if_pos hz]
    exact ⟨es, rfl, h⟩
  · rename_i hz
    rw [if_neg hz]
    cases h with
    | sleep h => exact ⟨_, rfl, h⟩

theorem leads_checkpoint {p : Progress} {next : Routine σ Course} {es : List Event} {c : Course}
    (h : Leads (checkpoint p next) es (.done c)) :
    es = [.asked .run true] ∧ c = .ended p.permitted ∨
      ∃ es', es = .asked .run false :: es' ∧ Leads next es' (.done c) := by
  obtain ⟨answer, es', rfl, hn⟩ := leads_ask h
  cases answer with
  | true =>
    obtain ⟨rfl, rfl⟩ := leads_done hn
    exact Or.inl ⟨rfl, rfl⟩
  | false => exact Or.inr ⟨es', rfl, hn⟩

theorem leads_interlude {e : Entry σ} {n : Nat} {p : Progress} {es : List Event} {c : Course}
    (h : Leads (interlude e n p) es (.done c)) :
    es = leadIn e.policy n ∧ c = .onward p ∨
      1 < n ∧ es = restEvents e.policy.backoff ++ [.asked .run true] ∧ c = .ended p.permitted := by
  unfold interlude at h
  unfold leadIn
  split at h
  · rename_i hn
    obtain ⟨rfl, rfl⟩ := leads_done h
    exact Or.inl ⟨(if_pos hn).symm, rfl⟩
  · rename_i hn
    obtain ⟨es', rfl, hc⟩ := leads_rest h
    rw [if_neg hn]
    rcases leads_checkpoint hc with ⟨rfl, rfl⟩ | ⟨es', rfl, hd⟩
    · exact Or.inr ⟨by omega, rfl, rfl⟩
    · obtain ⟨rfl, rfl⟩ := leads_done hd
      exact Or.inl ⟨rfl, rfl⟩

/-- Of an attempt it is observed that it begins, what the technique makes heard, and the answer of
the probe that decides on the outcome. -/
theorem leads_attemptOnce {e : Entry σ} {index n d : Nat} {es : List Event} {o : Outcome}
    (h : Leads (attemptOnce e index n) es (.done (o, d))) :
    ∃ asides reported confirmed,
      es = .attempted index n e.policy.timeout :: (asides ++ [.asked .run confirmed]) ∧
        (∀ x ∈ asides, x.isAside = true) ∧ o = Outcome.reconcile reported confirmed := by
  obtain ⟨es, rfl, h₁⟩ := leads_note h
  obtain ⟨asides, reported, es₂, rfl, h₂, h₃⟩ := leads_bind h₁
  obtain ⟨confirmed, es₃, rfl, h₄⟩ := leads_ask h₃
  obtain ⟨rfl, hr⟩ := leads_done h₄
  rw [Prod.mk.injEq] at hr
  have hk : Routine.Keeps .aside ((e.strategy.attempt e.policy.timeout).within e.policy.timeout) :=
    keeps_within _ (fun _ => rfl) (e.strategy.aside _)
  exact ⟨asides, _, confirmed, rfl, (h₂.keeps (keeps_timed hk)).1, hr.1⟩

/-- **The attempts on an entry take one of the ways listed.** -/
theorem rounds_tries {e : Entry σ} {index left n : Nat} {p : Progress} {es : List Event}
    {c : Course} (h : Leads (rounds e index left n p) es (.done c)) :
    ∃ rs, Tries e index left n p es rs c := by
  induction left generalizing n p es with
  | zero =>
    obtain ⟨rfl, rfl⟩ := leads_done h
    exact ⟨[], .spent⟩
  | succ left ih =>
    obtain ⟨es, rfl, hn⟩ := leads_note h
    obtain ⟨es₁, course, es₂, rfl, h₁, h₂⟩ := leads_bind hn
    rcases leads_interlude h₁ with ⟨rfl, rfl⟩ | ⟨later, rfl, rfl⟩
    · obtain ⟨es₃, ⟨o, d⟩, es₄, rfl, once, h₄⟩ := leads_bind h₂
      rw [← List.append_assoc]
      cases o with
      | granted =>
        obtain ⟨rfl, rfl⟩ := leads_done h₄
        rw [List.append_nil]
        exact ⟨_, .granted once⟩
      | unavailable =>
        obtain ⟨rfl, rfl⟩ := leads_done h₄
        rw [List.append_nil]
        exact ⟨_, .unavailable once⟩
      | denied reason =>
        obtain ⟨es₅, rfl, h₅⟩ := leads_note h₄
        obtain ⟨rs, hrs⟩ := ih h₅
        exact ⟨_, .setback rfl once hrs⟩
      | timedOut =>
        obtain ⟨es₅, rfl, h₅⟩ := leads_note h₄
        obtain ⟨rs, hrs⟩ := ih h₅
        exact ⟨_, .setback rfl once hrs⟩
    · obtain ⟨rfl, rfl⟩ := leads_done h₂
      rw [List.append_nil]
      exact ⟨[], .interrupted later⟩

/-! ### The entries of a chain -/

/-- An entry is passed over: the host does not qualify, or the strategy says that it does not
apply. -/
inductive PassedOver (host : Option Version) (e : Entry σ) (index : Nat) : List Event → Prop
  | unfit (h : e.policy.eligibility.permits host = false) : PassedOver host e index []
  | declined (h : e.policy.eligibility.permits host = true) :
      PassedOver host e index [.inspected index false]

/-- The entries of a chain from an index on, with what is observed, one block of records for each
entry visited, and the conclusion. -/
inductive Tour (host : Option Version) :
    (index : Nat) → List (Entry σ) → Progress → List Event → List (List Record) → Conclusion → Prop
  | exhausted {index : Nat} {p : Progress} :
      Tour host index [] p [.warned (.runFailed p.lastFailure)] [] p.exhausted
  | permitted {index : Nat} {p : Progress} {e : Entry σ} {entries : List (Entry σ)} :
      Tour host index (e :: entries) p [.asked .run true] [] p.permitted
  | skipped {index : Nat} {p : Progress} {e : Entry σ} {entries : List (Entry σ)}
      {es es' : List Event} {blocks : List (List Record)} {c : Conclusion}
      (passed : PassedOver host e index es)
      (rest : Tour host (index + 1) entries (p.record (.skip e.policy.technique)) es' blocks c) :
      Tour host index (e :: entries) p (.asked .run false :: (es ++ es'))
        ([.skip e.policy.technique] :: blocks) c
  | tried {index : Nat} {p p' : Progress} {e : Entry σ} {entries : List (Entry σ)}
      {es es' : List Event} {rs : List Record} {blocks : List (List Record)} {c : Conclusion}
      (fit : e.policy.eligibility.permits host = true)
      (tries : Tries e index e.policy.rounds 1 p es rs (.onward p'))
      (rest : Tour host (index + 1) entries p' es' blocks c) :
      Tour host index (e :: entries) p
        (.asked .run false :: .inspected index true :: (es ++ es')) (rs :: blocks) c
  | ended {index : Nat} {p : Progress} {e : Entry σ} {entries : List (Entry σ)}
      {es : List Event} {rs : List Record} {c : Conclusion}
      (fit : e.policy.eligibility.permits host = true)
      (tries : Tries e index e.policy.rounds 1 p es rs (.ended c)) :
      Tour host index (e :: entries) p (.asked .run false :: .inspected index true :: es) [rs] c

theorem leads_consult {s : Strategy σ} {index : Nat} {next : Bool → Routine σ α}
    {es : List Event} {b : α} (h : Leads (s.consult index next) es (.done b)) :
    ∃ answer es', es = .inspected index answer :: es' ∧ Leads (next answer) es' (.done b) := by
  cases h with
  | act time x h =>
    dsimp only at h
    split at h
    · obtain ⟨es', rfl, hn⟩ := leads_note h
      exact ⟨_, es', rfl, hn⟩
    · cases h

/-- The three ways in which a visit of an entry can go on from a probe that says no. -/
theorem leads_visit {host : Option Version} {e : Entry σ} {index : Nat} {p : Progress}
    {es : List Event} {c : Course} (h : Leads (visit host e index p) es (.done c)) :
    es = [.asked .run true] ∧ c = .ended p.permitted ∨
      (∃ es', es = .asked .run false :: es' ∧ PassedOver host e index es' ∧
        c = .onward (p.record (.skip e.policy.technique))) ∨
      ∃ es' rs, es = .asked .run false :: .inspected index true :: es' ∧
        e.policy.eligibility.permits host = true ∧ Tries e index e.policy.rounds 1 p es' rs c := by
  rcases leads_checkpoint h with ⟨rfl, rfl⟩ | ⟨es, rfl, hn⟩
  · exact Or.inl ⟨rfl, rfl⟩
  · refine Or.inr ?_
    by_cases fit : e.policy.eligibility.permits host = true
    · rw [if_pos fit] at hn
      obtain ⟨answer, es', rfl, ha⟩ := leads_consult hn
      cases answer with
      | true =>
        obtain ⟨rs, hrs⟩ := rounds_tries ha
        exact Or.inr ⟨es', rs, rfl, fit, hrs⟩
      | false =>
        obtain ⟨rfl, rfl⟩ := leads_done ha
        exact Or.inl ⟨_, rfl, .declined fit, rfl⟩
    · rw [if_neg fit] at hn
      obtain ⟨rfl, rfl⟩ := leads_done hn
      exact Or.inl ⟨[], rfl, .unfit (Bool.eq_false_iff.2 fit), rfl⟩

/-- **The entries of a chain are gone through in one of the ways listed.** -/
theorem pass_tour {host : Option Version} {index : Nat} {entries : List (Entry σ)} {p : Progress}
    {es : List Event} {c : Conclusion} (h : Leads (pass host index entries p) es (.done c)) :
    ∃ blocks, Tour host index entries p es blocks c := by
  induction entries generalizing index p es with
  | nil =>
    obtain ⟨es, rfl, hn⟩ := leads_note h
    obtain ⟨rfl, rfl⟩ := leads_done hn
    exact ⟨[], .exhausted⟩
  | cons e entries ih =>
    obtain ⟨es₁, course, es₂, rfl, h₁, h₂⟩ := leads_bind h
    rcases leads_visit h₁ with ⟨rfl, rfl⟩ | ⟨es, rfl, passed, rfl⟩ | ⟨es, rs, rfl, fit, tries⟩
    · obtain ⟨rfl, rfl⟩ := leads_done h₂
      exact ⟨[], .permitted⟩
    · obtain ⟨blocks, hb⟩ := ih h₂
      exact ⟨_, .skipped passed hb⟩
    · cases course with
      | ended c =>
        obtain ⟨rfl, rfl⟩ := leads_done h₂
        rw [List.append_nil]
        exact ⟨_, .ended fit tries⟩
      | onward p =>
        obtain ⟨blocks, hb⟩ := ih h₂
        exact ⟨_, .tried fit tries hb⟩

theorem leads_timedFrom {r : Routine σ α} {spent : Nat} {es : List Event} {a : α} {d : Nat}
    (h : Leads (r.timedFrom spent) es (.done (a, d))) : Leads r es (.done a) := by
  induction r generalizing spent es with
  | done b =>
    obtain ⟨rfl, hab⟩ := leads_done h
    rw [Prod.mk.injEq] at hab
    rw [hab.1]
    exact .here _
  | breakdown message => cases h
  | hang => cases h
  | sleep length next ih =>
    cases h with
    | sleep h => exact .sleep (ih h)
  | ask who next ih =>
    cases h with
    | ask answer h => exact .ask answer (ih answer h)
  | note event next ih =>
    cases h with
    | note h => exact .note (ih h)
  | act change next ih =>
    cases h with
    | act time s h => exact .act time s (ih time s h)

/-- **Behind the report of a run stands a tour of the chain.** -/
theorem run_tour {c : Chain σ} {es : List Event} {report : Report}
    (h : Leads c.run es (.done report)) :
    ∃ blocks, Tour c.host 0 c.entries {} es blocks ⟨report.records, report.phase⟩ := by
  obtain ⟨es₁, ⟨conclusion, d⟩, es₂, rfl, h₁, h₂⟩ := leads_bind h
  obtain ⟨rfl, rfl⟩ := leads_done h₂
  rw [List.append_nil]
  exact pass_tour (leads_timedFrom h₁)

end CodePermit
