import CodePermit.Proofs.Tour
/-!
# The verdict of the probe

A run asks the probe before each entry, after each pause and after each attempt, and nothing else
decides how it ends.  As soon as the probe says yes the run is over, with success; a run that fails
has heard nothing but no.

* `Unconfirmed`, `Confirmed` — the run was told no throughout, or yes at the very end;
* `tries_verdict`, `tour_verdict` — the verdict on the attempts on an entry and on a tour;
* `run_verdict` — the verdict on a run.
-/

namespace CodePermit

variable {σ : Type}

/-- Whenever the run asked the probe, it was told no. -/
def Unconfirmed (es : List Event) : Prop :=
  .asked .run true ∉ es

/-- The run was told yes at the very end and never before. -/
def Confirmed (es : List Event) : Prop :=
  ∃ es', es = es' ++ [.asked .run true] ∧ Unconfirmed es'

/-! ### Putting stretches together -/

theorem unconfirmed_nil : Unconfirmed [] := List.not_mem_nil

theorem unconfirmed_append {es es' : List Event} (h : Unconfirmed es) (h' : Unconfirmed es') :
    Unconfirmed (es ++ es') := by
  unfold Unconfirmed
  rw [List.mem_append]
  exact fun hmem => hmem.elim h h'

theorem unconfirmed_cons {e : Event} {es : List Event} (he : e ≠ .asked .run true)
    (h : Unconfirmed es) : Unconfirmed (e :: es) := by
  unfold Unconfirmed
  rw [List.mem_cons]
  exact fun hmem => hmem.elim (fun heq => he heq.symm) h

theorem confirmed_singleton : Confirmed [.asked .run true] := ⟨[], rfl, unconfirmed_nil⟩

theorem confirmed_append {es es' : List Event} (h : Unconfirmed es) (h' : Confirmed es') :
    Confirmed (es ++ es') := by
  obtain ⟨es'', rfl, hu⟩ := h'
  exact ⟨es ++ es'', (List.append_assoc _ _ _).symm, unconfirmed_append h hu⟩

theorem confirmed_cons {e : Event} {es : List Event} (he : e ≠ .asked .run true)
    (h : Confirmed es) : Confirmed (e :: es) := by
  have hfirst : Unconfirmed [e] := unconfirmed_cons he unconfirmed_nil
  exact confirmed_append hfirst h

/-- After a yes of the probe nothing more is observed. -/
theorem Confirmed.nothing_after {es before after : List Event} (h : Confirmed es)
    (hs : es = before ++ .asked .run true :: after) : after = [] := by
  obtain ⟨es', he, hu⟩ := h
  rcases List.eq_nil_or_concat after with rfl | ⟨rest, last, rfl⟩
  · rfl
  · rw [hs, List.concat_eq_append, ← List.cons_append, ← List.append_assoc] at he
    have hinit : before ++ .asked .run true :: rest = es' := (List.append_inj' he rfl).1
    exact absurd (hinit ▸ List.mem_append_right _ List.mem_cons_self) hu

/-! ### Attempts -/

theorem unconfirmed_restEvents (length : Nat) : Unconfirmed (restEvents length) := by
  unfold restEvents
  split
  · exact unconfirmed_nil
  · exact unconfirmed_cons nofun unconfirmed_nil

theorem unconfirmed_leadIn (policy : Policy) (attempt : Nat) :
    Unconfirmed (leadIn policy attempt) := by
  unfold leadIn
  split
  · exact unconfirmed_nil
  · exact unconfirmed_append (unconfirmed_restEvents _) (unconfirmed_cons nofun unconfirmed_nil)

/-- The outcome of an attempt is what the probe says at its end: a yes makes it a grant and ends
what is observed of it, and without a yes there is no grant. -/
theorem attempt_verdict {e : Entry σ} {index n d : Nat} {es : List Event} {o : Outcome}
    (h : Leads (attemptOnce e index n) es (.done (o, d))) :
    o = .granted ∧ Confirmed es ∨ o ≠ .granted ∧ Unconfirmed es := by
  obtain ⟨asides, reported, confirmed, rfl, ha, rfl⟩ := leads_attemptOnce h
  have hu : Unconfirmed (.attempted index n e.policy.timeout :: asides) := by
    refine unconfirmed_cons nofun fun hmem => ?_
    exact absurd (ha _ hmem) Bool.false_ne_true
  rw [ne_eq, Outcome.reconcile_eq_granted_iff]
  cases confirmed with
  | true => exact Or.inl ⟨rfl, confirmed_append hu confirmed_singleton⟩
  | false =>
    refine Or.inr ⟨Bool.false_ne_true, unconfirmed_append hu ?_⟩
    exact unconfirmed_cons nofun unconfirmed_nil

/-- What the probe has said when the attempts on an entry are over. -/
def Course.Verdict (es : List Event) : Course → Prop
  | .onward _ => Unconfirmed es
  | .ended c => c.phase.isSucceeded = true ∧ Confirmed es

theorem verdict_append {es es' : List Event} {course : Course} (h : Unconfirmed es)
    (h' : course.Verdict es') : course.Verdict (es ++ es') := by
  cases course with
  | onward p => exact unconfirmed_append h h'
  | ended c => exact ⟨h'.1, confirmed_append h h'.2⟩

theorem permitted_isSucceeded (p : Progress) : p.permitted.phase.isSucceeded = true := by
  unfold Progress.permitted
  split <;> rfl

theorem unconfirmed_announced (policy : Policy) (index n : Nat) :
    Unconfirmed (.published (.inProgress index n) :: leadIn policy n) :=
  unconfirmed_cons nofun
    (unconfirmed_leadIn policy n)

/-- **The attempts on an entry end the run exactly when the probe says yes.** -/
theorem tries_verdict {e : Entry σ} {index left n : Nat} {p : Progress} {es : List Event}
    {rs : List Record} {course : Course} (h : Tries e index left n p es rs course) :
    course.Verdict es := by
  induction h with
  | spent => exact unconfirmed_nil
  | @interrupted left n p later =>
    refine ⟨permitted_isSucceeded p, ?_⟩
    refine confirmed_cons nofun ?_
    exact confirmed_append (unconfirmed_restEvents _) confirmed_singleton
  | granted once =>
    rcases attempt_verdict once with ⟨-, hc⟩ | ⟨hne, -⟩
    · exact ⟨rfl, confirmed_append (unconfirmed_announced _ _ _) hc⟩
    · exact absurd rfl hne
  | unavailable once =>
    rcases attempt_verdict once with ⟨heq, -⟩ | ⟨-, hu⟩
    · cases heq
    · exact unconfirmed_append (unconfirmed_announced _ _ _) hu
  | @setback left n d p o w es es' rs course bad once rest ih =>
    rcases attempt_verdict once with ⟨rfl, -⟩ | ⟨-, hu⟩
    · cases bad
    · have hfirst : Unconfirmed (.published (.inProgress index n) :: (leadIn e.policy n ++ es)) :=
        unconfirmed_append (unconfirmed_announced _ _ _) hu
      have hwarned : Unconfirmed [.warned w] := unconfirmed_cons nofun unconfirmed_nil
      exact verdict_append hfirst (verdict_append hwarned ih)

/-! ### Runs -/

theorem unconfirmed_passedOver {host : Option Version} {e : Entry σ} {index : Nat}
    {es : List Event} (h : PassedOver host e index es) : Unconfirmed es := by
  cases h with
  | unfit => exact unconfirmed_nil
  | declined =>
    exact unconfirmed_cons nofun unconfirmed_nil

/-- A run has succeeded with a yes of the probe at the very end, or it has failed after all entries
and was told no throughout. -/
def Phase.Verdict (es : List Event) (phase : Phase) : Prop :=
  phase.isSucceeded = true ∧ Confirmed es ∨ (∃ f, phase = .failed f true) ∧ Unconfirmed es

theorem phase_verdict_append {es es' : List Event} {phase : Phase} (h : Unconfirmed es)
    (h' : phase.Verdict es') : phase.Verdict (es ++ es') := by
  rcases h' with ⟨hs, hc⟩ | ⟨hf, hu⟩
  · exact Or.inl ⟨hs, confirmed_append h hc⟩
  · exact Or.inr ⟨hf, unconfirmed_append h hu⟩

theorem unconfirmed_inspected (index : Nat) :
    Unconfirmed [.asked .run false, .inspected index true] :=
  unconfirmed_cons nofun
    (unconfirmed_cons nofun unconfirmed_nil)

/-- **A tour ends as the probe says.** -/
theorem tour_verdict {host : Option Version} {index : Nat} {entries : List (Entry σ)}
    {p : Progress} {es : List Event} {blocks : List (List Record)} {c : Conclusion}
    (h : Tour host index entries p es blocks c) : c.phase.Verdict es := by
  induction h with
  | @exhausted index p =>
    refine Or.inr ⟨⟨p.lastFailure, rfl⟩, ?_⟩
    exact unconfirmed_cons nofun unconfirmed_nil
  | @permitted index p e entries => exact Or.inl ⟨permitted_isSucceeded p, confirmed_singleton⟩
  | skipped passed rest ih =>
    have hfirst := unconfirmed_cons (e := .asked .run false) nofun (unconfirmed_passedOver passed)
    exact phase_verdict_append hfirst ih
  | @tried index p p' e entries es es' rs blocks c fit tries rest ih =>
    have hes : Unconfirmed es := tries_verdict tries
    exact phase_verdict_append (unconfirmed_append (unconfirmed_inspected index) hes) ih
  | @ended index p e entries es rs c fit tries =>
    obtain ⟨hs, hc⟩ := tries_verdict tries
    exact Or.inl ⟨hs, confirmed_append (unconfirmed_inspected index) hc⟩

/-- **A run ends as the probe says.** -/
theorem run_verdict {c : Chain σ} {es : List Event} {report : Report}
    (h : Leads c.run es (.done report)) : report.phase.Verdict es := by
  obtain ⟨blocks, ht⟩ := run_tour h
  exact tour_verdict ht

end CodePermit
