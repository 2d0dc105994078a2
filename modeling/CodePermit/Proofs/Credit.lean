import CodePermit.Proofs.RunShape
/-!
# Credit for a success

A run that succeeds credits its success to the technique attempted last.  It does so on each of its
three ways out: when an attempt is granted, when the probe says yes after a pause, and when it says
yes before an entry, whatever entries were passed over since the last attempt.  If nothing was
attempted, the permission was there before the run.

* `attemptsIn`, `attemptsOf`, `tour_attempts` — the attempts made are those of which the records
  tell;
* `lastAttempt`, `lastTried`, `tour_lastTried` — the attempt made last and its record;
* `tour_skips` — as long as nothing is attempted, entries are passed over;
* `Progress.Consistent`, `Conclusion.Credited`, `tour_credited` — what is credited on each way out;
* `Attribution`, `run_attributed` — to whom a run credits its success.
-/

namespace CodePermit

variable {σ : Type}

/-! ### Attempts and their records -/

/-- The record is that of an attempt, and not of an entry passed over. -/
def Record.isAttempt (r : Record) : Bool :=
  1 ≤ r.attempt

/-- The attempt that begins: the index of its entry, and its number. -/
def Event.attempted? : Event → Option (Nat × Nat)
  | attempted index n _ => some (index, n)
  | _ => none

/-- The attempts among events, in order. -/
def attemptsIn (es : List Event) : List (Nat × Nat) :=
  es.filterMap Event.attempted?

/-- The records of attempts in blocks, with the indices of their entries; the first block is that of
the entry at the given index. -/
def attemptsOf : (index : Nat) → List (List Record) → List (Nat × Record)
  | _, [] => []
  | index, rs :: blocks =>
    (rs.filter Record.isAttempt).map (Prod.mk index) ++ attemptsOf (index + 1) blocks

theorem attemptsIn_append (es es' : List Event) :
    attemptsIn (es ++ es') = attemptsIn es ++ attemptsIn es' :=
  List.filterMap_append

/-- Attempts are calls of strategies, so it is enough to look at these. -/
theorem attemptsIn_calls (es : List Event) :
    attemptsIn (es.filter Event.isCall) = attemptsIn es := by
  have hcall : Event.attempted? = fun e => if e.isCall then e.attempted? else none := by
    funext e
    cases e <;> rfl
  rw [attemptsIn, attemptsIn, List.filterMap_filter, ← hcall]

theorem passedOver_attempts {host : Option Version} {e : Entry σ} {index : Nat} {es : List Event}
    (h : PassedOver host e index es) : attemptsIn es = [] := by
  cases h <;> rfl

theorem tries_attempts {e : Entry σ} {index left n : Nat} {p : Progress} {es : List Event}
    {rs : List Record} {course : Course} (h : Tries e index left n p es rs course) :
    attemptsIn es = rs.map fun r => (index, r.attempt) := by
  rw [← attemptsIn_calls, tries_calls h, attemptsIn, List.filterMap_map]
  exact congrFun List.filterMap_eq_map rs

theorem TriedBlock.filter_isAttempt {index : Nat} {policy : Policy} {es : List Event} {left : Nat}
    {rs : List Record} (h : TriedBlock index policy es 1 left rs) :
    rs.filter Record.isAttempt = rs :=
  List.filter_eq_self.2 fun r hr => decide_eq_true (h.one_le r hr)

/-- **The attempts made are those of which the records tell**, in the same order. -/
theorem tour_attempts {host : Option Version} {index : Nat} {entries : List (Entry σ)}
    {p : Progress} {es : List Event} {blocks : List (List Record)} {c : Conclusion}
    (h : Tour host index entries p es blocks c) :
    attemptsIn es = (attemptsOf index blocks).map fun x => (x.1, x.2.attempt) := by
  induction h with
  | exhausted => rfl
  | permitted => rfl
  | @skipped index p e entries es es' blocks c passed rest ih =>
    show attemptsIn (es ++ es') = (attemptsOf (index + 1) blocks).map _
    rw [attemptsIn_append, passedOver_attempts passed, List.nil_append]
    exact ih
  | @tried index p p' e entries es es' rs blocks c fit tries rest ih =>
    have hfilter := (tries_block [] tries nofun).filter_isAttempt
    show attemptsIn (es ++ es') = _
    rw [attemptsIn_append, tries_attempts tries, ih, attemptsOf, hfilter, List.map_append,
      List.map_map]
    rfl
  | @ended index p e entries es rs c fit tries =>
    have hfilter := (tries_block _ tries fun _ _ => List.suffix_rfl).filter_isAttempt
    show attemptsIn es = _
    rw [tries_attempts tries, attemptsOf, attemptsOf, hfilter, List.append_nil, List.map_map]
    rfl

theorem attemptsOf_records (index : Nat) (blocks : List (List Record)) :
    (attemptsOf index blocks).map Prod.snd = blocks.flatten.filter Record.isAttempt := by
  induction blocks generalizing index with
  | nil => rfl
  | cons rs blocks ih =>
    rw [attemptsOf, List.map_append, ih, List.flatten_cons, List.filter_append, List.map_map]
    congr 1
    exact List.map_id _

theorem mem_attemptsOf {index i : Nat} {blocks : List (List Record)} {r : Record}
    (h : (i, r) ∈ attemptsOf index blocks) :
    ∃ k rs, i = index + k ∧ blocks[k]? = some rs ∧ r ∈ rs := by
  induction blocks generalizing index with
  | nil => cases h
  | cons rs blocks ih =>
    rcases List.mem_append.1 h with hfirst | hlater
    · obtain ⟨r', hr', heq⟩ := List.mem_map.1 hfirst
      cases heq
      exact ⟨0, rs, rfl, rfl, (List.mem_filter.1 hr').1⟩
    · obtain ⟨k, rs', hi, hk, hr⟩ := ih hlater
      exact ⟨k + 1, rs', by omega, hk, hr⟩

/-! ### The attempt made last -/

/-- The attempt made last: the index of its entry, and its number. -/
def lastAttempt (es : List Event) : Option (Nat × Nat) :=
  (attemptsIn es).getLast?

/-- The last record of an attempt. -/
def lastTried (rs : List Record) : Option Record :=
  (rs.filter Record.isAttempt).getLast?

theorem lastTried_append (rs rs' : List Record) :
    lastTried (rs ++ rs') = (lastTried rs').or (lastTried rs) := by
  rw [lastTried, List.filter_append, List.getLast?_append]
  rfl

/-- Records of entries passed over do not matter. -/
theorem lastTried_append_skip (rs : List Record) (t : Technique) :
    lastTried (rs ++ [.skip t]) = lastTried rs := by
  rw [lastTried_append]
  rfl

/-- An attempt that is recorded is the last one. -/
theorem lastTried_append_attempt (rs : List Record) {r : Record} (h : 1 ≤ r.attempt) :
    lastTried (rs ++ [r]) = some r := by
  have hr : [r].filter Record.isAttempt = [r] := List.filter_cons_of_pos (decide_eq_true h)
  rw [lastTried_append, lastTried, hr]
  rfl

/-- **The last record of an attempt is that of the attempt made last.** -/
theorem tour_lastTried {host : Option Version} {entries : List (Entry σ)} {p : Progress}
    {es : List Event} {blocks : List (List Record)} {c : Conclusion} {index n : Nat}
    (h : Tour host 0 entries p es blocks c) (hlast : lastAttempt es = some (index, n)) :
    ∃ rs r, blocks[index]? = some rs ∧ r ∈ rs ∧ r.attempt = n ∧
      lastTried blocks.flatten = some r := by
  rw [lastAttempt, tour_attempts h, List.getLast?_map] at hlast
  obtain ⟨⟨i, r⟩, hr, heq⟩ := Option.map_eq_some_iff.1 hlast
  cases heq
  obtain ⟨k, rs, rfl, hk, hmem⟩ := mem_attemptsOf (List.mem_of_getLast? hr)
  rw [Nat.zero_add]
  refine ⟨rs, r, hk, hmem, rfl, ?_⟩
  rw [lastTried, ← attemptsOf_records 0, List.getLast?_map, hr]
  rfl

/-- Without an attempt there is no record of one. -/
theorem tour_lastTried_none {host : Option Version} {index : Nat} {entries : List (Entry σ)}
    {p : Progress} {es : List Event} {blocks : List (List Record)} {c : Conclusion}
    (h : Tour host index entries p es blocks c) (hnone : attemptsIn es = []) :
    lastTried blocks.flatten = none := by
  rw [tour_attempts h] at hnone
  rw [lastTried, ← attemptsOf_records index, List.map_eq_nil_iff.1 hnone]
  rfl

/-- **As long as nothing is attempted, entries are passed over.** -/
theorem tour_skips {host : Option Version} {index : Nat} {entries : List (Entry σ)} {p : Progress}
    {es : List Event} {blocks : List (List Record)} {c : Conclusion}
    (h : Tour host index entries p es blocks c) (hnone : attemptsIn es = []) :
    blocks.flatten =
      (entries.take blocks.length).map fun e => Record.skip e.policy.technique := by
  induction h with
  | exhausted => rfl
  | permitted => rfl
  | @skipped index p e entries es es' blocks c passed rest ih =>
    have hlater : attemptsIn es' = [] := by
      have happend : attemptsIn (es ++ es') = [] := hnone
      rw [attemptsIn_append] at happend
      exact (List.append_eq_nil_iff.1 happend).2
    rw [List.flatten_cons, ih hlater, List.length_cons, List.take_succ_cons, List.map_cons]
    rfl
  | @tried index p p' e entries es es' rs blocks c fit tries rest ih =>
    -- an entry that is tried is attempted
    have hne : rs ≠ [] := (tries_block [] tries nofun).ne_nil e.policy.one_le_rounds
    have happend : attemptsIn (es ++ es') = [] := hnone
    rw [attemptsIn_append, tries_attempts tries] at happend
    exact absurd (List.map_eq_nil_iff.1 (List.append_eq_nil_iff.1 happend).1) hne
  | @ended index p e entries es rs c fit tries =>
    have hne : rs ≠ [] :=
      (tries_block _ tries fun _ _ => List.suffix_rfl).ne_nil e.policy.one_le_rounds
    have hes : attemptsIn es = [] := hnone
    rw [tries_attempts tries] at hes
    exact absurd (List.map_eq_nil_iff.1 hes) hne

/-! ### What is credited -/

/-- What a run has seen is in agreement with itself: the technique tried last is that of the last
record of an attempt, and nothing was granted so far. -/
structure Progress.Consistent (p : Progress) : Prop where
  tried : p.tried = (lastTried p.records).map Record.technique
  ungranted : ∀ r ∈ p.records, r.outcome ≠ .granted

/-- A success is credited to the technique of the last record of an attempt, and nothing was granted
but what ended the run. -/
structure Conclusion.Credited (c : Conclusion) : Prop where
  succeeded : ∀ t, c.phase = .succeeded t → ∃ r, lastTried c.records = some r ∧ r.technique = t
  onlyLast : ∀ r ∈ c.records.dropLast, r.outcome ≠ .granted
  granted : ∀ r ∈ c.records, r.outcome = .granted → c.phase = .succeeded r.technique

/-- What the attempts on an entry have led to. -/
def Course.Credited : Course → Prop
  | .onward p => p.Consistent
  | .ended c => c.Credited

theorem consistent_start : ({} : Progress).Consistent :=
  ⟨rfl, nofun⟩

namespace Progress.Consistent

variable {p : Progress}

theorem skip (h : p.Consistent) (t : Technique) : (p.record (.skip t)).Consistent where
  tried := by
    show p.tried = (lastTried (p.records ++ [.skip t])).map Record.technique
    rw [lastTried_append_skip, h.tried]
  ungranted := by
    intro r hr
    rcases List.mem_append.1 hr with hr | hr
    · exact h.ungranted r hr
    · rw [List.mem_singleton.1 hr]
      exact nofun

theorem attempted (h : p.Consistent) (policy : Policy) {n : Nat} {o : Outcome} (d : Nat)
    (hn : 1 ≤ n) (ho : o ≠ .granted) : (p.attempted policy n o d).Consistent where
  tried := by
    show some policy.technique = (lastTried (p.records ++ [_])).map Record.technique
    rw [lastTried_append_attempt p.records hn]
    rfl
  ungranted := by
    intro r hr
    rcases List.mem_append.1 hr with hr | hr
    · exact h.ungranted r hr
    · rw [List.mem_singleton.1 hr]
      exact ho

/-- A last attempt that is granted is credited. -/
theorem granted (h : p.Consistent) {r : Record} (hr : 1 ≤ r.attempt) :
    Conclusion.Credited ⟨p.records ++ [r], .succeeded r.technique⟩ where
  succeeded := by
    intro t ht
    cases ht
    exact ⟨r, lastTried_append_attempt p.records hr, rfl⟩
  onlyLast := by
    rw [List.dropLast_concat]
    exact h.ungranted
  granted := by
    intro r' hr' hgranted
    rcases List.mem_append.1 hr' with hr' | hr'
    · exact absurd hgranted (h.ungranted r' hr')
    · rw [List.mem_singleton.1 hr']

/-- A permission that is found there is credited to the technique tried last, or it was there before
the run. -/
theorem permitted (h : p.Consistent) : p.permitted.Credited := by
  unfold Progress.permitted
  split
  · exact h.granted (r := .detected) (Nat.le_refl 1)
  · rename_i t htried
    refine ⟨fun t' ht' => ?_, fun r hr => ?_, fun r hr hgranted => ?_⟩
    · cases ht'
      rw [h.tried] at htried
      exact Option.map_eq_some_iff.1 htried
    · exact h.ungranted r ((List.dropLast_sublist _).subset hr)
    · exact absurd hgranted (h.ungranted r hr)

theorem exhausted (h : p.Consistent) : p.exhausted.Credited where
  succeeded := nofun
  onlyLast := fun r hr => h.ungranted r ((List.dropLast_sublist _).subset hr)
  granted := fun r hr hgranted => absurd hgranted (h.ungranted r hr)

end Progress.Consistent

/-- **The attempts on an entry are credited to its technique.** -/
theorem tries_credited {e : Entry σ} {index left n : Nat} {p : Progress} {es : List Event}
    {rs : List Record} {course : Course} (h : Tries e index left n p es rs course) (hn : 1 ≤ n)
    (hp : p.Consistent) : course.Credited := by
  induction h with
  | spent => exact hp
  | interrupted later => exact hp.permitted
  | @granted left n d p es once =>
    exact hp.granted (r := ⟨e.policy.technique, n, .granted, d⟩) hn
  | @unavailable left n d p es once => exact hp.attempted e.policy d hn nofun
  | @setback left n d p o w es es' rs course bad once rest ih =>
    have ho : o ≠ .granted := by
      rintro rfl
      cases bad
    exact ih (Nat.le_add_left 1 n) (hp.attempted e.policy d hn ho)

/-- **A tour credits its success to the technique attempted last.** -/
theorem tour_credited {host : Option Version} {index : Nat} {entries : List (Entry σ)}
    {p : Progress} {es : List Event} {blocks : List (List Record)} {c : Conclusion}
    (h : Tour host index entries p es blocks c) (hp : p.Consistent) : c.Credited := by
  induction h with
  | exhausted => exact hp.exhausted
  | permitted => exact hp.permitted
  | @skipped index p e entries es es' blocks c passed rest ih =>
    exact ih (hp.skip e.policy.technique)
  | @tried index p p' e entries es es' rs blocks c fit tries rest ih =>
    have hp' : p'.Consistent := tries_credited tries (Nat.le_refl 1) hp
    exact ih hp'
  | @ended index p e entries es rs c fit tries => exact tries_credited tries (Nat.le_refl 1) hp

/-! ### Runs -/

/-- To whom a run credits its success, from what is observed of it and what it reports. -/
structure Attribution (c : Chain σ) (es : List Event) (report : Report) : Prop where
  /-- If no attempt was made, the permission was there before the run: so it is recorded after the
  entries that were passed over. -/
  detected : ∀ t, report.phase = .succeeded t → lastAttempt es = none →
    t = .preGranted ∧ ∃ n, report.records =
      ((c.entries.take n).map fun e => Record.skip e.policy.technique) ++ [.detected]
  /-- Otherwise the success is credited to the technique of the last record of an attempt, and that
  record is the one of the attempt made last. -/
  credited : ∀ t index n, report.phase = .succeeded t → lastAttempt es = some (index, n) →
    ∃ e r, c.entries[index]? = some e ∧ e.policy.technique = t ∧
      lastTried report.records = some r ∧ r.technique = t ∧ r.attempt = n
  /-- No record but the last one is granted. -/
  onlyLast : ∀ r ∈ report.records.dropLast, r.outcome ≠ .granted
  /-- A record that is granted is credited with the success of the run. -/
  granted : ∀ r ∈ report.records, r.outcome = .granted → report.phase = .succeeded r.technique

/-- The records of an entry visited are made under its technique. -/
theorem Block.technique {host : Option Version} {es : List Event} {index : Nat} {e : Entry σ}
    {rs : List Record} (h : Block host es index e rs) :
    ∀ r ∈ rs, r.technique = e.policy.technique := by
  cases h with
  | passedOver h => exact List.forall_mem_singleton.2 rfl
  | tried fit applies nonempty h => exact h.technique

theorem tour_attributed {c : Chain σ} {es : List Event} {blocks : List (List Record)}
    {report : Report}
    (tour : Tour c.host 0 c.entries {} es blocks ⟨report.records, report.phase⟩) :
    Attribution c es report := by
  have hcredited := tour_credited tour consistent_start
  obtain ⟨extra, hrecords, hextra⟩ := tour_records tour
  have hrecords : report.records = blocks.flatten ++ extra := hrecords
  refine ⟨fun t ht hlast => ?_, fun t index n ht hlast => ?_, hcredited.onlyLast,
    hcredited.granted⟩
  · have hnone : attemptsIn es = [] := List.getLast?_eq_none_iff.1 hlast
    obtain ⟨r, hr, rfl⟩ := hcredited.succeeded t ht
    have hr : lastTried report.records = some r := hr
    rw [hrecords, lastTried_append, tour_lastTried_none tour hnone, Option.or_none] at hr
    -- the credit goes to a record of an attempt, and only the one more record is left for that
    rcases hextra with rfl | ⟨rfl, -⟩
    · cases hr
    · cases hr
      refine ⟨rfl, blocks.length, ?_⟩
      rw [hrecords, tour_skips tour hnone]
  · obtain ⟨rs, r, hblock, hmem, hattempt, hlastTried⟩ := tour_lastTried tour hlast
    -- one more record there is only if no attempt was made
    have hnothing : extra = [] := by
      refine hextra.resolve_right fun h => ?_
      obtain ⟨-, -, hunattempted⟩ := h
      obtain ⟨e, he, heq⟩ := List.mem_filterMap.1 (List.mem_of_getLast? hlast)
      cases e with
      | attempted i m limit => exact hunattempted i m limit he
      | _ => cases heq
    obtain ⟨e, he, hb⟩ := tour_blocks tour List.suffix_rfl index rs hblock
    obtain ⟨r', hr', rfl⟩ := hcredited.succeeded t ht
    have hr' : lastTried report.records = some r' := hr'
    rw [hrecords, hnothing, List.append_nil] at hr' ⊢
    rw [hlastTried] at hr'
    cases hr'
    exact ⟨e, r, he, (hb.technique r hmem).symm, hlastTried, rfl, hattempt⟩

/-- **Whom a run credits with its success.**  Unless one of its techniques breaks down a run ends
with a report, and if it succeeds, it credits the technique attempted last, or the permission that
was there before if none was attempted; nothing is granted but at the end of a success. -/
theorem run_attributed (c : Chain σ) (probe : Probe σ) (p : Playback σ) :
    (∃ report p' es, run probe c.run p = (.finished report, p') ∧ p'.events = p.events ++ es ∧
      Attribution c (es.map Prod.snd) report) ∨
    ¬c.Calm ∧ ∃ message p', run probe c.run p = (.brokenDown message, p') := by
  refine (run_ends c probe p).imp_left ?_
  rintro ⟨report, p', hrun⟩
  obtain ⟨es, hevents, hleads⟩ := run_leads probe hrun
  obtain ⟨blocks, tour⟩ := run_tour hleads
  exact ⟨report, p', es, hrun, hevents, tour_attributed tour⟩

/-- An entry passed over after an attempt does not matter to whom a later permission is credited. -/
example :
    let refused : Strategy Nat := .always (fun _ => .done (.denied "no")) fun _ => trivial
    let switchedOff : Policy :=
      { Policy.ofTechnique .companionHelper with eligibility := { enabled := false } }
    let chain : Chain Nat := ⟨[⟨.ofTechnique .selfElevation, refused⟩, ⟨switchedOff, refused⟩,
      ⟨.ofTechnique .awaitDebugger, refused⟩], none⟩
    (run (fun _ questions => (3 ≤ questions, questions + 1)) chain.run ⟨0, 0, []⟩).1 =
      .finished ⟨[⟨.selfElevation, 1, .denied "no", 0⟩, .skip .companionHelper],
        .succeeded .selfElevation, 0⟩ := rfl

end CodePermit
