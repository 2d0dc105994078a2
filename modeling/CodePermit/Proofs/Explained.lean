import CodePermit.Proofs.Blame
/-!
# Whether a report explains a success

The report of a run that succeeds names a technique, and one would like to read in it what that
technique has done.  So one can, as long as the technique did something: but the credit goes to the
technique attempted last, even if the attempt brought nothing but that the technique is unavailable.
When the permission comes from elsewhere after that, nothing that was really done stands behind the
success.

* `mem_recordsBy`, `unavailable_admitted` — records of techniques that were unavailable come from
  what these said;
* `Explained` — a success with something behind it, and one with nothing;
* `Chain.Forthright`, `run_explained` — which successes have something behind them;
* `success_unexplained` — one that has nothing.
-/

namespace CodePermit

variable {σ : Type}

/-! ### Techniques that were unavailable -/

theorem mem_recordsBy {entries : List (Entry σ)} {blocks : List (List Record)} {i : Nat}
    {e : Entry σ} {rs : List Record} {r : Record} (he : entries[i]? = some e)
    (hrs : blocks[i]? = some rs) (hr : r ∈ rs) : (e, r) ∈ recordsBy entries blocks := by
  have hzip : (entries.zip blocks)[i]? = some (e, rs) := by
    simp [List.getElem?_zip_eq_some, he, hrs]
  rw [recordsBy, List.mem_flatMap]
  exact ⟨(e, rs), List.mem_of_getElem? hzip, List.mem_map_of_mem hr⟩

/-- A record of an attempt that found its technique unavailable comes from what the technique of
some entry has said of itself. -/
theorem unavailable_admitted {c : Chain σ} {es : List Event} {blocks : List (List Record)}
    {conclusion : Conclusion} (tour : Tour c.host 0 c.entries {} es blocks conclusion) {r : Record}
    (hmem : r ∈ conclusion.records) (hattempt : 1 ≤ r.attempt)
    (hr : r.outcome = .unavailable) :
    ∃ e ∈ c.entries, e.policy.technique = r.technique ∧ e.Admits .unavailable := by
  obtain ⟨extra, hrecords, hextra⟩ := tour_records tour
  have hblocks : r ∈ blocks.flatten := by
    rw [hrecords] at hmem
    rcases List.mem_append.1 hmem with hmem | hmem
    · simpa using hmem
    · -- a permission that was found before anything was tried is granted
      rcases hextra with rfl | ⟨rfl, -⟩
      · cases hmem
      · rw [List.mem_singleton.1 hmem] at hr
        cases hr
  obtain ⟨rs, hrs, hr'⟩ := List.mem_flatten.1 hblocks
  obtain ⟨i, hi⟩ := List.getElem?_of_mem hrs
  obtain ⟨e, he, hblock⟩ := tour_blocks tour List.suffix_rfl i rs hi
  refine ⟨e, List.mem_of_getElem? he, (hblock.technique r hr').symm, ?_⟩
  have hadmits := tour_admits tour (e, r) (mem_recordsBy he hi hr') hattempt
  rw [hr] at hadmits
  exact hadmits nofun

/-! ### Successes -/

/-- What a report tells of the technique that is credited with the success of a run. -/
inductive Explained (c : Chain σ) (report : Report) (t : Technique) : Prop
  /-- Something that was really done is recorded of it. -/
  | executed (h : ∃ r ∈ report.executed, r.technique = t)
  /-- It was attempted last, but all that is recorded of it is that it was unavailable, as it has
  said of itself; nothing was granted to anybody. -/
  | idle (h : ∀ r ∈ report.records, r.technique = t → r.outcome = .unavailable)
      (last : ∃ r, lastTried report.records = some r ∧ r.technique = t)
      (said : ∃ e ∈ c.entries, e.policy.technique = t ∧ e.Admits .unavailable)
      (ungranted : ∀ r ∈ report.records, r.outcome ≠ .granted)

/-- A technique does not find out in the course of an attempt that it is unavailable. -/
def Chain.Forthright (c : Chain σ) (t : Technique) : Prop :=
  ∀ e ∈ c.entries, e.policy.technique = t → ¬e.Admits .unavailable

theorem mem_executed {report : Report} {r : Record} :
    r ∈ report.executed ↔ r ∈ report.records ∧ r.outcome ≠ .unavailable := by
  simp [Report.executed]

theorem mem_of_lastTried {rs : List Record} {r : Record} (h : lastTried rs = some r) :
    r ∈ rs ∧ 1 ≤ r.attempt := by
  obtain ⟨hmem, hattempt⟩ := List.mem_filter.1 (List.mem_of_getLast? h)
  exact ⟨hmem, of_decide_eq_true hattempt⟩

theorem tour_explained {c : Chain σ} {es : List Event} {blocks : List (List Record)}
    {report : Report} {t : Technique}
    (tour : Tour c.host 0 c.entries {} es blocks ⟨report.records, report.phase⟩)
    (ht : report.phase = .succeeded t) : Explained c report t := by
  have hcredited := tour_credited tour consistent_start
  obtain ⟨r, hlast, rfl⟩ := hcredited.succeeded t ht
  obtain ⟨hmem, hattempt⟩ := mem_of_lastTried hlast
  by_cases hexecuted : ∃ r' ∈ report.executed, r'.technique = r.technique
  · exact .executed hexecuted
  · have hidle : ∀ r' ∈ report.records, r'.technique = r.technique → r'.outcome = .unavailable := by
      intro r' hr' htechnique
      apply Decidable.byContradiction
      intro ho
      exact hexecuted ⟨r', mem_executed.2 ⟨hr', ho⟩, htechnique⟩
    refine .idle hidle ⟨r, hlast, rfl⟩
      (unavailable_admitted tour hmem hattempt (hidle r hmem rfl)) ?_
    -- whatever is granted is credited with the success, and the technique that is has nothing
    intro r' hr' hgranted
    have hphase : report.phase = .succeeded r'.technique := hcredited.granted r' hr' hgranted
    rw [ht] at hphase
    have hsame : r'.technique = r.technique := (Phase.succeeded.inj hphase).symm
    rw [hidle r' hr' hsame] at hgranted
    cases hgranted

/-- **Which successes are explained.**  Unless one of its techniques breaks down a run ends with a
report.  If it succeeds, then something that was really done is recorded of the technique credited
with it, unless that technique has found out in its last attempt that it is unavailable. -/
theorem run_explained (c : Chain σ) (probe : Probe σ) (p : Playback σ) :
    (∃ report p', run probe c.run p = (.finished report, p') ∧
      ∀ t, report.phase = .succeeded t → Explained c report t ∧
        (c.Forthright t → ∃ r ∈ report.executed, r.technique = t)) ∨
    ¬c.Calm ∧ ∃ message p', run probe c.run p = (.brokenDown message, p') := by
  apply (run_ends c probe p).imp_left
  rintro ⟨report, p', hrun⟩
  obtain ⟨es, -, hleads⟩ := run_leads probe hrun
  obtain ⟨blocks, tour⟩ := run_tour hleads
  refine ⟨report, p', hrun, ?_⟩
  intro t ht
  have hexplained := tour_explained tour ht
  refine ⟨hexplained, ?_⟩
  intro hforthright
  cases hexplained with
  | executed h => exact h
  | idle h last said ungranted =>
    obtain ⟨e, he, htechnique, hadmits⟩ := said
    exact absurd hadmits (hforthright e he htechnique)

/-- A technique that was unavailable is credited with a permission that comes after its attempt,
and nothing at all was really done. -/
theorem success_unexplained :
    let idle : Strategy Nat := .always (fun _ => .done .unavailable) fun _ => trivial
    let chain : Chain Nat := ⟨[⟨.ofTechnique .selfElevation, idle⟩,
      ⟨.ofTechnique .companionHelper, idle⟩], none⟩
    ∃ report p', run (fun _ questions => (2 ≤ questions, questions + 1)) chain.run ⟨0, 0, []⟩ =
        (.finished report, p') ∧
      report.phase = .succeeded .selfElevation ∧
      report.records = [⟨.selfElevation, 1, .unavailable, 0⟩] ∧ report.executed = [] :=
  ⟨_, _, rfl, rfl, rfl, rfl⟩

end CodePermit
