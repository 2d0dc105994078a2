import CodePermit.Proofs.Credit
import CodePermit.Proofs.Verdict
/-!
# Why a run fails

A run that fails gives a reason, and that reason stands in its report: it is what the last record
tells that tells anything.  A record of an entry passed over or of a technique that turned out to be
unavailable tells nothing.  Since several entries may try one technique under different limits, a
record is taken together with its entry.

* `recordsBy` — the records of a run, each with its entry;
* `lastTelling`, `Blames` — the last record that tells anything, and what it tells;
* `Accounts`, `tries_accounts`, `tour_accounts` — why a run would fail after some records;
* `Entry.Admits`, `tour_admits` — how the outcome of an attempt comes from what the technique says;
* `FailedRun`, `run_failure` — why a run fails.
-/

namespace CodePermit

variable {σ : Type}

/-! ### Records and their entries -/

/-- The records of the first entries of a chain, each with its entry. -/
def recordsBy (entries : List (Entry σ)) (blocks : List (List Record)) : List (Entry σ × Record) :=
  (entries.zip blocks).flatMap fun x => x.2.map (Prod.mk x.1)

theorem recordsBy_cons (e : Entry σ) (entries : List (Entry σ)) (rs : List Record)
    (blocks : List (List Record)) :
    recordsBy (e :: entries) (rs :: blocks) = rs.map (Prod.mk e) ++ recordsBy entries blocks :=
  rfl

theorem recordsBy_records {entries : List (Entry σ)} {blocks : List (List Record)}
    (h : blocks.length = entries.length) :
    (recordsBy entries blocks).map Prod.snd = blocks.flatten := by
  induction blocks generalizing entries with
  | nil =>
    rw [recordsBy, List.zip_nil_right]
    rfl
  | cons rs blocks ih =>
    cases entries with
    | nil => cases h
    | cons e entries =>
      have hrest := ih (Nat.succ.inj h)
      rw [recordsBy_cons, List.map_append, hrest, List.map_map, List.flatten_cons]
      congr 1
      exact List.map_id rs

/-! ### What records tell -/

/-- The last record that tells anything, with its entry. -/
def lastTelling (xs : List (Entry σ × Record)) : Option (Entry σ × Record) :=
  (xs.filter fun x => x.2.outcome ≠ .unavailable).getLast?

theorem lastTelling_append (xs ys : List (Entry σ × Record)) :
    lastTelling (xs ++ ys) = (lastTelling ys).or (lastTelling xs) := by
  rw [lastTelling, List.filter_append, List.getLast?_append]
  rfl

/-- A record under a policy tells that the technique was refused, for the reason recorded, or that
it ran out of the time that the policy allows. -/
inductive Blames (policy : Policy) (r : Record) : Failure → Prop
  | denied {reason : String} (h : r.outcome = .denied reason) :
      Blames policy r (.denied r.technique reason)
  | timedOut (h : r.outcome = .timedOut) : Blames policy r (.timedOut r.technique policy.timeout)

/-- Why a run would fail after some records, if it would have failed for the reason `sofar` before
them. -/
def Accounts (xs : List (Entry σ × Record)) (sofar failure : Option Failure) : Prop :=
  match lastTelling xs with
  | none => failure = sofar
  | some x => ∃ f, failure = some f ∧ Blames x.1.policy x.2 f

theorem accounts_nil (sofar : Option Failure) :
    Accounts ([] : List (Entry σ × Record)) sofar sofar :=
  rfl

theorem Accounts.append {xs ys : List (Entry σ × Record)} {f f' f'' : Option Failure}
    (h : Accounts xs f f') (h' : Accounts ys f' f'') : Accounts (xs ++ ys) f f'' := by
  unfold Accounts at *
  rw [lastTelling_append]
  cases hlast : lastTelling ys with
  | none =>
    rw [hlast] at h'
    rw [Option.none_or, h']
    exact h
  | some x =>
    rw [hlast] at h'
    rw [Option.some_or]
    exact h'

/-- A record that tells nothing changes nothing. -/
theorem accounts_unavailable (e : Entry σ) {r : Record} (h : r.outcome = .unavailable)
    (sofar : Option Failure) : Accounts [(e, r)] sofar sofar := by
  have hlast : lastTelling [(e, r)] = none := by simp [lastTelling, h]
  unfold Accounts
  rw [hlast]

/-- After a record that tells something the run would fail for the reason that it tells. -/
theorem accounts_of_blames {e : Entry σ} {r : Record} {f : Failure} (h : Blames e.policy r f)
    (sofar : Option Failure) : Accounts [(e, r)] sofar (some f) := by
  have ho : r.outcome ≠ .unavailable := by
    intro hu
    cases h with
    | denied h => cases hu.symm.trans h
    | timedOut h => cases hu.symm.trans h
  have hlast : lastTelling [(e, r)] = some (e, r) := by simp [lastTelling, ho]
  unfold Accounts
  rw [hlast]
  exact ⟨f, rfl, h⟩

/-- An attempt that brings a setback is why the run would fail after it. -/
theorem accounts_setback (e : Entry σ) (p : Progress) {n d : Nat} {o : Outcome} {w : Warning}
    (h : setback e.policy.technique n o = some w) :
    Accounts [(e, ⟨e.policy.technique, n, o, d⟩)] p.failure
      (p.attempted e.policy n o d).failure := by
  cases o with
  | granted => cases h
  | denied reason => exact accounts_of_blames (.denied rfl) p.failure
  | timedOut => exact accounts_of_blames (.timedOut rfl) p.failure
  | unavailable => cases h

/-- **The attempts on an entry account for why the run would fail after them.** -/
theorem tries_accounts {e : Entry σ} {index left n : Nat} {p p' : Progress} {es : List Event}
    {rs : List Record} (h : Tries e index left n p es rs (.onward p')) :
    Accounts (rs.map (Prod.mk e)) p.failure p'.failure := by
  generalize hcourse : Course.onward p' = course at h
  induction h with
  | spent =>
    cases hcourse
    exact accounts_nil _
  | interrupted later => cases hcourse
  | granted once => cases hcourse
  | @unavailable left n d p es once =>
    cases hcourse
    exact accounts_unavailable e rfl p.failure
  | @setback left n d p o w es es' rs course bad once rest ih =>
    have hfirst : Accounts [(e, ⟨e.policy.technique, n, o, d⟩)] p.failure
        (p.attempted e.policy n o d).failure := accounts_setback e p bad
    exact hfirst.append (ih hcourse)

/-- **A run that fails has come to all entries, and their records account for it.** -/
theorem tour_accounts {host : Option Version} {index : Nat} {entries : List (Entry σ)}
    {p : Progress} {es : List Event} {blocks : List (List Record)} {c : Conclusion}
    {failure : Failure} {exhausted : Bool} (h : Tour host index entries p es blocks c)
    (hc : c.phase = .failed failure exhausted) :
    exhausted = true ∧ blocks.length = entries.length ∧
      ∃ f, Accounts (recordsBy entries blocks) p.failure f ∧
        failure = f.getD .nothingApplicable := by
  induction h with
  | @exhausted index p =>
    cases hc
    exact ⟨rfl, rfl, p.failure, accounts_nil _, rfl⟩
  | @permitted index p e entries =>
    have hs := permitted_isSucceeded p
    rw [hc] at hs
    cases hs
  | @skipped index p e entries es es' blocks c passed rest ih =>
    obtain ⟨hx, hlength, f, haccounts, hf⟩ := ih hc
    have hskip : Accounts [(e, .skip e.policy.technique)] p.failure p.failure :=
      accounts_unavailable e rfl p.failure
    exact ⟨hx, congrArg (· + 1) hlength, f, hskip.append haccounts, hf⟩
  | @tried index p p' e entries es es' rs blocks c fit tries rest ih =>
    obtain ⟨hx, hlength, f, haccounts, hf⟩ := ih hc
    exact ⟨hx, congrArg (· + 1) hlength, f, (tries_accounts tries).append haccounts, hf⟩
  | @ended index p e entries es rs c fit tries =>
    have hs := (tries_verdict tries).1
    rw [hc] at hs
    cases hs

/-! ### What techniques say -/

/-- An outcome that the probe does not confirm: it is what the strategy says of itself under the
limit of the policy, or that it ran out of time; if it says that it was granted, it counts as
refused. -/
def Entry.Admits (e : Entry σ) (o : Outcome) : Prop :=
  ∃ heard said, Leads ((e.strategy.attempt e.policy.timeout).within e.policy.timeout) heard
    (.done said) ∧ o = (said.getD .timedOut).reconcile false

theorem attempt_admits {e : Entry σ} {index n d : Nat} {es : List Event} {o : Outcome}
    (h : Leads (attemptOnce e index n) es (.done (o, d))) (ho : o ≠ .granted) : e.Admits o := by
  obtain ⟨es, rfl, h₁⟩ := leads_note h
  obtain ⟨heard, ⟨said, d'⟩, es₂, rfl, h₂, h₃⟩ := leads_bind h₁
  obtain ⟨confirmed, es₃, rfl, h₄⟩ := leads_ask h₃
  cases (leads_done h₄).2
  cases confirmed with
  | true => exact absurd (Outcome.reconcile_eq_granted_iff.2 rfl) ho
  | false => exact ⟨heard, said, leads_timedFrom h₂, rfl⟩

theorem tries_admits {e : Entry σ} {index left n : Nat} {p : Progress} {es : List Event}
    {rs : List Record} {course : Course} (h : Tries e index left n p es rs course) :
    ∀ r ∈ rs, r.outcome ≠ .granted → e.Admits r.outcome := by
  induction h with
  | spent =>
    intro r hr
    cases hr
  | interrupted later =>
    intro r hr
    cases hr
  | granted once => exact List.forall_mem_singleton.2 (attempt_admits once)
  | unavailable once => exact List.forall_mem_singleton.2 (attempt_admits once)
  | setback bad once rest ih => exact List.forall_mem_cons.2 ⟨attempt_admits once, ih⟩

/-- **The outcomes of attempts that are not granted come from what the techniques say.** -/
theorem tour_admits {host : Option Version} {index : Nat} {entries : List (Entry σ)} {p : Progress}
    {es : List Event} {blocks : List (List Record)} {c : Conclusion}
    (h : Tour host index entries p es blocks c) :
    ∀ x ∈ recordsBy entries blocks, 1 ≤ x.2.attempt → x.2.outcome ≠ .granted →
      x.1.Admits x.2.outcome := by
  induction h with
  | exhausted =>
    intro x hx
    cases hx
  | permitted =>
    intro x hx
    rw [recordsBy, List.zip_nil_right] at hx
    cases hx
  | @skipped index p e entries es es' blocks c passed rest ih =>
    intro x hx hattempt ho
    rcases List.mem_append.1 hx with hx | hx
    · rw [List.mem_singleton.1 hx] at hattempt
      exact absurd hattempt (Nat.not_succ_le_zero 0)
    · exact ih x hx hattempt ho
  | @tried index p p' e entries es es' rs blocks c fit tries rest ih =>
    intro x hx hattempt ho
    rcases List.mem_append.1 hx with hx | hx
    · obtain ⟨r, hr, rfl⟩ := List.mem_map.1 hx
      exact tries_admits tries r hr ho
    · exact ih x hx hattempt ho
  | @ended index p e entries es rs c fit tries =>
    intro x hx hattempt ho
    rw [recordsBy_cons, recordsBy, List.zip_nil_right] at hx
    rcases List.mem_append.1 hx with hx | hx
    · obtain ⟨r, hr, rfl⟩ := List.mem_map.1 hx
      exact tries_admits tries r hr ho
    · cases hx

/-! ### Runs that fail -/

/-- Why a run has failed, from what is observed of it and from its records in blocks, one for each
entry. -/
structure FailedRun (c : Chain σ) (es : List Event) (report : Report) (failure : Failure)
    (blocks : List (List Record)) : Prop where
  /-- The records are those of the blocks. -/
  records_eq : report.records = blocks.flatten
  /-- Every entry of the chain has left a block of records, which is not empty. -/
  everyEntry : ∀ i e, c.entries[i]? = some e →
    ∃ rs, blocks[i]? = some rs ∧ rs ≠ [] ∧ Block c.host es i e rs
  /-- There are no other blocks. -/
  length_eq : blocks.length = c.entries.length
  /-- The last record that tells anything is the last one of what was really done. -/
  executed : (lastTelling (recordsBy c.entries blocks)).map Prod.snd = report.executed.getLast?
  /-- The run fails for the reason that this record tells. -/
  reason : ∀ e r, lastTelling (recordsBy c.entries blocks) = some (e, r) →
    Blames e.policy r failure
  /-- If nothing was really done, it fails since nothing was applicable. -/
  nothing : report.executed = [] → failure = .nothingApplicable
  /-- What is recorded of an attempt is what the technique has said, not confirmed by the probe. -/
  admitted : ∀ x ∈ recordsBy c.entries blocks, 1 ≤ x.2.attempt → x.1.Admits x.2.outcome

theorem Block.ne_nil {host : Option Version} {es : List Event} {index : Nat} {e : Entry σ}
    {rs : List Record} (h : Block host es index e rs) : rs ≠ [] := by
  cases h with
  | passedOver h => exact List.cons_ne_nil _ _
  | tried fit applies nonempty h => exact nonempty

/-- A run that fails has no record of a permission that was there before it. -/
theorem tour_failed_records {c : Chain σ} {es : List Event} {blocks : List (List Record)}
    {report : Report} {failure : Failure} {exhausted : Bool}
    (tour : Tour c.host 0 c.entries {} es blocks ⟨report.records, report.phase⟩)
    (hfailed : report.phase = .failed failure exhausted) :
    report.records = blocks.flatten ∧ ∀ r ∈ report.records, r.outcome ≠ .granted := by
  have hcredited := tour_credited tour consistent_start
  have hungranted : ∀ r ∈ report.records, r.outcome ≠ .granted := by
    intro r hr hgranted
    have hphase : report.phase = .succeeded r.technique := hcredited.granted r hr hgranted
    rw [hfailed] at hphase
    cases hphase
  obtain ⟨extra, hrecords, hextra⟩ := tour_records tour
  have hrecords : report.records = blocks.flatten ++ extra := hrecords
  refine ⟨?_, hungranted⟩
  rcases hextra with rfl | ⟨rfl, -⟩
  · rw [hrecords, List.append_nil]
  · have hmem : Record.detected ∈ report.records := by
      rw [hrecords]
      exact List.mem_append_right _ List.mem_cons_self
    exact absurd rfl (hungranted .detected hmem)

theorem tour_failedRun {c : Chain σ} {es : List Event} {blocks : List (List Record)}
    {report : Report} {failure : Failure} {exhausted : Bool}
    (tour : Tour c.host 0 c.entries {} es blocks ⟨report.records, report.phase⟩)
    (hfailed : report.phase = .failed failure exhausted) :
    exhausted = true ∧ FailedRun c es report failure blocks := by
  obtain ⟨hx, hlength, f, haccounts, hf⟩ := tour_accounts tour hfailed
  obtain ⟨hrecords, hungranted⟩ := tour_failed_records tour hfailed
  have hflatten : (recordsBy c.entries blocks).map Prod.snd = report.records :=
    (recordsBy_records hlength).trans hrecords.symm
  have hexecuted : (lastTelling (recordsBy c.entries blocks)).map Prod.snd =
      report.executed.getLast? := by
    rw [lastTelling, ← List.getLast?_map, Report.executed, ← hflatten, List.filter_map]
    rfl
  refine ⟨hx, hrecords, fun i e he => ?_, hlength, hexecuted, fun e r hlast => ?_, fun hnone => ?_,
    fun x hmem hattempt => ?_⟩
  · have hi : i < blocks.length := by
      rw [hlength]
      exact (List.getElem?_eq_some_iff.1 he).1
    obtain ⟨e', he', hblock⟩ :=
      tour_blocks tour List.suffix_rfl i blocks[i] (List.getElem?_eq_getElem hi)
    rw [he] at he'
    cases he'
    rw [Nat.zero_add] at hblock
    exact ⟨blocks[i], List.getElem?_eq_getElem hi, hblock.ne_nil, hblock⟩
  · unfold Accounts at haccounts
    rw [hlast] at haccounts
    obtain ⟨failure', rfl, hblames⟩ := haccounts
    rw [hf]
    exact hblames
  · have hlast : lastTelling (recordsBy c.entries blocks) = none := by
      rw [hnone] at hexecuted
      exact Option.map_eq_none_iff.1 hexecuted
    unfold Accounts at haccounts
    rw [hlast] at haccounts
    rw [hf, haccounts]
    rfl
  · refine tour_admits tour x hmem hattempt (hungranted x.2 ?_)
    rw [← hflatten]
    exact List.mem_map_of_mem hmem

/-- **Why a run fails.**  Unless one of its techniques breaks down a run ends with a report, and if
it fails, then all entries are exhausted, each of them has left a record, and the reason is what
the last record tells that tells anything, with the limit of the entry to which it belongs. -/
theorem run_failure (c : Chain σ) (probe : Probe σ) (p : Playback σ) :
    (∃ report p' es, run probe c.run p = (.finished report, p') ∧ p'.events = p.events ++ es ∧
      ∀ failure exhausted, report.phase = .failed failure exhausted →
        exhausted = true ∧ ∃ blocks, FailedRun c (es.map Prod.snd) report failure blocks) ∨
    ¬c.Calm ∧ ∃ message p', run probe c.run p = (.brokenDown message, p') := by
  refine (run_ends c probe p).imp_left ?_
  rintro ⟨report, p', hrun⟩
  obtain ⟨es, hevents, hleads⟩ := run_leads probe hrun
  obtain ⟨blocks, tour⟩ := run_tour hleads
  refine ⟨report, p', es, hrun, hevents, fun failure exhausted hfailed => ?_⟩
  obtain ⟨hx, hfailedRun⟩ := tour_failedRun tour hfailed
  exact ⟨hx, blocks, hfailedRun⟩

/-- The limit that is told is that of the entry that ran out of time, and not that of a later entry
for its technique. -/
example :
    let endless : Strategy Unit := .always (fun _ => .hang) fun _ => trivial
    let idle : Strategy Unit := .always (fun _ => .done .unavailable) fun _ => trivial
    let within (limit : Nat) : Policy := ⟨.selfElevation, 0, limit, 1, 0, {}⟩
    let chain : Chain Unit := ⟨[⟨within 5, endless⟩, ⟨within 7, idle⟩], none⟩
    (run (fun _ _ => (false, ())) chain.run ⟨0, (), []⟩).1 =
      .finished ⟨[⟨.selfElevation, 1, .timedOut, 5⟩, ⟨.selfElevation, 1, .unavailable, 0⟩],
        .failed (.timedOut .selfElevation 5) true, 5⟩ := rfl

end CodePermit
