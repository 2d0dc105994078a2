import CodePermit.Proofs.RunManners
import CodePermit.Proofs.Tour
/-!
# The shape of a run

The records of a run come in blocks, one for each entry visited and in the order of the entries: a
single record for an entry passed over, and otherwise the attempts numbered from one.  The calls of
the strategies can be read off the blocks, so no call is without a record and no record without a
call.

* `TriedBlock`, `tries_block` — the records of the attempts on an entry;
* `Block`, `tour_blocks` — the records of an entry;
* `tour_records` — the records of a run are its blocks, and perhaps one record without a call;
* `Entry.calls`, `tour_calls` — the calls of which the blocks tell;
* `RunShape`, `run_shape` — the shape of a run.
-/

namespace CodePermit

variable {σ : Type}

/-! ### Attempts on one entry -/

/-- After such an outcome an entry is not tried again. -/
def Outcome.isLast : Outcome → Bool
  | granted | unavailable => true
  | denied _ | timedOut => false

/-- The events end with an attempt that is announced and not made, since the probe says yes after
the pause before it. -/
def EndInPause (index : Nat) (policy : Policy) (attempt : Nat) (es : List Event) : Prop :=
  1 < attempt ∧
    .published (.inProgress index attempt) ::
      (restEvents policy.backoff ++ [.asked .run true]) <:+ es

/-- The records of attempts on an entry in the course of a run, numbered from the first one and at
most as many as were left. -/
structure TriedBlock (index : Nat) (policy : Policy) (es : List Event) (first left : Nat)
    (rs : List Record) : Prop where
  technique : ∀ r ∈ rs, r.technique = policy.technique
  numbered : rs.map Record.attempt = List.range' first rs.length
  notTooMany : rs.length ≤ left
  onlyLast : ∀ r ∈ rs.dropLast, r.outcome.isLast = false
  cutShort : rs.length < left → (∃ r, rs.getLast? = some r ∧ r.outcome.isLast = true) ∨
    EndInPause index policy (first + rs.length) es

theorem isLast_of_setback {t : Technique} {n : Nat} {o : Outcome} {w : Warning}
    (h : setback t n o = some w) : o.isLast = false := by
  cases o with
  | granted => cases h
  | denied reason => rfl
  | timedOut => rfl
  | unavailable => cases h

theorem triedBlock_singleton {index : Nat} {policy : Policy} {es : List Event} {n left d : Nat}
    {o : Outcome} (ho : o.isLast = true) :
    TriedBlock index policy es n (left + 1) [⟨policy.technique, n, o, d⟩] where
  technique := List.forall_mem_singleton.2 rfl
  numbered := rfl
  notTooMany := Nat.le_add_left 1 left
  onlyLast := nofun
  cutShort := fun _ => Or.inl ⟨_, rfl, ho⟩

theorem triedBlock_cons {index : Nat} {policy : Policy} {es : List Event} {n left d : Nat}
    {o : Outcome} {rs : List Record} (ho : o.isLast = false)
    (h : TriedBlock index policy es (n + 1) left rs) :
    TriedBlock index policy es n (left + 1) (⟨policy.technique, n, o, d⟩ :: rs) where
  technique := List.forall_mem_cons.2 ⟨rfl, h.technique⟩
  numbered := by
    rw [List.map_cons, h.numbered, List.length_cons, List.range'_succ]
  notTooMany := Nat.succ_le_succ h.notTooMany
  onlyLast := by
    cases rs with
    | nil => exact nofun
    | cons r rs =>
      rw [List.dropLast_cons_cons]
      exact List.forall_mem_cons.2 ⟨ho, h.onlyLast⟩
  cutShort := by
    rw [List.length_cons]
    intro hlt
    rcases h.cutShort (Nat.lt_of_succ_lt_succ hlt) with ⟨r, hr, hlast⟩ | hpause
    · refine Or.inl ⟨r, ?_, hlast⟩
      rw [List.getLast?_cons, hr]
      rfl
    · rw [show n + 1 + rs.length = n + (rs.length + 1) by omega] at hpause
      exact Or.inr hpause

/-- **The attempts on an entry leave a block of records.**  Events may come before, and after them
only if the run goes on. -/
theorem tries_block (es' : List Event) {e : Entry σ} {index left n : Nat} {p : Progress}
    {es : List Event} {rs : List Record} {course : Course}
    (h : Tries e index left n p es rs course) (hes : ∀ c, course = .ended c → es <:+ es') :
    TriedBlock index e.policy es' n left rs := by
  induction h with
  | spent => exact ⟨nofun, rfl, Nat.le_refl 0, nofun, fun h => absurd h (Nat.lt_irrefl 0)⟩
  | interrupted later =>
    exact ⟨nofun, rfl, Nat.zero_le _, nofun, fun _ => Or.inr ⟨later, hes _ rfl⟩⟩
  | granted once => exact triedBlock_singleton rfl
  | unavailable once => exact triedBlock_singleton rfl
  | setback bad once rest ih =>
    -- the events of later attempts come last, so what they end with is what all of them end with
    refine triedBlock_cons (isLast_of_setback bad) (ih fun c hc => ?_)
    refine List.IsSuffix.trans ?_ (hes c hc)
    exact (List.suffix_cons _ _).trans ((List.suffix_append _ _).trans (List.suffix_cons _ _))

/-- An entry that is tried is attempted at least once. -/
theorem TriedBlock.ne_nil {index : Nat} {policy : Policy} {es : List Event} {left : Nat}
    {rs : List Record} (h : TriedBlock index policy es 1 left rs) (hl : 1 ≤ left) : rs ≠ [] := by
  rintro rfl
  rcases h.cutShort hl with ⟨r, hr, -⟩ | hpause
  · cases hr
  · exact absurd hpause.1 (Nat.lt_irrefl 1)

/-- What the run has seen after the attempts on an entry: the records are added, and unless there
are none a technique was tried. -/
def Course.Recorded (p : Progress) (rs : List Record) : Course → Prop
  | .onward p' => p'.records = p.records ++ rs ∧ (p'.tried = none → p.tried = none ∧ rs = [])
  | .ended c => c.records = p.records ++ rs

theorem recorded_cons {p : Progress} {policy : Policy} {n d : Nat} {o : Outcome}
    {rs : List Record} {course : Course} (h : course.Recorded (p.attempted policy n o d) rs) :
    course.Recorded p (⟨policy.technique, n, o, d⟩ :: rs) := by
  cases course with
  | onward p' =>
    refine ⟨h.1.trans (List.append_assoc _ _ _), fun hp' => ?_⟩
    cases (h.2 hp').1
  | ended c => exact h.trans (List.append_assoc _ _ _)

theorem permitted_records {p : Progress} (h : p.tried ≠ none) :
    p.permitted.records = p.records := by
  unfold Progress.permitted
  split
  · rename_i hnone
    exact absurd hnone h
  · rfl

theorem tries_recorded {e : Entry σ} {index left n : Nat} {p : Progress} {es : List Event}
    {rs : List Record} {course : Course} (h : Tries e index left n p es rs course)
    (hp : 1 < n → p.tried ≠ none) : course.Recorded p rs := by
  induction h with
  | spent => exact ⟨(List.append_nil _).symm, fun h => ⟨h, rfl⟩⟩
  | interrupted later => exact (permitted_records (hp later)).trans (List.append_nil _).symm
  | granted once => exact rfl
  | unavailable once => exact ⟨rfl, nofun⟩
  | setback bad once rest ih => exact recorded_cons (ih fun _ => nofun)

/-! ### The records of a run -/

/-- The records of an entry that was visited in the course of a run. -/
inductive Block (host : Option Version) (es : List Event) (index : Nat) (e : Entry σ) :
    List Record → Prop
  | passedOver (h : e.policy.eligibility.permits host = false ∨ .inspected index false ∈ es) :
      Block host es index e [.skip e.policy.technique]
  | tried {rs : List Record} (fit : e.policy.eligibility.permits host = true)
      (applies : .inspected index true ∈ es) (nonempty : rs ≠ [])
      (h : TriedBlock index e.policy es 1 e.policy.rounds rs) : Block host es index e rs

/-- **Every entry visited leaves a block of records.** -/
theorem tour_blocks {host : Option Version} {index : Nat} {entries : List (Entry σ)} {p : Progress}
    {es es' : List Event} {blocks : List (List Record)} {c : Conclusion}
    (h : Tour host index entries p es blocks c) (hes : es <:+ es') (i : Nat) (rs : List Record)
    (hi : blocks[i]? = some rs) :
    ∃ e, entries[i]? = some e ∧ Block host es' (index + i) e rs := by
  induction h generalizing i with
  | exhausted => cases hi
  | permitted => cases hi
  | @skipped index p e entries es₁ es₂ blocks c passed rest ih =>
    cases i with
    | zero =>
      cases hi
      refine ⟨e, rfl, .passedOver ?_⟩
      cases passed with
      | unfit hu => exact Or.inl hu
      | declined hd => exact Or.inr (hes.subset (List.mem_cons_of_mem _ List.mem_cons_self))
    | succ i =>
      rw [show index + (i + 1) = index + 1 + i by omega]
      exact ih (((List.suffix_append _ _).trans (List.suffix_cons _ _)).trans hes) i hi
  | @tried index p p' e entries es₁ es₂ rs₁ blocks c fit tries rest ih =>
    cases i with
    | zero =>
      cases hi
      have hblock := tries_block es' tries nofun
      refine ⟨e, rfl, .tried fit ?_ (hblock.ne_nil e.policy.one_le_rounds) hblock⟩
      exact hes.subset (List.mem_cons_of_mem _ List.mem_cons_self)
    | succ i =>
      rw [show index + (i + 1) = index + 1 + i by omega]
      refine ih (List.IsSuffix.trans ?_ hes) i hi
      exact (List.suffix_append _ _).trans ((List.suffix_cons _ _).trans (List.suffix_cons _ _))
  | @ended index p e entries es₁ rs₁ c fit tries =>
    cases i with
    | zero =>
      cases hi
      have hsuffix : es₁ <:+ es' :=
        ((List.suffix_cons _ _).trans (List.suffix_cons _ _)).trans hes
      have hblock := tries_block es' tries fun _ _ => hsuffix
      refine ⟨e, rfl, .tried fit ?_ (hblock.ne_nil e.policy.one_le_rounds) hblock⟩
      exact hes.subset (List.mem_cons_of_mem _ List.mem_cons_self)
    | succ i => cases hi

/-- The strategy of an entry is called: it is asked whether it applies, or attempted. -/
def Event.isCall : Event → Bool
  | inspected _ _ | attempted _ _ _ => true
  | asked _ _ | published _ | requested _ | warned _ | called _ _ | slept _ => false

theorem isCall_of_isAside {e : Event} (h : e.isAside = true) : e.isCall = false := by
  cases e <;> first | rfl | cases h

/-- The attempts of which records tell. -/
def Policy.attempts (policy : Policy) (index : Nat) (rs : List Record) : List Event :=
  (rs.filter fun r => 1 ≤ r.attempt).map fun r => .attempted index r.attempt policy.timeout

/-- The calls of the strategy of an entry of which its block of records tells. -/
def Entry.calls (host : Option Version) (index : Nat) (e : Entry σ) (rs : List Record) :
    List Event :=
  (if e.policy.eligibility.permits host then
    [.inspected index (rs.any fun r => 1 ≤ r.attempt)] else []) ++ e.policy.attempts index rs

theorem restEvents_calls (length : Nat) : (restEvents length).filter Event.isCall = [] := by
  unfold restEvents
  split <;> rfl

theorem leadIn_calls (policy : Policy) (n : Nat) : (leadIn policy n).filter Event.isCall = [] := by
  unfold leadIn
  split
  · rfl
  · rw [List.filter_append, restEvents_calls]
    rfl

/-- The call that makes an attempt is the only one in it. -/
theorem attemptOnce_calls {e : Entry σ} {index n d : Nat} {es : List Event} {o : Outcome}
    (h : Leads (attemptOnce e index n) es (.done (o, d))) :
    es.filter Event.isCall = [.attempted index n e.policy.timeout] := by
  obtain ⟨asides, reported, confirmed, rfl, ha, -⟩ := leads_attemptOnce h
  have hasides : asides.filter Event.isCall = [] := by
    refine List.filter_eq_nil_iff.2 fun x hx => ?_
    rw [isCall_of_isAside (ha x hx)]
    exact Bool.false_ne_true
  rw [List.filter_cons_of_pos rfl, List.filter_append, hasides]
  rfl

theorem tries_calls {e : Entry σ} {index left n : Nat} {p : Progress} {es : List Event}
    {rs : List Record} {course : Course} (h : Tries e index left n p es rs course) :
    es.filter Event.isCall = rs.map fun r => .attempted index r.attempt e.policy.timeout := by
  induction h with
  | spent => rfl
  | interrupted later =>
    rw [List.filter_cons_of_neg Bool.false_ne_true, List.filter_append, restEvents_calls]
    rfl
  | granted once =>
    rw [List.filter_cons_of_neg Bool.false_ne_true, List.filter_append, leadIn_calls,
      attemptOnce_calls once]
    rfl
  | unavailable once =>
    rw [List.filter_cons_of_neg Bool.false_ne_true, List.filter_append, leadIn_calls,
      attemptOnce_calls once]
    rfl
  | setback bad once rest ih =>
    rw [List.filter_cons_of_neg Bool.false_ne_true, List.filter_append, List.filter_append,
      leadIn_calls, attemptOnce_calls once, List.filter_cons_of_neg Bool.false_ne_true, ih]
    rfl

/-- All attempts of a block are numbered from one. -/
theorem TriedBlock.one_le {index : Nat} {policy : Policy} {es : List Event} {left : Nat}
    {rs : List Record} (h : TriedBlock index policy es 1 left rs) : ∀ r ∈ rs, 1 ≤ r.attempt := by
  intro r hr
  have hmem : r.attempt ∈ List.range' 1 rs.length := h.numbered ▸ List.mem_map_of_mem hr
  exact (List.mem_range'_1.1 hmem).1

/-- An attempt is among the records of a block that is not empty. -/
theorem TriedBlock.any_attempt {index : Nat} {policy : Policy} {es : List Event} {left : Nat}
    {rs : List Record} (h : TriedBlock index policy es 1 left rs) (hne : rs ≠ []) :
    (rs.any fun r => 1 ≤ r.attempt) = true := by
  obtain ⟨r, hr⟩ := List.exists_mem_of_ne_nil rs hne
  exact List.any_eq_true.2 ⟨r, hr, decide_eq_true (h.one_le r hr)⟩

theorem TriedBlock.calls {e : Entry σ} {host : Option Version} {index : Nat} {es : List Event}
    {left : Nat} {rs : List Record} (h : TriedBlock index e.policy es 1 left rs)
    (fit : e.policy.eligibility.permits host = true) (hne : rs ≠ []) :
    e.calls host index rs =
      .inspected index true :: rs.map fun r => .attempted index r.attempt e.policy.timeout := by
  have hfilter : (rs.filter fun r => 1 ≤ r.attempt) = rs :=
    List.filter_eq_self.2 fun r hr => decide_eq_true (h.one_le r hr)
  rw [Entry.calls, if_pos fit, h.any_attempt hne, Policy.attempts, hfilter]
  rfl

theorem passedOver_calls {host : Option Version} {e : Entry σ} {index : Nat} {es : List Event}
    (h : PassedOver host e index es) :
    es.filter Event.isCall = e.calls host index [.skip e.policy.technique] := by
  cases h with
  | unfit h =>
    rw [Entry.calls, h]
    rfl
  | declined h =>
    rw [Entry.calls, if_pos h]
    rfl

/-- **The calls of the strategies are those of which the blocks tell**, in the same order. -/
theorem tour_calls {host : Option Version} {index : Nat} {entries : List (Entry σ)} {p : Progress}
    {es : List Event} {blocks : List (List Record)} {c : Conclusion}
    (h : Tour host index entries p es blocks c) :
    es.filter Event.isCall =
      ((entries.zip blocks).zipIdx index).flatMap fun x => x.1.1.calls host x.2 x.1.2 := by
  induction h with
  | exhausted => rfl
  | permitted => rw [List.zip_nil_right]; rfl
  | skipped passed rest ih =>
    rw [List.filter_cons_of_neg Bool.false_ne_true, List.filter_append, passedOver_calls passed, ih,
      List.zip_cons_cons, List.zipIdx_cons, List.flatMap_cons]
  | tried fit tries rest ih =>
    have hblock := tries_block [] tries nofun
    have hcalls := hblock.calls fit (hblock.ne_nil (Policy.one_le_rounds _))
    rw [List.filter_cons_of_neg Bool.false_ne_true, List.filter_cons_of_pos rfl,
      List.filter_append, tries_calls tries, ih, List.zip_cons_cons, List.zipIdx_cons,
      List.flatMap_cons, hcalls, List.cons_append]
  | ended fit tries =>
    have hblock := tries_block _ tries fun _ _ => List.suffix_rfl
    have hcalls := hblock.calls fit (hblock.ne_nil (Policy.one_le_rounds _))
    rw [List.filter_cons_of_neg Bool.false_ne_true, List.filter_cons_of_pos rfl, tries_calls tries,
      List.zip_cons_cons, List.zip_nil_right, List.zipIdx_singleton, List.flatMap_singleton, hcalls]

/-- No attempt is among the events. -/
def Unattempted (es : List Event) : Prop :=
  ∀ index n limit, .attempted index n limit ∉ es

theorem unattempted_skipped {host : Option Version} {e : Entry σ} {index : Nat}
    {es es' : List Event} (passed : PassedOver host e index es) (h : Unattempted es') :
    Unattempted (.asked .run false :: (es ++ es')) := by
  intro i n limit hmem
  cases passed with
  | unfit =>
    rcases List.mem_cons.1 hmem with heq | hmem
    · cases heq
    · exact h i n limit hmem
  | declined =>
    rcases List.mem_cons.1 hmem with heq | hmem
    · cases heq
    · rcases List.mem_cons.1 hmem with heq | hmem
      · cases heq
      · exact h i n limit hmem

/-- **The records of a run are its blocks**, with one more record if the permission was there before
anything was tried. -/
theorem tour_records {host : Option Version} {index : Nat} {entries : List (Entry σ)} {p : Progress}
    {es : List Event} {blocks : List (List Record)} {c : Conclusion}
    (h : Tour host index entries p es blocks c) :
    ∃ extra, c.records = p.records ++ blocks.flatten ++ extra ∧
      (extra = [] ∨ extra = [.detected] ∧ p.tried = none ∧ Unattempted es) := by
  induction h with
  | exhausted =>
    refine ⟨[], ?_, Or.inl rfl⟩
    rw [List.flatten_nil, List.append_nil, List.append_nil]
    rfl
  | @permitted index p e entries =>
    rw [List.flatten_nil, List.append_nil]
    unfold Progress.permitted
    split
    · rename_i hnone
      refine ⟨_, rfl, Or.inr ⟨rfl, hnone, fun i n limit hmem => ?_⟩⟩
      cases List.mem_singleton.1 hmem
    · exact ⟨[], (List.append_nil _).symm, Or.inl rfl⟩
  | @skipped index p e entries es es' blocks c passed rest ih =>
    obtain ⟨extra, hrecords, hextra⟩ := ih
    refine ⟨extra, ?_, hextra.imp_right fun h => ⟨h.1, h.2.1, unattempted_skipped passed h.2.2⟩⟩
    have hp : (p.record (.skip e.policy.technique)).records =
      p.records ++ [.skip e.policy.technique] := rfl
    rw [hrecords, hp, List.flatten_cons, ← List.append_assoc p.records]
  | @tried index p p' e entries es es' rs blocks c fit tries rest ih =>
    obtain ⟨extra, hrecords, hextra⟩ := ih
    obtain ⟨hp, htried⟩ := tries_recorded tries fun h => absurd h (Nat.lt_irrefl 1)
    refine ⟨extra, ?_, hextra.imp_right fun h => ?_⟩
    · rw [hrecords, hp, List.flatten_cons, ← List.append_assoc p.records]
    · have hblock := tries_block [] tries nofun
      exact absurd (htried h.2.1).2 (hblock.ne_nil (Policy.one_le_rounds _))
  | ended fit tries =>
    have hc := tries_recorded tries fun h => absurd h (Nat.lt_irrefl 1)
    refine ⟨[], ?_, Or.inl rfl⟩
    rw [List.flatten_cons, List.flatten_nil, List.append_nil, List.append_nil]
    exact hc

/-! ### Inspections -/

/-- The entry that is asked whether it applies. -/
def Event.inspected? : Event → Option Nat
  | inspected index _ => some index
  | _ => none

theorem inspected_calls (host : Option Version) (index : Nat) (e : Entry σ) (rs : List Record) :
    (e.calls host index rs).filterMap Event.inspected? =
      if e.policy.eligibility.permits host then [index] else [] := by
  have hattempts : (e.policy.attempts index rs).filterMap Event.inspected? = [] := by
    rw [Policy.attempts, List.filterMap_map, List.filterMap_eq_nil_iff]
    exact fun _ _ => rfl
  rw [Entry.calls, List.filterMap_append, hattempts, List.append_nil]
  split <;> rfl

theorem filterMap_inspected (es : List Event) :
    es.filterMap Event.inspected? = (es.filter Event.isCall).filterMap Event.inspected? := by
  have hcall : Event.inspected? = fun e => if e.isCall then e.inspected? else none := by
    funext e
    cases e <;> rfl
  rw [List.filterMap_filter, ← hcall]

/-- Entries are asked at most once each, and in their order. -/
theorem inspected_increasing (host : Option Version) (visited : List (Entry σ × List Record))
    (index : Nat) :
    (((visited.zipIdx index).flatMap fun x => x.1.1.calls host x.2 x.1.2).filterMap
      Event.inspected?).Pairwise (· < ·) ∧
    ∀ i ∈ ((visited.zipIdx index).flatMap fun x => x.1.1.calls host x.2 x.1.2).filterMap
      Event.inspected?, index ≤ i := by
  induction visited generalizing index with
  | nil => exact ⟨.nil, nofun⟩
  | cons x visited ih =>
    obtain ⟨hpairwise, hle⟩ := ih (index + 1)
    rw [List.zipIdx_cons, List.flatMap_cons, List.filterMap_append, inspected_calls]
    split
    · rw [List.singleton_append]
      refine ⟨List.pairwise_cons.2 ⟨hle, hpairwise⟩, List.forall_mem_cons.2 ⟨Nat.le_refl _, ?_⟩⟩
      exact fun i hi => Nat.le_of_succ_le (hle i hi)
    · rw [List.nil_append]
      exact ⟨hpairwise, fun i hi => Nat.le_of_succ_le (hle i hi)⟩

/-! ### Runs -/

/-- What is observed of a run and what it records have the same shape: blocks, one for each entry
visited, and perhaps one more record. -/
structure RunShape (c : Chain σ) (es : List Event) (records : List Record)
    (blocks : List (List Record)) (extra : List Record) : Prop where
  /-- The records are those of the blocks and the one more. -/
  records_eq : records = blocks.flatten ++ extra
  /-- The blocks are those of the first entries, without gaps. -/
  block : ∀ i rs, blocks[i]? = some rs → ∃ e, c.entries[i]? = some e ∧ Block c.host es i e rs
  /-- One more record there is only if no attempt was made. -/
  detected : extra = [] ∨ extra = [.detected] ∧ Unattempted es
  /-- The calls of the strategies are those of which the blocks tell, in the same order. -/
  calls : es.filter Event.isCall =
    ((c.entries.zip blocks).zipIdx).flatMap fun x => x.1.1.calls c.host x.2 x.1.2
  /-- An entry is asked at most once whether it applies. -/
  inspected : (es.filterMap Event.inspected?).Pairwise (· < ·)

/-- **The shape of a run.**  Unless one of its techniques breaks down a run ends with a report, and
its records and calls have the same shape. -/
theorem run_shape (c : Chain σ) (probe : Probe σ) (p : Playback σ) :
    (∃ report p' es blocks extra, run probe c.run p = (.finished report, p') ∧
      p'.events = p.events ++ es ∧
      RunShape c (es.map Prod.snd) report.records blocks extra) ∨
    ¬c.Calm ∧ ∃ message p', run probe c.run p = (.brokenDown message, p') := by
  refine (run_ends c probe p).imp_left ?_
  rintro ⟨report, p', hrun⟩
  obtain ⟨es, hevents, hleads⟩ := run_leads probe hrun
  obtain ⟨blocks, tour⟩ := run_tour hleads
  obtain ⟨extra, hrecords, hextra⟩ := tour_records tour
  have hcalls := tour_calls tour
  refine ⟨report, p', es, blocks, extra, hrun, hevents, hrecords, fun i rs hi => ?_,
    hextra.imp_right fun h => ⟨h.1, h.2.2⟩, hcalls, ?_⟩
  · have hblock := tour_blocks tour List.suffix_rfl i rs hi
    rwa [Nat.zero_add] at hblock
  · rw [filterMap_inspected, hcalls]
    exact (inspected_increasing c.host _ 0).1

end CodePermit
