import CodePermit.Proofs.Extension
import CodePermit.Proofs.Lockstep
import CodePermit.Proofs.ShortCircuit
import CodePermit.Proofs.Vigilance
/-!
# Entries switched off and entries left out

An entry for which the host does not qualify is looked at and passed over.  All that this costs is
one more question to the probe, and if the answer does not depend on how often the probe is asked
then the run might as well go without the entry: it is the same, but for the records of entries
passed over and for the numbers of the entries behind.

* `Strategy.Indifferent` — a strategy that does not tell apart surroundings that are alike;
* `Course.Agree`, `tallies_visit` — an entry is visited in lockstep by two runs that number it
  differently;
* `spared`, `place`, `Chain.without` — what is left without some entries, and how it is numbered;
* `pass_spared` — the entries of a chain with and without those for which the host does not qualify;
* `Spares`, `run_without` — the run of a chain with and without them.
-/

namespace CodePermit

open Routine

variable {σ : Type} {probe : Probe σ}

/-! ### Entries in lockstep -/

/-- The strategy does not tell apart surroundings that are alike. -/
structure Strategy.Indifferent (L : Likeness probe) (s : Strategy σ) : Prop where
  applicable : ∀ time x x', L.alike time x x' →
    (s.applicable time x).1 = (s.applicable time x').1 ∧
      L.alike time (s.applicable time x).2 (s.applicable time x').2
  attempt : ∀ limit, Tallies L Eq Eq (s.attempt limit) (s.attempt limit)

/-- Where the probe changes nothing when it is asked, every strategy is indifferent. -/
theorem indifferent_same (h : ∀ time s, (probe time s).2 = s) (s : Strategy σ) :
    s.Indifferent (Likeness.same h) := by
  refine ⟨fun time x x' heq => ?_, fun limit => tallies_same h (s.attempt limit)⟩
  obtain rfl : x = x' := heq
  exact ⟨rfl, rfl⟩

/-- Two runs with records from the past have made the same records since then. -/
structure Progress.Agree (past past' : List Record) (p p' : Progress) : Prop where
  records : ∃ rs, p.records = past ++ rs ∧ p'.records = past' ++ rs
  failure : p'.failure = p.failure
  tried : p'.tried = p.tried

/-- Two runs have concluded alike since then. -/
structure Conclusion.Agree (past past' : List Record) (c c' : Conclusion) : Prop where
  records : ∃ rs, c.records = past ++ rs ∧ c'.records = past' ++ rs
  phase : c'.phase = c.phase

/-- Two runs both go on, or both end. -/
inductive Course.Agree (past past' : List Record) : Course → Course → Prop
  | onward {p p' : Progress} (h : p.Agree past past' p') : Agree past past' (.onward p) (.onward p')
  | ended {c c' : Conclusion} (h : c.Agree past past' c') : Agree past past' (.ended c) (.ended c')

section Lockstep

variable {L : Likeness probe} {number : Nat → Nat} {past past' : List Record} {p p' : Progress}

/-- Both runs make the same record. -/
theorem agree_append {rs rs' : List Record} (r : List Record)
    (h : ∃ new, rs = past ++ new ∧ rs' = past' ++ new) :
    ∃ new, rs ++ r = past ++ new ∧ rs' ++ r = past' ++ new := by
  obtain ⟨new, rfl, rfl⟩ := h
  exact ⟨new ++ r, List.append_assoc _ _ _, List.append_assoc _ _ _⟩

theorem Progress.Agree.record (h : p.Agree past past' p') (r : Record) :
    (p.record r).Agree past past' (p'.record r) :=
  ⟨agree_append [r] h.records, h.failure, h.tried⟩

theorem Progress.Agree.attempted (h : p.Agree past past' p') (policy : Policy) (n : Nat)
    (o : Outcome) (d : Nat) :
    (p.attempted policy n o d).Agree past past' (p'.attempted policy n o d) := by
  refine ⟨agree_append _ h.records, ?_, rfl⟩
  cases o <;> first | rfl | exact h.failure

theorem Progress.Agree.permitted (h : p.Agree past past' p') :
    p.permitted.Agree past past' p'.permitted := by
  unfold Progress.permitted
  rw [h.tried]
  split
  · exact ⟨agree_append _ h.records, rfl⟩
  · exact ⟨h.records, rfl⟩

theorem tallies_checkpoint {next next' : Routine σ Course} (hp : p.Agree past past' p')
    (h : Tallies L (Event.ToldAs number) (Course.Agree past past') next next') :
    Tallies L (Event.ToldAs number) (Course.Agree past past') (checkpoint p next)
      (checkpoint p' next') := by
  refine .ask fun answer => ?_
  cases answer with
  | true => exact .done (.ended hp.permitted)
  | false => exact h

theorem tallies_interlude (e : Entry σ) (n : Nat) (hp : p.Agree past past' p') :
    Tallies L (Event.ToldAs number) (Course.Agree past past') (interlude e n p)
      (interlude e n p') := by
  unfold interlude
  split
  · exact .done (.onward hp)
  · exact tallies_rest _ (tallies_checkpoint hp (.done (.onward hp)))

theorem tallies_attemptOnce {e : Entry σ} (he : e.strategy.Indifferent L) (index n : Nat) :
    Tallies L (Event.ToldAs number) Eq (attemptOnce e index n)
      (attemptOnce e (number index) n) := by
  have hattempt : Tallies L (Event.ToldAs number) Eq (e.strategy.attempt e.policy.timeout)
      (e.strategy.attempt e.policy.timeout) := by
    refine (he.attempt e.policy.timeout).mono (e.strategy.aside _) fun event event' haside heq => ?_
    rw [Event.ToldAs, renumber_of_isAside number haside]
    exact heq.symm
  refine .note rfl (tallies_bind (tallies_timed (tallies_within _ hattempt)) ?_)
  rintro reported _ rfl
  exact .ask fun _ => .done rfl

/-- **The attempts on an entry are made in lockstep.** -/
theorem tallies_rounds {e : Entry σ} (he : e.strategy.Indifferent L) (index left n : Nat)
    (hp : p.Agree past past' p') :
    Tallies L (Event.ToldAs number) (Course.Agree past past') (rounds e index left n p)
      (rounds e (number index) left n p') := by
  induction left generalizing n p p' with
  | zero => exact .done (.onward hp)
  | succ left ih =>
    refine .note rfl (tallies_bind (tallies_interlude e n hp) ?_)
    rintro _ _ (⟨hp⟩ | ⟨hc⟩)
    · refine tallies_bind (tallies_attemptOnce he index n) ?_
      rintro ⟨o, d⟩ _ rfl
      have hattempted := hp.attempted e.policy n o d
      cases o with
      | granted => exact .done (.ended ⟨hattempted.records, rfl⟩)
      | unavailable => exact .done (.onward hattempted)
      | denied reason => exact .note rfl (ih (n + 1) hattempted)
      | timedOut => exact .note rfl (ih (n + 1) hattempted)
    · exact .done (.ended hc)

/-- **An entry is visited in lockstep** by two runs that number it differently. -/
theorem tallies_visit {e : Entry σ} (he : e.strategy.Indifferent L) (host : Option Version)
    (index : Nat) (hp : p.Agree past past' p') :
    Tallies L (Event.ToldAs number) (Course.Agree past past') (visit host e index p)
      (visit host e (number index) p') := by
  refine tallies_checkpoint hp ?_
  dsimp only
  split
  · refine .act (fun time x x' h => (he.applicable time x x' h).2) fun time x x' h => ?_
    rw [(he.applicable time x x' h).1]
    split
    · refine .note rfl ?_
      dsimp only
      split
      · exact tallies_rounds he index e.policy.rounds 1 hp
      · exact .done (.onward (hp.record _))
    · exact .breakdown _
  · exact .done (.onward (hp.record _))

end Lockstep

/-! ### Entries left out -/

section Spared

variable {α : Type} {deleted : Nat → Bool}

/-- What is left of a list, whose first element has an index, without the elements deleted. -/
def spared (deleted : Nat → Bool) : (index : Nat) → List α → List α
  | _, [] => []
  | index, a :: as =>
    if deleted index then spared deleted (index + 1) as
    else a :: spared deleted (index + 1) as

/-- The place of an element among those that are left. -/
def place (deleted : Nat → Bool) : (index : Nat) → Nat
  | 0 => 0
  | index + 1 => if deleted index then place deleted index else place deleted index + 1

theorem spared_sublist (deleted : Nat → Bool) (index : Nat) (as : List α) :
    (spared deleted index as).Sublist as := by
  induction as generalizing index with
  | nil => exact .slnil
  | cons a as ih =>
    unfold spared
    split
    · exact (ih (index + 1)).cons a
    · exact (ih (index + 1)).cons_cons a

/-- An element that is left is found at its place. -/
theorem getElem?_spared {index i : Nat} {as : List α} {a : α} (ha : as[i]? = some a)
    (hd : deleted (index + i) = false) :
    ∃ j, place deleted (index + i) = place deleted index + j ∧
      (spared deleted index as)[j]? = some a := by
  induction as generalizing index i with
  | nil => cases ha
  | cons a' as ih =>
    cases i with
    | zero =>
      cases ha
      have hkept : spared deleted index (a :: as) = a :: spared deleted (index + 1) as :=
        if_neg (Bool.eq_false_iff.1 hd)
      exact ⟨0, rfl, by rw [hkept]; rfl⟩
    | succ i =>
      have hshift : index + (i + 1) = index + 1 + i := by omega
      rw [hshift] at hd ⊢
      obtain ⟨j, hplace, hfound⟩ := ih ha hd
      unfold spared
      rw [hplace, place]
      split
      · exact ⟨j, rfl, hfound⟩
      · exact ⟨j + 1, by omega, hfound⟩

/-- The chain without the entries deleted. -/
def Chain.without (c : Chain σ) (deleted : Nat → Bool) : Chain σ :=
  { c with entries := spared deleted 0 c.entries }

end Spared

/-! ### Entries for which the host does not qualify -/

section Passes

variable {host : Option Version} {index : Nat} {e : Entry σ} {entries : List (Entry σ)}
  {p p' : Progress} {q q' : Playback σ}

/-- Where the probe says no, an entry for which the host does not qualify is passed over. -/
theorem run_pass_unfit (unfit : e.policy.eligibility.permits host = false)
    (hno : (q.ask probe .run).1 = false) :
    run probe (pass host index (e :: entries) p) q =
      run probe (pass host (index + 1) entries (p.record (.skip e.policy.technique)))
        (q.ask probe .run).2 := by
  rw [pass, visit, checkpoint, run_bind, run]
  dsimp only
  rw [if_neg (Bool.eq_false_iff.1 hno), if_neg (Bool.eq_false_iff.1 unfit)]
  rfl

/-- A visit after which the run goes on is the beginning of a tour. -/
theorem visit_onward {es : List Event} {p₁ : Progress}
    (h : Leads (visit host e index p) es (.done (.onward p₁))) :
    ∃ rs, p₁.records = p.records ++ rs ∧
      ∀ {entries es' blocks c}, Tour host (index + 1) entries p₁ es' blocks c →
        Tour host index (e :: entries) p (es ++ es') (rs :: blocks) c := by
  rcases leads_visit h with ⟨-, heq⟩ | ⟨es, rfl, passed, heq⟩ | ⟨es, rs, rfl, fit, tries⟩
  · cases heq
  · cases heq
    exact ⟨_, rfl, fun rest => .skipped passed rest⟩
  · have hrecorded := tries_recorded tries fun h => absurd h (Nat.lt_irrefl 1)
    exact ⟨rs, hrecorded.1, fun rest => .tried fit tries rest⟩

/-- A visit that ends the run is a tour, with one block of records at most. -/
theorem visit_ended (entries : List (Entry σ)) {es : List Event} {c : Conclusion}
    (h : Leads (visit host e index p) es (.done (.ended c))) :
    ∃ rs : Option (List Record), Tour host index (e :: entries) p es rs.toList c := by
  rcases leads_visit h with ⟨rfl, heq⟩ | ⟨es, -, -, heq⟩ | ⟨es, rs, rfl, fit, tries⟩
  · cases heq
    exact ⟨none, .permitted⟩
  · cases heq
  · exact ⟨some rs, .ended fit tries⟩

/-- What two passes conclude of which one goes without the entries deleted: the other one has a
block of records for each entry visited, and this one has the blocks of the entries that are
left. -/
structure Thinned (host : Option Version) (deleted : Nat → Bool) (index : Nat)
    (entries : List (Entry σ)) (p p' : Progress) (es : List Event) (c c' : Conclusion) : Prop where
  phase : c'.phase = c.phase
  blocks : ∃ blocks extra, Tour host index entries p es blocks c ∧
    c.records = p.records ++ blocks.flatten ++ extra ∧
    c'.records = p'.records ++ (spared deleted index blocks).flatten ++ extra

variable {deleted : Nat → Bool} {es : List Event} {c c' : Conclusion}

/-- An entry that is left out leaves a record only in one of the two passes. -/
theorem Thinned.leftOut (hd : deleted index = true)
    (unfit : e.policy.eligibility.permits host = false)
    (h : Thinned host deleted (index + 1) entries (p.record (.skip e.policy.technique)) p' es c
      c') :
    Thinned host deleted index (e :: entries) p p' (.asked .run false :: es) c c' := by
  obtain ⟨hphase, blocks, extra, tour, hrecords, hleft⟩ := h
  refine ⟨hphase, [.skip e.policy.technique] :: blocks, extra, .skipped (.unfit unfit) tour, ?_, ?_⟩
  · rw [hrecords, List.flatten_cons, ← List.append_assoc p.records]
    rfl
  · rw [spared, if_pos hd, hleft]

/-- An entry that is left leaves the same records in both. -/
theorem Thinned.visited {es' : List Event} {rs : List Record} {p₁ p₁' : Progress}
    (hd : deleted index = false) (hp : p₁.records = p.records ++ rs)
    (hp' : p₁'.records = p'.records ++ rs)
    (visit : ∀ {entries es' blocks c}, Tour host (index + 1) entries p₁ es' blocks c →
      Tour host index (e :: entries) p (es ++ es') (rs :: blocks) c)
    (h : Thinned host deleted (index + 1) entries p₁ p₁' es' c c') :
    Thinned host deleted index (e :: entries) p p' (es ++ es') c c' := by
  obtain ⟨hphase, blocks, extra, tour, hrecords, hleft⟩ := h
  refine ⟨hphase, rs :: blocks, extra, visit tour, ?_, ?_⟩
  · rw [hrecords, hp, List.flatten_cons, ← List.append_assoc p.records]
  · rw [spared, if_neg (Bool.eq_false_iff.1 hd), hleft, hp', List.flatten_cons,
      ← List.append_assoc p'.records]

/-- Where the run ends the same records are left in both. -/
theorem Thinned.ended {blocks : List (List Record)}
    (hspared : spared deleted index blocks = blocks)
    (tour : Tour host index entries p es blocks c) (h : c.Agree p.records p'.records c') :
    Thinned host deleted index entries p p' es c c' := by
  obtain ⟨⟨new, hnew, hnew'⟩, hphase⟩ := h
  obtain ⟨extra, hrecords, -⟩ := tour_records tour
  have hboth : new = blocks.flatten ++ extra := by
    rw [hnew, List.append_assoc] at hrecords
    exact List.append_cancel_left hrecords
  refine ⟨hphase, blocks, extra, tour, hrecords, ?_⟩
  rw [hspared, hnew', hboth, List.append_assoc]

theorem Likeness.steady (L : Likeness probe) : Steady probe :=
  fun time s => (L.answers (L.asked time s)).symm

/-- A pass that has ended ends alike without the entries deleted, where it takes up with the entries
behind them. -/
def EndsAlike (L : Likeness probe) (host : Option Version) (deleted : Nat → Bool) (index : Nat)
    (entries : List (Entry σ)) (p p' : Progress) (q q' : Playback σ) (c : Conclusion)
    (q₁ : Playback σ) : Prop :=
  ∃ c' q₁' es,
    run probe (pass host (place deleted index) (spared deleted index entries) p') q' =
      (.finished c', q₁') ∧
    Abreast L (place deleted) q₁ q₁' ∧ q₁.events = q.events ++ es ∧
    Thinned host deleted index entries p p' (es.map Prod.snd) c c'

section Steps

variable {L : Likeness probe} {q₁ : Playback σ}

/-- When all entries are tried both give up for the same reason. -/
theorem alike_exhausted (hq : Abreast L (place deleted) q q') (hfailure : p'.failure = p.failure)
    (h : run probe (pass host index [] p) q = (.finished c, q₁)) :
    EndsAlike L host deleted index [] p p' q q' c q₁ := by
  have hend : (Ending.finished p.exhausted, q.observe (.warned (.runFailed p.lastFailure))) =
      (.finished c, q₁) := h
  have hsame : p'.lastFailure = p.lastFailure := by
    rw [Progress.lastFailure, hfailure]
    rfl
  cases hend
  refine ⟨p'.exhausted, q'.observe (.warned (.runFailed p'.lastFailure)),
    [(q.clock, .warned (.runFailed p.lastFailure))], rfl, ?_, List.reverse_cons, ?_, [], [],
    .exhausted, ?_, ?_⟩
  · rw [hsame]
    exact hq.observe (.warned (.runFailed p.lastFailure))
  · rw [Progress.exhausted, Progress.exhausted, hsame]
  · simp [Progress.exhausted]
  · simp [Progress.exhausted, spared]

theorem ask_events (probe : Probe σ) (q : Playback σ) :
    (q.ask probe .run).2.events = q.events ++ [(q.clock, .asked .run (q.ask probe .run).1)] :=
  List.reverse_cons

/-- If the question asked for an entry left out ends the run, then the one asked for the next entry
that is left does so. -/
theorem alike_permitted (hd : deleted index = true)
    (hleft : spared deleted (index + 1) entries ≠ []) (hyes : (q.ask probe .run).1 = true)
    (hq : Abreast L (place deleted) q q') (hp : p.Agree p.records p'.records p')
    (h : run probe (pass host index (e :: entries) p) q = (.finished c, q₁)) :
    EndsAlike L host deleted index (e :: entries) p p' q q' c q₁ := by
  obtain ⟨next, rest, hnext⟩ := List.exists_cons_of_ne_nil hleft
  have hspared : spared deleted index (e :: entries) = next :: rest := (if_pos hd).trans hnext
  obtain ⟨hanswer, hasked⟩ := hq.ask .run
  have hevents := ask_events probe q
  rw [run_pass_permitted hyes] at h
  cases h
  rw [hyes] at hevents
  have tour : Tour host index (e :: entries) p [.asked .run true] [] p.permitted := .permitted
  refine ⟨p'.permitted, (q'.ask probe .run).2, _, ?_, hasked, hevents,
    .ended rfl tour hp.permitted⟩
  rw [hspared]
  exact run_pass_permitted (hanswer.trans hyes)

/-- A question asked for an entry left out goes unheard if the probe says no. -/
theorem alike_leftOut (hd : deleted index = true)
    (unfit : e.policy.eligibility.permits host = false) (hno : (q.ask probe .run).1 = false)
    (rest : EndsAlike L host deleted (index + 1) entries (p.record (.skip e.policy.technique)) p'
      (q.ask probe .run).2 q' c q₁) :
    EndsAlike L host deleted index (e :: entries) p p' q q' c q₁ := by
  have hspared : spared deleted index (e :: entries) = spared deleted (index + 1) entries :=
    if_pos hd
  have hplace : place deleted (index + 1) = place deleted index := if_pos hd
  obtain ⟨c', q₁', es, hrun', hq₁, hevents, hthinned⟩ := rest
  rw [hplace] at hrun'
  refine ⟨c', q₁', (q.clock, .asked .run false) :: es, ?_, hq₁, ?_, .leftOut hd unfit hthinned⟩
  · rw [hspared]
    exact hrun'
  · rw [hevents, ask_events, hno, List.append_assoc]
    rfl

/-- **An entry that is left is visited in lockstep**, and if the run goes on then the probe would
say no. -/
theorem alike_visited (hd : deleted index = false) (indifferent : e.strategy.Indifferent L)
    (discreet : ∀ time s, (probe time (e.strategy.applicable time s).2).1 = (probe time s).1)
    (hq : Abreast L (place deleted) q q') (hp : p.Agree p.records p'.records p')
    (h : run probe (pass host index (e :: entries) p) q = (.finished c, q₁))
    (rest : ∀ {p p' q q'}, Abreast L (place deleted) q q' → p'.failure = p.failure →
      p'.tried = p.tried → Denied probe q →
      run probe (pass host (index + 1) entries p) q = (.finished c, q₁) →
        EndsAlike L host deleted (index + 1) entries p p' q q' c q₁) :
    EndsAlike L host deleted index (e :: entries) p p' q q' c q₁ := by
  have hspared : spared deleted index (e :: entries) = e :: spared deleted (index + 1) entries :=
    if_neg (Bool.eq_false_iff.1 hd)
  have hplace : place deleted (index + 1) = place deleted index + 1 :=
    if_neg (Bool.eq_false_iff.1 hd)
  obtain ⟨course, q₂, hvisit, hrest⟩ := finished_of_bind h
  obtain ⟨ending', q₂', hvisit'⟩ : ∃ ending' q₂',
    run probe (visit host e (place deleted index) p') q' = (ending', q₂') := ⟨_, _, rfl⟩
  obtain ⟨htally, hq₂⟩ := run_abreast (tallies_visit indifferent host index hp) hq
  rw [hvisit, hvisit'] at htally hq₂
  obtain ⟨es, hevents, hleads⟩ := run_leads probe hvisit
  cases htally with
  | finished hcourse =>
    cases hcourse with
    | @ended c₁ c₁' hc =>
      cases hrest
      obtain ⟨rs, tour⟩ := visit_ended entries hleads
      have hblocks : spared deleted index rs.toList = rs.toList := by
        cases rs with
        | none => rfl
        | some rs => exact if_neg (Bool.eq_false_iff.1 hd)
      refine ⟨c₁', q₂', es, ?_, hq₂, hevents, .ended hblocks tour hc⟩
      rw [hspared, pass, run_bind, hvisit']
      rfl
    | @onward p₁ p₁' hp₁ =>
      obtain ⟨rs, hrs, visit⟩ := visit_onward hleads
      obtain ⟨new, hnew, hnew'⟩ := hp₁.records
      obtain rfl : new = rs := List.append_cancel_left (hnew.symm.trans hrs)
      have hdenied : Denied probe q₂ := (vigilant_visit L.steady discreet).2 _ _ hvisit
      obtain ⟨c', q₁', es', hrun', hq₁, hevents', hthinned⟩ :=
        rest hq₂ hp₁.failure hp₁.tried hdenied hrest
      rw [hplace] at hrun'
      refine ⟨c', q₁', es ++ es', ?_, hq₁, ?_, ?_⟩
      · rw [hspared, pass, run_bind, hvisit']
        exact hrun'
      · rw [hevents', hevents, List.append_assoc]
      · rw [List.map_append]
        exact hthinned.visited hd hrs hnew' visit

/-- **The entries of a chain with and without those for which the host does not qualify.**  Where no
entry is left the probe must say no, so that a question asked for an entry left out does not end the
run. -/
theorem pass_spared
    (unfit : ∀ i e, entries[i]? = some e → deleted (index + i) = true →
      e.policy.eligibility.permits host = false)
    (indifferent : ∀ e ∈ entries, e.strategy.Indifferent L)
    (discreet : ∀ e ∈ entries, ∀ time s,
      (probe time (e.strategy.applicable time s).2).1 = (probe time s).1)
    (hq : Abreast L (place deleted) q q') (hfailure : p'.failure = p.failure)
    (htried : p'.tried = p.tried) (hlast : spared deleted index entries = [] → Denied probe q)
    (h : run probe (pass host index entries p) q = (.finished c, q₁)) :
    EndsAlike L host deleted index entries p p' q q' c q₁ := by
  induction entries generalizing index p p' q q' with
  | nil => exact alike_exhausted hq hfailure h
  | cons e entries ih =>
    have hp : p.Agree p.records p'.records p' :=
      ⟨⟨[], (List.append_nil _).symm, (List.append_nil _).symm⟩, hfailure, htried⟩
    have unfitLater : ∀ i e, entries[i]? = some e → deleted (index + 1 + i) = true →
        e.policy.eligibility.permits host = false := by
      intro i e he hd
      rw [show index + 1 + i = index + (i + 1) by omega] at hd
      exact unfit (i + 1) e he hd
    have later : ∀ {p p' q q'}, Abreast L (place deleted) q q' → p'.failure = p.failure →
        p'.tried = p.tried → Denied probe q →
        run probe (pass host (index + 1) entries p) q = (.finished c, q₁) →
          EndsAlike L host deleted (index + 1) entries p p' q q' c q₁ :=
      fun hq hfailure htried hdenied h => ih unfitLater
        (fun e he => indifferent e (List.mem_cons_of_mem _ he))
        (fun e he => discreet e (List.mem_cons_of_mem _ he)) hq hfailure htried
        (fun _ => hdenied) h
    cases hd : deleted index with
    | false =>
      exact alike_visited hd (indifferent e List.mem_cons_self) (discreet e List.mem_cons_self) hq
        hp h later
    | true =>
      have hunfit := unfit 0 e rfl hd
      cases hyes : (q.ask probe .run).1 with
      | false =>
        rw [run_pass_unfit hunfit hyes] at h
        exact alike_leftOut hd hunfit hyes
          (later hq.ask_left hfailure htried (denied_ask L.steady hyes) h)
      | true =>
        have hleft : spared deleted (index + 1) entries ≠ [] := by
          intro hnil
          have hno : (q.ask probe .run).1 = false := hlast ((if_pos hd).trans hnil)
          rw [hyes] at hno
          cases hno
        exact alike_permitted hd hleft hyes hq hp h

end Steps

end Passes

/-! ### Runs -/

/-- How the run of a chain compares with that without the entries deleted, where the one has left
blocks of records and perhaps one more record. -/
structure Spares (L : Likeness probe) (c : Chain σ) (deleted : Nat → Bool) (report report' : Report)
    (es es' : List (Nat × Event)) (q q' : Playback σ) (blocks : List (List Record))
    (extra : List Record) : Prop where
  /-- Both end in the same phase. -/
  phase : report'.phase = report.phase
  /-- They take the same time. -/
  elapsed : report'.elapsed = report.elapsed
  /-- They end at the same moment in surroundings that are alike. -/
  left : q'.clock = q.clock ∧ L.alike q.clock q.surroundings q'.surroundings
  /-- Besides their questions the same is heard of both at the same times, with each entry numbered
  by its place. -/
  heard : renumbered (place deleted) (aloud es) = aloud es'
  /-- An entry that is left is found at its place. -/
  placed : ∀ i e, c.entries[i]? = some e → deleted i = false →
    (c.without deleted).entries[place deleted i]? = some e
  /-- The records of the one are those of its blocks and the one more. -/
  records : report.records = blocks.flatten ++ extra
  /-- Each entry visited has left a block. -/
  block : ∀ i rs, blocks[i]? = some rs →
    ∃ e, c.entries[i]? = some e ∧ Block c.host (es.map Prod.snd) i e rs ∧
      (deleted i = true → rs = [.skip e.policy.technique])
  /-- The records of the other one are the same without the blocks of the entries deleted. -/
  recordsLeft : report'.records = (spared deleted 0 blocks).flatten ++ extra

/-- **Switching off is leaving out.**  If the answers of the probe do not depend on how often it is
asked, the run of a chain with some of its entries switched off, or confined to other hosts, is that
of the chain without them, as long as one entry is left and no technique breaks down. -/
theorem run_without (c : Chain σ) (deleted : Nat → Bool) (L : Likeness probe) (p : Playback σ)
    (unfit : ∀ i e, c.entries[i]? = some e → deleted i = true →
      e.policy.eligibility.permits c.host = false)
    (left : (c.without deleted).entries ≠ []) (calm : c.Calm) (discreet : c.Discreet probe)
    (indifferent : ∀ e ∈ c.entries, e.strategy.Indifferent L) :
    ∃ report report' q q' es es' blocks extra,
      run probe c.run p = (.finished report, q) ∧
      run probe (c.without deleted).run p = (.finished report', q') ∧
      q.events = p.events ++ es ∧ q'.events = p.events ++ es' ∧
      Spares L c deleted report report' es es' q q' blocks extra := by
  have calmWithout : (c.without deleted).Calm :=
    fun e he => calm e ((spared_sublist deleted 0 c.entries).subset he)
  -- what was observed before the run must not be renumbered
  obtain ⟨report, q, hrun⟩ := run_reports calm probe p.afresh
  obtain ⟨report', q', hrun'⟩ := run_reports calmWithout probe p.afresh
  have hstart : Abreast L (place deleted) p.afresh p.afresh :=
    ⟨rfl, (L.equivalence _).refl _, rfl⟩
  have hunfit : ∀ i e, c.entries[i]? = some e → deleted (0 + i) = true →
      e.policy.eligibility.permits c.host = false := by
    intro i e he hd
    rw [Nat.zero_add] at hd
    exact unfit i e he hd
  obtain ⟨conclusion, q₁', es, hpass', hq, hes, hthinned⟩ := pass_spared hunfit indifferent discreet
    hstart rfl rfl (fun hnil => absurd hnil left) (run_pass hrun)
  have hsame : (Ending.finished conclusion, q₁') =
      (.finished ⟨report'.records, report'.phase⟩, q') := hpass'.symm.trans (run_pass hrun')
  cases hsame
  obtain ⟨hphase, blocks, extra, tour, hrecords, hleft⟩ := hthinned
  have hevents : q.events = es := hes.trans (List.nil_append es)
  have helapsed := (run_elapsed hrun).1
  have helapsed' := (run_elapsed hrun').1
  have hclock := hq.clock
  refine ⟨report, report', q.onto p.history, q'.onto p.history, q.events, q'.events, blocks, extra,
    by rw [run_afresh, hrun], by rw [run_afresh, hrun'], events_onto q p.history,
    events_onto q' p.history, hphase, by omega, ⟨hq.clock, hq.alike⟩, hq.events,
    fun i e he hd => ?_, hrecords, fun i rs hi => ?_, hleft⟩
  · rw [← Nat.zero_add i] at hd
    obtain ⟨j, hplace, hfound⟩ := getElem?_spared he hd
    rw [Nat.zero_add] at hplace
    have hj : place deleted i = j := hplace.trans (Nat.zero_add j)
    rw [hj]
    exact hfound
  · obtain ⟨e, he, hblock⟩ := tour_blocks tour List.suffix_rfl i rs hi
    rw [Nat.zero_add, ← hevents] at hblock
    refine ⟨e, he, hblock, fun hd => ?_⟩
    cases hblock with
    | passedOver => rfl
    | tried fit =>
      rw [unfit i e he hd] at fit
      cases fit

/-- A permission that comes after seven milliseconds, and a probe that counts how often it is
asked. -/
def countingProbe : Probe Nat :=
  fun time asked => (7 ≤ time, asked + 1)

/-- Nobody looks at what the probe has counted. -/
def uncounted : Likeness countingProbe where
  alike := fun _ _ _ => True
  equivalence := fun _ => ⟨fun _ => trivial, fun _ => trivial, fun _ _ => trivial⟩
  lasts := fun _ _ => trivial
  answers := fun _ => rfl
  asked := fun _ _ => trivial

/-- A technique that is switched off, and one that is cut off after ten milliseconds. -/
def switchedOffChain : Chain Nat where
  entries :=
    [⟨{ technique := .selfElevation, priority := 0, timeout := 10,
        eligibility := { enabled := false } },
      .always (fun _ => .done (.denied "d")) fun _ => trivial⟩,
     ⟨{ technique := .awaitDebugger, priority := 1, timeout := 10 },
      .always (fun _ => .hang) fun _ => trivial⟩]
  host := none

/-- Without the technique that is switched off the run leaves one record less and asks the probe
once less. -/
theorem run_without_switchedOff :
    (∀ i e, switchedOffChain.entries[i]? = some e → (i == 0) = true →
      e.policy.eligibility.permits switchedOffChain.host = false) ∧
    (switchedOffChain.without (· == 0)).entries ≠ [] ∧ switchedOffChain.Calm ∧
    switchedOffChain.Discreet countingProbe ∧
    (∀ e ∈ switchedOffChain.entries, e.strategy.Indifferent uncounted) ∧
    ∃ report report' q q' es es' blocks extra,
      run countingProbe switchedOffChain.run ⟨0, 0, []⟩ = (.finished report, q) ∧
      run countingProbe (switchedOffChain.without (· == 0)).run ⟨0, 0, []⟩ =
        (.finished report', q') ∧
      Spares uncounted switchedOffChain (· == 0) report report' es es' q q' blocks extra ∧
      report.records = [.skip .selfElevation, ⟨.awaitDebugger, 1, .granted, 10⟩] ∧
      report'.records = [⟨.awaitDebugger, 1, .granted, 10⟩] ∧
      q.surroundings = 3 ∧ q'.surroundings = 2 := by
  have unfit : ∀ i e, switchedOffChain.entries[i]? = some e → (i == 0) = true →
      e.policy.eligibility.permits switchedOffChain.host = false := by
    intro i e he hd
    obtain rfl : i = 0 := eq_of_beq hd
    cases he
    rfl
  have left : (switchedOffChain.without (· == 0)).entries ≠ [] := nofun
  have calm : switchedOffChain.Calm :=
    List.forall_mem_cons.2 ⟨⟨fun _ => trivial, nofun⟩,
      List.forall_mem_cons.2 ⟨⟨fun _ => trivial, nofun⟩, nofun⟩⟩
  have discreet : switchedOffChain.Discreet countingProbe :=
    List.forall_mem_cons.2 ⟨fun _ _ => rfl, List.forall_mem_cons.2 ⟨fun _ _ => rfl, nofun⟩⟩
  have indifferent : ∀ e ∈ switchedOffChain.entries, e.strategy.Indifferent uncounted :=
    List.forall_mem_cons.2 ⟨⟨fun _ _ _ _ => ⟨rfl, trivial⟩, fun _ => .done rfl⟩,
      List.forall_mem_cons.2 ⟨⟨fun _ _ _ _ => ⟨rfl, trivial⟩, fun _ => .hang⟩, nofun⟩⟩
  refine ⟨unfit, left, calm, discreet, indifferent, ?_⟩
  obtain ⟨report, report', q, q', es, es', blocks, extra, hrun, hrun', -, -, hspares⟩ :=
    run_without switchedOffChain (· == 0) uncounted ⟨0, 0, []⟩ unfit left calm discreet indifferent
  refine ⟨report, report', q, q', es, es', blocks, extra, hrun, hrun', hspares, ?_⟩
  cases hrun
  cases hrun'
  exact ⟨rfl, rfl, rfl, rfl⟩

end CodePermit
