import CodePermit.Chain
/-!
# Priorities

Entries are sorted by their priorities, and entries of one priority stay as they were given.  So an
entry given before others comes to stand right behind those that must come before it, and entries
that come no earlier than all others may as well be sorted by themselves.

* `Entry.comesAfter` — an entry must come after another one;
* `sorted_pairwise`, `mem_sorted` — what the sorted entries are;
* `sorted_ofPriority`, `sorted_congr`, `sorted_reordered` — sorting depends on no more than the
  order among entries of one priority;
* `sorted_cons` — where an entry comes to stand;
* `sorted_append` — entries that come no earlier than all others.
-/

namespace CodePermit

variable {σ : Type}

/-- An entry must come after another one, in whatever order they are given. -/
def Entry.comesAfter (e f : Entry σ) : Bool :=
  f.policy.priority < e.policy.priority

theorem priority_trans (e f g : Entry σ) (h : decide (e.policy.priority ≤ f.policy.priority) = true)
    (h' : decide (f.policy.priority ≤ g.policy.priority) = true) :
    decide (e.policy.priority ≤ g.policy.priority) = true :=
  decide_eq_true (Nat.le_trans (of_decide_eq_true h) (of_decide_eq_true h'))

theorem priority_total (e f : Entry σ) : (decide (e.policy.priority ≤ f.policy.priority) ||
    decide (f.policy.priority ≤ e.policy.priority)) = true := by
  rcases Nat.le_total e.policy.priority f.policy.priority with h | h
  · rw [decide_eq_true h, Bool.true_or]
  · rw [decide_eq_true h, Bool.or_true]

theorem sorted_pairwise (entries : List (Entry σ)) :
    (sorted entries).Pairwise fun e f => e.policy.priority ≤ f.policy.priority :=
  (List.pairwise_mergeSort priority_trans priority_total entries).imp of_decide_eq_true

theorem mem_sorted {entries : List (Entry σ)} {e : Entry σ} : e ∈ sorted entries ↔ e ∈ entries :=
  (List.mergeSort_perm entries _).mem_iff

/-! ### Entries of one priority -/

/-- The entries of one priority, in order. -/
def ofPriority (n : Nat) (entries : List (Entry σ)) : List (Entry σ) :=
  entries.filter fun e => e.policy.priority = n

theorem ofPriority_cons_self (e : Entry σ) (entries : List (Entry σ)) :
    ofPriority e.policy.priority (e :: entries) =
      e :: ofPriority e.policy.priority entries :=
  List.filter_cons_of_pos (decide_eq_true rfl)

theorem ofPriority_cons_ne {n : Nat} {e : Entry σ} (h : e.policy.priority ≠ n)
    (entries : List (Entry σ)) : ofPriority n (e :: entries) = ofPriority n entries :=
  List.filter_cons_of_neg (by simpa using h)

theorem ofPriority_eq_nil_of_lt {n : Nat} {entries : List (Entry σ)}
    (h : ∀ e ∈ entries, n < e.policy.priority) : ofPriority n entries = [] := by
  rw [ofPriority, List.filter_eq_nil_iff]
  intro e he
  have hlt : n < e.policy.priority := h e he
  simp only [decide_eq_true_eq]
  omega

/-- **Entries of one priority stay in the given order.** -/
theorem sorted_ofPriority (n : Nat) (entries : List (Entry σ)) :
    ofPriority n (sorted entries) = ofPriority n entries := by
  -- they are in order among themselves, so sorting finds them in the same order
  have hequal : (ofPriority n entries).Pairwise fun e f =>
      decide (e.policy.priority ≤ f.policy.priority) = true := by
    refine List.pairwise_of_forall_mem_list fun e he f hf => ?_
    have hen : e.policy.priority = n := by simpa using (List.mem_filter.1 he).2
    have hfn : f.policy.priority = n := by simpa using (List.mem_filter.1 hf).2
    rw [hen, hfn]
    exact decide_eq_true (Nat.le_refl n)
  have hsublist : (ofPriority n entries).Sublist (sorted entries) :=
    List.sublist_mergeSort priority_trans priority_total hequal List.filter_sublist
  have htwice : ofPriority n (ofPriority n entries) = ofPriority n entries := by
    simp [ofPriority, List.filter_filter]
  have hfilter : (ofPriority n entries).Sublist (ofPriority n (sorted entries)) := by
    have h : (ofPriority n (ofPriority n entries)).Sublist _ := hsublist.filter _
    rwa [htwice] at h
  have hlength : (ofPriority n entries).length = (ofPriority n (sorted entries)).length :=
    ((List.mergeSort_perm entries _).filter _).length_eq.symm
  exact (hfilter.eq_of_length hlength).symm

/-- No priority is found among entries in order that comes before that of the first one. -/
theorem first_priority_le {n : Nat} {e : Entry σ} {entries : List (Entry σ)}
    (h : (e :: entries).Pairwise fun e f => e.policy.priority ≤ f.policy.priority)
    (hfound : ofPriority n (e :: entries) ≠ []) : e.policy.priority ≤ n := by
  refine Nat.le_of_not_lt fun hlt => hfound (ofPriority_eq_nil_of_lt ?_)
  intro f hf
  rcases List.mem_cons.1 hf with rfl | hf
  · exact hlt
  · have hle : e.policy.priority ≤ f.policy.priority := (List.pairwise_cons.1 h).1 f hf
    omega

/-- Entries in the order of their priorities are determined by the order among those of one
priority. -/
theorem eq_of_ofPriority {entries entries' : List (Entry σ)}
    (h : entries.Pairwise fun e f => e.policy.priority ≤ f.policy.priority)
    (h' : entries'.Pairwise fun e f => e.policy.priority ≤ f.policy.priority)
    (heq : ∀ n, ofPriority n entries = ofPriority n entries') : entries = entries' := by
  induction entries generalizing entries' with
  | nil =>
    cases entries' with
    | nil => rfl
    | cons f later =>
      have hnil := heq f.policy.priority
      rw [ofPriority_cons_self] at hnil
      cases hnil
  | cons e entries ih =>
    have hcons := heq e.policy.priority
    rw [ofPriority_cons_self] at hcons
    cases entries' with
    | nil => cases hcons
    | cons f entries' =>
      -- neither of the two first entries comes before the other one
      have hle : e.policy.priority ≤ f.policy.priority := by
        refine first_priority_le h ?_
        rw [heq, ofPriority_cons_self]
        exact List.cons_ne_nil _ _
      have hle' : f.policy.priority ≤ e.policy.priority := by
        refine first_priority_le h' ?_
        rw [← hcons]
        exact List.cons_ne_nil _ _
      rw [Nat.le_antisymm hle hle', ofPriority_cons_self] at hcons
      obtain ⟨rfl, -⟩ := List.cons.inj hcons
      refine congrArg (e :: ·) (ih h.of_cons h'.of_cons fun n => ?_)
      by_cases hn : e.policy.priority = n
      · have hboth := heq n
        rw [← hn, ofPriority_cons_self, ofPriority_cons_self] at hboth
        rw [← hn]
        exact (List.cons.inj hboth).2
      · have hboth := heq n
        rwa [ofPriority_cons_ne hn, ofPriority_cons_ne hn] at hboth

/-- **Sorting depends on no more than the order among entries of one priority.** -/
theorem sorted_congr {entries entries' : List (Entry σ)}
    (h : ∀ n, ofPriority n entries = ofPriority n entries') : sorted entries = sorted entries' := by
  refine eq_of_ofPriority (sorted_pairwise entries) (sorted_pairwise entries') fun n => ?_
  rw [sorted_ofPriority, sorted_ofPriority, h n]

/-- If no two entries have one priority, the order in which they are given does not matter. -/
theorem sorted_reordered {entries entries' : List (Entry σ)} (h : entries'.Perm entries)
    (hnodup : (entries.map fun e => e.policy.priority).Nodup) :
    sorted entries' = sorted entries := by
  refine sorted_congr fun n => ?_
  have hperm : (ofPriority n entries').Perm (ofPriority n entries) := h.filter _
  have hdiffer : (ofPriority n entries).Pairwise fun e f => e.policy.priority ≠ f.policy.priority :=
    (List.pairwise_map.1 hnodup).filter _
  match hone : ofPriority n entries with
  | [] =>
    rw [hone] at hperm
    exact hperm.eq_nil
  | [e] =>
    rw [hone] at hperm
    exact List.perm_singleton.1 hperm
  | e :: f :: later =>
    have hmem : ∀ g ∈ ofPriority n entries, g.policy.priority = n :=
      fun g hg => of_decide_eq_true (List.mem_filter.1 hg).2
    rw [hone] at hdiffer hmem
    have he : e.policy.priority = n := hmem e List.mem_cons_self
    have hf : f.policy.priority = n := hmem f (List.mem_cons_of_mem e List.mem_cons_self)
    exact absurd (he.trans hf.symm) ((List.pairwise_cons.1 hdiffer).1 f List.mem_cons_self)

/-! ### Where entries come to stand -/

/-- Entries that come no earlier than another one do not matter to what must come before it. -/
theorem comesAfter_append {e : Entry σ} (entries : List (Entry σ)) {later : List (Entry σ)}
    (h : ∀ f ∈ later, e.policy.priority ≤ f.policy.priority) :
    (entries ++ later).takeWhile e.comesAfter = entries.takeWhile e.comesAfter ∧
      (entries ++ later).dropWhile e.comesAfter = entries.dropWhile e.comesAfter ++ later := by
  induction entries with
  | nil =>
    cases later with
    | nil => exact ⟨rfl, rfl⟩
    | cons f later =>
      have hf : ¬e.comesAfter f = true := fun hlt =>
        Nat.not_lt_of_le (h f List.mem_cons_self) (of_decide_eq_true hlt)
      exact ⟨List.takeWhile_cons_of_neg hf, List.dropWhile_cons_of_neg hf⟩
  | cons g entries ih =>
    rw [List.cons_append]
    by_cases hg : e.comesAfter g = true
    · rw [List.takeWhile_cons_of_pos hg, List.takeWhile_cons_of_pos hg,
        List.dropWhile_cons_of_pos hg, List.dropWhile_cons_of_pos hg, ih.1]
      exact ⟨rfl, ih.2⟩
    · rw [List.takeWhile_cons_of_neg hg, List.takeWhile_cons_of_neg hg,
        List.dropWhile_cons_of_neg hg, List.dropWhile_cons_of_neg hg]
      exact ⟨rfl, rfl⟩

/-- **An entry given before others comes to stand right behind those that must come before it.** -/
theorem sorted_cons (e : Entry σ) (entries : List (Entry σ)) :
    sorted (e :: entries) = (sorted entries).takeWhile e.comesAfter ++
      e :: (sorted entries).dropWhile e.comesAfter := by
  obtain ⟨before, behind, hall, hothers, hbefore⟩ :=
    List.mergeSort_cons priority_trans priority_total e entries
  have hsorted : sorted (e :: entries) = before ++ e :: behind := hall
  have hrest : sorted entries = before ++ behind := hothers
  have hbehind : ∀ f ∈ behind, e.policy.priority ≤ f.policy.priority := by
    have hpairwise := sorted_pairwise (e :: entries)
    rw [hsorted] at hpairwise
    exact (List.pairwise_cons.1 (List.pairwise_append.1 hpairwise).2.1).1
  have hafter : ∀ f ∈ before, e.comesAfter f = true := by
    intro f hf
    have hnot := hbefore f hf
    rw [Bool.not_eq_true', decide_eq_false_iff_not] at hnot
    exact decide_eq_true (Nat.lt_of_not_le hnot)
  obtain ⟨htake, hdrop⟩ := comesAfter_append [] hbehind
  rw [List.nil_append] at htake hdrop
  rw [hsorted, hrest, List.takeWhile_append_of_pos hafter, List.dropWhile_append_of_pos hafter,
    htake, hdrop]
  simp

/-- **Entries that come no earlier than all others are sorted by themselves**, and so are the
others. -/
theorem sorted_append {first more : List (Entry σ)}
    (h : ∀ e ∈ first, ∀ f ∈ more, e.policy.priority ≤ f.policy.priority) :
    sorted (first ++ more) = sorted first ++ sorted more := by
  induction first with
  | nil => rw [List.nil_append, sorted, sorted, List.mergeSort_nil, List.nil_append]
  | cons e first ih =>
    obtain ⟨hfirst, hothers⟩ := List.forall_mem_cons.1 h
    have hlater : ∀ f ∈ sorted more, e.policy.priority ≤ f.policy.priority :=
      fun f hf => hfirst f (mem_sorted.1 hf)
    obtain ⟨htake, hdrop⟩ := comesAfter_append (sorted first) hlater
    rw [List.cons_append, sorted_cons, ih hothers, htake, hdrop, sorted_cons, List.append_assoc]
    rfl

end CodePermit
