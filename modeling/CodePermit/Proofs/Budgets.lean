import CodePermit.Proofs.Acceptance
/-!
# Budgets

The budget of an entry is computed with durations, which hold no more than so many whole seconds.
Settings that are accepted may ask for more than that, since the check limits neither the number of
attempts nor their times; a budget that is computed is the exact one, though, and a few attempts, or
attempts that are not too long, are always within range.

* `fitsDuration_of_le`, `duration_eq_ok_iff` — the range of durations;
* `budget_eq_ok_iff`, `budget_eq_product_iff` — when a budget is computed, and what else happens;
* `Policy.InRange`, `policy_inRange` — policies of entries, whose fields are machine integers;
* `Budgeted`, `accepted_budgeted` — the budgets of settings that are accepted;
* `budget_out_of_range` — settings whose budget cannot be computed.
-/

namespace CodePermit

open Policy

/-! ### Durations -/

theorem fitsDuration_iff {ms : Nat} : fitsDuration ms = true ↔ ms < 1000 * UInt64.size := by
  rw [fitsDuration, decide_eq_true_iff, Nat.div_lt_iff_lt_mul (by decide), Nat.mul_comm]

/-- What is no longer than a duration is a duration. -/
theorem fitsDuration_of_le {ms longer : Nat} (hle : ms ≤ longer)
    (h : fitsDuration longer = true) : fitsDuration ms = true :=
  fitsDuration_iff.2 (Nat.lt_of_le_of_lt hle (fitsDuration_iff.1 h))

theorem duration_eq_ok_iff {overflow : DurationOverflow} {ms d : Nat} :
    duration overflow ms = .ok d ↔ fitsDuration ms = true ∧ d = ms := by
  unfold duration
  split
  · rename_i h
    rw [and_iff_right h, Except.ok.injEq, eq_comm]
  · rename_i h
    exact iff_of_false nofun fun hd => h hd.1

theorem duration_of_fits {overflow : DurationOverflow} {ms : Nat} (h : fitsDuration ms = true) :
    duration overflow ms = .ok ms :=
  duration_eq_ok_iff.2 ⟨h, rfl⟩

theorem duration_of_not_fits {overflow : DurationOverflow} {ms : Nat}
    (h : ¬fitsDuration ms = true) : duration overflow ms = .error overflow :=
  if_neg h

/-! ### Budgets of policies -/

section Budgets

variable {p : Policy}

/-- **When a budget is computed**: the exact budget is a duration, and then it is that. -/
theorem budget_eq_ok_iff {b : Nat} :
    p.budget = .ok b ↔ fitsDuration p.exactBudget = true ∧ b = p.exactBudget := by
  unfold Policy.budget
  rw [bind_eq_ok_iff]
  constructor
  · rintro ⟨attempts, hattempts, h⟩
    obtain ⟨pauses, hpauses, hsum⟩ := bind_eq_ok_iff.1 h
    obtain ⟨-, rfl⟩ := duration_eq_ok_iff.1 hattempts
    obtain ⟨-, rfl⟩ := duration_eq_ok_iff.1 hpauses
    exact duration_eq_ok_iff.1 hsum
  · intro h
    -- both parts are durations because their sum is
    have hattempts : fitsDuration (p.timeout * p.rounds) = true :=
      fitsDuration_of_le (Nat.le_add_right _ _) h.1
    have hpauses : fitsDuration (p.backoff * (p.rounds - 1)) = true :=
      fitsDuration_of_le (Nat.le_add_left _ _) h.1
    refine ⟨_, duration_of_fits hattempts, bind_eq_ok_iff.2 ⟨_, duration_of_fits hpauses, ?_⟩⟩
    exact duration_eq_ok_iff.2 h

/-- **When a product leaves the range**: that of the attempts or that of the pauses does. -/
theorem budget_eq_product_iff : p.budget = .error .product ↔
    ¬(fitsDuration (p.timeout * p.rounds) = true ∧
      fitsDuration (p.backoff * (p.rounds - 1)) = true) := by
  unfold Policy.budget
  by_cases hattempts : fitsDuration (p.timeout * p.rounds) = true
  · rw [duration_of_fits hattempts]
    by_cases hpauses : fitsDuration (p.backoff * (p.rounds - 1)) = true
    · rw [duration_of_fits hpauses]
      refine iff_of_false (fun h => ?_) (not_not_intro ⟨hattempts, hpauses⟩)
      have hsum : duration .sum (p.timeout * p.rounds + p.backoff * (p.rounds - 1)) =
          .error .product := h
      unfold duration at hsum
      split at hsum <;> cases hsum
    · rw [duration_of_not_fits hpauses]
      exact iff_of_true rfl fun h => hpauses h.2
  · rw [duration_of_not_fits hattempts]
    exact iff_of_true rfl fun h => hattempts h.1

end Budgets

/-! ### Budgets of settings that are accepted -/

/-- The fields of the policy are machine integers, and an attempt is asked for. -/
structure Policy.InRange (p : Policy) : Prop where
  timeout : p.timeout < UInt64.size
  backoff : p.backoff < UInt64.size
  attempts : 1 ≤ p.maxAttempts ∧ p.maxAttempts < UInt32.size

theorem policy_inRange {s : StrategySettings} {p : Policy} (h : s.policy = .ok p) : p.InRange := by
  obtain ⟨min, -, h⟩ := bind_eq_ok_iff.1 h
  obtain ⟨max, -, h⟩ := bind_eq_ok_iff.1 h
  obtain ⟨-, -, h⟩ := bind_eq_ok_iff.1 h
  obtain ⟨-, h⟩ := guard_eq_ok_iff.1 h
  obtain ⟨-, h⟩ := guard_eq_ok_iff.1 h
  cases h
  refine ⟨UInt64.toNat_lt_size _, UInt64.toNat_lt_size _, Nat.le_max_left 1 _, ?_⟩
  exact Nat.max_lt.2 ⟨by decide, UInt32.toNat_lt_size _⟩

section Accepted

variable {p : Policy}

/-- The rounds of a policy in range are the attempts that it asks for. -/
theorem rounds_of_inRange (h : p.InRange) : p.rounds = p.maxAttempts :=
  Nat.max_eq_right h.attempts.1

theorem exactBudget_of_inRange (h : p.InRange) :
    p.exactBudget = p.timeout * p.maxAttempts + p.backoff * (p.maxAttempts - 1) := by
  rw [Policy.exactBudget, rounds_of_inRange h]

/-- A few attempts keep within the range of durations, however long they are. -/
theorem fits_of_few (h : p.InRange) (hfew : p.maxAttempts ≤ 500) :
    fitsDuration p.exactBudget = true := by
  have hattempts := Nat.mul_le_mul (Nat.le_sub_one_of_lt h.timeout) hfew
  have hpauses := Nat.mul_le_mul (Nat.le_sub_one_of_lt h.backoff) (Nat.sub_le_sub_right hfew 1)
  rw [exactBudget_of_inRange h, fitsDuration_iff]
  simp only [UInt64.size] at hattempts hpauses ⊢
  omega

/-- Attempts and pauses that are not too long keep within the range of durations, however many they
are. -/
theorem fits_of_short (h : p.InRange) (hshort : p.timeout + p.backoff ≤ 1000 * UInt32.size) :
    fitsDuration p.exactBudget = true := by
  have hpauses : p.backoff * (p.maxAttempts - 1) ≤ p.backoff * p.maxAttempts :=
    Nat.mul_le_mul_left _ (Nat.sub_le _ _)
  have htotal := Nat.mul_le_mul hshort (Nat.le_sub_one_of_lt h.attempts.2)
  rw [Nat.add_mul] at htotal
  rw [exactBudget_of_inRange h, fitsDuration_iff]
  simp only [UInt32.size, UInt64.size] at htotal ⊢
  omega

/-- What becomes of the budget of a policy whose fields are machine integers. -/
structure Budgeted (p : Policy) : Prop where
  inRange : p.InRange
  /-- The budget is that of all attempts that are asked for and of the pauses between them. -/
  total : p.exactBudget = p.timeout * p.maxAttempts + p.backoff * (p.maxAttempts - 1)
  /-- It is computed if and only if it is a duration, and then exactly. -/
  computed : ∀ b, p.budget = .ok b ↔ fitsDuration p.exactBudget = true ∧ b = p.exactBudget
  /-- A product leaves the range if one of the two is no duration; otherwise their sum may. -/
  product : p.budget = .error .product ↔
    ¬(fitsDuration (p.timeout * p.maxAttempts) = true ∧
      fitsDuration (p.backoff * (p.maxAttempts - 1)) = true)
  /-- With at most 500 attempts nothing leaves the range. -/
  few : p.maxAttempts ≤ 500 → p.budget = .ok p.exactBudget
  /-- With an attempt and a pause of at most `2 ^ 32` seconds together nothing does either. -/
  short : p.timeout + p.backoff ≤ 1000 * UInt32.size → p.budget = .ok p.exactBudget

theorem budgeted_of_inRange (h : p.InRange) : Budgeted p where
  inRange := h
  total := exactBudget_of_inRange h
  computed := fun _ => budget_eq_ok_iff
  product := by rw [budget_eq_product_iff, rounds_of_inRange h]
  few := fun hfew => budget_eq_ok_iff.2 ⟨fits_of_few h hfew, rfl⟩
  short := fun hshort => budget_eq_ok_iff.2 ⟨fits_of_short h hshort, rfl⟩

end Accepted

/-- **The budgets of settings that are accepted** are computed exactly or leave the range of
durations; they do not leave it if there are few attempts or if these are not too long. -/
theorem accepted_budgeted {s : Settings} (h : s.validate = .ok ()) :
    ∃ ps, s.policies = .ok ps ∧ ∀ p ∈ ps, Budgeted p := by
  obtain ⟨-, -, -, ps, hps⟩ := validate_iff.1 h
  refine ⟨ps, hps, fun p hp => ?_⟩
  obtain ⟨e, -, he⟩ := exists_of_mem_mapM_ok hps hp
  exact budgeted_of_inRange (policy_inRange he)

/-- Settings with a helper that is asked three times. -/
def patientSettings : Settings where
  strategies := [{ technique := .companionHelper, maxAttempts := 3, backoff := 1000 }]

theorem accepted_budgeted_patient : patientSettings.validate = .ok () ∧
    ∃ ps, patientSettings.policies = .ok ps ∧ ∀ p ∈ ps, Budgeted p := by
  have h : patientSettings.validate = .ok () := rfl
  exact ⟨h, accepted_budgeted h⟩

/-- Settings with one attempt more than always keeps within the range. -/
def endlessSettings : Settings where
  strategies := [{
    technique := .companionHelper
    timeout := some 18446744073709551615
    maxAttempts := 501
    backoff := 18446744073709551615 }]

/-- **They are accepted, and their budget leaves the range of durations.** -/
theorem budget_out_of_range : endlessSettings.validate = .ok () ∧
    ∃ p, endlessSettings.policies = .ok [p] ∧ p.budget = .error .sum :=
  ⟨rfl, _, rfl, rfl⟩

end CodePermit
