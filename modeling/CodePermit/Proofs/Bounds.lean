import CodePermit.Proofs.Acceptance
/-!
# Bounds of versions

A strategy may be confined to the versions from one bound on and below another one.  Entries whose
lower bound does not lie below the upper one are refused, since no host qualifies for them.  Only
one entry for which no host qualifies is accepted: the one without a lower bound whose upper bound
is the lowest of all versions.

* `Version.lowest`, `below_of_between` — the order of versions and its lower end;
* `exists_permits_iff` — when a host of some version qualifies;
* `policy_eq`, `policy_eq_ok_iff` — what the policy of an entry with readable versions hangs on;
* `BoundsChecked`, `policy_boundsChecked` — entries are refused if no host qualifies;
* `dead_strategy_accepted` — the entry that is not.
-/

namespace CodePermit

/-! ### The order of versions -/

/-- The lowest version. -/
def Version.lowest : Version :=
  ⟨0, 0, 0⟩

theorem below_self (v : Version) : v.below v = false := by
  rw [Version.below, Version.order_self]
  rfl

/-- If a version lies between two others, the one lies below the other. -/
theorem below_of_between {v l m : Version} (hl : v.below l = false) (hm : v.below m = true) :
    l.below m = true := by
  rw [Bool.eq_false_iff, ne_eq, Version.below_iff] at hl
  rw [Version.below_iff] at hm ⊢
  omega

theorem below_lowest (v : Version) : v.below .lowest = false := by
  rw [Bool.eq_false_iff, ne_eq, Version.below_iff]
  simp [Version.lowest]

theorem lowest_below {m : Version} (h : m ≠ .lowest) : Version.lowest.below m = true := by
  obtain ⟨major, minor, patch⟩ := m
  have hparts : major.toNat ≠ 0 ∨ minor.toNat ≠ 0 ∨ patch.toNat ≠ 0 := by
    by_contra hzero
    simp only [not_or, not_not] at hzero
    obtain ⟨hmajor, hminor, hpatch⟩ := hzero
    refine h ?_
    rw [Version.lowest, Version.mk.injEq]
    exact ⟨UInt64.toNat_inj.1 hmajor, UInt64.toNat_inj.1 hminor, UInt64.toNat_inj.1 hpatch⟩
  rw [Version.below_iff]
  show 0 < major.toNat ∨ 0 = major.toNat ∧ (0 < minor.toNat ∨ 0 = minor.toNat ∧ 0 < patch.toNat)
  omega

/-! ### Hosts that qualify -/

/-- **When a host of some version qualifies**: the upper bound is not the lowest version, and the
lower bound lies below it. -/
theorem exists_permits_iff {min max : Option Version} :
    (∃ v, (⟨true, min, max⟩ : Eligibility).permits (some v) = true) ↔
      ∀ m, max = some m → m ≠ .lowest ∧ ∀ l, min = some l → l.below m = true := by
  simp only [Eligibility.permits_some, Bool.true_and, Bool.and_eq_true]
  constructor
  · rintro ⟨v, hreaches, hprecedes⟩ m rfl
    have hm : v.below m = true := hprecedes
    refine ⟨?_, ?_⟩
    · rintro rfl
      rw [below_lowest] at hm
      cases hm
    · rintro l rfl
      have hl : (!v.below l) = true := hreaches
      rw [Bool.not_eq_true'] at hl
      exact below_of_between hl hm
  · intro h
    -- the lower bound itself qualifies, or else the lowest version
    refine ⟨min.getD .lowest, ?_, ?_⟩
    · cases min with
      | none => rfl
      | some l =>
        show (!l.below l) = true
        rw [below_self]
        rfl
    · cases max with
      | none => rfl
      | some m =>
        obtain ⟨hm, hl⟩ := h m rfl
        cases min with
        | none => exact lowest_below hm
        | some l => exact hl l rfl

/-- No host qualifies below the lowest version. -/
theorem permits_lowest (enabled : Bool) (host : Option Version) :
    (⟨enabled, none, some .lowest⟩ : Eligibility).permits host = false := by
  cases host with
  | none => exact Bool.and_false enabled
  | some v =>
    have hprecedes : (⟨enabled, none, some .lowest⟩ : Eligibility).precedes v = false :=
      below_lowest v
    rw [Eligibility.permits_some, hprecedes, Bool.and_false, Bool.and_false]

/-- Bounds that are in order leave a host that qualifies, unless there is only an upper bound and it
is the lowest version. -/
theorem inOrder_iff_exists_permits {min max : Option Version}
    (hbounds : ¬(min = none ∧ max = some .lowest)) :
    (∀ l m, min = some l → max = some m → l.below m = true) ↔
      ∃ v, (⟨true, min, max⟩ : Eligibility).permits (some v) = true := by
  rw [exists_permits_iff]
  constructor
  · rintro h m rfl
    refine ⟨?_, fun l hl => h l m hl rfl⟩
    rintro rfl
    cases min with
    | none => exact hbounds ⟨rfl, rfl⟩
    | some l =>
      have hl := h l .lowest rfl rfl
      rw [below_lowest] at hl
      cases hl
  · intro h l m hl hm
    exact (h m hm).2 l hl

/-! ### The check of bounds -/

theorem checkBounds_eq_ok_iff {t : Technique} {min max : Option Version} :
    StrategySettings.checkBounds t min max = .ok () ↔
      ∀ l m, min = some l → max = some m → l.below m = true := by
  unfold StrategySettings.checkBounds
  split
  · rename_i l m
    constructor
    · intro h l' m' hl hm
      cases hl
      cases hm
      by_contra hnot
      rw [if_neg hnot] at h
      cases h
    · intro h
      exact if_pos (h l m rfl rfl)
  · rename_i hmissing
    exact iff_of_true rfl fun l m hl hm => absurd hm (hmissing l m hl)

theorem checkBounds_eq_error {t : Technique} {min max : Option Version} {fault : SettingsFault}
    (h : StrategySettings.checkBounds t min max = .error fault) :
    ∃ l m, min = some l ∧ max = some m ∧ fault = .emptyInterval t l m := by
  unfold StrategySettings.checkBounds at h
  split at h
  · rename_i l m
    split at h
    · cases h
    · cases h
      exact ⟨l, m, rfl, rfl, rfl⟩
  · cases h

/-- The policy of an entry whose version texts give the two bounds. -/
def StrategySettings.policyWithin (s : StrategySettings) (min max : Option Version) : Policy where
  technique := s.technique
  priority := (s.priority.getD s.technique.defaultPriority).toNat
  timeout := (s.timeout.getD s.technique.defaultTimeout).toNat
  maxAttempts := Nat.max 1 s.maxAttempts.toNat
  backoff := s.backoff.toNat
  eligibility := ⟨s.enabled, min, max⟩

section Entries

variable {s : StrategySettings} {min max : Option Version}

/-- **The policy of an entry hangs on its bounds alone**, once its versions can be read and it asks
for an attempt and gives it time. -/
theorem policy_eq (hmin : StrategySettings.readBound s.technique s.minVersion = .ok min)
    (hmax : StrategySettings.readBound s.technique s.maxVersion = .ok max)
    (hattempts : s.maxAttempts ≠ 0) (htimeout : s.timeout ≠ some 0) :
    s.policy =
      (StrategySettings.checkBounds s.technique min max).map fun _ => s.policyWithin min max := by
  cases hcheck : StrategySettings.checkBounds s.technique min max with
  | ok _ =>
    refine bind_eq_ok_iff.2 ⟨min, hmin, bind_eq_ok_iff.2 ⟨max, hmax, ?_⟩⟩
    refine bind_eq_ok_iff.2 ⟨(), hcheck, guard_eq_ok_iff.2 ⟨hattempts, ?_⟩⟩
    exact guard_eq_ok_iff.2 ⟨htimeout, rfl⟩
  | error fault =>
    unfold StrategySettings.policy
    rw [hmin, hmax]
    show (StrategySettings.checkBounds s.technique min max >>= _) = _
    rw [hcheck]
    rfl

/-- Such an entry has a policy if its bounds are in order, and then the one within them. -/
theorem policy_eq_ok_iff (hmin : StrategySettings.readBound s.technique s.minVersion = .ok min)
    (hmax : StrategySettings.readBound s.technique s.maxVersion = .ok max)
    (hattempts : s.maxAttempts ≠ 0) (htimeout : s.timeout ≠ some 0) {p : Policy} :
    s.policy = .ok p ↔ (∀ l m, min = some l → max = some m → l.below m = true) ∧
      p = s.policyWithin min max := by
  rw [policy_eq hmin hmax hattempts htimeout, ← checkBounds_eq_ok_iff]
  cases StrategySettings.checkBounds s.technique min max with
  | ok _ =>
    rw [and_iff_right rfl]
    exact ⟨fun h => (Except.ok.inj h).symm, fun h => congrArg Except.ok h.symm⟩
  | error fault => exact iff_of_false nofun nofun

/-- If such an entry has no policy, it is refused for its bounds. -/
theorem policy_eq_error (hmin : StrategySettings.readBound s.technique s.minVersion = .ok min)
    (hmax : StrategySettings.readBound s.technique s.maxVersion = .ok max)
    (hattempts : s.maxAttempts ≠ 0) (htimeout : s.timeout ≠ some 0) {fault : SettingsFault}
    (h : s.policy = .error fault) :
    ∃ l m, min = some l ∧ max = some m ∧ fault = .emptyInterval s.technique l m := by
  rw [policy_eq hmin hmax hattempts htimeout] at h
  cases hcheck : StrategySettings.checkBounds s.technique min max with
  | ok _ =>
    rw [hcheck] at h
    cases h
  | error fault' =>
    rw [hcheck] at h
    cases h
    exact checkBounds_eq_error hcheck

/-- What the check of an entry makes of its bounds. -/
structure BoundsChecked (s : StrategySettings) (min max : Option Version) : Prop where
  /-- The policy has the bounds that the texts give. -/
  eligibility : ∀ p, s.policy = .ok p → p.eligibility = ⟨s.enabled, min, max⟩
  /-- Unless there is only an upper bound and it is the lowest version, the entry has a policy if
  and only if a host of some version qualifies. -/
  admitted : ¬(min = none ∧ max = some .lowest) →
    ((∃ p, s.policy = .ok p) ↔
      ∃ v, (⟨s.enabled, min, max⟩ : Eligibility).permits (some v) = true)
  /-- With such a bound it has a policy, and no host qualifies. -/
  dead : min = none → max = some .lowest →
    (∃ p, s.policy = .ok p) ∧
      ∀ host, (⟨s.enabled, min, max⟩ : Eligibility).permits host = false
  /-- An entry that has no policy has two bounds, and it is refused for them. -/
  refused : ∀ fault, s.policy = .error fault →
    ∃ l m, min = some l ∧ max = some m ∧ fault = .emptyInterval s.technique l m

/-- **Entries are refused if no host qualifies for them**, and for their bounds only then, with one
exception. -/
theorem policy_boundsChecked (henabled : s.enabled = true)
    (hmin : StrategySettings.readBound s.technique s.minVersion = .ok min)
    (hmax : StrategySettings.readBound s.technique s.maxVersion = .ok max)
    (hattempts : s.maxAttempts ≠ 0) (htimeout : s.timeout ≠ some 0) :
    BoundsChecked s min max := by
  have hpolicy : ∀ p, s.policy = .ok p ↔ _ := fun p =>
    policy_eq_ok_iff hmin hmax hattempts htimeout
  have hformed : (∃ p, s.policy = .ok p) ↔
      ∀ l m, min = some l → max = some m → l.below m = true :=
    ⟨fun ⟨p, hp⟩ => ((hpolicy p).1 hp).1, fun h => ⟨_, (hpolicy _).2 ⟨h, rfl⟩⟩⟩
  refine ⟨fun p hp => ?_, fun hbounds => ?_, fun hnone hlowest => ⟨?_, fun host => ?_⟩,
    fun fault => policy_eq_error hmin hmax hattempts htimeout⟩
  · rw [((hpolicy p).1 hp).2]
    rfl
  · rw [hformed, henabled]
    exact inOrder_iff_exists_permits hbounds
  · rw [hformed, hnone]
    exact fun l m hl _ => nomatch hl
  · rw [hnone, hlowest]
    exact permits_lowest s.enabled host

end Entries

/-- An entry for the versions from 14 on and below 17.4. -/
def confinedStrategy : StrategySettings where
  technique := .companionHelper
  minVersion := some "14"
  maxVersion := some "17.4"

theorem policy_boundsChecked_confined :
    confinedStrategy.enabled = true ∧
      StrategySettings.readBound .companionHelper (some "14") = .ok (some ⟨14, 0, 0⟩) ∧
      StrategySettings.readBound .companionHelper (some "17.4") = .ok (some ⟨17, 4, 0⟩) ∧
      confinedStrategy.maxAttempts ≠ 0 ∧ confinedStrategy.timeout ≠ some 0 ∧
      BoundsChecked confinedStrategy (some ⟨14, 0, 0⟩) (some ⟨17, 4, 0⟩) := by
  have hmin : StrategySettings.readBound .companionHelper (some "14") = .ok (some ⟨14, 0, 0⟩) := rfl
  have hmax : StrategySettings.readBound .companionHelper (some "17.4") = .ok (some ⟨17, 4, 0⟩) :=
    rfl
  have hattempts : confinedStrategy.maxAttempts ≠ 0 := by decide
  have htimeout : confinedStrategy.timeout ≠ some 0 := by decide
  exact ⟨rfl, hmin, hmax, hattempts, htimeout,
    policy_boundsChecked rfl hmin hmax hattempts htimeout⟩

/-- An entry for the versions below the lowest one. -/
def deadStrategy : StrategySettings where
  technique := .awaitDebugger
  maxVersion := some "0"

/-- **It is accepted**, although no host qualifies for it. -/
theorem dead_strategy_accepted :
    deadStrategy.enabled = true ∧ deadStrategy.maxAttempts ≠ 0 ∧ deadStrategy.timeout ≠ some 0 ∧
      ({ strategies := [deadStrategy] } : Settings).validate = .ok () ∧
      ∃ p, deadStrategy.policy = .ok p ∧ p.eligibility = ⟨true, none, some .lowest⟩ ∧
        ∀ host, p.eligibility.permits host = false := by
  refine ⟨rfl, by decide, by decide, rfl, _, rfl, rfl, ?_⟩
  exact permits_lowest true

end CodePermit
