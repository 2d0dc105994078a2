import CodePermit.Proofs.Priorities
import CodePermit.Settings.Assembly
import CodePermit.Settings.Loading
import Mathlib.Data.List.Forall2
/-!
# Settings that are accepted

Settings are looked at in three ways: they are checked, their policies are formed, and they are
made into a chain, which drops what has no policy.  The three agree.  The chain has an entry for
each strategy that has a policy, in the order of the priorities; and settings that are accepted have
all their policies, so that nothing of them is dropped.

* `bind_eq_ok_iff`, `guard_eq_ok_iff`, `mapM_eq_ok_iff` — when computations that may fail succeed;
* `policy_sound` — the policy of an entry allows an attempt and gives it time;
* `checkAll_iff`, `validate_iff` — when settings are accepted;
* `load_validate` — settings that were loaded are accepted;
* `MadeFrom`, `entries_madeFrom` — what the entries of a chain are made from;
* `ChainOf`, `chain_chainOf` — the chain of settings;
* `WholeChain`, `chain_whole` — the chain of settings that are accepted;
* `SettingsAgree`, `settings_agree` — the agreement.
-/

namespace CodePermit

variable {σ : Type}

/-! ### Computations that may fail -/

section

variable {ε α β : Type}

theorem bind_eq_ok_iff {x : Except ε α} {f : α → Except ε β} {b : β} :
    (x >>= f) = .ok b ↔ ∃ a, x = .ok a ∧ f a = .ok b := by
  cases x with
  | ok a =>
    constructor
    · intro h
      exact ⟨a, rfl, h⟩
    · rintro ⟨a', ha, h⟩
      cases ha
      exact h
  | error fault =>
    constructor
    · intro h
      cases h
    · rintro ⟨a, ha, -⟩
      cases ha

/-- What fails under a condition and goes on otherwise succeeds only if the condition fails. -/
theorem guard_eq_ok_iff {p : Prop} [Decidable p] {fault : ε} {next : Unit → Except ε α} {a : α} :
    (if p then throw fault >>= next else next ()) = .ok a ↔ ¬p ∧ next () = .ok a := by
  by_cases h : p
  · rw [if_pos h]
    constructor
    · intro herror
      cases herror
    · intro hp
      exact absurd h hp.1
  · rw [if_neg h, and_iff_right h]

/-- Results are formed for a list if one is formed for each of its elements. -/
theorem mapM_eq_ok_iff {f : α → Except ε β} {xs : List α} {ys : List β} :
    xs.mapM f = .ok ys ↔ List.Forall₂ (fun x y => f x = .ok y) xs ys := by
  induction xs generalizing ys with
  | nil =>
    rw [List.mapM_nil, List.forall₂_nil_left_iff]
    exact ⟨fun h => (Except.ok.inj h).symm, fun h => congrArg Except.ok h.symm⟩
  | cons x xs ih =>
    rw [List.mapM_cons, bind_eq_ok_iff, List.forall₂_cons_left_iff]
    constructor
    · rintro ⟨y, hy, hrest⟩
      obtain ⟨ys', hys', hpure⟩ := bind_eq_ok_iff.1 hrest
      exact ⟨y, ys', hy, ih.1 hys', (Except.ok.inj hpure).symm⟩
    · rintro ⟨y, ys', hy, hys', rfl⟩
      exact ⟨y, hy, bind_eq_ok_iff.2 ⟨ys', ih.2 hys', rfl⟩⟩

/-- A result that is formed for a list is that of one of its elements. -/
theorem exists_of_mem_mapM_ok {f : α → Except ε β} {xs : List α} {ys : List β} {y : β}
    (h : xs.mapM f = .ok ys) (hy : y ∈ ys) : ∃ x ∈ xs, f x = .ok y := by
  have hmade := mapM_eq_ok_iff.1 h
  clear h
  induction hmade with
  | nil => cases hy
  | cons hfirst _ ih =>
    cases hy with
    | head => exact ⟨_, .head _, hfirst⟩
    | tail _ hy =>
      obtain ⟨x, hx, h⟩ := ih hy
      exact ⟨x, .tail _ hx, h⟩

theorem exists_mapM_eq_ok_iff {f : α → Except ε β} {xs : List α} :
    (∃ ys, xs.mapM f = .ok ys) ↔ ∀ x ∈ xs, ∃ y, f x = .ok y := by
  induction xs with
  | nil => exact ⟨fun _ => List.forall_mem_nil _, fun _ => ⟨[], rfl⟩⟩
  | cons x xs ih =>
    rw [List.forall_mem_cons, ← ih]
    constructor
    · rintro ⟨ys, hys⟩
      obtain ⟨y, ys', hy, hys', -⟩ := List.forall₂_cons_left_iff.1 (mapM_eq_ok_iff.1 hys)
      exact ⟨⟨y, hy⟩, ys', mapM_eq_ok_iff.2 hys'⟩
    · rintro ⟨⟨y, hy⟩, ys, hys⟩
      exact ⟨y :: ys, mapM_eq_ok_iff.2 (.cons hy (mapM_eq_ok_iff.1 hys))⟩

end

/-! ### Policies of entries -/

theorem defaultTimeout_pos (t : Technique) : 0 < t.defaultTimeout.toNat := by
  cases t <;> decide

/-- **The policy of an entry of the settings is one for its technique, and it asks for an attempt
and gives it time.** -/
theorem policy_sound {s : StrategySettings} {p : Policy} (h : s.policy = .ok p) :
    p.technique = s.technique ∧ 1 ≤ p.maxAttempts ∧ 0 < p.timeout := by
  -- the versions are read and compared first, and neither attempts nor times depend on them
  obtain ⟨min, -, h⟩ := bind_eq_ok_iff.1 h
  obtain ⟨max, -, h⟩ := bind_eq_ok_iff.1 h
  obtain ⟨-, -, h⟩ := bind_eq_ok_iff.1 h
  obtain ⟨-, h⟩ := guard_eq_ok_iff.1 h
  obtain ⟨htimeout, h⟩ := guard_eq_ok_iff.1 h
  cases h
  refine ⟨rfl, Nat.le_max_left 1 _, ?_⟩
  show 0 < (s.timeout.getD s.technique.defaultTimeout).toNat
  cases hs : s.timeout with
  | none => exact defaultTimeout_pos s.technique
  | some t =>
    have ht : t ≠ 0 := by
      rintro rfl
      exact htimeout hs
    exact Nat.pos_of_ne_zero fun h0 => ht (UInt64.toNat_inj.1 h0)

/-- The policy of the entry can be formed. -/
def StrategySettings.hasPolicy (s : StrategySettings) : Bool :=
  s.policy.isOk

/-- The built-in strategies have policies. -/
theorem builtIn_policies : ∀ e ∈ StrategySettings.builtIn, ∃ p, e.policy = .ok p :=
  exists_mapM_eq_ok_iff.1 ⟨_, rfl⟩

/-! ### Checks -/

theorem checkAll_iff {seen : List Technique} {entries : List StrategySettings} :
    StrategySettings.checkAll seen entries = .ok () ↔
      (∀ e ∈ entries, e.technique ∉ seen) ∧ (entries.map StrategySettings.technique).Nodup ∧
        ∀ e ∈ entries, ∃ p, e.policy = .ok p := by
  induction entries generalizing seen with
  | nil => simp [StrategySettings.checkAll]
  | cons e entries ih =>
    have hcons : StrategySettings.checkAll seen (e :: entries) = .ok () ↔ e.technique ∉ seen ∧
        (∃ p, e.policy = .ok p) ∧
          StrategySettings.checkAll (e.technique :: seen) entries = .ok () := by
      rw [StrategySettings.checkAll]
      by_cases hseen : e.technique ∈ seen
      · simp [hseen]
      · rw [if_neg hseen, bind_eq_ok_iff, exists_and_right, and_iff_right hseen]
    rw [hcons, ih, List.map_cons, List.nodup_cons]
    simp only [List.mem_cons, not_or, forall_and, List.mem_map]
    grind

/-- **When settings are accepted**: there is an interval of polling, the helper's command line names
a program if there is one, no technique has two entries, and all policies can be formed. -/
theorem validate_iff {s : Settings} :
    s.validate = .ok () ↔ s.pollInterval ≠ 0 ∧ s.helperCommand ≠ some [] ∧
      (s.strategies.map StrategySettings.technique).Nodup ∧ ∃ ps, s.policies = .ok ps := by
  have hchecks : s.validate = .ok () ↔ s.pollInterval ≠ 0 ∧ s.helperCommand ≠ some [] ∧
      StrategySettings.checkAll [] s.strategies = .ok () := by
    unfold Settings.validate
    refine guard_eq_ok_iff.trans (and_congr_right fun _ => ?_)
    exact guard_eq_ok_iff
  have hpolicies : (∃ ps, s.policies = .ok ps) ↔ ∀ e ∈ s.strategies, ∃ p, e.policy = .ok p := by
    rw [Settings.policies, exists_mapM_eq_ok_iff, Settings.effective]
    split
    · rename_i hnone
      rw [hnone]
      exact ⟨fun _ => List.forall_mem_nil _, fun _ => builtIn_policies⟩
    · rfl
  rw [hchecks, checkAll_iff, hpolicies, and_iff_right fun _ _ => List.not_mem_nil]

theorem checked_eq_ok {s s' : Settings} (h : s.checked = .ok s') :
    s' = s ∧ s.validate = .ok () := by
  unfold Settings.checked at h
  split at h
  · rename_i hvalid
    cases h
    exact ⟨rfl, hvalid⟩
  · cases h

theorem ofContent_validate {path : String} {content : List UInt8} {s : Settings}
    (h : Settings.ofContent path content = .ok s) : s.validate = .ok () := by
  unfold Settings.ofContent at h
  split at h
  · cases h
  · split at h
    · cases h
    · obtain ⟨rfl, hvalid⟩ := checked_eq_ok h
      exact hvalid

/-- **Settings that were loaded are accepted**, whatever stands in the file. -/
theorem load_validate {read : String → Except ReadFault (List UInt8)}
    {asked default : Option String} {s : Settings} (h : Settings.load read asked default = .ok s) :
    s.validate = .ok () := by
  unfold Settings.load at h
  split at h
  · split at h
    · exact ofContent_validate h
    · cases h
  · split at h
    · exact ofContent_validate h
    · cases h
      rfl
    · cases h
  · cases h
    rfl

/-! ### Chains of settings -/

/-- The strategies under each technique, as the settings have them. -/
inductive StrategyFor (all : Settings) (transport : Option (Transport σ)) (pid : UInt32) :
    Technique → Strategy σ → Prop
  | preGranted : StrategyFor all transport pid .preGranted preGranted
  | selfElevation : StrategyFor all transport pid .selfElevation selfElevation
  | companionHelper : StrategyFor all transport pid .companionHelper
      (companionHelper transport ⟨pid, all.bundleId⟩ all.pollInterval.toNat)
  | awaitDebugger : StrategyFor all transport pid .awaitDebugger
      (awaitDebugger all.pollInterval.toNat)

/-- An entry of a chain is made from an entry of the settings: it has its policy, and it has a
strategy for its technique. -/
structure MadeFrom (all : Settings) (transport : Option (Transport σ)) (pid : UInt32)
    (s : StrategySettings) (e : Entry σ) : Prop where
  policy : s.policy = .ok e.policy
  technique : e.policy.technique = s.technique
  strategy : StrategyFor all transport pid s.technique e.strategy

theorem strategy_for (s : StrategySettings) (all : Settings) (transport : Option (Transport σ))
    (pid : UInt32) : StrategyFor all transport pid s.technique (s.strategy all transport pid) := by
  unfold StrategySettings.strategy
  cases s.technique with
  | preGranted => exact .preGranted
  | selfElevation => exact .selfElevation
  | companionHelper => exact .companionHelper
  | awaitDebugger => exact .awaitDebugger

variable {s : Settings} {transport : Option (Transport σ)} {pid : UInt32} {host : Option Version}

/-- **The entries are made from the strategies that have a policy**, one from each. -/
theorem entries_madeFrom : List.Forall₂ (MadeFrom s transport pid)
    (s.effective.filter StrategySettings.hasPolicy) (s.entries transport pid) := by
  unfold Settings.entries
  induction s.effective with
  | nil => exact .nil
  | cons e entries ih =>
    rw [List.filterMap_cons, StrategySettings.entry?]
    cases hpolicy : e.policy with
    | ok policy =>
      have hkeep : e.hasPolicy = true := by
        rw [StrategySettings.hasPolicy, hpolicy]
        rfl
      rw [List.filter_cons_of_pos hkeep]
      exact .cons ⟨hpolicy, (policy_sound hpolicy).1, strategy_for e s transport pid⟩ ih
    | error fault =>
      have hdrop : ¬e.hasPolicy = true := by
        rw [StrategySettings.hasPolicy, hpolicy]
        exact Bool.false_ne_true
      rw [List.filter_cons_of_neg hdrop]
      exact ih

theorem entries_sound : ∀ e ∈ s.entries transport pid, 1 ≤ e.policy.maxAttempts ∧
    0 < e.policy.timeout := by
  intro e he
  obtain ⟨se, -, hentry⟩ := List.mem_filterMap.1 he
  unfold StrategySettings.entry? at hentry
  split at hentry
  · rename_i policy hpolicy
    cases hentry
    exact (policy_sound hpolicy).2
  · cases hentry

/-- The same strategies in another order give the same entries in another order. -/
theorem entries_reordered {strategies : List StrategySettings}
    (h : strategies.Perm s.strategies) :
    (({ s with strategies := strategies } : Settings).entries transport pid).Perm
      (s.entries transport pid) := by
  have heffective : ({ s with strategies := strategies } : Settings).effective.Perm
      s.effective := by
    by_cases hnone : s.strategies = []
    · rw [hnone] at h
      rw [Settings.effective, Settings.effective, hnone, h.eq_nil]
    · have hsome : strategies ≠ [] := by
        rintro rfl
        exact hnone h.symm.eq_nil
      rw [Settings.effective, Settings.effective, if_neg hnone, if_neg hsome]
      exact h
  exact heffective.filterMap fun e => e.entry? s transport pid

/-- The chain of settings, from the chain itself. -/
structure ChainOf (s : Settings) (transport : Option (Transport σ)) (pid : UInt32)
    (host : Option Version) (c : Chain σ) : Prop where
  /-- The entries are made from the strategies that have a policy, one from each; entries of one
  priority stay in the order of the settings. -/
  madeFrom : ∃ kept, List.Forall₂ (MadeFrom s transport pid)
    (s.effective.filter StrategySettings.hasPolicy) kept ∧ c.entries.Perm kept ∧
      ∀ n, ofPriority n c.entries = ofPriority n kept
  /-- The entries are in the order of their priorities. -/
  ordered : c.entries.Pairwise fun e f => e.policy.priority ≤ f.policy.priority
  /-- The host is the one that was given. -/
  host_eq : c.host = host
  /-- If no two entries have one priority, the order of the settings does not matter. -/
  reordered : ∀ strategies, strategies.Perm s.strategies →
    (c.policies.map Policy.priority).Nodup →
      ({ s with strategies := strategies } : Settings).chain transport pid host = c

theorem chain_chainOf : ChainOf s transport pid host (s.chain transport pid host) := by
  have hperm : (sorted (s.entries transport pid)).Perm (s.entries transport pid) :=
    List.mergeSort_perm _ _
  refine ⟨⟨s.entries transport pid, entries_madeFrom, hperm, fun n => sorted_ofPriority n _⟩,
    sorted_pairwise _, rfl, fun strategies h hnodup => ?_⟩
  -- the priorities of the chain are those of the entries in the order of the settings
  have hpriorities : ((s.entries transport pid).map fun e => e.policy.priority).Nodup := by
    have hchain : ((sorted (s.entries transport pid)).map fun e => e.policy.priority).Nodup := by
      simpa [Chain.policies, Settings.chain, Chain.ofEntries, Function.comp_def] using hnodup
    exact (hperm.map _).nodup_iff.1 hchain
  exact congrArg (Chain.mk · host) (sorted_reordered (entries_reordered h) hpriorities)

/-! ### Chains of settings that are accepted -/

/-- The chain has all that the settings ask for, and asks for no more than can be done. -/
structure WholeChain (s : Settings) (c : Chain σ) : Prop where
  /-- All policies can be formed, and the chain has them. -/
  policies : ∃ ps, s.policies = .ok ps ∧ c.policies.Perm ps
  /-- Nothing is dropped. -/
  allKept : ∀ e ∈ s.effective, e.hasPolicy = true
  nonempty : c.entries ≠ []
  length_eq : c.entries.length = s.effective.length
  /-- No technique has two entries. -/
  techniques : (c.policies.map Policy.technique).Nodup
  attempts : ∀ e ∈ c.entries, 1 ≤ e.policy.maxAttempts
  timeouts : ∀ e ∈ c.entries, 0 < e.policy.timeout

theorem effective_ne_nil (s : Settings) : s.effective ≠ [] := by
  unfold Settings.effective
  split
  · exact List.cons_ne_nil _ _
  · assumption

theorem effective_techniques (h : (s.strategies.map StrategySettings.technique).Nodup) :
    (s.effective.map StrategySettings.technique).Nodup := by
  unfold Settings.effective
  split
  · decide
  · exact h

/-- **Nothing is dropped of settings that are accepted.** -/
theorem chain_whole (h : s.validate = .ok ()) : WholeChain s (s.chain transport pid host) := by
  obtain ⟨-, -, hnodup, hpolicies⟩ := validate_iff.1 h
  have hall : ∀ e ∈ s.effective, e.hasPolicy = true := by
    intro e he
    obtain ⟨p, hp⟩ := exists_mapM_eq_ok_iff.1 hpolicies e he
    rw [StrategySettings.hasPolicy, hp]
    rfl
  have hmade : List.Forall₂ (MadeFrom s transport pid) s.effective (s.entries transport pid) := by
    have hfilter : List.Forall₂ (MadeFrom s transport pid)
        (s.effective.filter StrategySettings.hasPolicy) (s.entries transport pid) :=
      entries_madeFrom
    rwa [List.filter_eq_self.2 hall] at hfilter
  have hperm : (sorted (s.entries transport pid)).Perm (s.entries transport pid) :=
    List.mergeSort_perm _ _
  have hlength : (s.chain transport pid host).entries.length = s.effective.length :=
    hperm.length_eq.trans hmade.length_eq.symm
  have hpolicies : s.policies = .ok ((s.entries transport pid).map Entry.policy) :=
    mapM_eq_ok_iff.2 (List.forall₂_map_right_iff.2 (hmade.imp fun _ _ hm => hm.policy))
  have htechniques : s.effective.map StrategySettings.technique =
      (s.entries transport pid).map fun e => e.policy.technique := by
    rw [← List.forall₂_eq_eq_eq, List.forall₂_map_left_iff, List.forall₂_map_right_iff]
    exact hmade.imp fun _ _ hm => hm.technique.symm
  refine ⟨⟨_, hpolicies, hperm.map Entry.policy⟩, hall, ?_, hlength, ?_,
    fun e he => (entries_sound e (mem_sorted.1 he)).1,
    fun e he => (entries_sound e (mem_sorted.1 he)).2⟩
  · intro hnil
    rw [hnil] at hlength
    exact effective_ne_nil s (List.length_eq_zero_iff.1 hlength.symm)
  · have hsettings := effective_techniques hnodup
    rw [htechniques] at hsettings
    show (((sorted (s.entries transport pid)).map Entry.policy).map Policy.technique).Nodup
    rw [List.map_map]
    exact (hperm.map _).nodup_iff.2 hsettings

/-- Without the check an entry is dropped that asks for no attempt. -/
example : (({ strategies := [{ technique := .preGranted, maxAttempts := 0 }] } : Settings).entries
    none 1 : List (Entry Unit)) = [] := rfl

/-! ### The agreement -/

/-- The check of settings, their policies, and their chain agree. -/
structure SettingsAgree (s : Settings) (transport : Option (Transport σ)) (pid : UInt32)
    (host : Option Version) : Prop where
  /-- The chain is made from the strategies that have a policy. -/
  chain : ChainOf s transport pid host (s.chain transport pid host)
  /-- If the settings are accepted, nothing is dropped. -/
  whole : s.validate = .ok () → WholeChain s (s.chain transport pid host)
  /-- Settings that were loaded are accepted. -/
  loaded : ∀ read asked default, Settings.load read asked default = .ok s → s.validate = .ok ()
  /-- If all policies can be formed, what else is checked is the interval of polling, the helper's
  command line, and that no technique has two entries. -/
  accepted : s.pollInterval ≠ 0 → s.helperCommand ≠ some [] →
    (s.strategies.map StrategySettings.technique).Nodup → (∃ ps, s.policies = .ok ps) →
      s.validate = .ok ()

/-- **The check of settings, their policies, and their chain agree.** -/
theorem settings_agree (s : Settings) (transport : Option (Transport σ)) (pid : UInt32)
    (host : Option Version) : SettingsAgree s transport pid host where
  chain := chain_chainOf
  whole := chain_whole
  loaded := fun _ _ _ h => load_validate h
  accepted := fun hpoll hhelper hnodup hpolicies =>
    validate_iff.2 ⟨hpoll, hhelper, hnodup, hpolicies⟩

end CodePermit
