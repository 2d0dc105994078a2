import CodePermit.Proofs.Acceptance
import CodePermit.Proofs.VersionGrammar
/-!
# Versions written in full

The full text of a version is read as that version.  A text that is a version may say the same in
another way, with numbers left out, signs, zeros in front or blanks around it; in settings such a
text can be replaced by the full text of its version, and nothing that is made of the settings
changes.

* `toList_text`, `components_text`, `read_text` — the full text of a version and its components;
* `Restated`, `StrategySettings.Restates`, `Settings.Restates` — the same versions in other words;
* `policy_restated`, `checkAll_restated`, `effective_restated` — entries one by one and all
  together;
* `SameSettings`, `Settings.Restates.same` — what is made of the settings;
* `versions_roundTrip` — both together.
-/

namespace CodePermit

/-! ### Full texts -/

namespace Version

/-- The digits of the numbers of a version. -/
def digits (v : Version) : List (List Char) :=
  v.numbers.map fun n => Nat.toDigits 10 n.toNat

theorem toList_text (v : Version) : v.text.toList = ['.'].intercalate v.digits := by
  simp [text, digits, numbers, toString, List.intercalate, Nat.toList_repr]

theorem isDigit_of_mem_digits {v : Version} {ds : List Char} {d : Char} (hds : ds ∈ v.digits)
    (hd : d ∈ ds) : d.isDigit = true := by
  obtain ⟨n, -, rfl⟩ := List.mem_map.1 hds
  exact Text.isDigit_of_mem_toDigits hd

/-- Digits and dots are no blanks. -/
theorem trim_text (v : Version) : Text.trim v.text.toList = v.text.toList := by
  refine Text.trim_of_no_blank fun c hc => ?_
  have hdigit : (∃ n, c ∈ Nat.toDigits 10 n) ∨ c = '.' := by
    simp only [toList_text, digits, numbers, List.intercalate, List.map_cons, List.map_nil,
      List.intersperse, List.flatten_cons, List.flatten_nil, List.mem_append, List.mem_singleton,
      List.not_mem_nil, or_false] at hc
    grind
  rcases hdigit with ⟨n, hn⟩ | rfl
  · exact Text.isBlank_of_isDigit (Text.isDigit_of_mem_toDigits hn)
  · rfl

theorem components_text (v : Version) : components v.text = v.digits := by
  rw [components, trim_text, toList_text]
  refine List.splitOn_intercalate '.' (fun ds hds hdot => ?_) (List.cons_ne_nil _ _)
  exact absurd (isDigit_of_mem_digits hds hdot) (by decide)

/-- **The full text of a version is read as that version.** -/
theorem read_text (v : Version) : read v.text = .ok v := by
  refine read_eq_ok_iff.2 ⟨?_, v.numbers, ?_, rfl⟩
  · rw [components_text]
    exact Nat.le_refl 3
  · rw [components_text, digits, List.forall₂_map_left_iff, List.forall₂_same]
    intro n _
    exact Text.readUInt64_eq_some_iff.2 (Text.numeral_toDigits n.toNat)

end Version
/-! ### Settings with versions in other words -/

/-- A version text that may be missing, and the same or the full text of its version. -/
inductive Restated : Option String → Option String → Prop
  | kept (text : Option String) : Restated text text
  | inFull {text : String} {v : Version} (h : Version.read text = .ok v) :
      Restated (some text) (some v.text)

/-- The entries differ at most in the words of their versions. -/
structure StrategySettings.Restates (e e' : StrategySettings) : Prop where
  min : Restated e.minVersion e'.minVersion
  max : Restated e.maxVersion e'.maxVersion
  rest : e' = { e with minVersion := e'.minVersion, maxVersion := e'.maxVersion }

/-- The settings differ at most in the words of the versions of their entries. -/
structure Settings.Restates (s s' : Settings) : Prop where
  strategies : List.Forall₂ StrategySettings.Restates s.strategies s'.strategies
  rest : s' = { s with strategies := s'.strategies }

theorem restates_self (e : StrategySettings) : e.Restates e :=
  ⟨.kept _, .kept _, rfl⟩

section Entries

variable {e e' : StrategySettings} {entries entries' : List StrategySettings}

theorem readBound_restated {text text' : Option String} (h : Restated text text')
    (t : Technique) : StrategySettings.readBound t text' = StrategySettings.readBound t text := by
  cases h with
  | kept => rfl
  | inFull h => simp only [StrategySettings.readBound, h, Version.read_text]

/-- **The policy of an entry hangs on the versions and not on their words**; it is refused for the
same reason, too. -/
theorem policy_restated (h : e.Restates e') : e'.policy = e.policy := by
  obtain ⟨hmin, hmax, hrest⟩ := h
  rw [hrest]
  simp only [StrategySettings.policy, readBound_restated hmin, readBound_restated hmax]

theorem technique_restated (h : e.Restates e') : e'.technique = e.technique := by
  rw [h.rest]

theorem checkAll_restated (h : List.Forall₂ StrategySettings.Restates entries entries')
    (seen : List Technique) :
    StrategySettings.checkAll seen entries' = StrategySettings.checkAll seen entries := by
  induction h generalizing seen with
  | nil => rfl
  | cons hfirst _ ih =>
    simp only [StrategySettings.checkAll, technique_restated hfirst, policy_restated hfirst, ih]

theorem mapM_policy_restated (h : List.Forall₂ StrategySettings.Restates entries entries') :
    entries'.mapM StrategySettings.policy = entries.mapM StrategySettings.policy := by
  induction h with
  | nil => rfl
  | cons hfirst _ ih => simp only [List.mapM_cons, policy_restated hfirst, ih]

theorem filterMap_restated {α : Type} {f f' : StrategySettings → Option α}
    (h : List.Forall₂ StrategySettings.Restates entries entries')
    (hf : ∀ e e', e.Restates e' → f' e' = f e) : entries'.filterMap f' = entries.filterMap f := by
  induction h with
  | nil => rfl
  | cons hfirst _ ih => simp only [List.filterMap_cons, hf _ _ hfirst, ih]

end Entries

namespace Settings.Restates

variable {s s' : Settings}

theorem pollInterval (h : s.Restates s') : s'.pollInterval = s.pollInterval := by
  rw [h.rest]

theorem helperCommand (h : s.Restates s') : s'.helperCommand = s.helperCommand := by
  rw [h.rest]

theorem bundleId (h : s.Restates s') : s'.bundleId = s.bundleId := by
  rw [h.rest]

/-- Where no entry is given, the built-in ones are used on both sides. -/
theorem effective (h : s.Restates s') :
    List.Forall₂ StrategySettings.Restates s.effective s'.effective := by
  unfold Settings.effective
  by_cases hnone : s.strategies = []
  · have hnone' : s'.strategies = [] := by simpa [hnone] using h.strategies
    rw [if_pos hnone, if_pos hnone']
    exact List.forall₂_same.2 fun e _ => restates_self e
  · have hsome' : s'.strategies ≠ [] := by
      intro hnone'
      exact hnone (by simpa [hnone'] using h.strategies)
    rw [if_neg hnone, if_neg hsome']
    exact h.strategies

theorem validate (h : s.Restates s') : s'.validate = s.validate := by
  simp only [Settings.validate, h.pollInterval, h.helperCommand, checkAll_restated h.strategies]

theorem policies (h : s.Restates s') : s'.policies = s.policies :=
  mapM_policy_restated h.effective

variable {σ : Type} {transport : Option (Transport σ)} {pid : UInt32} {host : Option Version}

theorem entries (h : s.Restates s') : s'.entries transport pid = s.entries transport pid := by
  refine filterMap_restated h.effective fun e e' he => ?_
  simp only [StrategySettings.entry?, StrategySettings.strategy, policy_restated he,
    technique_restated he, h.bundleId, h.pollInterval]

end Settings.Restates

/-- What is made of settings does not tell in which words their versions are written. -/
structure SameSettings (s s' : Settings) : Prop where
  /-- They are accepted, or refused for the same reason. -/
  validate : s'.validate = s.validate
  /-- They have the same policies, or none for the same reason. -/
  policies : s'.policies = s.policies
  /-- Entry by entry the same hosts qualify. -/
  permits : List.Forall₂ (fun e e' => ∀ host,
    (e'.policy.map fun p => p.eligibility.permits host) =
      e.policy.map fun p => p.eligibility.permits host) s.effective s'.effective
  /-- They have the same chain, whatever the surroundings are. -/
  chain : ∀ (σ : Type) (transport : Option (Transport σ)) pid host,
    s'.chain transport pid host = s.chain transport pid host

theorem Settings.Restates.same {s s' : Settings} (h : s.Restates s') : SameSettings s s' where
  validate := h.validate
  policies := h.policies
  permits := h.effective.imp fun e e' he host => by rw [policy_restated he]
  chain := by
    intro σ transport pid host
    rw [Settings.chain, Settings.chain, h.entries]

/-! ### The round trip -/

/-- **Versions written in full** are read as they are, so that the full text of a version that was
read stands for the same version; and in settings they can replace the texts that were read. -/
theorem versions_roundTrip :
    (∀ v : Version, Version.read v.text = .ok v) ∧
      (∀ text v, Version.read text = .ok v → Version.read v.text = Version.read text ∧
        ∃ w, Version.read v.text = .ok w ∧ compare w v = .eq) ∧
      ∀ s s' : Settings, s.Restates s' → SameSettings s s' := by
  refine ⟨Version.read_text, fun text v h => ?_, fun s s' h => h.same⟩
  rw [h]
  exact ⟨v.read_text, v, v.read_text, Version.order_self v⟩

/-- Settings with bounds in short. -/
def shortBounds : Settings where
  strategies := [{
    technique := .companionHelper
    minVersion := some " 14"
    maxVersion := some "+17.04" }]

/-- The same settings with one bound in full. -/
def fullBound : Settings where
  strategies := [{
    technique := .companionHelper
    minVersion := some "14.0.0"
    maxVersion := some "+17.04" }]

theorem versions_roundTrip_short :
    shortBounds.Restates fullBound ∧ SameSettings shortBounds fullBound := by
  have hread : Version.read " 14" = .ok ⟨14, 0, 0⟩ := rfl
  have h : shortBounds.Restates fullBound :=
    ⟨.cons ⟨.inFull hread, .kept _, rfl⟩ .nil, rfl⟩
  exact ⟨h, versions_roundTrip.2.2 _ _ h⟩

end CodePermit
