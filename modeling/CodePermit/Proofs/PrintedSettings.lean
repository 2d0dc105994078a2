import CodePermit.CommandLine.Acquisition
import CodePermit.Proofs.Encodings
import CodePermit.Proofs.TomlDocuments
import CodePermit.Proofs.VersionRoundTrip
/-!
# Settings that are printed

The command line prints settings with all the strategies that are used.  What it prints is read as
these settings, whatever they are; and they cannot be told from the settings that were given: they
are accepted or refused alike, and the same policies and the same chain are made of them.

* `optional_map`, `uint32?_integer`, `uint64?_integer`, `texts?_textArray` — values read back;
* `toFields_keys`, `plainFields_keys` — the keys of fields, in order and without repetition;
* `ofToml?_toFields`, `ofTable?_toTable` — settings that are read back from their fields;
* `writable_toFields`, `read_toTable` — the fields as a document;
* `SpelledOut`, `settings_spelledOut` — what holds of the settings that are printed.
-/

namespace CodePermit

open Toml (lookup)

/-! ### Values -/

theorem optional_map {α : Type} {read : Toml → Option α} {write : α → Toml}
    (h : ∀ a, read (write a) = some a) (value : Option α) :
    optional read (value.map write) = some value := by
  cases value with
  | none => rfl
  | some a => exact congrArg (Option.map some) (h a)

theorem withDefault_some {α : Type} {read : Toml → Option α} {v : Toml} {a : α}
    (h : read v = some a) (value : α) : withDefault value read (some v) = some a := h

namespace Toml

theorem uint32?_integer (n : UInt32) : uint32? (.integer n.toNat) = some n := by
  have hlt : (n.toNat : Int) < UInt32.size := Int.ofNat_lt.2 n.toNat_lt
  rw [uint32?, below?, if_pos ⟨Int.natCast_nonneg _, hlt⟩]
  exact congrArg some UInt32.ofNat_toNat

theorem uint64?_integer (n : UInt64) : uint64? (.integer n.toNat) = some n := by
  have hlt : (n.toNat : Int) < UInt64.size := Int.ofNat_lt.2 n.toNat_lt
  rw [uint64?, below?, if_pos ⟨Int.natCast_nonneg _, hlt⟩]
  exact congrArg some UInt64.ofNat_toNat

theorem text?_string (s : String) : text? (.string s) = some s := rfl

theorem texts?_textArray (texts : List String) : texts? (Settings.textArray texts) = some texts :=
  mapM_map text?_string texts

theorem bool?_boolean (b : Bool) : bool? (.boolean b) = some b := rfl

/-! ### Fields -/

@[simp] theorem lookup_nil (key : String) : lookup [] key = none := rfl

@[simp] theorem lookup_cons (key name : String) (v : Toml) (fields : List (String × Toml)) :
    lookup ((name, v) :: fields) key = if name = key then some v else lookup fields key := by
  by_cases h : name = key <;> simp [lookup, h]

/-- A key that may be set is found if it is, and hides nothing if it is not. -/
@[simp] theorem lookup_fieldIfSet_append (key name : String) (v : Option Toml)
    (fields : List (String × Toml)) :
    lookup (fieldIfSet name v ++ fields) key =
      if name = key then v.or (lookup fields key) else lookup fields key := by
  cases v with
  | none => simp [fieldIfSet]
  | some v => simp [fieldIfSet]

theorem fieldIfSet_keys (name : String) (v : Option Toml) :
    ((fieldIfSet name v).map Prod.fst).Sublist [name] := by
  cases v with
  | none => exact List.nil_sublist _
  | some v => exact List.Sublist.refl _

/-- What holds of every value that is written holds of a key that may be set. -/
theorem forall_fieldIfSet {α : Type} {write : α → Toml} {P : Toml → Prop} (h : ∀ a, P (write a))
    (name : String) (value : Option α) : ∀ f ∈ fieldIfSet name (value.map write), P f.2 := by
  cases value with
  | none => exact List.forall_mem_nil _
  | some a => exact List.forall_mem_singleton.2 (h a)

theorem legible_uint64 (n : UInt64) : Legible depthLimit (.integer n.toNat) := by
  have hsize : ((UInt64.size : Nat) : Int) < integerBound := by decide
  exact legible_integer _ (Int.lt_trans (Int.ofNat_lt.2 n.toNat_lt) hsize)

theorem legible_uint32 (n : UInt32) : Legible depthLimit (.integer n.toNat) :=
  legible_uint64 n.toUInt64

theorem legible_textArray (texts : List String) :
    Legible depthLimit (Settings.textArray texts) := by
  show Legible (79 + 1) (.array (texts.map .string))
  refine legible_array fun v hv => ?_
  obtain ⟨s, -, rfl⟩ := List.mem_map.1 hv
  exact legible_string _ s

/-- Fields whose keys are among bare ones, in their order, can be written. -/
theorem writable_of_keys {keys : List String} {fields : List (String × Toml)}
    (h : (fields.map Prod.fst).Sublist keys) (hnodup : keys.Nodup)
    (hkeys : ∀ key ∈ keys, key.toList ≠ [] ∧ key.toList.all isBare = true)
    (hvalues : ∀ f ∈ fields, Legible depthLimit f.2) : Writable fields where
  bare := by
    intro f hf
    obtain ⟨hne, hbare⟩ := hkeys f.1 (h.subset (List.mem_map_of_mem hf))
    exact ⟨hne, List.all_eq_true.1 hbare⟩
  legible := hvalues
  nodup := h.nodup hnodup

end Toml

/-! ### Strategies -/

section Strategies

variable (e : StrategySettings)

/-- The fields of a strategy are in the order of the keys, and no key is there twice. -/
theorem toFields_keys : (e.toFields.map Prod.fst).Sublist StrategySettings.keys := by
  simp only [StrategySettings.toFields, List.map_append]
  exact ((((((List.Sublist.refl ["kind"]).append (Toml.fieldIfSet_keys _ _)).append
    (Toml.fieldIfSet_keys _ _)).append
      (List.Sublist.refl ["max_attempts", "retry_backoff_ms", "enabled"])).append
        (Toml.fieldIfSet_keys _ _)).append (Toml.fieldIfSet_keys _ _)).append
          (List.Sublist.refl ["force_applicable"])

/-- **A strategy is read back from its fields.** -/
theorem ofToml?_toFields : StrategySettings.ofToml? (.table e.toFields) = some e := by
  have hkeys : (e.toFields.all fun f => StrategySettings.keys.contains f.1) = true := by
    rw [List.all_eq_true]
    intro f hf
    rw [List.contains_iff_mem]
    exact (toFields_keys e).subset (List.mem_map_of_mem hf)
  have htechnique : Technique.ofToml? (.string e.technique.name) = some e.technique :=
    Technique.ofName?_name e.technique
  rw [StrategySettings.ofToml?, if_pos hkeys]
  simp [StrategySettings.ofValues?, StrategySettings.toFields, htechnique,
    optional_map Toml.uint32?_integer, optional_map Toml.uint64?_integer,
    optional_map Toml.text?_string, withDefault_some (Toml.uint32?_integer _),
    withDefault_some (Toml.uint64?_integer _), withDefault_some (Toml.bool?_boolean _)]

theorem writable_toFields : Toml.Writable e.toFields := by
  refine Toml.writable_of_keys (toFields_keys e) (by decide) (by decide) ?_
  have hnil := List.forall_mem_nil fun f : String × Toml => Toml.Legible Toml.depthLimit f.2
  simp only [StrategySettings.toFields, List.forall_mem_append, List.forall_mem_cons]
  exact ⟨⟨⟨⟨⟨⟨⟨Toml.legible_string _ _, hnil⟩, Toml.forall_fieldIfSet Toml.legible_uint32 _ _⟩,
    Toml.forall_fieldIfSet Toml.legible_uint64 _ _⟩, Toml.legible_uint32 _,
    Toml.legible_uint64 _, Toml.legible_boolean _ _, hnil⟩,
    Toml.forall_fieldIfSet (Toml.legible_string _) _ _⟩,
    Toml.forall_fieldIfSet (Toml.legible_string _) _ _⟩, Toml.legible_boolean _ _, hnil⟩

end Strategies

/-! ### All settings -/

section All

variable (s : Settings)

/-- The fields of settings but for the strategies. -/
def Settings.plainFields : List (String × Toml) :=
  [("bundle_id", .string s.bundleId), ("poll_interval_ms", .integer s.pollInterval.toNat)]
    ++ Toml.fieldIfSet "helper_command" (s.helperCommand.map Settings.textArray)
    ++ [("jailbreak_markers", Settings.textArray s.jailbreakMarkers)]

theorem toTable_eq : s.toTable = s.plainFields ++
    [("strategies", .array ((s.strategies.map StrategySettings.toFields).map .table))] := by
  simp [Settings.toTable, Settings.plainFields]

theorem plainFields_keys : (s.plainFields.map Prod.fst).Sublist
    ["bundle_id", "poll_interval_ms", "helper_command", "jailbreak_markers"] := by
  simp only [Settings.plainFields, List.map_append]
  exact ((List.Sublist.refl ["bundle_id", "poll_interval_ms"]).append
    (Toml.fieldIfSet_keys _ _)).append (List.Sublist.refl ["jailbreak_markers"])

theorem strategies?_array (strategies : List StrategySettings) :
    Settings.strategies? (.array (strategies.map fun e => .table e.toFields)) = some strategies :=
  Toml.mapM_map ofToml?_toFields strategies

/-- **Settings are read back from their fields.** -/
theorem ofTable?_toTable : Settings.ofTable? s.toTable = some s := by
  have hkeys : (s.toTable.all fun f => Settings.keys.contains f.1 || f.2.isHeld) = true := by
    rw [List.all_eq_true]
    intro f hf
    rw [Bool.or_eq_true, List.contains_iff_mem]
    rw [toTable_eq, List.mem_append, List.mem_singleton] at hf
    rcases hf with hf | rfl
    · have hmem := (plainFields_keys s).subset (List.mem_map_of_mem hf)
      exact .inl (List.mem_append_left ["strategies"] hmem)
    · exact .inl (by simp [Settings.keys])
  have hbundle : lookup s.toTable "bundle_id" = some (.string s.bundleId) := by
    simp [Settings.toTable]
  have hinterval : lookup s.toTable "poll_interval_ms" =
      some (.integer s.pollInterval.toNat) := by
    simp [Settings.toTable]
  have hhelper : lookup s.toTable "helper_command" =
      s.helperCommand.map Settings.textArray := by
    simp [Settings.toTable]
  have hmarkers : lookup s.toTable "jailbreak_markers" =
      some (Settings.textArray s.jailbreakMarkers) := by
    simp [Settings.toTable]
  have hstrategies : lookup s.toTable "strategies" =
      some (.array (s.strategies.map fun e => .table e.toFields)) := by
    simp [Settings.toTable]
  rw [Settings.ofTable?, hkeys, hbundle, hinterval, hhelper, hmarkers, hstrategies]
  -- one read after another, so that no bound of a number is ever computed
  dsimp only
  rw [withDefault_some (Toml.text?_string _), withDefault_some (Toml.uint64?_integer _),
    optional_map Toml.texts?_textArray, withDefault_some (Toml.texts?_textArray _),
    withDefault_some (strategies?_array _)]
  rfl

theorem writable_plainFields : Toml.Writable s.plainFields := by
  refine Toml.writable_of_keys (plainFields_keys s) (by decide) (by decide) ?_
  have hnil := List.forall_mem_nil fun f : String × Toml => Toml.Legible Toml.depthLimit f.2
  simp only [Settings.plainFields, List.forall_mem_append, List.forall_mem_cons]
  exact ⟨⟨⟨Toml.legible_string _ _, Toml.legible_uint64 _, hnil⟩,
    Toml.forall_fieldIfSet Toml.legible_textArray _ _⟩, Toml.legible_textArray _, hnil⟩

theorem tables?_textArray (texts : List String) :
    Toml.tables? (Settings.textArray texts) = none := by
  cases texts <;> rfl

/-- **The text of settings is read as their fields**, if they have strategies. -/
theorem read_toTable (h : s.strategies ≠ []) :
    Toml.read (Toml.write s.toTable) = some s.toTable := by
  have hvalues : ∀ f ∈ s.plainFields, Toml.tables? f.2 = none := by
    have hnil := List.forall_mem_nil fun f : String × Toml => Toml.tables? f.2 = none
    simp only [Settings.plainFields, List.forall_mem_append, List.forall_mem_cons]
    exact ⟨⟨⟨rfl, rfl, hnil⟩,
      Toml.forall_fieldIfSet (P := fun v => Toml.tables? v = none) tables?_textArray _ _⟩,
      tables?_textArray _, hnil⟩
  have hnew : "strategies" ∉ s.plainFields.map Prod.fst := by
    intro hmem
    exact absurd ((plainFields_keys s).subset hmem) (by decide)
  have htables : ∀ t ∈ s.strategies.map StrategySettings.toFields, Toml.Writable t := by
    intro t ht
    obtain ⟨e, -, rfl⟩ := List.mem_map.1 ht
    exact writable_toFields e
  rw [toTable_eq]
  exact Toml.read_write (writable_plainFields s) hvalues ⟨by decide, List.all_eq_true.1 rfl⟩ hnew
    (by simpa using h) htables

/-- **The text of settings is read as these settings.** -/
theorem ofText?_write (h : s.strategies ≠ []) :
    Settings.ofText? (Toml.write s.toTable) = some s := by
  rw [Settings.ofText?, read_toTable s h]
  exact ofTable?_toTable s

end All

/-! ### Settings that are spelled out -/

/-- The fields of settings hold no key for what is not set. -/
structure OmitsUnset (s : Settings) : Prop where
  helperCommand : lookup s.toTable "helper_command" = none ↔ s.helperCommand = none
  priority : ∀ e ∈ s.strategies, lookup e.toFields "priority" = none ↔ e.priority = none
  timeout : ∀ e ∈ s.strategies, lookup e.toFields "timeout_ms" = none ↔ e.timeout = none
  minVersion : ∀ e ∈ s.strategies, lookup e.toFields "min_os_version" = none ↔ e.minVersion = none
  maxVersion : ∀ e ∈ s.strategies, lookup e.toFields "max_os_version" = none ↔ e.maxVersion = none

theorem omitsUnset (s : Settings) : OmitsUnset s := by
  constructor <;> simp [Settings.toTable, StrategySettings.toFields]

namespace CommandLine

variable (c : Settings)

/-- The built-in strategies are accepted, as no strategies are. -/
theorem checkAll_effective :
    StrategySettings.checkAll [] c.effective = StrategySettings.checkAll [] c.strategies := by
  unfold Settings.effective
  split
  · rename_i hnone
    rw [hnone]
    rfl
  · rfl

theorem effective_spelledOut : (spelledOut c).effective = c.effective :=
  if_neg (effective_ne_nil c)

theorem validate_spelledOut : (spelledOut c).validate = c.validate := by
  have hstrategies : StrategySettings.checkAll [] (spelledOut c).strategies =
      StrategySettings.checkAll [] c.strategies := checkAll_effective c
  rw [Settings.validate, Settings.validate, hstrategies]
  rfl

theorem entries_spelledOut {σ : Type} (transport : Option (Transport σ)) (pid : UInt32) :
    (spelledOut c).entries transport pid = c.entries transport pid := by
  rw [Settings.entries, effective_spelledOut]
  rfl

/-- Nothing that is made of settings tells whether the strategies that are used were given. -/
theorem same_spelledOut : SameSettings c (spelledOut c) where
  validate := validate_spelledOut c
  policies := by rw [Settings.policies, effective_spelledOut]; rfl
  permits := by
    rw [effective_spelledOut]
    exact List.forall₂_same.2 fun _ _ _ => rfl
  chain := by
    intro σ transport pid host
    rw [Settings.chain, entries_spelledOut]
    rfl

/-- What is printed of settings, and what is read from it. -/
structure SpelledOut (c e : Settings) : Prop where
  /-- The settings have all the strategies that are used, and are the same otherwise. -/
  filled : e = { c with strategies := c.effective }
  /-- They are read back from their fields, and what is not set is not among these. -/
  readBack : Settings.ofTable? e.toTable = some e
  omitsUnset : OmitsUnset e
  /-- This is what the command prints for settings that can be loaded. -/
  printed : ∀ m pid host asked, m.loadSettings asked = .ok c →
    runCommand m pid host (.config asked) = { output := String.ofList (Toml.write e.toTable) }
  /-- They are read back from what is printed, and loaded from a file that holds it. -/
  readText : Settings.ofText? (settingsText c).toList = some e
  loaded : ∀ path, Settings.ofContent path (Text.encode (settingsText c).toList) = e.checked
  /-- The strategies that are used are those that are written down. -/
  effective : e.effective = e.strategies
  /-- Nothing that is made of settings tells them from those that were given. -/
  same : SameSettings c e
  service : ∀ (m : Machine) pid host, m.service pid host e = m.service pid host c

/-- **Settings are printed faithfully.** -/
theorem settings_spelledOut (c : Settings) : SpelledOut c (spelledOut c) := by
  have htext : Settings.ofText? (settingsText c).toList = some (spelledOut c) := by
    rw [settingsText, String.toList_ofList]
    exact ofText?_write (spelledOut c) (effective_ne_nil c)
  refine ⟨rfl, ofTable?_toTable _, omitsUnset _, fun m pid host asked h => ?_, htext,
    fun path => ?_, effective_spelledOut c, same_spelledOut c, fun m pid host => ?_⟩
  · rw [runCommand, h]
    rfl
  · rw [Settings.ofContent, Text.decode_encode]
    simp only [htext]
  · rw [Machine.service, (same_spelledOut c).chain]
    rfl

end CommandLine

end CodePermit
