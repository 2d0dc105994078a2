import CodePermit.Settings.Basic
import CodePermit.Toml.Value
/-!
# Settings as tables

In a configuration file the settings are the keys of a table.  Keys that are not known are
ignored among the settings, if their numbers can be held, and refused among those of a strategy;
what is left out takes its default, except for the technique of a strategy.  A strategy may also be
written as the array of its values in the order of their keys, the last of which may be left out;
what stands behind them is not looked at.

* `Settings.ofTable?`, `StrategySettings.ofToml?` — settings from tables;
* `Settings.toTable`, `StrategySettings.toTable` — settings as tables, unset keys left out.
-/

namespace CodePermit

open Toml (lookup)

/-! ### Values -/

/-- A text. -/
def Toml.text? : Toml → Option String
  | .string s => some s
  | _ => none

/-- An array of texts. -/
def Toml.texts? : Toml → Option (List String)
  | .array vs => vs.mapM Toml.text?
  | _ => none

/-- A truth value. -/
def Toml.bool? : Toml → Option Bool
  | .boolean b => some b
  | _ => none

/-- A whole number from zero up to a bound. -/
def Toml.below? (bound : Nat) : Toml → Option Nat
  | .integer n => if 0 ≤ n ∧ n < bound then some n.toNat else none
  | _ => none

/-- A 32-bit number. -/
def Toml.uint32? (v : Toml) : Option UInt32 :=
  (v.below? UInt32.size).map UInt32.ofNat

/-- A 64-bit number. -/
def Toml.uint64? (v : Toml) : Option UInt64 :=
  (v.below? UInt64.size).map UInt64.ofNat

/-- A value without content. -/
def Toml.isEmpty : Toml → Bool
  | .array [] => true
  | .table [] => true
  | _ => false

/-- A technique: its name, or a table whose only key is its name and holds nothing. -/
def Technique.ofToml? : Toml → Option Technique
  | .string s => Technique.ofName? s
  | .table [(key, v)] => if v.isEmpty then Technique.ofName? key else none
  | _ => none

/-- A value that may be missing: `none` only if it is there and cannot be read. -/
def optional {α : Type} (read : Toml → Option α) : Option Toml → Option (Option α)
  | none => some none
  | some v => (read v).map some

/-- A value with a default: `none` only if it is there and cannot be read. -/
def withDefault {α : Type} (value : α) (read : Toml → Option α) : Option Toml → Option α
  | none => some value
  | some v => read v

/-- A key with its value, or nothing if there is none. -/
def Toml.fieldIfSet (key : String) (value : Option Toml) : List (String × Toml) :=
  match value with
  | some v => [(key, v)]
  | none => []

/-! ### Strategies -/

namespace StrategySettings

/-- The keys of a strategy in order. -/
def keys : List String :=
  ["kind", "priority", "timeout_ms", "max_attempts", "retry_backoff_ms", "enabled",
    "min_os_version", "max_os_version", "force_applicable"]

/-- A strategy from the values of its keys. -/
def ofValues? (value : String → Option Toml) : Option StrategySettings := do
  let technique ← (value "kind").bind Technique.ofToml?
  let priority ← optional Toml.uint32? (value "priority")
  let timeout ← optional Toml.uint64? (value "timeout_ms")
  let maxAttempts ← withDefault 1 Toml.uint32? (value "max_attempts")
  let backoff ← withDefault 0 Toml.uint64? (value "retry_backoff_ms")
  let enabled ← withDefault true Toml.bool? (value "enabled")
  let minVersion ← optional Toml.text? (value "min_os_version")
  let maxVersion ← optional Toml.text? (value "max_os_version")
  let forceApplicable ← withDefault false Toml.bool? (value "force_applicable")
  return { technique, priority, timeout, maxAttempts, backoff, enabled, minVersion, maxVersion,
           forceApplicable }

/-- A strategy from a table or an array. -/
def ofToml? : Toml → Option StrategySettings
  | .table fields =>
    if fields.all fun f => keys.contains f.1 then ofValues? (lookup fields) else none
  | .array vs => ofValues? (lookup (keys.zip vs))
  | _ => none

/-- The keys of a strategy with their values. -/
def toFields (s : StrategySettings) : List (String × Toml) :=
  [("kind", .string s.technique.name)]
    ++ Toml.fieldIfSet "priority" (s.priority.map fun n => .integer n.toNat)
    ++ Toml.fieldIfSet "timeout_ms" (s.timeout.map fun n => .integer n.toNat)
    ++ [("max_attempts", .integer s.maxAttempts.toNat),
      ("retry_backoff_ms", .integer s.backoff.toNat), ("enabled", .boolean s.enabled)]
    ++ Toml.fieldIfSet "min_os_version" (s.minVersion.map .string)
    ++ Toml.fieldIfSet "max_os_version" (s.maxVersion.map .string)
    ++ [("force_applicable", .boolean s.forceApplicable)]

end StrategySettings

/-! ### All settings -/

namespace Settings

/-- An array of strategies. -/
def strategies? : Toml → Option (List StrategySettings)
  | .array vs => vs.mapM StrategySettings.ofToml?
  | _ => none

/-- The keys of the settings. -/
def keys : List String :=
  ["bundle_id", "poll_interval_ms", "helper_command", "jailbreak_markers", "strategies"]

/-- Settings from the fields of a table. -/
def ofTable? (fields : List (String × Toml)) : Option Settings := do
  guard (fields.all fun f => keys.contains f.1 || f.2.isHeld)
  let base : Settings := {}
  let bundleId ← withDefault base.bundleId Toml.text? (lookup fields "bundle_id")
  let pollInterval ← withDefault base.pollInterval Toml.uint64? (lookup fields "poll_interval_ms")
  let helperCommand ← optional Toml.texts? (lookup fields "helper_command")
  let jailbreakMarkers ←
    withDefault base.jailbreakMarkers Toml.texts? (lookup fields "jailbreak_markers")
  let strategies ← withDefault [] strategies? (lookup fields "strategies")
  return { bundleId, pollInterval, helperCommand, jailbreakMarkers, strategies }

/-- A list of texts as an array. -/
def textArray (texts : List String) : Toml :=
  .array (texts.map .string)

/-- The settings as the fields of a table. -/
def toTable (s : Settings) : List (String × Toml) :=
  [("bundle_id", .string s.bundleId), ("poll_interval_ms", .integer s.pollInterval.toNat)]
    ++ Toml.fieldIfSet "helper_command" (s.helperCommand.map textArray)
    ++ [("jailbreak_markers", textArray s.jailbreakMarkers),
      ("strategies", .array (s.strategies.map fun e => .table e.toFields))]

end Settings

end CodePermit
