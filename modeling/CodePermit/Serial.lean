import CodePermit.Json.Value
import CodePermit.Report
import CodePermit.Settings.Table
/-!
# Serial forms

Phases, reports, policies and settings are written down as JSON values.  A tag tells the variants
of a type apart, times are milliseconds, and what is not set is `null` in a policy and left out of
settings.

* `Phase.toJson`, `Outcome.toJson`, `Record.toJson`, `Report.toJson` — what a run leaves behind;
* `Version.toJson`, `Eligibility.toJson`, `Policy.toJson` — what a chain is made of;
* `Settings.toJson`, `StrategySettings.toJson` — the fields of a configuration file.
-/

namespace CodePermit

/-! ### Runs -/

/-- The name of a technique as a JSON value. -/
def Technique.toJson (t : Technique) : Json :=
  .string t.name

/-- A failure, told apart by its kind. -/
def Failure.toJson : Failure → Json
  | denied t reason =>
    .object [("kind", .string "denied"), ("strategy", t.toJson), ("reason", .string reason)]
  | timedOut t limit =>
    .object [("kind", .string "timed_out"), ("strategy", t.toJson), ("timeout_ms", .ofNat limit)]
  | nothingApplicable => .object [("kind", .string "no_applicable_strategy")]
  | aborted message => .object [("kind", .string "aborted"), ("message", .string message)]

/-- A phase, told apart by its state. -/
def Phase.toJson : Phase → Json
  | notStarted => .object [("state", .string "not_started")]
  | inProgress index attempt =>
    .object
      [("state", .string "in_progress"), ("strategy_index", .ofNat index),
        ("attempt", .ofNat attempt)]
  | succeeded t => .object [("state", .string "succeeded"), ("strategy_used", t.toJson)]
  | failed failure exhausted =>
    .object
      [("state", .string "failed"), ("last_error", failure.toJson),
        ("strategies_exhausted", .bool exhausted)]

/-- An outcome; only a refusal has a reason. -/
def Outcome.toJson : Outcome → Json
  | granted => .object [("outcome", .string "granted")]
  | denied reason => .object [("outcome", .string "denied"), ("reason", .string reason)]
  | timedOut => .object [("outcome", .string "timed_out")]
  | unavailable => .object [("outcome", .string "unavailable")]

/-- The fields of a record. -/
def Record.fields (r : Record) : List (String × Json) :=
  [("strategy", r.technique.toJson), ("attempt", .ofNat r.attempt),
    ("outcome", r.outcome.toJson), ("duration_ms", .ofNat r.duration)]

/-- A record. -/
def Record.toJson (r : Record) : Json :=
  .object r.fields

/-- A report. -/
def Report.toJson (r : Report) : Json :=
  .object
    [("attempts", .array (r.records.map Record.toJson)), ("final_state", r.phase.toJson),
      ("elapsed_ms", .ofNat r.elapsed)]

/-! ### Policies -/

/-- A version by its numbers. -/
def Version.toJson (v : Version) : Json :=
  .object
    [("major", .ofNat v.major.toNat), ("minor", .ofNat v.minor.toNat),
      ("patch", .ofNat v.patch.toNat)]

/-- The JSON value of something that may be missing. -/
def Json.ofOption {α : Type} (toJson : α → Json) : Option α → Json
  | none => .null
  | some a => toJson a

/-- The hosts on which a technique is tried. -/
def Eligibility.toJson (e : Eligibility) : Json :=
  .object
    [("enabled", .bool e.enabled), ("min_os_version", .ofOption Version.toJson e.min),
      ("max_os_version", .ofOption Version.toJson e.max)]

/-- A policy. -/
def Policy.toJson (p : Policy) : Json :=
  .object
    [("kind", p.technique.toJson), ("priority", .ofNat p.priority), ("timeout", .ofNat p.timeout),
      ("max_attempts", .ofNat p.maxAttempts), ("retry_backoff", .ofNat p.backoff),
      ("applicability", p.eligibility.toJson)]

/-! ### Settings -/

mutual

/-- A TOML value as a JSON value.  Texts, whole numbers, truth values, arrays and tables are kept;
other numbers and moments become their texts. -/
def Toml.toJson : Toml → Json
  | .string s => .string s
  | .integer n => .number ⟨n, 0⟩
  | .float literal => .string literal
  | .unheld literal => .string literal
  | .boolean b => .bool b
  | .moment literal => .string literal
  | .array vs => .array (Toml.elementsToJson vs)
  | .table fields => .object (Toml.fieldsToJson fields)

/-- The elements of an array as JSON values. -/
def Toml.elementsToJson : List Toml → List Json
  | [] => []
  | v :: vs => v.toJson :: Toml.elementsToJson vs

/-- The fields of a table as members of an object. -/
def Toml.fieldsToJson : List (String × Toml) → List (String × Json)
  | [] => []
  | (key, v) :: rest => (key, v.toJson) :: Toml.fieldsToJson rest

end

/-- The settings of a strategy. -/
def StrategySettings.toJson (s : StrategySettings) : Json :=
  (Toml.table s.toFields).toJson

/-- All settings. -/
def Settings.toJson (s : Settings) : Json :=
  (Toml.table s.toTable).toJson

end CodePermit
