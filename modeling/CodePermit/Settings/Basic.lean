import CodePermit.Policy
/-!
# Settings

The settings name the strategies to try and how.  They are checked as a whole before they are
used; each strategy entry gives the policy under which it is tried.

* `StrategySettings`, `Settings` — the settings with their defaults;
* `StrategySettings.policy` — the policy of an entry, or why it has none;
* `Settings.validate` — the check of all settings;
* `Settings.effective` — the entries that are used, which are the built-in ones if none is given.
-/

namespace CodePermit

/-! ### The settings -/

/-- The settings of one strategy.  What is left out is taken from the technique. -/
structure StrategySettings where
  /-- The technique. -/
  technique : Technique
  /-- The place in the order of attempts. -/
  priority : Option UInt32 := none
  /-- The limit of one attempt in milliseconds. -/
  timeout : Option UInt64 := none
  /-- The number of attempts. -/
  maxAttempts : UInt32 := 1
  /-- The pause between attempts in milliseconds. -/
  backoff : UInt64 := 0
  /-- Whether the strategy is used at all. -/
  enabled : Bool := true
  /-- The text of the first version on which it is used. -/
  minVersion : Option String := none
  /-- The text of the first version on which it is no longer used. -/
  maxVersion : Option String := none
  /-- Self-elevation is tried without looking for the marks of a host that allows it. -/
  forceApplicable : Bool := false
deriving DecidableEq

/-- All settings. -/
structure Settings where
  /-- The identifier of the application. -/
  bundleId : String := "me.oatmealdome.dolphinios"
  /-- The interval of polling in milliseconds. -/
  pollInterval : UInt64 := 250
  /-- The helper's command line, if there is a helper. -/
  helperCommand : Option (List String) := none
  /-- Paths that mark a host that lets processes trace themselves. -/
  jailbreakMarkers : List String :=
    ["/var/jb", "/Applications/Cydia.app", "/Applications/Sileo.app"]
  /-- The strategies; none at all stands for the built-in ones. -/
  strategies : List StrategySettings := []
deriving DecidableEq

/-! ### Faults -/

/-- What can be wrong with settings. -/
inductive SettingsFault where
  /-- The polling interval is zero. -/
  | noPollInterval
  /-- The helper's command line is empty. -/
  | noHelperProgram
  /-- A technique has two entries. -/
  | repeated (technique : Technique)
  /-- A version cannot be read. -/
  | badVersion (technique : Technique) (fault : Version.Fault)
  /-- No version lies between the two bounds. -/
  | emptyInterval (technique : Technique) (min max : Version)
  /-- No attempt is asked for. -/
  | noAttempts (technique : Technique)
  /-- The limit of an attempt is zero. -/
  | noTimeout (technique : Technique)
deriving DecidableEq

/-- What is wrong, in words. -/
def SettingsFault.explanation : SettingsFault → String
  | noPollInterval => "poll_interval_ms must be positive"
  | noHelperProgram => "helper_command must name a program"
  | repeated t => s!"strategy {t.name} is listed more than once"
  | badVersion t fault => s!"{t.name}: {fault.message}"
  | emptyInterval t min max =>
    s!"{t.name}: min_os_version {min.text} must be below max_os_version {max.text}"
  | noAttempts t => s!"{t.name}: max_attempts must be at least 1"
  | noTimeout t => s!"{t.name}: timeout_ms must be positive"

/-! ### Policies of entries -/

namespace StrategySettings

/-- Reads the text of a bound. -/
def readBound (t : Technique) : Option String → Except SettingsFault (Option Version)
  | none => .ok none
  | some text =>
    match Version.read text with
    | .ok v => .ok (some v)
    | .error fault => .error (.badVersion t fault)

/-- Refuses bounds between which no version lies. -/
def checkBounds (t : Technique) : Option Version → Option Version → Except SettingsFault Unit
  | some min, some max => if min.below max then .ok () else .error (.emptyInterval t min max)
  | _, _ => .ok ()

/-- The policy of an entry.  Versions are checked first, the lower bound before the upper one and
both before their order, then the number of attempts, then the limit. -/
def policy (s : StrategySettings) : Except SettingsFault Policy := do
  let min ← readBound s.technique s.minVersion
  let max ← readBound s.technique s.maxVersion
  checkBounds s.technique min max
  if s.maxAttempts = 0 then throw (.noAttempts s.technique)
  if s.timeout = some 0 then throw (.noTimeout s.technique)
  return {
    technique := s.technique
    priority := (s.priority.getD s.technique.defaultPriority).toNat
    timeout := (s.timeout.getD s.technique.defaultTimeout).toNat
    maxAttempts := Nat.max 1 s.maxAttempts.toNat
    backoff := s.backoff.toNat
    eligibility := { enabled := s.enabled, min := min, max := max } }

/-- The built-in strategies: local techniques first, the helper with one repetition, and the wait
for a debugger switched off. -/
def builtIn : List StrategySettings :=
  [{ technique := .preGranted },
    { technique := .selfElevation },
    { technique := .companionHelper, maxAttempts := 2, backoff := 1000 },
    { technique := .awaitDebugger, enabled := false }]

/-- Checks entries in order; `seen` holds the techniques of the entries before. -/
def checkAll : (seen : List Technique) → List StrategySettings → Except SettingsFault Unit
  | _, [] => .ok ()
  | seen, s :: rest =>
    if s.technique ∈ seen then .error (.repeated s.technique)
    else do
      let _ ← s.policy
      checkAll (s.technique :: seen) rest

end StrategySettings

/-! ### All settings -/

namespace Settings

/-- The entries that are used. -/
def effective (s : Settings) : List StrategySettings :=
  if s.strategies = [] then StrategySettings.builtIn else s.strategies

/-- Checks all settings: the polling interval, the helper's command line, then the entries. -/
def validate (s : Settings) : Except SettingsFault Unit := do
  if s.pollInterval = 0 then throw .noPollInterval
  if s.helperCommand = some [] then throw .noHelperProgram
  StrategySettings.checkAll [] s.strategies

/-- The policies of the entries that are used, in the given order. -/
def policies (s : Settings) : Except SettingsFault (List Policy) :=
  s.effective.mapM StrategySettings.policy

end Settings

end CodePermit
