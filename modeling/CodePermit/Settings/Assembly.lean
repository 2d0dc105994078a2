import CodePermit.Chain
import CodePermit.Settings.Basic
import CodePermit.Strategy.Companion
/-!
# From settings to a chain

Each entry of the settings whose policy can be formed becomes an entry of the chain, with the
strategy of its technique; the others are dropped.

* `StrategySettings.strategy` — the strategy of an entry;
* `Settings.entries` — the entries in the given order;
* `Settings.chain` — the chain.
-/

namespace CodePermit

variable {σ : Type}

/-- The strategy of an entry: a helper is reached by a transport and asked to attach to a process,
and what is waited for is polled at the interval of the settings. -/
def StrategySettings.strategy (s : StrategySettings) (all : Settings)
    (transport : Option (Transport σ)) (pid : UInt32) : Strategy σ :=
  match s.technique with
  | .preGranted => preGranted
  | .selfElevation => selfElevation
  | .companionHelper =>
    companionHelper transport ⟨pid, all.bundleId⟩ all.pollInterval.toNat
  | .awaitDebugger => awaitDebugger all.pollInterval.toNat

/-- The entry of the chain for an entry of the settings, if its policy can be formed. -/
def StrategySettings.entry? (s : StrategySettings) (all : Settings)
    (transport : Option (Transport σ)) (pid : UInt32) : Option (Entry σ) :=
  match s.policy with
  | .ok policy => some ⟨policy, s.strategy all transport pid⟩
  | .error _ => none

/-- The entries of the chain in the order of the settings. -/
def Settings.entries (s : Settings) (transport : Option (Transport σ)) (pid : UInt32) :
    List (Entry σ) :=
  s.effective.filterMap fun e => e.entry? s transport pid

/-- The chain of the settings. -/
def Settings.chain (s : Settings) (transport : Option (Transport σ)) (pid : UInt32)
    (host : Option Version) : Chain σ :=
  .ofEntries (s.entries transport pid) host

end CodePermit
