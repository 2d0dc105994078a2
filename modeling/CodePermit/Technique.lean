/-!
# Techniques

The ways in which a process can come to run dynamically generated code.  The set is closed; each
technique has a name, a default place in the order of attempts and a default time limit.

* `Technique` — the four techniques;
* `Technique.name`, `Technique.ofName?` — the name of a technique and the way back;
* `ofName?_name` — a technique is found by its name.
-/

namespace CodePermit

/-- A way to obtain the permission. -/
inductive Technique where
  /-- The permission was established before launch. -/
  | preGranted
  /-- The process traces itself. -/
  | selfElevation
  /-- An external helper is asked to attach a debugger. -/
  | companionHelper
  /-- The process waits for a debugger to be attached by hand. -/
  | awaitDebugger
deriving DecidableEq

namespace Technique

/-- Every technique, in the order of its default priority. -/
def all : List Technique :=
  [preGranted, selfElevation, companionHelper, awaitDebugger]

/-- The name of a technique in configuration files, reports and messages. -/
def name : Technique → String
  | preGranted => "pre_granted"
  | selfElevation => "self_elevation"
  | companionHelper => "companion_helper"
  | awaitDebugger => "await_debugger"

/-- The technique of a name. -/
def ofName? (text : String) : Option Technique :=
  all.find? fun t => t.name == text

theorem ofName?_name (t : Technique) : ofName? t.name = some t := by
  cases t <;> decide

/-- Cheap local techniques come first, those that depend on a helper or a user last. -/
def defaultPriority : Technique → UInt32
  | preGranted => 0
  | selfElevation => 10
  | companionHelper => 20
  | awaitDebugger => 30

/-- The time limit of one attempt, in milliseconds. -/
def defaultTimeout : Technique → UInt64
  | preGranted => 1000
  | selfElevation => 2000
  | companionHelper => 30000
  | awaitDebugger => 60000

end Technique

end CodePermit
