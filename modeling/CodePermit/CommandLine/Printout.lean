import CodePermit.CommandLine.Help
import CodePermit.Json.Writer
import CodePermit.Routine
import CodePermit.Serial
import CodePermit.Settings.Loading
import CodePermit.Toml.Writer
/-!
# What the command line prints

* `Printout` — the two outputs of the program and its exit code;
* `outcomeText`, `recordLine`, `acquisitionText` — a report for people;
* `acquisitionJson` — a phase and a report for programs;
* `warningLines` — the warnings given in between;
* `explain` — an error with its causes;
* `settingsText` — settings as they are used.
-/

namespace CodePermit.CommandLine

/-- What the program prints, and the code with which it ends. -/
structure Printout where
  /-- The exit code. -/
  exitCode : Nat := 0
  /-- What is printed to standard output. -/
  output : String := ""
  /-- What is printed to standard error. -/
  errors : String := ""
deriving DecidableEq

/-! ### Reports -/

/-- The text of an outcome. -/
def outcomeText : Outcome → String
  | .granted => "granted"
  | .denied reason => s!"denied: {reason}"
  | .timedOut => "timed out"
  | .unavailable => "skipped"

/-- The line of a record. -/
def recordLine (r : Record) : String :=
  let name := padded 18 r.technique.name
  s!"{name} attempt {r.attempt} ({r.duration} ms): {outcomeText r.outcome}\n"

/-- A phase and the report that led to it, for people. -/
def acquisitionText (phase : Phase) (report : Option Report) : String :=
  String.join ((report.map Report.records).getD [] |>.map recordLine)
    ++ s!"{phase.text}\nexecution mode: {phase.mode.title}\n"

/-- When the records of a run began, in milliseconds from its beginning: each after those before
it, and a repeated attempt after its pause. -/
def starts (pause : Technique → Nat) : (elapsed : Nat) → List Record → List Nat
  | _, [] => []
  | elapsed, r :: rest =>
    let start := if 1 < r.attempt then elapsed + pause r.technique else elapsed
    start :: starts pause (start + r.duration) rest

/-- The pause of a technique by its policy among others. -/
def pauseOf (policies : List Policy) (t : Technique) : Nat :=
  ((policies.find? fun p => p.technique == t).map Policy.backoff).getD 0

/-- A record with its beginning. -/
def startedRecord (r : Record) (start : Nat) : Json :=
  .object (r.fields ++ [("started_at", .ofNat start)])

/-- A report with the beginnings of its records. -/
def startedReport (policies : List Policy) (r : Report) : Json :=
  .object
    [("attempts",
        .array (List.zipWith startedRecord r.records (starts (pauseOf policies) 0 r.records))),
      ("final_state", r.phase.toJson), ("elapsed_ms", .ofNat r.elapsed)]

/-- A phase and the report that led to it, for programs. -/
def acquisitionJson (policies : List Policy) (phase : Phase) (report : Option Report) : Json :=
  .object
    (("state", phase.toJson) ::
      match report with
      | some r => [("report", startedReport policies r)]
      | none => [])

/-! ### Warnings -/

/-- A detail with its name in italics and its sign dimmed. -/
def detailText (detail : String × String) : String :=
  s!" \x1b[3m{detail.1}\x1b[0m\x1b[2m=\x1b[0m{detail.2}"

/-- The line of a warning. -/
def warningLine (w : Warning) : String :=
  s!" WARN {w.text}" ++ String.join (w.details.map detailText) ++ "\n"

/-- The lines of the warnings among what was observed. -/
def warningLines (events : List (Nat × Event)) : String :=
  String.join <| events.filterMap fun e =>
    match e.2 with
    | .warned w => some (warningLine w)
    | _ => none

/-! ### Acquisition -/

/-- What is printed after acquisition; only a success ends the program with the code zero, and the
warnings given in between go to standard error. -/
def acquisitionPrintout (json : Bool) (policies : List Policy) (phase : Phase)
    (report : Option Report) (events : List (Nat × Event)) : Printout where
  exitCode := if phase.isSucceeded then 0 else 1
  output :=
    if json then
      String.ofList (Json.writeIndented (acquisitionJson policies phase report)) ++ "\n"
    else acquisitionText phase report
  errors := warningLines events

/-! ### Errors -/

/-- The lines of a text indented behind a first indentation. -/
def indented (first rest : String) (text : String) : String :=
  first ++ ("\n" ++ rest).intercalate ((Text.splitOn '\n' text.toList).map String.ofList)

/-- A number in a column of five characters. -/
def column (n : Nat) : String :=
  let digits := toString n
  String.ofList (List.replicate (5 - digits.length) ' ') ++ digits

/-- The causes of an error, numbered if there are several. -/
def causeLines : List String → List String
  | [] => []
  | [cause] => [indented "    " "    " cause]
  | causes => causes.zipIdx.map fun c => indented s!"{column c.2}: " "       " c.1

/-- An error with its causes, the nearest first. -/
def explain (context : String) (causes : List String) : String :=
  s!"Error: {context}"
    ++ (if causes = [] then "" else "\n\nCaused by:\n" ++ "\n".intercalate (causeLines causes))
    ++ "\n"

/-- The causes for which settings cannot be loaded, the nearest first.  The text for a malformed
file stands for the message of the TOML reader, which tells the place and is not computed. -/
def loadCauses (fault : LoadFault) : List String :=
  match fault with
  | .unreadable _ cause => [fault.message, cause.message]
  | .malformed _ => [fault.message, "not a table of settings"]
  | .invalid _ => [fault.message]

/-- What is printed when settings cannot be loaded. -/
def loadFaultPrintout (fault : LoadFault) : Printout where
  exitCode := 1
  errors := explain "failed to load jit configuration" (loadCauses fault)

/-- What is printed when arguments ask for nothing. -/
def usagePrintout (fault : UsageFault) : Printout where
  exitCode := 2
  errors :=
    match fault with
    | .nothingAsked => Topic.program.helpText
    | _ => s!"{fault.message}\n\nUsage: {Topic.program.usage}\n"

/-! ### Probe and settings -/

/-- What is printed for the answer of the probe. -/
def probePrintout (permitted : Bool) : Printout where
  output := if permitted then "dynamic code permitted\n" else "dynamic code not permitted\n"

/-- Settings with all the strategies that are used. -/
def spelledOut (s : Settings) : Settings :=
  { s with strategies := s.effective }

/-- Settings as a configuration file that spells them out. -/
def settingsText (s : Settings) : String :=
  String.ofList (Toml.write (spelledOut s).toTable)

end CodePermit.CommandLine
