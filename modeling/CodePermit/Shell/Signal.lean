import CodePermit.Shell.Situation
/-!
# Signals

A signal is sent to a process by its number.  Most signals end the process; a script may mind a
signal, or ignore it.

* `signalNames`, `signalOf?` — the signals;
* `endedText` — what is reported about a process that a signal has ended;
* `sendSignal` — sends a signal to a process.
-/

namespace CodePermit.Shell

/-- The names of the signals in the order of their numbers; the end of a script counts as one. -/
def signalNames : List String :=
  ["EXIT", "HUP", "INT", "QUIT", "ILL", "TRAP", "ABRT", "BUS", "FPE", "KILL", "USR1", "SEGV",
    "USR2", "PIPE", "ALRM", "TERM", "16", "CHLD", "CONT", "STOP", "TSTP", "TTIN", "TTOU", "URG",
    "XCPU", "XFSZ", "VTALRM", "PROF", "WINCH", "IO", "PWR", "SYS"]

/-- The greatest number of a signal. -/
def lastSignal : Nat := 64

/-- The name of a signal. -/
def signalName (signal : Nat) : String :=
  signalNames.getD signal (toString signal)

/-- The signal that a number or a name stands for. -/
def signalOf? (text : String) : Option Nat :=
  match Text.readDigits text.toList with
  | some n => if n ≤ lastSignal then some n else none
  | none => signalNames.findIdx? fun name => name == text.toUpper

/-- The signals that end nothing. -/
def harmlessSignals : List String :=
  ["CHLD", "CONT", "URG", "WINCH"]

/-- The signals that stop a process. -/
def stoppingSignals : List String :=
  ["STOP", "TSTP", "TTIN", "TTOU"]

/-- What is reported about a process that a signal has ended. -/
def endedText (signal : Nat) : Option String :=
  match signalName signal with
  | "INT" | "PIPE" => none
  | "HUP" => some "Hangup"
  | "QUIT" => some "Quit"
  | "ILL" => some "Illegal instruction"
  | "TRAP" => some "Trace/breakpoint trap"
  | "ABRT" => some "Aborted"
  | "BUS" => some "Bus error"
  | "FPE" => some "Floating point exception"
  | "KILL" => some "Killed"
  | "USR1" => some "User defined signal 1"
  | "SEGV" => some "Segmentation fault"
  | "USR2" => some "User defined signal 2"
  | "ALRM" => some "Alarm clock"
  | "TERM" => some "Terminated"
  | _ => some s!"Signal {signal}"

/-- The code of a process that a signal has ended. -/
def signalStatus (signal : Nat) : Nat :=
  128 + signal

/-- A job after a signal at a moment, unless it has ended before. -/
def Job.signalled (j : Job) (moment signal : Nat) : Job :=
  if j.stop.any (· ≤ moment) || harmlessSignals.contains (signalName signal) || signal = 0 then j
  else
    { j with
      agenda := j.agenda.filter fun d => d.1 ≤ moment
      stop := some moment
      status := signalStatus signal
      signal := some signal }

/-- Sends a signal to the script itself. -/
def receive (signal : Nat) : Act Unit := do
  let s ← get
  let name := signalName signal
  if signal = 0 || harmlessSignals.contains name then return
  match if name = "KILL" then none else s.traps.find? fun t => t.1 == name with
  | some (_, action) => if action ≠ "" then set { s with alarms := s.alarms ++ [name] }
  | none =>
    if stoppingSignals.contains name then throw .hung else throw (.killed s.number signal)

/-- Sends a signal to the process with a number, if there is one. -/
def sendSignal (signal number : Nat) : Act Bool := do
  let s ← get
  if number = s.number then
    receive signal
    return true
  else if s.parents.contains number then
    if signal ≠ 0 then throw (.killed number signal)
    return true
  else if s.jobs.contains number then
    let jobs := s.world.jobs.map fun j =>
      if j.number = number then j.signalled s.world.time signal else j
    set { s with world := { s.world with jobs } }
    return true
  else return false

end CodePermit.Shell
