import CodePermit.CommandLine.Printout
import CodePermit.Helper.Command
import CodePermit.Installation
import CodePermit.Settings.Assembly
/-!
# Running the command line

A command is run on a machine: settings are loaded, acquisition runs, fails and is run again as
often as asked for, and what comes out is printed.

* `persist` — runs again as long as runs fail and repetitions are left;
* `Machine.service` — the service of a process on a machine;
* `runCommand`, `runArguments` — what is printed for a command and for arguments.
-/

namespace CodePermit

/-- The service of a process on a machine, built from settings. -/
def Machine.service (m : Machine) (pid : UInt32) (host : Option Version) (s : Settings) :
    Service Machine :=
  .start (s.chain (s.helperCommand.bind commandTransport) pid host) Machine.probe m

namespace CommandLine

variable {σ : Type}

/-- Runs again after each failure as long as repetitions are left. -/
def persist : (repetitions : Nat) → Phase × Service σ → Phase × Service σ
  | 0, r => r
  | n + 1, r => if r.1.isFailed then persist n r.2.retry else r

/-- Acquisition with repetitions: the phase in which it ends and the service after it. -/
def acquire (repetitions : Nat) (s : Service σ) : Phase × Service σ :=
  persist repetitions s.acquire

/-- What is printed for settings on a machine: acquisition is run with them. -/
def printAcquisition (m : Machine) (pid : UInt32) (host : Option Version) (s : Settings)
    (json : Bool) (repetitions : Nat) : Printout :=
  match (({} : Installation Machine).install (m.service pid host) s).1 with
  | .error fault =>
    { exitCode := 1, errors := explain "failed to start acquisition" [fault.message] }
  | .ok service =>
    let (phase, service) := acquire repetitions service
    acquisitionPrintout json service.chain.policies phase service.board.report
      service.now.events

/-- What is printed for a command. -/
def runCommand (m : Machine) (pid : UInt32) (host : Option Version) : Command → Printout
  | .probe => probePrintout m.isPermitted
  | .config asked =>
    match m.loadSettings asked with
    | .error fault => loadFaultPrintout fault
    | .ok s => { output := settingsText s }
  | .acquire asked json repetitions =>
    match m.loadSettings asked with
    | .error fault => loadFaultPrintout fault
    | .ok s => printAcquisition m pid host s json repetitions

/-- What is printed for arguments. -/
def runArguments (m : Machine) (pid : UInt32) (host : Option Version)
    (arguments : List String) : Printout :=
  match Request.ofArguments arguments with
  | .error fault => usagePrintout fault
  | .ok .version => { output := versionText }
  | .ok (.help topic) => { output := topic.helpText }
  | .ok (.command command _) => runCommand m pid host command

end CommandLine

end CodePermit
