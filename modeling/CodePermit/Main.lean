import CodePermit.CommandLine.Acquisition
/-!
# The program

The command line in the world: files and variables are read, time passes on the clock of the
system, and the description of the process is read anew each time the run goes on.  Helpers run
among the programs that every machine has.

* `surroundings` — the machine that a command finds;
* `follow`, `followAll` — runs of a service in the time of the system;
* `main` — reads the arguments, prints, and gives the exit code.
-/

namespace CodePermit.CommandLine

/-- The machine with the file at a path as it is, if there is one. -/
def withFile (m : Machine) (path : String) : IO Machine := do
  try
    let content ← IO.FS.readBinFile path
    return m.write path content.toList
  catch
    | .noFileOrDirectory .. => return m
    | _ => return { m with files := m.files.putAt m.directory path .directory }

/-- The machine that a command finds, with the configuration file that it reads. -/
def surroundings (asked : Option String) : IO Machine := do
  let m : Machine :=
    { files := {}
      directory := toString (← IO.currentDir)
      home := { application := ← IO.getEnv "DOLPHIN_HOME", user := ← IO.getEnv "HOME" } }
  let m ←
    match asked.orElse fun _ => defaultPath m.home with
    | some path => withFile m path
    | none => pure m
  return (← withFile m m.statusPath).withPrograms

/-- The service with the description of the process as it is now. -/
def refreshed (s : Service Machine) : IO (Service Machine) := do
  let path := s.now.surroundings.statusPath
  try
    let content ← IO.FS.readBinFile path
    return s.change fun _ m => m.write path content.toList
  catch _ => return s

/-- Follows the run under way to its end; `start` is the reading of the clock at the beginning of
the service. -/
partial def follow (start : Nat) (s : Service Machine) : IO (Service Machine) := do
  let s ← refreshed s
  let elapsed := (← IO.monoMsNow) - start
  let s := s.sleep (elapsed - s.now.clock)
  match s.flight with
  | none => return s
  | some f =>
    IO.sleep (UInt32.ofNat (Nat.max 1 (f.wake - elapsed)))
    follow start s

/-- Follows the run under way and, after each failure, another one as long as repetitions are
left. -/
def followAll (start : Nat) : (repetitions : Nat) → Service Machine → IO (Service Machine)
  | 0, s => follow start s
  | n + 1, s => do
    let s ← follow start s
    if s.phase.isFailed then followAll start n s.retryCall.2 else return s

/-- What is printed for acquisition in the time of the system. -/
def printAcquisitionLive (m : Machine) (s : Settings) (json : Bool) (repetitions : Nat) :
    IO Printout := do
  let service := (m.service m.processNumber none s).begin
  let service ← followAll (← IO.monoMsNow) repetitions service
  return acquisitionPrintout json service.chain.policies service.phase service.board.report
    service.now.events

/-- What is printed for arguments in the world. -/
def runLive (arguments : List String) : IO Printout := do
  match Request.ofArguments arguments with
  | .ok (.command (.acquire asked json repetitions) _) =>
    let m ← surroundings asked
    match m.loadSettings asked with
    | .error fault => return loadFaultPrintout fault
    | .ok s => printAcquisitionLive m s json repetitions
  | .ok (.command (.config asked) _) =>
    return runArguments (← surroundings asked) 0 none arguments
  | _ => return runArguments (← surroundings none) 0 none arguments

end CodePermit.CommandLine

/-- Reads the arguments, prints, and gives the exit code. -/
def main (arguments : List String) : IO UInt32 := do
  let printed ← CodePermit.CommandLine.runLive arguments
  IO.print printed.output
  IO.eprint printed.errors
  return UInt32.ofNat printed.exitCode
