import CodePermit.Deed
import CodePermit.Playback
import CodePermit.ProcessStatus
import CodePermit.Settings.Loading
/-!
# Machines

What a process finds around it: files, the directory it runs in, the directories in which programs
are looked for, the variables that name its home, the file in which the system describes it, and
what other programs are still to do.

* `Machine` — the surroundings of a process;
* `Machine.upTo` — the machine at a moment;
* `Machine.running` — the machine with programs that have just been started;
* `Machine.probe` — the probe that reads the description of the process;
* `Machine.loadSettings` — the settings that the process finds.
-/

namespace CodePermit

/-- The surroundings of a process. -/
structure Machine where
  /-- The files. -/
  files : FileTree
  /-- The directory in which the process runs. -/
  directory : String := "/"
  /-- The directories in which programs are looked for. -/
  searchPath : String := "/usr/bin:/bin"
  /-- The file that describes the process. -/
  statusPath : String := "/proc/self/status"
  /-- The variables that name homes. -/
  home : HomeVariables := {}
  /-- The moment up to which the files are known, in milliseconds. -/
  known : Nat := 0
  /-- What programs that have been started do. -/
  agendas : List Agenda := []

namespace Machine

/-- The content of a file. -/
def read (m : Machine) (path : String) : Except ReadFault (List UInt8) :=
  m.files.read m.directory path

/-- The machine with a file of the given content. -/
def write (m : Machine) (path : String) (content : List UInt8) : Machine :=
  { m with files := m.files.write m.directory path content }

/-! ### Programs that go on -/

/-- The machine at a moment, when the deeds of programs up to then are done.  Nobody listens to a
program that is still running then, so that it ends as soon as it would be heard. -/
def upTo (m : Machine) (time : Nat) : Machine :=
  { m with
    files := (Agenda.merged (m.agendas.map fun c => c.during m.known time)).performOn m.files
    known := Nat.max m.known time
    agendas :=
      (m.agendas.map fun c => (c.quiet time).filter fun d => time < d.1).filter fun c =>
        !c.isEmpty }

/-- The machine with programs that have just been started. -/
def running (m : Machine) (agendas : List Agenda) : Machine :=
  let due := agendas.map fun c => c.filter fun d => d.1 ≤ m.known
  { m with files := (Agenda.merged due).performOn m.files, agendas := m.agendas ++ agendas }

/-! ### What a process learns -/

/-- The process may run generated code. -/
def isPermitted (m : Machine) : Bool :=
  statusPermits (m.read m.statusPath).toOption

/-- The number of the process; zero if its description does not tell. -/
def processNumber (m : Machine) : UInt32 :=
  ((m.read m.statusPath).toOption.bind Text.decode |>.bind processNumber?).getD 0

/-- The probe reads the description of the process. -/
def probe : Probe Machine := fun time m =>
  ((m.upTo time).isPermitted, m.upTo time)

/-- The settings of the file that is asked for, or of the one in the default place. -/
def loadSettings (m : Machine) (asked : Option String) : Except LoadFault Settings :=
  Settings.load m.read asked (defaultPath m.home)

end Machine

end CodePermit
