import CodePermit.Helper.Exchange
import CodePermit.Shell.Execution
/-!
# Programs

A machine has a few programs of its own, in two directories, and files that name the program that
runs them in their first line.  What a program does is told beforehand, from the moment at which it
is started.

* `Machine.withPrograms` — a machine with the directories and programs that every machine has;
* `runShell`, `runOwn` — the programs that every machine has;
* `launchWith`, `runWith` — starts a program, and runs a command;
* `Machine.launch` — what a program does that is started on a machine.
-/

namespace CodePermit

namespace Shell

/-! ### Durations -/

/-- The milliseconds in a unit of time, without a unit a second. -/
def unitLength : List Char → Option Nat
  | [] => some 1000
  | ['s'] => some 1000
  | ['m'] => some 60000
  | ['h'] => some 3600000
  | ['d'] => some 86400000
  | _ => none

/-- The milliseconds of a decimal number with a unit, rounded down. -/
def sleepLength (text : List Char) : Option Nat :=
  let whole := text.takeWhile Char.isDigit
  let rest := text.dropWhile Char.isDigit
  let places := if rest.head? = some '.' then rest.tail.takeWhile Char.isDigit else []
  let unit := if rest.head? = some '.' then rest.tail.dropWhile Char.isDigit else rest
  if whole = [] ∧ places = [] then none
  else
    (unitLength unit).map fun length =>
      Text.digitsValue (whole ++ places) * length / Nat.pow 10 places.length

/-- The names of times that never end. -/
def endlessTimes : List String :=
  ["inf", "infinity", "INF", "INFINITY"]

/-! ### Programs that every machine has -/

/-- Complains as a program and ends with a code. -/
def failAs (code : Nat) (complaint : String) : Act Unit := do
  report (complaint ++ "\n")
  conclude code

/-- The line that prints words as they are. -/
def echoLine : List String → List Char
  | "-n" :: words => (" ".intercalate words).toList
  | words => (" ".intercalate words).toList ++ ['\n']

/-- Complains about times that there are not. -/
def failSleep (complaint : String) : Act Unit :=
  failAs 1 s!"sleep: {complaint}\nTry 'sleep --help' for more information."

/-- Sleeps for the sum of the given times. -/
def runSleep (times : List String) : Act Unit := do
  let isKnown (t : String) : Bool :=
    (sleepLength t.toList).isSome || endlessTimes.contains t
  let times := if times.head? = some "--" then times.tail else times
  match times.find? fun t => !isKnown t with
  | some t =>
    match t.toList with
    | '-' :: '-' :: _ => failSleep s!"unrecognized option '{t}'"
    | '-' :: c :: _ => failSleep s!"invalid option -- '{c}'"
    | _ => failSleep s!"invalid time interval '{t}'"
  | none =>
    if times.isEmpty then failSleep "missing operand"
    else if times.any endlessTimes.contains then throw .hung
    else
      let lengths := times.filterMap fun t => sleepLength t.toList
      passTo ((← get).world.time + lengths.foldl Nat.add 0)
      conclude 0

/-- The variables that a shell sets when it starts. -/
def startBindings (parent : Nat) (directory : String) : List Binding :=
  [⟨"IFS", some " \t\n", false, false⟩, ⟨"OPTIND", some "1", false, false⟩,
    ⟨"PPID", some (toString parent), false, false⟩, ⟨"PS1", some "# ", false, false⟩,
    ⟨"PS2", some "> ", false, false⟩, ⟨"PS4", some "+ ", false, false⟩,
    ⟨"PWD", some directory, true, false⟩]

/-- The situation of a program that is started, with variables that go with it. -/
def Situation.started (s : Situation) (name : String) (own : List Binding) : Situation :=
  let taken := s.bindings.filter fun b =>
    b.exported && b.value.isSome && !(own.any fun c => c.name == b.name)
  { name
    number := s.world.nextNumber
    parents := s.number :: s.parents
    bindings := own ++ taken.map fun b => { b with fixed := false }
    directory := s.directory
    descriptors := s.descriptors
    status := 0
    world := { s.world with nextNumber := s.world.nextNumber + 1 } }

/-- What is left of standard input, and nothing of it is left behind. -/
def takeInput : Act (List Char) := do
  let s ← get
  match s.descriptors.find 0 with
  | some (.source number) =>
    let (text, stop) := s.world.left number
    set { s with world := s.world.take number text.length }
    passTo? stop
    return text.map Prod.snd
  | _ => return []

/-- The shell as a program: it runs a script given to it under the name that follows it, a file,
or what it reads from its input. -/
def runShell (run : Runner) (name : String) (arguments : List String) : Act Unit := do
  modify fun s => { s with name, line := 0 }
  let (letters, _, rest) ← takeOptions ['c', 'l'] arguments
  let script (text : List Char) (name : String) (arguments : List String) : Act Unit := do
    modify fun s => { s with name, arguments, line := 1 }
    runText run 1 text
  let isRead := (← get).has 's'
  if letters.contains 'c' then
    match rest with
    | [] => fail "-c requires an argument" 2
    | [text] => script text.toList name []
    | text :: name :: arguments => script text.toList name arguments
  else
    match rest with
    | [] =>
      setOption true 's'
      script (← takeInput) name []
    | file :: arguments =>
      if isRead then script (← takeInput) name rest
      else
        let s ← get
        match s.world.machine.files.read s.directory file with
        | .ok content => script (Text.decodeLossy content) file arguments
        | .error _ => fail s!"cannot open {file}: No such file" 2

/-- Runs one of the programs that every machine has, which was started by a name. -/
def runOwn (run : Runner) (program name : String) (arguments : List String) : Act Unit :=
  match program with
  | "sh" => runShell run name arguments
  | "true" => conclude 0
  | "false" => conclude 1
  | "echo" => do
    if ← writeTo 1 (Text.encode (echoLine arguments)) then conclude 0
    else failAs 1 "echo: write error: Bad file descriptor"
  | "sleep" => runSleep arguments
  | _ => conclude 127

/-- The names of the programs that every machine has. -/
def ownNames : List String :=
  ["sh", "true", "false", "echo", "sleep"]

/-- The directories that hold the programs that every machine has. -/
def ownDirectories : List Place :=
  [["bin"], ["usr", "bin"]]

/-- The directories that every machine has besides. -/
def usualDirectories : List Place :=
  [["dev"], ["etc"], ["home"], ["tmp"], ["var"]]

/-! ### Starting programs -/

/-- The program that the first line of a file names, and an argument for it that may follow. -/
def interpreter? (content : List UInt8) : Option (String × List String) := do
  let text := Text.decodeLossy content
  let rest ← Text.afterPattern ['#', '!'] text
  let isBlank (c : Char) : Bool := c == ' ' || c == '\t'
  let line := (rest.takeWhile (· ≠ '\n')).dropWhile isBlank
  let line := (line.reverse.dropWhile isBlank).reverse
  let program := line.takeWhile fun c => !isBlank c
  let argument := (line.drop program.length).dropWhile isBlank
  if program = [] then none
  else
    some (String.ofList program, if argument = [] then [] else [String.ofList argument])

/-- The path of the program that is started by a name, or why there is none. -/
def programPath (s : Situation) (name : String) : Except LaunchFault String :=
  let files := s.world.machine.files
  let atPath (path : String) : Except LaunchFault String :=
    match files.find s.directory path with
    | .ok _ => if files.isProgram s.directory path then .ok path else .error .denied
    | .error .notDirectory => .error .notDirectory
    | .error _ => .error .notFound
  if name.toList.contains '/' then atPath name
  else
    let searchPath := (s.lookUp? "PATH").getD ""
    match files.locate s.directory searchPath name with
    | some path => .ok path
    | none =>
      let paths := (FileTree.searchDirectories searchPath).map fun d => joinPath d name
      let isThere (path : String) : Bool := (files.find s.directory path).toOption.isSome
      .error (if paths.any isThere then .denied else .notFound)

/-- Runs the whole of a program in a situation of its own, and gives the signal that ends it, if
one does. -/
def asProgram (run : Runner) (name : String) (own : List Binding) (body : Act Unit) :
    Act (Option Nat) := do
  let s ← get
  set (s.started name own)
  let number := s.world.nextNumber
  match ← keeping (leavingOff (runWhole run body)) fun _ after => s.after after with
  | none => return none
  | some (.killed n signal) => if n = number then return some signal else throw (.killed n signal)
  | some flow => throw flow

/-- How many programs may name each other as the ones that run them. -/
def longestChain : Nat := 5

/-- Starts the program at a path, which was started by a name; `isScript` says that a file that is
no program is run as a script. -/
def startFile (run : Runner) (isScript : Bool) :
    (bound : Nat) → (path name : String) → (arguments : List String) →
      Act (Except LaunchFault (Option Nat))
  | 0, _, _, _ => return .error .notFound
  | bound + 1, path, name, arguments => do
    let s ← get
    let files := s.world.machine.files
    let place := FileTree.place s.directory path
    let own := startBindings s.number s.directory
    let program := place.getLast?.getD ""
    if ownDirectories.contains place.dropLast && ownNames.contains program then
      let own := if program = "sh" then own else []
      return .ok (← asProgram run name own (runOwn run program name arguments))
    else
      match (files.read s.directory path).toOption.bind interpreter? with
      | some (interpreter, extra) =>
        match programPath s (if interpreter.toList.contains '/' then interpreter
            else "./" ++ interpreter) with
        | .ok _ =>
          startFile run isScript bound interpreter interpreter (extra ++ path :: arguments)
        | .error fault => return .error fault
      | none =>
        if isScript then
          return .ok (← asProgram run path own (runShell run path (path :: arguments)))
        else return .error .unknownFormat

/-- How a script starts programs by their names. -/
def launchWith (run : Runner) : Launcher := fun name arguments => do
  match programPath (← get) name with
  | .ok path => startFile run true longestChain path name arguments
  | .error fault => return .error fault

/-- How deep commands may run inside each other. -/
def deepest : Nat := 1000

/-- Runs a command, at most so deep inside others. -/
def runWith : (depth : Nat) → Runner
  | 0 => fun _ => throw .hung
  | depth + 1 => step (runWith depth) (launchWith (runWith depth))

/-! ### What programs do -/

/-- What a program does, told when it starts. -/
structure Prospect where
  /-- What it does, and what those do that it has started. -/
  agendas : List Agenda
  /-- How it ends, and after how many milliseconds; `none` is never. -/
  result : Option (Nat × CommandResult)

/-- The latest of some moments, if all of them come. -/
def latest (moments : List (Option Nat)) : Option Nat :=
  moments.foldl (fun l m => do return Nat.max (← l) (← m)) (some 0)

/-- What a program does that has run as far as it is told: it is over when its outputs are closed,
too. -/
def Situation.prospect (s : Situation) (start : Nat) (ended : Option (Option Nat)) : Prospect :=
  let agendas := s.world.agenda.reverse :: s.world.jobs.map Job.agenda
  let closed := latest [s.world.release .output, s.world.release .errors]
  let all := Agenda.merged agendas
  { agendas
    result := do
      let exitCode ← ended
      let stop ← closed
      return (stop - start, ⟨exitCode, all.spoken false, all.spoken true⟩) }

end Shell

namespace Machine

/-- The machine with the directories and the programs that every machine has. -/
def withPrograms (m : Machine) : Machine :=
  let places := Shell.ownDirectories.flatMap fun d => Shell.ownNames.map fun n => d ++ [n]
  let files := m.files.withDirectories Shell.usualDirectories
  { m with files := places.foldl (fun t p => t.put p (.file [] true)) files }

/-- The variables that programs have. -/
def environment (m : Machine) : List Shell.Binding :=
  let given (name : String) (value : Option String) : List Shell.Binding :=
    (value.map fun v => ⟨name, some v, true, false⟩).toList
  given "DOLPHIN_HOME" m.home.application ++ given "HOME" m.home.user
    ++ given "PATH" (some m.searchPath)

/-- The situation from which a program is started at a moment, with something to read. -/
def situation (m : Machine) (time : Nat) (input : List Char) : Shell.Situation :=
  { name := ""
    number := 0
    bindings := m.environment
    directory := m.directory
    descriptors := [(0, .source 0), (1, .output), (2, .errors)]
    world :=
      { time
        machine := m
        sources := [.text (input.map fun c => (time, c)) (some time)] } }

/-- What a program does that is started by its name at a moment. -/
def launch (m : Machine) (time : Nat) (name : String) (arguments : List String)
    (input : List Char) : Except Shell.LaunchFault Shell.Prospect :=
  let run := Shell.runWith Shell.deepest
  let start := m.situation time input
  let startIt : Shell.Act (Except Shell.LaunchFault (Option Nat)) := do
    match if name = "" then .error .notFound else Shell.programPath start name with
    | .ok path => Shell.startFile run false Shell.longestChain path name arguments
    | .error fault => return .error fault
  match startIt.run.run start with
  | (.ok (.error fault), _) => .error fault
  | (.ok (.ok none), s) => .ok (s.prospect time (some (some s.status)))
  | (.ok (.ok (some _)), s) => .ok (s.prospect time (some none))
  | (.error _, s) => .ok (s.prospect time none)

end Machine

end CodePermit
