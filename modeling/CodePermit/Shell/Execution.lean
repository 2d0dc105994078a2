import CodePermit.Shell.Builtin
import CodePermit.Shell.Redirection
/-!
# Running scripts

A script is run line by line.  Its commands change the situation, write to channels, and end with
a code; some run inside others, apart from them or beside them.  How programs are started is left
open here.

* `Runner`, `Launcher` — how commands run that are part of others, and how programs are started;
* `runText` — what a script does;
* `runApart`, `insertion`, `beside` — what runs in a situation of its own;
* `runSimple`, `step` — what a command does.
-/

namespace CodePermit.Shell

/-- How commands run that are part of others. -/
abbrev Runner : Type :=
  Command → Act Unit

/-- Why a program cannot be started. -/
inductive LaunchFault where
  /-- There is none. -/
  | notFound
  /-- The path to it leads through a file. -/
  | notDirectory
  /-- What is there is not executable. -/
  | denied
  /-- What is there is no program. -/
  | unknownFormat
deriving DecidableEq

/-- How programs are started by their names and with arguments; a program gives the signal that
ends it, if one does. -/
abbrev Launcher : Type :=
  (name : String) → (arguments : List String) → Act (Except LaunchFault (Option Nat))

/-! ### Flow -/

/-- Does something, and if it leaves off in one of some ways, goes on behind it. -/
def minding (ways : Flow → Bool) (body : Act Unit) : Act Unit := do
  match ← leavingOff body with
  | some flow => if ways flow then return else throw flow
  | none => return

/-- Does something while somebody asks for its code, so that a failure does not end the script. -/
def asking (body : Act Unit) : Act Unit :=
  keeping
    (do
      modify fun s => { s with asked := true }
      body)
    fun before after => { after with asked := before.asked }

/-- Ends the script if the last command failed, nobody asks for its code, and failures count. -/
def minded : Act Unit := do
  let s ← get
  if s.status ≠ 0 && s.has 'e' && !s.asked then throw .over

/-! ### Scripts -/

/-- Runs the lines of a script, of which at most `bound` are left; the last one has a number. -/
def runLines (run : Runner) (last : Nat) : (bound : Nat) → Lines → Act Unit
  | 0, _ => return
  | bound + 1, ts => do
    let ts := skipLineEnds ts
    if ts.isEmpty then return
    match readLine last ts with
    | .error fault =>
      modify fun s => { s with line := fault.line }
      fail s!"Syntax error: {fault.message}" 2
    | .ok (commands, rest) =>
      commands.forM run
      runLines run last bound rest

/-- Runs a script that starts on a line. -/
def runText (run : Runner) (line : Nat) (script : List Char) : Act Unit :=
  let ts := checkedTokens script.length line script
  runLines run (line + script.count '\n') ts.length.succ ts

/-- Runs a script that starts on the first line, which is a success if there is nothing in it. -/
def runInside (run : Runner) (script : List Char) : Act Unit := do
  if (skipLineEnds (tokens 1 script)).isEmpty then conclude 0 else runText run 1 script

/-- Runs what is to be done on signals that have come. -/
def mindAlarms (run : Runner) : Act Unit := do
  let s ← get
  if s.alarms = [] then return
  set { s with alarms := [] }
  s.alarms.forM fun name => do
    let s ← get
    match s.traps.find? fun t => t.1 == name with
    | some (_, action) =>
      runText run 1 action.toList
      conclude s.status
    | none => return

/-- Runs what is to be done at the end of a script. -/
def runFarewell (run : Runner) : Act Unit := do
  let s ← get
  match s.traps.find? fun t => t.1 == "EXIT" with
  | some (_, action) =>
    set { s with traps := s.traps.filter fun t => t.1 ≠ "EXIT" }
    match ← leavingOff (runText run 1 action.toList) with
    | some (.killed number signal) => throw (.killed number signal)
    | some .hung => throw .hung
    | some _ => return
    | none => conclude s.status
  | none => return

/-- Runs a whole script up to its end, whichever way it leaves off. -/
def runWhole (run : Runner) (body : Act Unit) : Act Unit := do
  minding (fun flow => !(flow matches .killed _ _ | .hung)) body
  runFarewell run
  modify fun s => { s with status := s.status % 256 }

/-! ### Situations of their own -/

/-- The situation of commands that leave the script around them as it is. -/
def Situation.apart (s : Situation) : Situation :=
  { s with
    traps := s.traps.filter fun t => t.2 = ""
    alarms := []
    jobs := []
    isApart := true }

/-- The situation after something that left it as it is, but for the world. -/
def Situation.after (before after : Situation) : Situation :=
  { before with status := after.status, world := after.world }

/-- Runs something that leaves the script around it as it is. -/
def runApart (run : Runner) (body : Act Unit) : Act Unit :=
  keeping
    (do
      modify Situation.apart
      runWhole run body)
    Situation.after

/-- The text of bytes without what ends its last line. -/
def insertedText (parts : List (Nat × List UInt8)) : String :=
  let text := Text.decodeLossy (parts.flatMap Prod.snd)
  let text := text.filter (· ≠ Char.ofNat 0)
  String.ofList ((text.reverse.dropWhile (· = '\n')).reverse)

/-- The output of a script, which is known when everything that may write to it is over. -/
def insertion (run : Runner) : Insertion := fun line script => do
  let s ← get
  let (number, world) := s.world.addKept
  set
    { s with
      world
      asked := false
      descriptors := s.descriptors.lead 1 (some (.kept number)) }
  keeping (runApart run (runText run line script)) fun _ after =>
    { after with
      asked := s.asked
      descriptors := s.descriptors
      status := s.status
      inserted := after.status }
  passTo? ((← get).world.release (.kept number))
  return insertedText ((← get).world.keptParts number)

/-- Runs something beside the script, once its descriptors lead where they should. -/
def beside (run : Runner) (lead : Act Bool) (body : Act Unit) : Act Job := do
  let s ← get
  let number := s.world.nextNumber
  set
    { s.apart with
      world := { s.world with agenda := [], nextNumber := number + 1 } }
  let led ← leavingOff do if !(← lead) then throw .failed
  let channels := (← get).descriptors.map Prod.snd
  let flow ←
    match led with
    | none => leavingOff (runWhole run body)
    | some flow => pure (some flow)
  let after ← get
  let time := after.world.time
  let w := s.world
  let (status, signal) :=
    match flow with
    | some (.killed _ signal) => (signalStatus signal, some signal)
    | _ => (after.status, none)
  let job : Job :=
    { number, status, signal, channels
      agenda := after.world.agenda.reverse
      stop := if flow = some .hung then none else some time }
  let others := after.world.jobs.filter fun j => number < j.number
  let due := (job :: others).map fun j => j.agenda.filter fun d => d.1 ≤ w.time
  let files := (Agenda.merged due).performOn w.machine.files
  set
    { s with
      world :=
        { after.world with
          time := w.time
          machine := { w.machine with files }
          agenda := w.agenda
          jobs := after.world.jobs ++ [job] } }
  return job

/-! ### Commands side by side -/

/-- What leads the descriptors of a command beside others, and the command without it. -/
def Command.leads : Command → Nat × List Redirection × List Command
  | redirected line body redirections => (line, redirections, body)
  | apart line body redirections => (line, redirections, [apart line body []])
  | simple line c => (line, c.redirections, [simple line { c with redirections := [] }])
  | c => (0, [], [c])

/-- Runs a command beside the script, which goes on at once. -/
def runAside (run : Runner) (c : Command) : Act Unit := do
  let (line, redirections, body) := c.leads
  let lead : Act Bool := do
    modify fun s =>
      { s with
        line := if line = 0 then s.line else line
        asked := false
        descriptors := s.descriptors.lead 0 (some .nowhere) }
    let leadings ← redirections.mapM fun r => r.leading (insertion run)
    redirectAll (!(c matches .simple _ _)) leadings
  let job ← beside run lead (body.forM run)
  modify fun s =>
    { s with
      status := 0
      lastJob := some job.number
      jobs := s.jobs ++ [job.number] }

/-- Starts commands each of which reads what the one before it writes. -/
def startPipe (run : Runner) : (input : Option Channel) → List Command → Act (List Job)
  | _, [] => return []
  | input, c :: cs => do
    let s ← get
    let (number, world) := s.world.addKept
    set { s with world }
    let lead : Act Bool := do
      modify fun s =>
        let descriptors :=
          match input with
          | some channel => s.descriptors.lead 0 (some channel)
          | none => s.descriptors
        { s with
          descriptors :=
            if cs.isEmpty then descriptors else descriptors.lead 1 (some (.kept number)) }
      return true
    let job ← beside run lead (run c)
    let w := (← get).world
    let text := (w.keptParts number).flatMap fun part =>
      (Text.decodeLossy part.2).map fun c => (part.1, c)
    let (source, world) := w.addSource (.text text (w.release (.kept number)))
    modify fun s => { s with world }
    return job :: (← startPipe run (some (.source source)) cs)

/-- Runs commands each of which reads what the one before it writes. -/
def runPipe (run : Runner) (cs : List Command) : Act Unit := do
  let jobs ← startPipe run none cs
  jobs.forM waitFor
  let numbers := jobs.map Job.number
  modify fun s =>
    let left := s.world.jobs.filter fun j => !numbers.contains j.number
    { s with world := { s.world with jobs := left } }
  conclude ((jobs.getLast?.map Job.status).getD 0)

/-! ### Loops -/

/-- How often commands are repeated before they are taken to run for ever. -/
def longestLoop : Nat := 100000

/-- The moment after which a loop is taken to run for ever, in milliseconds. -/
def horizon : Nat := 3600000

/-- How a loop goes on after a round. -/
inductive Round where
  /-- There may be another round. -/
  | next
  /-- The loop is over. -/
  | stop

/-- Runs one round of a loop. -/
def runRound (body : Act Unit) : Act Round := do
  let round : Act Unit := do
    modify fun s => { s with loops := s.loops + 1 }
    body
  let flow ← leavingOff (keeping round fun before after => { after with loops := before.loops })
  match flow with
  | none => return .next
  | some (.leave (n + 2)) => throw (.leave (n + 1))
  | some (.leave _) => return .stop
  | some (.again (n + 2)) => throw (.again (n + 1))
  | some (.again _) => return .next
  | some flow => throw flow

/-- Repeats commands as long as others succeed, or fail. -/
def repeatWhile (success : Bool) (condition body : Act Unit) :
    (rounds status : Nat) → Act Unit
  | 0, _ => throw .hung
  | rounds + 1, status => do
    if horizon < (← get).world.time then throw .hung
    match ← runRound (asking condition) with
    | .stop => return
    | .next =>
      if ((← get).status = 0) ≠ success then conclude status
      else
        match ← runRound body with
        | .stop => return
        | .next => repeatWhile success condition body rounds (← get).status

/-- Repeats commands for each value of a variable. -/
def forEach (name : String) (body : Act Unit) : List String → Act Unit
  | [] => return
  | value :: values => do
    setVariable name value
    match ← runRound body with
    | .stop => return
    | .next => forEach name body values

/-! ### Simple commands -/

/-- The commands of the shell whose arguments may set variables. -/
def settingNames : List String :=
  ["export", "readonly", "local"]

/-- The fields of the words of a command; words that set variables are not cut. -/
def fieldsOfCommand (run : Runner) (words : List Word) : Act (List String) := do
  let setting := (words.head?.bind Word.bare?).any settingNames.contains
  if !setting then fieldsOf (insertion run) words
  else
    let fields ← words.mapM fun w => do
      match w.setting? with
      | some (name, value) => return [name ++ "=" ++ (← Word.text (insertion run) value)]
      | none => fieldsOf (insertion run) [w]
    return fields.flatten

/-- Gives variables values one after another, each before the next value is worked out.  What comes
out are the settings as they are shown, and the variables as they were before, latest first. -/
def assignAll (run : Runner) (assign : String → String → Act Unit) :
    List (String × Word) → Act (List String × List (String × Option Binding))
  | [] => return ([], [])
  | (name, w) :: rest => do
    let value ← Word.text (insertion run) w
    let old := (← get).binding? name
    assign name value
    let (texts, hidden) ← assignAll run assign rest
    return ((name ++ "=" ++ value) :: texts, hidden ++ [(name, old)])

/-- Shows a command before it runs, if that is wanted. -/
def trace (descriptors : Descriptors) (words : List String) : Act Unit := do
  let s ← get
  if s.has 'x' && !words.isEmpty then
    set { s with descriptors }
    keeping (report (((s.lookUp? "PS4").getD "") ++ " ".intercalate words ++ "\n"))
      fun _ after => { after with descriptors := s.descriptors }

/-- Sets a variable for a command, which programs that are started have, too. -/
def setForCommand (name value : String) : Act Unit := do
  setVariable name value
  modify fun s => s.bind { (s.binding? name).getD ⟨name, none, true, false⟩ with exported := true }

/-- The situation with variables as they were before. -/
def Situation.restored (s : Situation) (hidden : List (String × Option Binding)) : Situation :=
  hidden.foldl
    (fun s h =>
      match h.2 with
      | some b => s.bind b
      | none => s.unbind h.1)
    s

/-- Runs a function. -/
def runFunction (run : Runner) (body : Command) (arguments : List String)
    (hidden : List (String × Option Binding)) : Act Unit :=
  keeping
    (do
      modify fun s => { s with arguments, loops := 0, hidden := hidden :: s.hidden }
      minding (· matches .back) (run body))
    fun before after =>
      let after := after.restored ((after.hidden.head?).getD [])
      { after with
        arguments := before.arguments
        loops := before.loops
        hidden := before.hidden }

/-- Runs a program, and says so if it could not be started or was ended by a signal. -/
def runProgram (launch : Launcher) (name : String) (arguments : List String) : Act Unit := do
  match ← launch name arguments with
  | .ok none => return
  | .ok (some signal) =>
    conclude (signalStatus signal)
    match endedText signal with
    | some text => report (text ++ "\n")
    | none => return
  | .error .denied | .error .unknownFormat =>
    complain s!"{name}: Permission denied" (if name.toList.contains '/' then 126 else 127)
  | .error _ => complain s!"{name}: not found" 127

/-- Runs a program instead of the script. -/
def runInstead (launch : Launcher) (name : String) (arguments : List String) : Act Unit := do
  let s ← get
  match ← launch name arguments with
  | .ok none => modify fun s => { s with traps := [] }
  | .ok (some signal) =>
    modify fun s => { s with traps := [] }
    conclude (signalStatus signal)
    if !s.isApart then throw (.killed s.number signal)
  | .error .denied | .error .unknownFormat => complain s!"{name}: Permission denied" 126
  | .error _ => complain s!"{name}: not found" 127
  throw .over

/-- The path of the script that is named; only a name with a slash in it is a path. -/
def scriptPath (s : Situation) (name : String) : Option String :=
  if name.toList.contains '/' then some name
  else
    let directories := FileTree.searchDirectories ((s.lookUp? "PATH").getD "")
    (directories.map fun d => joinPath d name).find? fun path =>
      s.world.machine.files.find s.directory path matches .ok (.file _ _)

/-- Runs a script from a file as a part of the script at hand. -/
def runFile (run : Runner) (arguments : List String) : Act Unit := do
  match ← plainArguments arguments with
  | [] => conclude 0
  | name :: _ =>
    let s ← get
    match scriptPath s name with
    | none => fail s!"{name}: not found" 2
    | some path =>
      let content : Except ReadFault (List UInt8) :=
        if path = voidPath then .ok [] else s.world.machine.files.read s.directory path
      match content with
      | .error _ => fail s!"cannot open {path}: No such file" 2
      | .ok content =>
        set { s with command := some path, asked := false }
        keeping (minding (· matches .back) (runInside run (Text.decodeLossy content)))
          fun _ after => { after with command := s.command, asked := s.asked }

/-- What a name is, in words, or as it would be written. -/
def described (s : Situation) (inWords : Bool) (name : String) : Option String :=
  let kind (k : String) : String := if inWords then s!"{name} is {k}" else name
  if keywords.contains name then some (kind "a shell keyword")
  else if specialNames.contains name then some (kind "a special shell builtin")
  else if s.functions.any fun f => f.1 == name then some (kind "a shell function")
  else if isBuiltin name then some (kind "a shell builtin")
  else
    let path := (s.lookUp? "PATH").getD ""
    (s.world.machine.files.locate s.directory path name).map fun path =>
      if inWords then s!"{name} is {path}" else path

/-- Says what names are. -/
def runDescribe (inWords : Bool) (names : List String) : Act Unit := do
  conclude 0
  names.forM fun name => do
    let s ← get
    match described s inWords name with
    | some text => printLine "type" text
    | none =>
      if inWords then printLine "type" s!"{name}: not found"
      conclude 127
    if s.status ≠ 0 then conclude s.status

/-- Runs a command that is no function. -/
def runNamed (run : Runner) (launch : Launcher) (name : String) (arguments : List String) :
    Act Unit := do
  let named (body : Act Unit) : Act Unit := do
    let s ← get
    set { s with command := some name }
    keeping body fun _ after => { after with command := s.command }
  match name with
  | "eval" => named (runInside run (" ".intercalate arguments).toList)
  | "." => named (runFile run arguments)
  | "exec" =>
    match arguments with
    | [] => conclude 0
    | program :: arguments => named (runInstead launch program arguments)
  | "type" => named (runDescribe true arguments)
  | name =>
    match builtin? name with
    | some body => named (body arguments)
    | none => runProgram launch name arguments

/-- Runs a command whatever it is, but a function. -/
def runAny (run : Runner) (launch : Launcher) (name : String) (arguments : List String) :
    Act Unit :=
  if specialNames.contains name then runNamed run launch name arguments
  else minding (· matches .failed) (runNamed run launch name arguments)

/-- Runs a command that is no function, none of which is special. -/
def runCommandNamed (run : Runner) (launch : Launcher) (arguments : List String) : Act Unit := do
  let (options, words) ← readOptions ['p', 'v', 'V'] [] arguments
  match options.find? fun o => o.1 ≠ 'p', words with
  | _, [] => conclude 0
  | some (letter, _), name :: _ => runDescribe (letter = 'V') [name]
  | none, name :: arguments =>
    minding (· matches .failed) (runNamed run launch name arguments)

/-- Runs the command that fields make up, with variables that are set for it; `before` are the
descriptors around it. -/
def runFields (run : Runner) (launch : Launcher) (before : Descriptors)
    (settings : List (String × Word)) (fields : List String) : Act Unit := do
  match fields with
  | [] =>
    let (texts, _) ← assignAll run setVariable settings
    trace before texts
    conclude (← get).inserted
  | name :: arguments =>
    let isSpecial := specialNames.contains name
    let (texts, hidden) ←
      assignAll run (if isSpecial then setVariable else setForCommand) settings
    trace before (texts ++ fields)
    let functions := (← get).functions
    let function := if isSpecial then none else functions.find? fun f => f.1 == name
    match function with
    | some (_, body) => runFunction run body arguments hidden
    | none =>
      let body :=
        if name = "command" then
          minding (· matches .failed) (runCommandNamed run launch arguments)
        else runAny run launch name arguments
      if isSpecial then body else keeping body fun _ after => after.restored hidden

/-- Runs a simple command on a line. -/
def runSimple (run : Runner) (launch : Launcher) (line : Nat) (c : SimpleCommand) :
    Act Unit := do
  modify fun s => { s with line, inserted := 0 }
  let fields ← fieldsOfCommand run c.words
  let leadings ← c.redirections.mapM fun r => r.leading (insertion run)
  let before := (← get).descriptors
  let body : Act Unit := do
    if ← redirectAll false leadings then runFields run launch before c.settings fields
    else if fields.head?.any specialNames.contains then throw .failed
  if fields = ["exec"] then body else keeping body (restored leadings)
  mindAlarms run

/-! ### All commands -/

/-- The case that a word fits. -/
def fittingCase (run : Runner) (word : String) :
    List (List Word × List Command) → Act (List Command)
  | [] => return []
  | (patterns, body) :: rest => do
    let fits ← patterns.anyM fun w => do
      return (← Word.pattern (insertion run) w).matches word.toList
    if fits then return body else fittingCase run word rest

/-- Runs a command whose parts are run by a runner. -/
def step (run : Runner) (launch : Launcher) (c : Command) : Act Unit := do
  if (← get).has 'n' then return
  match c with
  | .simple line c =>
    runSimple run launch line c
    minded
  | .redirected line body redirections =>
    modify fun s => { s with line }
    redirected (insertion run) redirections (body.forM run) minded
  | .apart line body redirections =>
    modify fun s => { s with line }
    let leadings ← redirections.mapM fun r => r.leading (insertion run)
    runApart run (do if ← redirectAll true leadings then body.forM run else throw .failed)
    minded
  | .aside c => runAside run c
  | .pipe cs =>
    runPipe run cs
    minded
  | .negated c =>
    asking (run c)
    modify fun s => { s with status := if s.status = 0 then 1 else 0 }
  | .joined afterSuccess first second =>
    asking (run first)
    if ((← get).status = 0) = afterSuccess then run second
  | .choice condition yes no =>
    asking (condition.forM run)
    if (← get).status = 0 then yes.forM run
    else if no.isEmpty then conclude 0
    else no.forM run
  | .loop success condition body =>
    repeatWhile success (condition.forM run) (body.forM run) longestLoop 0
  | .each line name words body =>
    modify fun s => { s with line }
    let fields ← fieldsOf (insertion run) words
    if fields.isEmpty then conclude 0 else forEach name (body.forM run) fields
  | .fit line word cases =>
    modify fun s => { s with line }
    let text ← Word.text (insertion run) word
    let body ← fittingCase run text cases
    if body.isEmpty then conclude 0 else body.forM run
  | .definition name body =>
    modify fun s =>
      { s with functions := (name, body) :: s.functions.filter fun f => f.1 ≠ name }
    conclude 0

end CodePermit.Shell
