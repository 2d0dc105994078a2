import CodePermit.Shell.Condition
import CodePermit.Shell.Expansion
import CodePermit.Shell.Format
import CodePermit.Shell.Signal
/-!
# Commands of the shell itself

The commands that the shell carries out itself and that run no other commands.

* `readOptions` — the options in front of arguments;
* `runRead`, `runSet`, `runTrap` and others — what the commands do;
* `builtin?` — a command by its name;
* `specialNames` — the commands whose failures end a script.
-/

namespace CodePermit.Shell

/-! ### Options and numbers -/

/-- The options in front of arguments, letter by letter, and the arguments behind them; some letters
take an argument of their own. -/
def readOptions (known withArgument : List Char) :
    List String → Act (List (Char × String) × List String)
  | [] => return ([], [])
  | argument :: rest =>
    match argument.toList with
    | ['-', '-'] => return ([], rest)
    | '-' :: c :: cs => do
      let flags := (c :: cs).takeWhile known.contains
      let found := flags.map fun c => (c, "")
      match (c :: cs).drop flags.length with
      | [] =>
        let (options, behind) ← readOptions known withArgument rest
        return (found ++ options, behind)
      | c :: cs =>
        if !withArgument.contains c then fail s!"Illegal option -{c}" 2
        else if !cs.isEmpty then
          let (options, behind) ← readOptions known withArgument rest
          return (found ++ (c, String.ofList cs) :: options, behind)
        else
          match rest with
          | [] => fail s!"No arg for -{c} option" 2
          | value :: rest =>
            let (options, behind) ← readOptions known withArgument rest
            return (found ++ (c, value) :: options, behind)
    | _ => return ([], argument :: rest)

/-- The arguments of a command that knows no options. -/
def plainArguments (arguments : List String) : Act (List String) := do
  return (← readOptions [] [] arguments).2

/-- The greatest number that an argument may be. -/
def greatestArgument : Nat := Nat.pow 2 31 - 1

/-- An argument that has to be a number, and none below zero. -/
def numberArgument (argument : String) : Act Nat :=
  match wholeNumber argument with
  | some (.ofNat n) => if n ≤ greatestArgument then return n else fail (noNumber argument) 2
  | _ => fail (noNumber argument) 2

/-- The first argument as a number, if there is one. -/
def firstNumber (usual : Nat) (arguments : List String) : Act Nat :=
  match arguments with
  | [] => return usual
  | argument :: _ => numberArgument argument

/-- Writes a text to standard output and ends with success, or complains. -/
def print (name : String) (bytes : List UInt8) : Act Unit := do
  if ← writeTo 1 bytes then conclude 0 else fail s!"{name}: I/O error" 1

/-- Writes a line to standard output. -/
def printLine (name line : String) : Act Unit :=
  print name (Text.encode (line ++ "\n").toList)

/-! ### Output and conditions -/

/-- Prints arguments in a format. -/
def runPrint (arguments : List String) : Act Unit := do
  match ← plainArguments arguments with
  | [] => fail "usage: printf format [arg ...]" 2
  | format :: arguments =>
    let f := formatted format arguments
    f.complaints.forM fun complaint => complain complaint f.status
    print "printf" f.bytes
    conclude f.status
    if f.status = 2 then throw .failed

/-- Checks a condition; one in brackets has to end with a closing bracket. -/
def runCondition (inBrackets : Bool) (arguments : List String) : Act Unit := do
  if inBrackets && arguments.getLast? ≠ some "]" then fail "missing ]" 2
  let s ← get
  let words := if inBrackets then arguments.dropLast else arguments
  match conditionHolds s.world.machine.files s.directory words with
  | .ok answer => conclude (if answer then 0 else 1)
  | .error complaint => fail complaint 2

/-! ### Input -/

/-- How a line was read. -/
structure LineRead where
  /-- Its letters, of which those behind a backslash are quoted. -/
  letters : List Letter := []
  /-- How many characters were read. -/
  count : Nat := 0
  /-- The moment at which it is known. -/
  time : Nat
  /-- It has an end. -/
  isWhole : Bool := false

/-- The line with a character read at a moment, of which a letter becomes part of it. -/
def LineRead.extend (l : LineRead) (moment : Nat) (letters : List Letter) : LineRead :=
  { l with
    letters := l.letters ++ letters
    count := l.count + 1
    time := Nat.max l.time moment }

/-- The next line of a text, behind what has been read of it. -/
def readLetters (raw : Bool) : LineRead → List (Nat × Char) → LineRead
  | l, [] => l
  | l, (t, c) :: rest =>
    if c = '\n' then { l.extend t [] with isWhole := true }
    else if c = '\\' && !raw then
      match rest with
      | (u, d) :: rest =>
        readLetters raw ((l.extend t []).extend u (if d = '\n' then [] else [⟨d, true⟩])) rest
      | [] => l.extend t []
    else readLetters raw (l.extend t (if c = Char.ofNat 0 then [] else [⟨c, false⟩])) rest

/-- The next line of standard input, and whether it has an end. -/
def nextLine (raw : Bool) : Act (List Letter × Bool) := do
  let s ← get
  match s.descriptors.find 0 with
  | some (.source number) =>
    let (text, stop) := s.world.left number
    let line := readLetters raw { time := s.world.time } text
    set { s with world := s.world.take number line.count }
    passTo? (if line.isWhole then some line.time else stop)
    return (line.letters, line.isWhole)
  | _ => return ([], false)

/-- A letter separates words of a line. -/
def Letter.separates (separators : List Char) (l : Letter) : Bool :=
  !l.quoted && separators.contains l.char

/-- A letter is a blank that separates words of a line. -/
def Letter.blanks (separators : List Char) (l : Letter) : Bool :=
  l.separates separators && isBlankSeparator l.char

/-- The words of a line for so many names, the last of which gets the rest of the line. -/
def wordsOfLine (separators : List Char) : (names : Nat) → List Letter → List (List Letter)
  | 0, _ => []
  | 1, line =>
    let line := line.dropWhile (Letter.blanks separators)
    let word := line.takeWhile fun l => !l.separates separators
    let behind := (line.drop word.length).dropWhile (Letter.blanks separators)
    let behind :=
      if behind.head?.any (Letter.separates separators) then
        behind.tail.dropWhile (Letter.blanks separators)
      else behind
    if behind = [] then [word]
    else [(line.reverse.dropWhile (Letter.blanks separators)).reverse]
  | names + 1, line =>
    let line := line.dropWhile (Letter.blanks separators)
    let word := line.takeWhile fun l => !l.separates separators
    let behind := (line.drop word.length).dropWhile (Letter.blanks separators)
    let behind :=
      if behind.head?.any (Letter.separates separators) then behind.tail else behind
    word :: wordsOfLine separators names behind

/-- Sets a variable whose name may be no name. -/
def setNamed (name value : String) : Act Unit :=
  if isVariableName name then setVariable name value
  else fail s!"{name}: bad variable name" 2

/-- Reads a line into variables; it fails if the line has no end. -/
def runRead (arguments : List String) : Act Unit := do
  let (options, names) ← readOptions ['r'] ['p'] arguments
  if names.isEmpty then fail "arg count" 2
  let (line, isWhole) ← nextLine (options.any fun o => o.1 == 'r')
  let words := wordsOfLine (← get).separators names.length line
  (names.zip (words.map textOf)).forM fun (name, word) => setNamed name word
  conclude (if isWhole then 0 else 1)

/-! ### Variables -/

/-- A text in quotes, as the shell would read it. -/
def inQuotes (text : String) : String :=
  let parts := (Text.splitOn '\'' text.toList).map fun part => s!"'{String.ofList part}'"
  "\"'\"".intercalate (parts.filter fun part => part ≠ "''" || text = "")

/-- A variable as a line. -/
def Binding.line (b : Binding) : String :=
  b.name ++ ((b.value.map fun v => "=" ++ inQuotes v).getD "")

/-- Prints the variables with a property, each behind some words. -/
def printBindings (front : String) (property : Binding → Bool) : Act Unit := do
  let found := ((← get).bindings.filter property).mergeSort fun b c => comesBefore b.name c.name
  let lines := found.map fun b => front ++ b.line ++ "\n"
  print "export" (Text.encode ("".intercalate lines).toList)

/-- The name and the value of an argument that may set a variable. -/
def settingOf (argument : String) : String × Option String :=
  let cs := argument.toList
  let name := cs.takeWhile (· ≠ '=')
  (String.ofList name,
    if name.length < cs.length then some (String.ofList (cs.drop name.length.succ)) else none)

/-- Gives variables a property, and perhaps values. -/
def runProperty (name : String) (has : Binding → Bool) (give : Binding → Binding)
    (arguments : List String) : Act Unit := do
  let (options, arguments) ← readOptions ['p'] [] arguments
  if arguments.isEmpty || !options.isEmpty then printBindings (name ++ " ") has
  else
    arguments.forM fun argument => do
      let (name, value) := settingOf argument
      if !isVariableName name then fail s!"{name}: bad variable name" 2
      match value with
      | some value => setVariable name value
      | none => pure ()
      modify fun s => s.bind (give ((s.binding? name).getD ⟨name, none, false, false⟩))
    conclude 0

/-- Removes variables or functions. -/
def runUnset (arguments : List String) : Act Unit := do
  let (options, names) ← readOptions ['v', 'f'] [] arguments
  names.forM fun name => do
    let s ← get
    if options.getLast?.any fun o => o.1 == 'f' then
      set { s with functions := s.functions.filter fun f => f.1 ≠ name }
    else if !isVariableName name then fail s!"{name}: bad variable name" 2
    else if (s.binding? name).any Binding.fixed then fail s!"{name}: is read only" 2
    else set (s.unbind name)
  conclude 0

/-- Gives variables a value for as long as the function at work runs. -/
def runLocal (arguments : List String) : Act Unit := do
  arguments.forM fun argument => do
    let (name, value) := settingOf argument
    if !isVariableName name then fail s!"{name}: bad variable name" 2
    modify fun s =>
      let hide (frame : List (String × Option Binding)) : List (String × Option Binding) :=
        if frame.any fun h => h.1 == name then frame else (name, s.binding? name) :: frame
      { s with hidden := s.hidden.modify 0 hide }
    match value with
    | some value => setVariable name value
    | none => pure ()
  conclude 0

/-! ### Options of the shell -/

/-- The options of the shell with their letters. -/
def optionNames : List (String × Char) :=
  [("errexit", 'e'), ("noglob", 'f'), ("ignoreeof", 'I'), ("interactive", 'i'), ("monitor", 'm'),
    ("noexec", 'n'), ("stdin", 's'), ("xtrace", 'x'), ("verbose", 'v'), ("vi", 'V'),
    ("emacs", 'E'), ("noclobber", 'C'), ("allexport", 'a'), ("notify", 'b'), ("nounset", 'u')]

/-- Turns an option on or off. -/
def setOption (isOn : Bool) (letter : Char) : Act Unit := do
  let letters := optionNames.map Prod.snd
  if !letters.contains letter then fail s!"Illegal option -{letter}" 2
  modify fun s =>
    { s with
      options := letters.reverse.filter fun l =>
        if l = letter then isOn else s.options.contains l }

/-- Turns an option with a name on or off. -/
def setNamedOption (isOn : Bool) (name : String) : Act Unit := do
  match optionNames.find? fun o => o.1 == name with
  | some (_, letter) => setOption isOn letter
  | none =>
    let sign := if isOn then "-" else "+"
    fail s!"Illegal option {sign}o {name}" 2

/-- How the options in front of arguments end. -/
inductive OptionsEnd where
  /-- With the first argument that is none. -/
  | argument
  /-- With a sign. -/
  | sign
deriving DecidableEq

/-- Turns the options in front of arguments on or off; what is left are the other arguments, and
the letters of a kind that is left open. -/
def takeOptions (others : List Char) :
    List String → Act (List Char × OptionsEnd × List String)
  | [] => return ([], .argument, [])
  | argument :: rest =>
    match argument.toList with
    | ['-'] => return ([], .sign, rest)
    | ['-', '-'] => return ([], .sign, rest)
    | sign :: letters => do
      if sign ≠ '-' && sign ≠ '+' then return ([], .argument, argument :: rest)
      let isOn := sign == '-'
      letters.forM fun l => do
        if !others.contains l && l ≠ 'o' then setOption isOn l
      let open' := letters.filter others.contains
      match letters.contains 'o', rest with
      | true, name :: rest =>
        setNamedOption isOn name
        let (more, how, rest) ← takeOptions others rest
        return (open' ++ more, how, rest)
      | _, rest =>
        let (more, how, rest) ← takeOptions others rest
        return (open' ++ more, how, rest)
    | [] => return ([], .argument, argument :: rest)

/-- Turns options on or off and sets the arguments of the script. -/
def runSet (arguments : List String) : Act Unit := do
  if arguments.isEmpty then
    printBindings "" fun b => b.value.isSome
  else
    let (_, how, rest) ← takeOptions [] arguments
    let isMinus := how = .sign && arguments.contains "-" && !arguments.contains "--"
    if (how = .sign && !isMinus) || !rest.isEmpty then
      modify fun s => { s with arguments := rest }
    conclude 0

/-! ### Places -/

/-- The directory in which a script runs. -/
def runWhere : Act Unit := do
  printLine "pwd" (← get).directory

/-- The path of a place. -/
def pathOf (place : Place) : String :=
  "/" ++ "/".intercalate place

/-- Goes to another directory. -/
def runGo (arguments : List String) : Act Unit := do
  let (_, arguments) ← readOptions ['L', 'P'] [] arguments
  let s ← get
  let back := arguments.head? = some "-"
  let target :=
    match arguments.head? with
    | none => s.lookUp? "HOME"
    | some "-" => some ((s.lookUp? "OLDPWD").getD s.directory)
    | some path => if path = "" then some "." else some path
  match target with
  | none => conclude 0
  | some path =>
    let place := FileTree.place s.directory path
    match s.world.machine.files.node? place with
    | some .directory =>
      let directory := pathOf place
      let s := (s.assign "OLDPWD" s.directory).assign "PWD" directory
      set { s with directory := directory }
      if back then printLine "cd" directory else conclude 0
    | _ => fail s!"can't cd to {path}" 2

/-! ### Control -/

/-- Leaves loops, or goes on with the last of them. -/
def runLeave (flow : Nat → Flow) (arguments : List String) : Act Unit := do
  let loops ←
    match arguments with
    | [] => pure 1
    | argument :: _ =>
      let n ← numberArgument argument
      if n = 0 then fail (noNumber argument) 2 else pure n
  conclude 0
  let around := (← get).loops
  if around ≠ 0 then throw (flow (min loops around))

/-- Ends a script or a function with a code. -/
def runEnd (flow : Flow) (arguments : List String) : Act Unit := do
  conclude (← firstNumber (← get).status arguments)
  throw flow

/-- Drops arguments of the script. -/
def runShift (arguments : List String) : Act Unit := do
  let count ← firstNumber 1 arguments
  let s ← get
  if s.arguments.length < count then fail "can't shift that many" 2
  set { s with arguments := s.arguments.drop count }
  conclude 0

/-! ### Signals and jobs -/

/-- How signals are sent. -/
def killUsage : String :=
  "Usage: kill [-s sigspec | -signum | -sigspec] [pid | job]... or\nkill -l [exitstatus]"

/-- The names of signals that are asked for by their numbers or by codes. -/
def listSignals (arguments : List String) : Act Unit := do
  match arguments with
  | [] =>
    let names := (List.range lastSignal).map fun n => signalName n.succ
    printLine "kill" (String.ofList ("0\n".toList ++ ("\n".intercalate names).toList))
  | argument :: _ =>
    let n ← numberArgument argument
    let n := if 128 < n then n - 128 else n
    if 0 < n && n < signalNames.length then printLine "kill" (signalName n)
    else fail s!"invalid signal number or exit status: {argument}" 2

/-- Sends a signal to processes. -/
def runKill (arguments : List String) : Act Unit := do
  let send (signal : Nat) (targets : List String) : Act Unit := do
    if targets.isEmpty then fail killUsage 2
    conclude 0
    targets.forM fun target => do
      if target.startsWith "%" then fail s!"No such job: {target}" 2
      let isGroup := target.startsWith "-"
      let n ← numberArgument (if isGroup then String.ofList target.toList.tail else target)
      if isGroup then complain "No such process\n" 1
      else if !(← sendSignal signal n) then complain "No such process\n" 1
  match arguments with
  | [] => fail killUsage 2
  | first :: rest =>
    if !first.startsWith "-" then send 15 arguments
    else
      match signalOf? (String.ofList first.toList.tail) with
      | some signal => send signal rest
      | none =>
        let (options, rest) ← readOptions ['l'] ['s'] arguments
        match options.find? fun o => o.1 == 's' with
        | some (_, name) =>
          match signalOf? name with
          | some signal => send signal rest
          | none => fail s!"invalid signal number or name: {name}" 2
        | none => if options.isEmpty then send 15 rest else listSignals rest

/-- Sets what is done on signals. -/
def runTrap (arguments : List String) : Act Unit := do
  let arguments ← plainArguments arguments
  let (action, signals) :=
    match arguments with
    | action :: signal :: rest =>
      if (signalOf? action).isSome && (Text.readDigits action.toList).isSome then
        (none, action :: signal :: rest)
      else (if action = "-" then none else some action, signal :: rest)
    | signals => (none, signals)
  if arguments.isEmpty then
    let s ← get
    let set? := signalNames.filterMap fun name => s.traps.find? fun t => t.1 == name
    let lines := set?.map fun t => s!"trap -- {inQuotes t.2} {t.1}\n"
    print "trap" (Text.encode ("".intercalate lines).toList)
  else
    conclude 0
    signals.forM fun signal => do
      match signalOf? signal with
      | none =>
        report s!"trap: {signal}: bad trap\n"
        conclude 1
      | some n =>
        let name := signalName n
        modify fun s =>
          { s with
            traps := (s.traps.filter fun t => t.1 ≠ name) ++ (action.map (name, ·)).toList }

/-- Waits for a job, which is then a part of what the script did. -/
def waitFor (j : Job) : Act Unit := do
  passTo? j.stop
  modify fun s =>
    let agenda := (s.world.agenda.reverse ++ j.agenda).mergeSort fun d e => d.1 ≤ e.1
    let jobs := s.world.jobs.map fun k =>
      if k.number = j.number then { k with agenda := [], channels := [] } else k
    { s with
      jobs := s.jobs.filter fun number => number ≠ j.number
      world := { s.world with agenda := agenda.reverse, jobs } }

/-- Waits for jobs. -/
def runWait (arguments : List String) : Act Unit := do
  let arguments ← plainArguments arguments
  let s ← get
  let own := s.world.jobs.filter fun j => s.jobs.contains j.number
  conclude 0
  if arguments.isEmpty then own.forM waitFor
  else
    arguments.forM fun argument => do
      if argument.startsWith "%" then fail s!"No such job: {argument}" 2
      let number ← numberArgument argument
      match own.find? fun j => j.number == number with
      | none => conclude 127
      | some j =>
        let isNew := j.stop.any fun stop => s.world.time ≤ stop
        waitFor j
        conclude j.status
        match if isNew then j.signal.bind endedText else none with
        | some text => report (text ++ "\n")
        | none => pure ()

/-- Shows or sets the rights of new files. -/
def runMask (arguments : List String) : Act Unit := do
  let (options, arguments) ← readOptions ['S'] [] arguments
  if !arguments.isEmpty then conclude 0
  else if options.isEmpty then printLine "umask" "0022"
  else printLine "umask" "u=rwx,g=rx,o=rx"

/-! ### All commands -/

/-- What the command of the shell with a name does, unless it runs other commands. -/
def builtin? (name : String) : Option (List String → Act Unit) :=
  match name with
  | ":" | "true" | "times" | "ulimit" | "jobs" | "alias" | "hash" => some fun _ => conclude 0
  | "false" => some fun _ => conclude 1
  | "echo" => some fun words => print "echo" (echoed words)
  | "printf" => some runPrint
  | "test" => some (runCondition false)
  | "[" => some (runCondition true)
  | "read" => some runRead
  | "export" =>
    some (runProperty "export" (fun b => b.exported) fun b => { b with exported := true })
  | "readonly" =>
    some (runProperty "readonly" (fun b => b.fixed) fun b => { b with fixed := true })
  | "unset" => some runUnset
  | "local" =>
    some fun arguments => do
      if (← get).hidden.isEmpty then fail "not in a function" 2 else runLocal arguments
  | "set" => some runSet
  | "pwd" => some fun _ => runWhere
  | "cd" | "chdir" => some runGo
  | "break" => some (runLeave .leave)
  | "continue" => some (runLeave .again)
  | "exit" => some (runEnd .over)
  | "return" => some (runEnd .back)
  | "shift" => some runShift
  | "kill" => some runKill
  | "trap" => some runTrap
  | "wait" => some runWait
  | "umask" => some runMask
  | _ => none

/-- The commands of the shell that run other commands. -/
def runningNames : List String :=
  [".", "command", "eval", "exec", "type"]

/-- A name is that of a command of the shell itself. -/
def isBuiltin (name : String) : Bool :=
  (builtin? name).isSome || runningNames.contains name

end CodePermit.Shell
