import CodePermit.Machine
import CodePermit.Shell.Script
/-!
# Situations of the shell

A script runs in a situation: its variables, where its descriptors lead, and the world, which it
shares with the programs that it starts.  Running is told beforehand: the world has a clock of its
own, which moves when somebody sleeps, and it keeps the agenda of what was done.

* `Channel` — where a descriptor leads;
* `World`, `Job` — what programs share, and what runs beside a script;
* `Situation` — where a script stands;
* `Flow`, `Act` — how a script leaves off, and what it does in a situation.
-/

namespace CodePermit.Shell

/-! ### Channels -/

/-- Where a descriptor leads. -/
inductive Channel where
  /-- To standard output of the whole program. -/
  | output
  /-- To standard error of the whole program. -/
  | errors
  /-- To the end of a file. -/
  | file (place : Place)
  /-- To the bytes that are kept under a number. -/
  | kept (number : Nat)
  /-- From the source under a number. -/
  | source (number : Nat)
  /-- Nowhere. -/
  | nowhere
deriving DecidableEq

/-- Where descriptors lead; one that is not there is closed. -/
abbrev Descriptors : Type :=
  List (Nat × Channel)

/-- Where a descriptor leads. -/
def Descriptors.find (ds : Descriptors) (descriptor : Nat) : Option Channel :=
  (List.find? (fun d => d.1 == descriptor) ds).map Prod.snd

/-- A descriptor led elsewhere, or closed. -/
def Descriptors.lead (ds : Descriptors) (descriptor : Nat) (channel : Option Channel) :
    Descriptors :=
  let others := List.filter (fun d => d.1 ≠ descriptor) ds
  match channel with
  | some c => (descriptor, c) :: others
  | none => others

/-- What is read bit by bit. -/
inductive Source where
  /-- The characters that are left of a text, each with the moment at which it comes, and the moment
  at which it is known that there are no more; `none` never comes. -/
  | text (text : List (Nat × Char)) (stop : Option Nat)
  /-- A file of which so many characters have been read. -/
  | file (place : Place) (taken : Nat)

/-! ### The world -/

/-- A program that runs beside a script. -/
structure Job where
  /-- Its number. -/
  number : Nat
  /-- What it does. -/
  agenda : Agenda
  /-- When it ends; `none` is never. -/
  stop : Option Nat
  /-- The code with which it ends. -/
  status : Nat
  /-- The signal that ends it, if one does. -/
  signal : Option Nat := none
  /-- Where its descriptors lead. -/
  channels : List Channel

/-- What programs share. -/
structure World where
  /-- The moment. -/
  time : Nat
  /-- The machine, with its files as they are at the moment. -/
  machine : Machine
  /-- What was done, latest first. -/
  agenda : Agenda := []
  /-- What runs or ran beside the script. -/
  jobs : List Job := []
  /-- Bytes that are kept, by their numbers, with the moments at which they came, latest first. -/
  kept : List (List (Nat × List UInt8)) := []
  /-- The sources, by their numbers. -/
  sources : List Source := []
  /-- The number of the next process. -/
  nextNumber : Nat := 1

namespace World

/-- The world at a later moment. -/
def upTo (w : World) (time : Nat) : World :=
  let agendas := w.machine.agendas ++ w.jobs.map Job.agenda
  let due := Agenda.merged (agendas.map fun c => c.during w.time time)
  { w with
    time := Nat.max w.time time
    machine := { w.machine with files := due.performOn w.machine.files } }

/-- The world after a deed. -/
def perform (w : World) (d : Deed) : World :=
  { w with
    machine := { w.machine with files := w.machine.files.perform d }
    agenda := (w.time, d) :: w.agenda }

/-- The world with a new source, and its number. -/
def addSource (w : World) (s : Source) : Nat × World :=
  (w.sources.length, { w with sources := w.sources ++ [s] })

/-- What is left of the source under a number, and the moment at which that is known. -/
def left (w : World) (number : Nat) : List (Nat × Char) × Option Nat :=
  match w.sources[number]? with
  | some (.text text stop) => (text, stop)
  | some (.file place taken) =>
    let text := Text.decodeLossy (w.machine.files.contentAt place)
    ((text.drop taken).map fun c => (w.time, c), some w.time)
  | none => ([], some w.time)

/-- The world after so many characters of the source under a number have been read. -/
def take (w : World) (number count : Nat) : World :=
  let taken (s : Source) : Source :=
    match s with
    | .text text stop => .text (text.drop count) stop
    | .file place before => .file place (before + count)
  { w with sources := w.sources.modify number taken }

/-- The world with a new number for bytes to be kept. -/
def addKept (w : World) : Nat × World :=
  (w.kept.length, { w with kept := w.kept ++ [[]] })

/-- The world with bytes added to those that are kept under a number. -/
def keep (w : World) (number : Nat) (bytes : List UInt8) : World :=
  { w with kept := w.kept.modify number fun parts => (w.time, bytes) :: parts }

/-- The bytes that are kept under a number, with their moments, in the order of those. -/
def keptParts (w : World) (number : Nat) : List (Nat × List UInt8) :=
  ((w.kept.getD number []).reverse).mergeSort fun p q => p.1 ≤ q.1

/-- When everything that runs beside the script has let go of a channel; `none` is never. -/
def release (w : World) (channel : Channel) : Option Nat :=
  (w.jobs.filter fun j => j.channels.contains channel).foldl
    (fun latest j => do return Nat.max (← latest) (← j.stop)) (some w.time)

end World

/-! ### Situations -/

/-- A variable. -/
structure Binding where
  /-- Its name. -/
  name : String
  /-- Its value, if it has one. -/
  value : Option String
  /-- Programs that are started have it, too. -/
  exported : Bool := false
  /-- It stays as it is. -/
  fixed : Bool := false

/-- Where a script stands. -/
structure Situation where
  /-- The name of the script. -/
  name : String
  /-- The number of its process. -/
  number : Nat
  /-- The numbers of the processes in which it runs, innermost first. -/
  parents : List Nat := []
  /-- Its arguments. -/
  arguments : List String := []
  /-- Its variables. -/
  bindings : List Binding := []
  /-- The variables of the functions under way: what was there before them. -/
  hidden : List (List (String × Option Binding)) := []
  /-- The functions. -/
  functions : List (String × Command) := []
  /-- What is done on signals, by their names. -/
  traps : List (String × String) := []
  /-- The signals that have come and not been minded yet, by their names. -/
  alarms : List String := []
  /-- The options that are on. -/
  options : List Char := []
  /-- The directory. -/
  directory : String
  /-- Where descriptors lead. -/
  descriptors : Descriptors := []
  /-- The code of the last command. -/
  status : Nat := 0
  /-- The code of the last output that was put into words. -/
  inserted : Nat := 0
  /-- The number of the last job. -/
  lastJob : Option Nat := none
  /-- The numbers of its jobs that have not been waited for. -/
  jobs : List Nat := []
  /-- The number of the line. -/
  line : Nat := 1
  /-- The command of the shell that is at work. -/
  command : Option String := none
  /-- Loops around the command. -/
  loops : Nat := 0
  /-- It runs inside another script, which stays as it is. -/
  isApart : Bool := false
  /-- Somebody asks for the code of the command. -/
  asked : Bool := false
  /-- The world. -/
  world : World

/-- How a script leaves off what it does. -/
inductive Flow where
  /-- So many loops are left. -/
  | leave (loops : Nat)
  /-- So many loops are left, and the last of them goes on. -/
  | again (loops : Nat)
  /-- A function is over. -/
  | back
  /-- The script is over. -/
  | over
  /-- Something went wrong, after which the script is over unless somebody minds it. -/
  | failed
  /-- The process with a number is ended by a signal. -/
  | killed (number signal : Nat)
  /-- Nothing happens any more. -/
  | hung
deriving DecidableEq

/-- What a script does in a situation. -/
abbrev Act (α : Type) : Type :=
  ExceptT Flow (StateM Situation) α

/-! ### Variables -/

namespace Situation

/-- A variable by its name. -/
def binding? (s : Situation) (name : String) : Option Binding :=
  s.bindings.find? fun b => b.name == name

/-- The situation with a variable. -/
def bind (s : Situation) (b : Binding) : Situation :=
  { s with bindings := b :: s.bindings.filter fun c => c.name ≠ b.name }

/-- The situation without a variable. -/
def unbind (s : Situation) (name : String) : Situation :=
  { s with bindings := s.bindings.filter fun c => c.name ≠ name }

/-- The situation with a variable set, which keeps its other properties. -/
def assign (s : Situation) (name value : String) : Situation :=
  let b := (s.binding? name).getD ⟨name, none, s.options.contains 'a', false⟩
  s.bind { b with value := some value }

/-- The value of a variable. -/
def lookUp? (s : Situation) (name : String) : Option String :=
  (s.binding? name).bind Binding.value

/-- The characters at which fields are separated. -/
def separators (s : Situation) : List Char :=
  ((s.lookUp? "IFS").getD " \t\n").toList

/-- What stands between all arguments when they are taken as one. -/
def separator (s : Situation) : String :=
  String.ofList (s.separators.take 1)

/-- The value of a parameter, if it has one. -/
def value? (s : Situation) (name : String) : Option String :=
  match name with
  | "@" => if s.arguments = [] then none else some (" ".intercalate s.arguments)
  | "*" => if s.arguments = [] then none else some (s.separator.intercalate s.arguments)
  | "#" => some (toString s.arguments.length)
  | "?" => some (toString s.status)
  | "$" => some (toString s.number)
  | "!" => s.lastJob.map toString
  | "-" => some (String.ofList s.options)
  | "0" => some s.name
  | name =>
    match Text.readDigits name.toList with
    | some n => s.arguments[n - 1]?
    | none => s.lookUp? name

/-- An option is on. -/
def has (s : Situation) (option : Char) : Bool :=
  s.options.contains option

end Situation

/-! ### Acts -/

/-- Lets time pass up to a moment. -/
def passTo (time : Nat) : Act Unit :=
  modify fun s => { s with world := s.world.upTo time }

/-- Lets time pass up to a moment; `none` never comes. -/
def passTo? : Option Nat → Act Unit
  | some time => passTo time
  | none => throw .hung

/-- Sets the code of the last command. -/
def conclude (status : Nat) : Act Unit :=
  modify fun s => { s with status }

/-- Writes bytes to a descriptor, unless it is closed. -/
def writeTo (descriptor : Nat) (bytes : List UInt8) : Act Bool := do
  let s ← get
  let w := s.world
  let after : Option World :=
    match s.descriptors.find descriptor with
    | some .output => some (w.perform (.speak false bytes))
    | some .errors => some (w.perform (.speak true bytes))
    | some (.file place) => some (w.perform (.append place bytes))
    | some (.kept number) => some (w.keep number bytes)
    | some .nowhere => some w
    | some (.source _) => none
    | none => none
  match after with
  | some w =>
    set { s with world := if bytes = [] then s.world else w }
    return true
  | none => return bytes = []

/-- Writes a text to standard error. -/
def report (text : String) : Act Unit := do
  let _ ← writeTo 2 (Text.encode text.toList)

/-- Complains about the line at hand and goes on with a code. -/
def complain (text : String) (status : Nat) : Act Unit := do
  let s ← get
  let command := (s.command.map fun c => c ++ ": ").getD ""
  report s!"{s.name}: {s.line}: {command}{text}\n"
  conclude status

/-- Complains about the line at hand and fails. -/
def fail {α : Type} (text : String) (status : Nat) : Act α := do
  complain text status
  throw .failed

/-- Does something after which a part of the situation is as it was. -/
def keeping {α : Type} (body : Act α) (restore : Situation → Situation → Situation) : Act α :=
  fun s =>
    let (result, after) := body.run.run s
    (result, restore s after)

/-- Does something and tells how it left off. -/
def leavingOff (body : Act Unit) : Act (Option Flow) := fun s =>
  match body.run.run s with
  | (.ok (), s) => (.ok none, s)
  | (.error flow, s) => (.ok (some flow), s)

end CodePermit.Shell
