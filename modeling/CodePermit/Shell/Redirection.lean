import CodePermit.Shell.Expansion
/-!
# Redirections

A redirection leads a descriptor to or from a file, to where another one leads, or from a text in
the script.  Some files stand for descriptors.

* `standingFor?` — the descriptor that a path stands for;
* `redirect`, `redirectAll` — descriptors led elsewhere;
* `redirected` — something done with redirections around it.
-/

namespace CodePermit.Shell

/-! ### Files -/

/-- The descriptor that a digit names. -/
def descriptorOf? (text : String) : Option Nat :=
  match text.toList with
  | [c] => if c.isDigit then some (c.toNat - '0'.toNat) else none
  | _ => none

/-- The descriptor that a path stands for. -/
def standingFor? (path : String) : Option Nat :=
  match path with
  | "/dev/stdin" => some 0
  | "/dev/stdout" => some 1
  | "/dev/stderr" => some 2
  | _ =>
    if path.startsWith "/dev/fd/" then
      descriptorOf? (String.ofList (path.toList.drop "/dev/fd/".length))
    else none

/-- The file that holds nothing, whatever is written to it. -/
def voidPath : String := "/dev/null"

/-- What is reported for a file that cannot be written. -/
def uncreated (path : String) (fault : ReadFault) : String :=
  let cause := if fault = .isDirectory then "Is a directory" else "Directory nonexistent"
  s!"cannot create {path}: {cause}"

/-- What is reported for a file that cannot be read. -/
def unopened (path : String) : String :=
  s!"cannot open {path}: No such file"

/-- The channel from a new source. -/
def channelFrom (source : Source) : Act Channel := do
  let s ← get
  let (number, world) := s.world.addSource source
  set { s with world }
  return .source number

/-- The channel from a text that is there at once. -/
def channelFromText (text : List Char) : Act Channel := do
  let time := (← get).world.time
  channelFrom (.text (text.map fun c => (time, c)) (some time))

/-! ### Redirecting -/

/-- A redirection whose target is known. -/
inductive Leading where
  /-- To or from a file, or to where a descriptor leads. -/
  | file (descriptor : Nat) (direction : Direction) (target : String)
  /-- From a text. -/
  | text (descriptor : Nat) (text : String)

/-- A redirection with its target worked out. -/
def Redirection.leading (insert : Insertion) : Redirection → Act Leading
  | .text descriptor words => return .text descriptor (← Word.text insert words)
  | .file descriptor direction target => do
    let target ← Word.text insert target
    let isKnown := target == "-" || (descriptorOf? target).isSome
    if direction = .duplicate && !isKnown then fail "Syntax error: Bad fd number" 2
    return .file descriptor direction target

/-- The channel to a file that is written, or what is wrong with it.  The file is there from then
on. -/
def openToWrite (s : Situation) (direction : Direction) (path : String) :
    Act (Except String Channel) := do
  let files := s.world.machine.files
  let place := FileTree.place s.directory path
  match files.writeFault? s.directory path with
  | some fault => return .error (uncreated path fault)
  | none =>
    let isThere := (files.node? place).isSome
    if direction = .overwrite && s.has 'C' && isThere then
      return .error s!"cannot create {path}: File exists"
    let deed : Deed :=
      if direction = .overwrite || direction = .force || !isThere then .empty place
      else .append place []
    set { s with world := s.world.perform deed }
    return .ok (.file place)

/-- The channel from a file that is read, or what is wrong with it. -/
def openToRead (s : Situation) (path : String) : Act (Except String Channel) := do
  match s.world.machine.files.find s.directory path with
  | .ok (.file _ _) => return .ok (← channelFrom (.file (FileTree.place s.directory path) 0))
  | .ok .directory => return .ok (← channelFromText [])
  | .error _ => return .error (unopened path)

/-- The channel that a redirection leads to, which is `none` if it closes the descriptor, or what
is wrong with it. -/
def Leading.channel : Leading → Act (Except String (Option Channel))
  | .text _ content => return .ok (some (← channelFromText content.toList))
  | .file _ .duplicate target => do
    if target = "-" then return .ok none
    match (descriptorOf? target).bind (← get).descriptors.find with
    | some channel => return .ok (some channel)
    | none => return .error s!"{target}: Bad file descriptor"
  | .file _ direction path => do
    let s ← get
    let found (channel : Except String Channel) : Except String (Option Channel) :=
      channel.map some
    match standingFor? path with
    | some d =>
      match s.descriptors.find d with
      | some channel => return .ok (some channel)
      | none =>
        return .error (if direction = .read then unopened path else uncreated path .notFound)
    | none =>
      if path = voidPath then return .ok (some .nowhere)
      else if direction = .read then return found (← openToRead s path)
      else return found (← openToWrite s direction path)

/-- The descriptor that is redirected. -/
def Leading.descriptor : Leading → Nat
  | file descriptor _ _ => descriptor
  | text descriptor _ => descriptor

/-- Leads a descriptor elsewhere, or complains.  Unless that is for good, standard error is put
aside before it is led to where another descriptor leads, and nobody hears of it if it cannot be. -/
def redirect (forGood : Bool) (l : Leading) : Act Bool := do
  match ← l.channel with
  | .ok channel =>
    modify fun s => { s with descriptors := s.descriptors.lead l.descriptor channel }
    return true
  | .error complaint =>
    if !forGood && l matches .file 2 .duplicate _ then conclude 2 else complain complaint 2
    return false

/-- Leads descriptors elsewhere in order, up to the first that cannot be. -/
def redirectAll (forGood : Bool) : List Leading → Act Bool
  | [] => return true
  | l :: ls => do
    if ← redirect forGood l then redirectAll forGood ls else return false

/-- The descriptors that redirections lead elsewhere, as they were before. -/
def restored (ls : List Leading) (before after : Situation) : Situation :=
  let descriptors := ls.foldl
    (fun ds l => ds.lead l.descriptor (before.descriptors.find l.descriptor)) after.descriptors
  { after with descriptors }

/-- Does something with redirections around it; `undone` says what comes instead if one of them
fails. -/
def redirected (insert : Insertion) (rs : List Redirection) (body undone : Act Unit) :
    Act Unit := do
  let leadings ← rs.mapM fun r => r.leading insert
  keeping (do if ← redirectAll false leadings then body else undone) (restored leadings)

end CodePermit.Shell
