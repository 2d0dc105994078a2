import CodePermit.Text.Line
import CodePermit.Text.Natural
import CodePermit.Text.Substitution
/-!
# Arguments of the command line

The command line has a command and options before and behind it.  Options are read from the left;
the first that asks for help or for the version wins over all that follows, and so does the first
fault.

* `Command`, `Topic`, `Request` — what can be asked for;
* `UsageFault` — why arguments ask for nothing, with its `message`;
* `Request.ofArguments` — what arguments ask for.
-/

namespace CodePermit.CommandLine

/-- The commands. -/
inductive Command where
  /-- Run the chain and report the result. -/
  | acquire (config : Option String) (json : Bool) (retries : Nat)
  /-- Say whether the permission is there. -/
  | probe
  /-- Print the settings that are used. -/
  | config (config : Option String)
deriving DecidableEq

/-- What there is a help text for. -/
inductive Topic where
  /-- The program. -/
  | program
  /-- The command that runs the chain. -/
  | acquire
  /-- The command that asks the probe. -/
  | probe
  /-- The command that prints settings. -/
  | config
  /-- The command that prints help. -/
  | help
deriving DecidableEq

/-- What arguments ask for. -/
inductive Request where
  /-- A command, with a full log or not. -/
  | command (command : Command) (verbose : Bool)
  /-- The help text of a topic. -/
  | help (topic : Topic)
  /-- The version of the program. -/
  | version
deriving DecidableEq

/-- Why arguments ask for nothing. -/
inductive UsageFault where
  /-- There are no arguments at all. -/
  | nothingAsked
  /-- There is no command. -/
  | noCommand
  /-- There is no such command. -/
  | unknownCommand (text : String)
  /-- There is no place for an argument. -/
  | unexpected (text : String)
  /-- An option lacks its value. -/
  | valueMissing (option : String)
  /-- An option is given a value that it cannot have. -/
  | valueRefused (option value : String)
  /-- An option is given twice. -/
  | repeated (option : String)
deriving DecidableEq

/-- What is reported for arguments that ask for nothing. -/
def UsageFault.message : UsageFault → String
  | nothingAsked => "error: a command is required"
  | noCommand => "error: a command is required"
  | unknownCommand text => s!"error: unrecognized command '{text}'"
  | unexpected text => s!"error: unexpected argument '{text}' found"
  | valueMissing option => s!"error: a value is required for '--{option}' but none was supplied"
  | valueRefused option value => s!"error: invalid value '{value}' for '--{option}'"
  | repeated option => s!"error: the argument '--{option}' cannot be used multiple times"

/-! ### Options -/

/-- What an option takes. -/
inductive Taking where
  /-- Nothing. -/
  | nothing
  /-- A path, which is not empty. -/
  | path
  /-- A 32-bit number. -/
  | count
deriving DecidableEq

/-- An option. -/
structure OptionForm where
  /-- The name behind two hyphens. -/
  name : String
  /-- The character behind one hyphen. -/
  letter : Option Char := none
  /-- What it takes. -/
  taking : Taking := .nothing

/-- The options that hold everywhere. -/
def commonOptions : List OptionForm :=
  [{ name := "verbose", letter := some 'v' }, { name := "help", letter := some 'h' }]

/-- The option that names a configuration file. -/
def configOption : OptionForm :=
  { name := "config", taking := .path }

/-- The options of a topic. -/
def Topic.options : Topic → List OptionForm
  | program => commonOptions ++ [{ name := "version", letter := some 'V' }]
  | acquire =>
    commonOptions ++ [configOption, { name := "json" }, { name := "retries", taking := .count }]
  | probe => commonOptions
  | config => commonOptions ++ [configOption]
  | help => []

/-- The options that have been given, with their values. -/
abbrev Given : Type :=
  List (String × String)

/-- An option has been given. -/
def Given.has (given : Given) (name : String) : Bool :=
  given.any fun g => g.1 == name

/-- The value of an option that has been given. -/
def Given.value? (given : Given) (name : String) : Option String :=
  (given.find? fun g => g.1 == name).map Prod.snd

/-- A whole number with a sign or without one. -/
def readSigned (text : String) : Option Int :=
  match text.toList with
  | '-' :: digits => (Text.readDigits digits).map fun n => -(n : Int)
  | digits => (Text.readNatural digits).map Int.ofNat

/-- A 32-bit number, which may have a sign. -/
def readCount (text : String) : Option Nat :=
  (readSigned text).bind fun n => if 0 ≤ n ∧ n < UInt32.size then some n.toNat else none

/-- An option takes a value. -/
def Taking.accepts (taking : Taking) (value : String) : Bool :=
  match taking with
  | .nothing => false
  | .path => value ≠ ""
  | .count => (readCount value).isSome

/-- What an argument is. -/
inductive Argument where
  /-- The end of all options. -/
  | escape
  /-- An option, perhaps with a value in the same argument. -/
  | option (form : OptionForm) (value : Option String)
  /-- Something that looks like an option and is none. -/
  | unknown
  /-- A word. -/
  | word

/-- An argument is cut at its first equals sign. -/
def cutValue (cs : List Char) : List Char × Option String :=
  let name := cs.takeWhile (· ≠ '=')
  match cs.dropWhile (· ≠ '=') with
  | [] => (name, none)
  | _ :: value => (name, some (String.ofList value))

/-- An argument is taken for an option by its hyphens. -/
def classify (options : List OptionForm) (argument : String) : Argument :=
  match argument.toList with
  | ['-', '-'] => .escape
  | '-' :: '-' :: cs =>
    let (name, value) := cutValue cs
    match options.find? fun o => o.name.toList == name with
    | some form => .option form value
    | none => .unknown
  | ['-', c] =>
    match options.find? fun o => o.letter == some c with
    | some form => .option form none
    | none => .unknown
  | '-' :: _ :: _ => .unknown
  | _ => .word

/-- Letters behind one hyphen are as many options. -/
def splitLetters (argument : String) : List String :=
  match argument.toList with
  | '-' :: '-' :: _ => [argument]
  | '-' :: c :: cs => (c :: cs).map fun c => String.ofList ['-', c]
  | _ => [argument]

/-- An argument that can be the value of the option before it. -/
def isValue (argument : String) : Bool :=
  match argument.toList with
  | '-' :: _ :: _ => false
  | _ => true

/-! ### Requests -/

/-- The command that options behind it complete. -/
def Topic.command (topic : Topic) (given : Given) : Option Command :=
  match topic with
  | acquire =>
    some (.acquire (given.value? "config") (given.has "json")
      (((given.value? "retries").bind readCount).getD 0))
  | probe => some .probe
  | config => some (.config (given.value? "config"))
  | program => none
  | help => none

/-- The topic of a command. -/
def Topic.ofWord? (word : String) : Option Topic :=
  if word = "acquire" then some acquire
  else if word = "probe" then some probe
  else if word = "config" then some config
  else if word = "help" then some help
  else none

/-- What is asked for when all arguments are read. -/
def conclude (topic : Topic) (verbose : Bool) (given : Given) : Except UsageFault Request :=
  match topic.command given with
  | some command => .ok (.command command (verbose || given.has "verbose"))
  | none => .error .noCommand

/-- Adds an option to those given, or answers at once if it asks for help or for the version. -/
def give (topic : Topic) (given : Given) (form : OptionForm) (value : String) :
    Except UsageFault (Request ⊕ Given) :=
  if form.name = "help" then .ok (.inl (.help topic))
  else if form.name = "version" then .ok (.inl .version)
  else if given.has form.name then .error (.repeated form.name)
  else .ok (.inr (given ++ [(form.name, value)]))

/-- What the words behind the command for help ask for. -/
def helpOn : List String → Except UsageFault Request
  | [] => .ok (.help .program)
  | word :: rest =>
    match Topic.ofWord? word, rest with
    | none, _ => .error (.unknownCommand word)
    | some topic, [] => .ok (.help topic)
    | some _, next :: _ => .error (.unknownCommand next)

/-- Reads arguments on a topic, with the options given so far. -/
def readArguments (topic : Topic) (verbose : Bool) : Given → List String →
    Except UsageFault Request
  | given, [] => conclude topic verbose given
  | given, argument :: rest =>
    match classify topic.options argument with
    | .escape =>
      match rest with
      | [] => conclude topic verbose given
      | next :: _ => .error (.unexpected next)
    | .unknown => .error (.unexpected argument)
    | .word =>
      if topic ≠ .program then .error (.unexpected argument)
      else
        match Topic.ofWord? argument with
        | none => .error (.unknownCommand argument)
        | some .help => helpOn rest
        | some next => readArguments next (verbose || given.has "verbose") [] rest
    | .option form value =>
      if form.taking = .nothing then
        match value with
        | some value => .error (.valueRefused form.name value)
        | none =>
          match give topic given form "" with
          | .error fault => .error fault
          | .ok (.inl request) => .ok request
          | .ok (.inr given) => readArguments topic verbose given rest
      else
        match value, rest with
        | some value, rest =>
          if !form.taking.accepts value then .error (.valueRefused form.name value)
          else
            match give topic given form value with
            | .error fault => .error fault
            | .ok (.inl request) => .ok request
            | .ok (.inr given) => readArguments topic verbose given rest
        | none, [] => .error (.valueMissing form.name)
        | none, value :: rest =>
          if !isValue value then .error (.valueMissing form.name)
          else if !form.taking.accepts value then .error (.valueRefused form.name value)
          else
            match give topic given form value with
            | .error fault => .error fault
            | .ok (.inl request) => .ok request
            | .ok (.inr given) => readArguments topic verbose given rest
termination_by _ arguments => arguments.length

/-- What arguments ask for. -/
def Request.ofArguments (arguments : List String) : Except UsageFault Request :=
  if arguments = [] then .error .nothingAsked
  else readArguments .program false [] (arguments.flatMap splitLetters)

end CodePermit.CommandLine
