import CodePermit.FileTree
import CodePermit.Settings.Table
import CodePermit.Toml.Reader
/-!
# Loading settings

The configuration file stands in the application's home, which a variable may name and which is
otherwise a hidden directory in the home of the user.  A file that is asked for has to be there; a
file in the default place may be missing and then the defaults hold.

* `applicationHome`, `defaultPath` — where the file is looked for;
* `LoadFault` — why settings cannot be loaded, with its `message`;
* `Settings.ofText?` — the settings in a text;
* `Settings.load` — the settings of a file, read and checked.
-/

namespace CodePermit

/-! ### Places -/

/-- The variables and places that the home is taken from. -/
structure HomeVariables where
  /-- The variable that names the application's home. -/
  application : Option String := none
  /-- The variable that names the home of the user. -/
  user : Option String := none
  /-- The home of the user's account. -/
  account : Option String := none

/-- A variable that is set to something. -/
def filled (value : Option String) : Option String :=
  value.filter (· ≠ "")

/-- The application's home. -/
def applicationHome (v : HomeVariables) : Option String :=
  match filled v.application with
  | some home => some home
  | none => ((filled v.user).orElse fun _ => v.account).map fun home => joinPath home ".dolphin"

/-- The default place of the configuration file. -/
def defaultPath (v : HomeVariables) : Option String :=
  (applicationHome v).map fun home => joinPath home "jit.toml"

/-! ### Faults -/

/-- What is reported for settings that are wrong. -/
def invalidMessage (explanation : String) : String :=
  s!"invalid jit configuration: {explanation}"

/-- Why settings cannot be loaded. -/
inductive LoadFault where
  /-- The file at a path cannot be read. -/
  | unreadable (path : String) (fault : ReadFault)
  /-- The file at a path does not hold settings. -/
  | malformed (path : String)
  /-- The settings are wrong. -/
  | invalid (fault : SettingsFault)
deriving DecidableEq

/-- What is reported for a file that cannot be read. -/
def unreadableMessage (path cause : String) : String :=
  s!"failed to read {path}: {cause}"

/-- What is reported for a file that does not hold settings. -/
def malformedMessage (path cause : String) : String :=
  s!"failed to parse {path}: {cause}"

/-- What is reported for settings that cannot be loaded. -/
def LoadFault.message : LoadFault → String
  | unreadable path fault => unreadableMessage path fault.message
  | malformed path => malformedMessage path "not a table of settings"
  | invalid fault => invalidMessage fault.explanation

/-! ### Loading -/

/-- The settings in a text. -/
def Settings.ofText? (text : List Char) : Option Settings :=
  (Toml.read text).bind Settings.ofTable?

/-- Settings that are refused if they are wrong. -/
def Settings.checked (s : Settings) : Except LoadFault Settings :=
  match s.validate with
  | .ok () => .ok s
  | .error fault => .error (.invalid fault)

/-- The settings in the content of the file at a path. -/
def Settings.ofContent (path : String) (content : List UInt8) : Except LoadFault Settings :=
  match Text.decode content with
  | none => .error (.unreadable path .invalidData)
  | some text =>
    match Settings.ofText? text with
    | none => .error (.malformed path)
    | some s => s.checked

/-- Loads settings: from the file that is asked for, or else from the default place, where the
file may be missing. -/
def Settings.load (read : String → Except ReadFault (List UInt8)) (asked default : Option String) :
    Except LoadFault Settings :=
  match asked, default with
  | some path, _ =>
    match read path with
    | .ok content => Settings.ofContent path content
    | .error fault => .error (.unreadable path fault)
  | none, some path =>
    match read path with
    | .ok content => Settings.ofContent path content
    | .error .notFound => .ok {}
    | .error fault => .error (.unreadable path fault)
  | none, none => .ok {}

end CodePermit
