import CodePermit.Text.Encoding
import CodePermit.Text.Line
/-!
# Files

The part of a file system that acquisition looks at: texts to be read, and programs to be found.

* `FileTree` — files and directories by path;
* `Place` — where something stands in the tree;
* `FileTree.find` — what stands at a path, every step of which starts in a directory;
* `FileTree.read`, `FileTree.write` — the content of a file;
* `FileTree.writeFault?` — why no file can be written at a path;
* `FileTree.isProgram` — whether a path leads to a program;
* `FileTree.locate` — the program that is started by a name;
* `FileTree.finds` — whether a program can be found by a name.
-/

namespace CodePermit

/-- What a path leads to. -/
inductive FileNode where
  /-- A file, which may be executable. -/
  | file (content : List UInt8) (executable : Bool)
  /-- A directory. -/
  | directory
deriving DecidableEq

/-- Files and directories by the names that lead to them from the root. -/
structure FileTree where
  /-- The nodes that are there, each once. -/
  nodes : List (List String × FileNode) := []

/-- Why a file cannot be read. -/
inductive ReadFault where
  /-- Nothing is there. -/
  | notFound
  /-- A directory is there. -/
  | isDirectory
  /-- The path leads through a file. -/
  | notDirectory
  /-- The content is not UTF-8. -/
  | invalidData
deriving DecidableEq

/-- The name of a kind of fault. -/
def ReadFault.name : ReadFault → String
  | notFound => "NotFound"
  | isDirectory => "IsADirectory"
  | notDirectory => "NotADirectory"
  | invalidData => "InvalidData"

/-- What is reported when a file cannot be read. -/
def ReadFault.message : ReadFault → String
  | notFound => "No such file or directory (os error 2)"
  | isDirectory => "Is a directory (os error 21)"
  | notDirectory => "Not a directory (os error 20)"
  | invalidData => "stream did not contain valid UTF-8"

/-! ### Paths -/

/-- The pieces of a path between slashes. -/
def pathPieces (path : String) : List String :=
  (Text.splitOn '/' path.toList).map String.ofList

/-- The steps of a path; a path that ends in a slash ends with a step that stays where it is. -/
def pathSteps (path : String) : List String :=
  let steps := (pathPieces path).filter (· ≠ "")
  if path.endsWith "/" then steps ++ ["."] else steps

/-- A path with a further step behind it. -/
def joinPath (base step : String) : String :=
  if step.startsWith "/" then step
  else if base = "" ∨ base.endsWith "/" then base ++ step
  else base ++ "/" ++ step

/-- A place in the tree: the names that lead to it from the root. -/
abbrev Place : Type :=
  List String

/-- The place one step further: one dot stays and two dots lead upwards. -/
def Place.step (place : Place) (s : String) : Place :=
  if s = "." then place else if s = ".." then place.dropLast else place ++ [s]

/-- The places at which steps start. -/
def Place.passed : Place → List String → List Place
  | _, [] => []
  | place, s :: rest => place :: passed (place.step s) rest

namespace FileTree

/-- Where a path starts: at the root or in the directory at hand. -/
def start (cwd path : String) : Place :=
  if path.startsWith "/" then [] else (pathSteps cwd).foldl Place.step []

/-- The place that a path names. -/
def place (cwd path : String) : Place :=
  (pathSteps path).foldl Place.step (start cwd path)

/-- What stands at a place. -/
def node? (t : FileTree) (place : Place) : Option FileNode :=
  if place = [] then some .directory
  else (t.nodes.find? fun n => n.1 == place).map Prod.snd

/-- The names in the directory at a place. -/
def names (t : FileTree) (place : Place) : List String :=
  t.nodes.filterMap fun n => if n.1.dropLast = place then n.1.getLast? else none

/-- What stands at the end of steps from a place.  Every step has to start in a directory. -/
def walk (t : FileTree) : Place → List String → Except ReadFault FileNode
  | place, [] =>
    match t.node? place with
    | some node => .ok node
    | none => .error .notFound
  | place, s :: rest =>
    match t.node? place with
    | some .directory => t.walk (place.step s) rest
    | some (.file _ _) => .error .notDirectory
    | none => .error .notFound

/-- What stands at a path, relative paths starting in a directory. -/
def find (t : FileTree) (cwd path : String) : Except ReadFault FileNode :=
  if path = "" then .error .notFound else t.walk (start cwd path) (pathSteps path)

/-- The content of the file at a path. -/
def read (t : FileTree) (cwd path : String) : Except ReadFault (List UInt8) :=
  match t.find cwd path with
  | .ok (.file content _) => .ok content
  | .ok .directory => .error .isDirectory
  | .error fault => .error fault

/-- The tree with directories at those of the given places where nothing stands. -/
def withDirectories (t : FileTree) (places : List Place) : FileTree :=
  places.foldl
    (fun t p => if (t.node? p).isSome then t else ⟨t.nodes ++ [(p, .directory)]⟩) t

/-- The tree with a node at a place, instead of what was there, and with the directories that lead
to it. -/
def put (t : FileTree) (place : Place) (node : FileNode) : FileTree :=
  let kept : FileTree := ⟨t.nodes.filter fun n => n.1 ≠ place⟩
  let led := kept.withDirectories (Place.passed [] place)
  ⟨led.nodes ++ [(place, node)]⟩

/-- The tree with a node at a path, and with the directories that the path leads through. -/
def putAt (t : FileTree) (cwd path : String) (node : FileNode) : FileTree :=
  (t.withDirectories (Place.passed (start cwd path) (pathSteps path))).put (place cwd path) node

/-- The content of the file at a place; where there is none it is empty. -/
def contentAt (t : FileTree) (place : Place) : List UInt8 :=
  match t.node? place with
  | some (.file content _) => content
  | _ => []

/-- The file at a place is executable. -/
def isExecutableAt (t : FileTree) (place : Place) : Bool :=
  match t.node? place with
  | some (.file _ executable) => executable
  | _ => false

/-- The tree with a file of the given content at a place; a file that is there keeps its
permissions. -/
def fill (t : FileTree) (place : Place) (content : List UInt8) : FileTree :=
  t.put place (.file content (t.isExecutableAt place))

/-- The tree with a file of the given content at a path; a file that is there keeps its
permissions. -/
def write (t : FileTree) (cwd path : String) (content : List UInt8) : FileTree :=
  t.putAt cwd path (.file content (t.isExecutableAt (place cwd path)))

/-- Why no file can be written at a path, if none can: the way to it has to lead to a directory, in
which the last step names something else than a directory. -/
def writeFault? (t : FileTree) (cwd path : String) : Option ReadFault :=
  match t.find cwd path with
  | .ok (.file _ _) => none
  | .ok .directory => some .isDirectory
  | .error fault =>
    let steps := pathSteps path
    match t.walk (start cwd path) steps.dropLast, steps.getLast? with
    | .ok .directory, some s => if s = "." ∨ s = ".." then some fault else none
    | _, _ => some fault

/-! ### Programs -/

/-- An executable file stands at a path. -/
def isProgram (t : FileTree) (cwd path : String) : Bool :=
  match t.find cwd path with
  | .ok (.file _ executable) => executable
  | _ => false

/-- The directories of a search path. -/
def searchDirectories (searchPath : String) : List String :=
  (Text.splitOn ':' searchPath.toList).map String.ofList

/-- The parts of a path: the root, if it starts there, and its steps without those that stay where
they are, except for one at the beginning. -/
def pathParts (path : String) : List String :=
  let steps := (pathPieces path).filter fun s => s ≠ "" && s ≠ "."
  if path.startsWith "/" then "/" :: steps
  else if path = "." ∨ path.startsWith "./" then "." :: steps
  else steps

/-- The path of the program that is started by a name: a name with a slash in it is a path, and any
other name is looked for in the directories of the search path. -/
def locate (t : FileTree) (cwd searchPath name : String) : Option String :=
  if name = "" then none
  else if name.toList.contains '/' then if t.isProgram cwd name then some name else none
  else ((searchDirectories searchPath).map fun d => joinPath d name).find? (t.isProgram cwd)

/-- A program can be found by a name.  A name of several parts is a path, of which a relative one
is taken by its parts, so that a slash at its end does not count; any other name is looked for in
the directories of the search path. -/
def finds (t : FileTree) (cwd searchPath name : String) : Bool :=
  if name = "" then false
  else if (pathParts name).length ≤ 1 then
    (searchDirectories searchPath).any fun d => t.isProgram cwd (joinPath d name)
  else if name.startsWith "/" then t.isProgram cwd name
  else t.isProgram cwd ("/".intercalate ((pathParts name).filter (· ≠ ".")))

end FileTree

end CodePermit
