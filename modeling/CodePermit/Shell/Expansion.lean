import CodePermit.Shell.Pattern
import CodePermit.Shell.Situation
/-!
# Expansion of words

The words of a command become fields: parameters, outputs and numbers are put in, what is not
quoted is cut at separators, and a field that is a pattern becomes the paths that fit it.  How the
output of a script comes about is left open here.

* `Mark` — what a word is while it is expanded;
* `Word.marks` — a word with everything put in;
* `splitFields` — marks cut into fields;
* `Word.text`, `Word.pattern`, `fieldsOf` — what becomes of words.
-/

namespace CodePermit.Shell

/-! ### Marks -/

/-- A character of a word that is expanded, or what matters for its fields. -/
inductive Mark where
  /-- A character; one that is not quoted may be special, and one that was put in may separate
  fields. -/
  | char (c : Char) (quoted inserted : Bool)
  /-- A field is here even if it is empty. -/
  | field
  /-- A field ends here. -/
  | cut
deriving DecidableEq

/-- The marks of a text that is put in. -/
def inserted (quoted : Bool) (text : String) : List Mark :=
  text.toList.map fun c => .char c quoted (!quoted)

/-- The letter that a mark is; fields that end are joined by a blank. -/
def Mark.letter? : Mark → Option Letter
  | char c quoted _ => some ⟨c, quoted⟩
  | field => none
  | cut => some ⟨' ', false⟩

/-- The text of letters. -/
def textOf (ls : List Letter) : String :=
  String.ofList (ls.map Letter.char)

/-- How the output of a script that starts on a line comes about. -/
abbrev Insertion : Type :=
  (line : Nat) → (script : List Char) → Act String

/-! ### Parameters -/

/-- The marks of all arguments.  Each of them is a field of its own where `fields` are wanted,
unless they are taken as one. -/
def argumentMarks (s : Situation) (fields quoted asOne : Bool) : List Mark :=
  let each := s.arguments.map fun a =>
    (if quoted then [Mark.field] else []) ++ inserted quoted a
  if fields && !(quoted && asOne) then [Mark.cut].intercalate each
  else inserted quoted (s.separator.intercalate s.arguments)

/-- A parameter stands for all arguments. -/
def isArguments (name : String) : Bool :=
  name == "@" || name == "*"

/-- The marks of the value of a parameter. -/
def valueMarks (s : Situation) (fields quoted : Bool) (name value : String) : List Mark :=
  if isArguments name then argumentMarks s fields quoted (name == "*")
  else inserted quoted value

/-- A name can be given a value. -/
def isVariableName (name : String) : Bool :=
  name.toList.head?.any startsName && name.toList.all inName

/-- Sets a variable, unless it stays as it is. -/
def setVariable (name value : String) : Act Unit := do
  let s ← get
  if (s.binding? name).any Binding.fixed then fail s!"{name}: is read only" 2
  else set (s.assign name value)

/-- What is wrong with a parameter that is not set. -/
def notSet (name : String) (emptyToo : Bool) : String :=
  s!"{name}: parameter not set" ++ if emptyToo then " or null" else ""

/-- The value of a parameter, which is empty if it is not set and need not be. -/
def demandValue (name : String) : Act String := do
  let s ← get
  match s.value? name with
  | some v => return v
  | none =>
    if s.has 'u' && !isArguments name then fail (notSet name false) 2 else return ""

/-! ### Sums -/

/-- The number that a text comes to. -/
def workOut (text : String) : Act Int := do
  let bad (what : String) : Act Int := fail s!"arithmetic expression: {what}: \"{text}\"" 2
  let s ← get
  match readExpression text.toList with
  | .error what => bad what
  | .ok e =>
    match e.work (fun name => (s.value? name).getD "") [] with
    | .error .division => bad "division by zero"
    | .error (.noNumber v) => fail s!"Illegal number: {v}" 2
    | .ok (n, numbers) =>
      numbers.reverse.forM fun v => setVariable v.1 (toString v.2)
      return n

/-! ### Putting in -/

mutual

/-- The marks of a piece, where `fields` are wanted or not; a piece of a word that is itself put in
is `inner`. -/
def Piece.marks (insert : Insertion) (fields inner : Bool) : Piece → Act (List Mark)
  | .char c quoted => return [.char c quoted (inner && !quoted)]
  | .quote => return [.field]
  | .sum expression quoted => do
    let ms ← marksOf insert false false expression
    return inserted quoted (toString (← workOut (textOf (ms.filterMap Mark.letter?))))
  | .output line script _ quoted => return inserted quoted (← insert line script)
  | .parameter name use word quoted => do
    let s ← get
    let value := s.value? name
    let missing (emptyToo : Bool) : Bool := value.all fun v => emptyToo && v == ""
    let plain : List Mark := valueMarks s fields quoted name (value.getD "")
    match use with
    | .plain => return valueMarks s fields quoted name (← demandValue name)
    | .length => return inserted quoted (toString (← demandValue name).utf8ByteSize)
    | .fallback emptyToo =>
      if missing emptyToo then marksOf insert fields true word else return plain
    | .replacement emptyToo =>
      if missing emptyToo then return [] else marksOf insert fields true word
    | .store emptyToo =>
      if missing emptyToo then
        let ms ← marksOf insert false true word
        if !isVariableName name then fail s!"{name}: bad variable name" 2
        let text := textOf (ms.filterMap Mark.letter?)
        setVariable name text
        return inserted quoted text
      else return plain
    | .demand emptyToo =>
      if missing emptyToo then
        let ms ← marksOf insert false true word
        if word.isEmpty then fail (notSet name emptyToo) 2
        else
          let text := textOf (ms.filterMap Mark.letter?)
          fail s!"{name}: {text}" 2
      else return plain
    | .trim front longest =>
      let value ← demandValue name
      let ms ← marksOf insert false false word
      let pattern := Pattern.ofLetters (ms.filterMap Mark.letter?)
      return inserted quoted (String.ofList (pattern.cut front longest value.toList))
    | .unknown => fail "Bad substitution" 2

/-- The marks of pieces in order. -/
def marksOf (insert : Insertion) (fields inner : Bool) : List Piece → Act (List Mark)
  | [] => return []
  | p :: ps => do
    let ms ← p.marks insert fields inner
    return ms ++ (← marksOf insert fields inner ps)

end

/-- A word that starts with a tilde, with the home directory instead of it. -/
def Word.withHome (home : Option String) (w : Word) : Word :=
  match home, w with
  | some home, [.char '~' false] => home.toList.map fun c => .char c true
  | some home, .char '~' false :: .char '/' false :: rest =>
    (home.toList.map fun c => Piece.char c true) ++ .char '/' false :: rest
  | _, w => w

/-- A word with everything put in. -/
def Word.marks (insert : Insertion) (fields : Bool) (w : Word) : Act (List Mark) := do
  marksOf insert fields false (w.withHome ((← get).lookUp? "HOME"))

/-! ### Fields -/

/-- A separator that is a blank. -/
def isBlankSeparator (c : Char) : Bool :=
  c == ' ' || c == '\t' || c == '\n'

/-- Where the cutting of marks into fields stands. -/
structure Cutting where
  /-- The field begun. -/
  field : Option (List Letter) := none
  /-- A field ended with a blank. -/
  afterBlank : Bool := false
  /-- The fields before it. -/
  fields : List (List Letter) := []

/-- The cutting with the field begun ended. -/
def Cutting.ended (c : Cutting) (afterBlank : Bool) : Cutting :=
  ⟨none, afterBlank, c.fields ++ c.field.toList⟩

/-- The cutting after a mark. -/
def Cutting.step (separators : List Char) (c : Cutting) (m : Mark) : Cutting :=
  let begun := c.field.getD []
  match m with
  | .field => { c with field := some begun, afterBlank := false }
  | .cut => c.ended false
  | .char l quoted inserted =>
    if !inserted || !separators.contains l then
      { c with field := some (begun ++ [⟨l, quoted⟩]), afterBlank := false }
    else if isBlankSeparator l then c.ended (c.afterBlank || c.field.isSome)
    else if c.field.isNone && c.afterBlank then { c with afterBlank := false }
    else { c with field := some begun }.ended false

/-- Marks cut into fields at separators. -/
def splitFields (separators : List Char) (ms : List Mark) : List (List Letter) :=
  ((ms.foldl (Cutting.step separators) {}).ended false).fields

/-! ### Paths -/

/-- The pieces of a pattern of a path between slashes. -/
def pathPatterns (ls : List Letter) : List (List Letter) :=
  ls.foldr
    (fun l parts =>
      match parts with
      | part :: parts => if l.char = '/' then [] :: part :: parts else (l :: part) :: parts
      | [] => [[l]])
    [[]]

/-- The paths that a text and patterns behind it lead to. -/
def pathsFrom (t : FileTree) (cwd : String) : (path : String) → List (List Letter) → List String
  | path, [] => [path]
  | path, part :: parts =>
    let join (name : String) : String := if parts.isEmpty then name else name ++ "/"
    let pattern := Pattern.ofLetters part
    if pattern.isPlain then
      let path := path ++ textOf part
      if parts.isEmpty then if (t.find cwd path).toOption.isSome then [path] else []
      else pathsFrom t cwd (path ++ "/") parts
    else
      let names := (t.names (FileTree.place cwd path)).filter fun name =>
        pattern.matches name.toList
          && (!name.startsWith "." || part.head?.any fun l => l.char == '.')
      names.flatMap fun name =>
        if parts.isEmpty || (t.find cwd (path ++ name)).toOption = some .directory then
          pathsFrom t cwd (path ++ join name) parts
        else []

/-- The order of texts by the bytes of their characters. -/
def comesBefore (a b : String) : Bool :=
  (compare a b).isLE

/-- What becomes of a field: the paths that fit it, or itself if there are none. -/
def pathsOf (s : Situation) (ls : List Letter) : List String :=
  if s.has 'f' || (Pattern.ofLetters ls).isPlain then [textOf ls]
  else
    let paths := pathsFrom s.world.machine.files s.directory "" (pathPatterns ls)
    if paths = [] then [textOf ls] else paths.mergeSort comesBefore

/-! ### Words -/

/-- The fields that words become. -/
def fieldsOf (insert : Insertion) (words : List Word) : Act (List String) := do
  let found ← words.mapM fun w => do
    let ms ← w.marks insert true
    let s ← get
    if w matches [.quote, .parameter "@" .plain [] true] && s.arguments.isEmpty then
      return ([] : List String)
    else return (splitFields s.separators ms).flatMap (pathsOf s)
  return found.flatten

/-- A word as a text that is not cut. -/
def Word.text (insert : Insertion) (w : Word) : Act String := do
  return textOf ((← w.marks insert false).filterMap Mark.letter?)

/-- A word as a pattern. -/
def Word.pattern (insert : Insertion) (w : Word) : Act Pattern := do
  return Pattern.ofLetters ((← w.marks insert false).filterMap Mark.letter?)

end CodePermit.Shell
