import CodePermit.Toml.Number
import CodePermit.Toml.Table
/-!
# Reading TOML

A document is a sequence of lines: keys with values, headers, doubled headers, and lines that are
blank but for a comment.  Arrays and inline tables may go over several lines, anywhere but inside
a dotted key, and end in a comma.  What is nested is read under a smaller depth, what is repeated
under a bound on the text left.

* `Toml.readKey` — a dotted key;
* `Toml.readValue` — a value under a depth;
* `Toml.read` — the fields of a whole document.
-/

namespace CodePermit.Toml

open Json (Reader)

/-! ### Between tokens -/

/-- The text behind its leading blanks. -/
def skipBlanks (cs : List Char) : List Char :=
  cs.dropWhile isBlank

/-- The text from the line end on that closes a comment, or the empty text. -/
def readComment (cs : List Char) : Option (List Char) :=
  let body := cs.takeWhile (· != '\n')
  let rest := cs.dropWhile (· != '\n')
  let body := if rest ≠ [] ∧ body.getLast? = some '\r' then body.dropLast else body
  if body.any isControl then none else some rest

/-- Skips blanks, line ends and comments, at most `bound` of them. -/
def skipFillFrom : (bound : Nat) → List Char → Option (List Char)
  | 0, cs => some cs
  | bound + 1, cs =>
    match cs with
    | '#' :: cs => (readComment cs).bind (skipFillFrom bound)
    | c :: cs' =>
      if isBlank c then skipFillFrom bound cs'
      else
        match afterLineEnd cs with
        | some rest => skipFillFrom bound rest
        | none => some cs
    | [] => some []

/-- Skips blanks, line ends and comments. -/
def skipFill (cs : List Char) : Option (List Char) :=
  skipFillFrom cs.length.succ cs

/-! ### Keys -/

/-- A character of a bare key. -/
def isBare (c : Char) : Bool :=
  c.isAlphanum || c == '_' || c == '-'

/-- One part of a dotted key. -/
def readKeyPart : Reader String
  | '"' :: cs => readBasic false cs
  | '\'' :: cs => readLiteral false cs
  | cs =>
    let part := cs.takeWhile isBare
    if part = [] then none else some (String.ofList part, cs.dropWhile isBare)

/-- A dotted key of at most `bound` parts. -/
def readKeyFrom : (bound : Nat) → Reader (List String)
  | 0, _ => none
  | bound + 1, cs => do
    let (part, cs) ← readKeyPart (skipBlanks cs)
    match skipBlanks cs with
    | '.' :: cs =>
      let (parts, cs) ← readKeyFrom bound cs
      some (part :: parts, cs)
    | cs => some ([part], cs)

/-- How many parts a dotted key may have. -/
def partLimit : Nat := 80

/-- A dotted key with the blanks around it. -/
def readKey : Reader (List String) :=
  readKeyFrom partLimit

/-! ### Values -/

/-- A character that ends a bare word. -/
def endsWord (c : Char) : Bool :=
  isBlank c || c == '\n' || c == '\r' || c == ',' || c == ']' || c == '}' || c == '#'

/-- A bare word; a date may be followed by one blank and a time. -/
def readBareWord : Reader Toml := fun cs =>
  let (word, rest) := cut endsWord cs
  let (time, beyond) := cut endsWord (rest.drop 1)
  if rest.head? = some ' ' ∧ afterDate word = some [] ∧ (time.head?.any Char.isDigit) then
    (readMoment (word ++ ' ' :: time)).map (·, beyond)
  else (readWord word).map (·, rest)

/-- The elements of an array behind its bracket or a comma, at most `bound` of them, latest first
in `found`. -/
def readElements (value : Reader Toml) : (bound : Nat) → (found : List Toml) →
    Reader (List Toml)
  | 0, _, _ => none
  | bound + 1, found, cs => do
    let cs ← skipFill cs
    match cs with
    | ']' :: cs => some (found.reverse, cs)
    | cs =>
      let (v, cs) ← value cs
      let cs ← skipFill cs
      match cs with
      | ',' :: cs => readElements value bound (v :: found) cs
      | ']' :: cs => some ((v :: found).reverse, cs)
      | _ => none

/-- A key and its value; `skip` passes over what may stand on either side of the sign. -/
def readPair (skip : List Char → Option (List Char)) (value : Reader Toml) :
    Reader (List String × Toml) := fun cs => do
  let (key, cs) ← readKey cs
  match ← skip cs with
  | '=' :: cs =>
    let (v, cs) ← value (← skip cs)
    some ((key, v), cs)
  | _ => none

/-- The pairs of an inline table behind its brace or a comma, at most `bound` of them. -/
def readPairs (value : Reader Toml) : (bound : Nat) → Fields → Reader Fields
  | 0, _, _ => none
  | bound + 1, fields, cs => do
    let cs ← skipFill cs
    match cs with
    | '}' :: cs => some (fields, cs)
    | cs =>
      let ((key, v), cs) ← readPair skipFill value cs
      let fields ← insert v key fields
      let cs ← skipFill cs
      match cs with
      | ',' :: cs => readPairs value bound fields cs
      | '}' :: cs => some (fields, cs)
      | _ => none

/-- A value that starts with the first character of the text, with at most `depth` arrays and
inline tables inside each other. -/
def readValue : (depth : Nat) → Reader Toml
  | _, '"' :: cs => (readQuoted ('"' :: cs)).map fun r => (.string r.1, r.2)
  | _, '\'' :: cs => (readQuoted ('\'' :: cs)).map fun r => (.string r.1, r.2)
  | depth + 1, '[' :: cs => do
    let (elements, cs) ← readElements (readValue depth) cs.length.succ [] cs
    some (.array elements, cs)
  | depth + 1, '{' :: cs => do
    let (fields, cs) ← readPairs (readValue depth) cs.length.succ [] cs
    some (.table (closeFields fields), cs)
  | _, cs => readBareWord cs

/-- How many arrays and inline tables a document may hold inside each other. -/
def depthLimit : Nat := 80

/-! ### Documents -/

/-- The text behind the end of a line, which may hold blanks and a comment. -/
def finishLine (cs : List Char) : Option (List Char) := do
  let cs ←
    match skipBlanks cs with
    | '#' :: cs => readComment cs
    | cs => some cs
  match cs with
  | [] => some []
  | cs => afterLineEnd cs

/-- One line of a document: the fields so far, the header that is open, and the text. -/
def readLine (fields : Fields) (header : List String) (cs : List Char) :
    Option (Fields × List String × List Char) :=
  match skipBlanks cs with
  | '[' :: '[' :: cs => do
    let (path, cs) ← readKey cs
    let cs ← Json.expect [']', ']'] cs
    let cs ← finishLine cs
    let fields ← extend path fields
    some (fields, path, cs)
  | '[' :: cs => do
    let (path, cs) ← readKey cs
    let cs ← Json.expect [']'] cs
    let cs ← finishLine cs
    let fields ← declare path fields
    some (fields, path, cs)
  | [] => some (fields, header, [])
  | cs =>
    match finishLine cs with
    | some cs => some (fields, header, cs)
    | none => do
      let ((key, v), cs) ← readPair (some ∘ skipBlanks) (readValue depthLimit) cs
      let cs ← finishLine cs
      let fields ← inTable (insert v key) header fields
      some (fields, header, cs)

/-- The lines of a document, at most `bound` of them. -/
def readLines : (bound : Nat) → Fields → (header : List String) → List Char → Option Fields
  | 0, fields, _, cs => if cs = [] then some fields else none
  | bound + 1, fields, header, cs =>
    if cs = [] then some fields
    else
      (readLine fields header cs).bind fun r => readLines bound r.1 r.2.1 r.2.2

/-- The fields of a document; a byte-order mark in front is ignored. -/
def read (cs : List Char) : Option (List (String × Toml)) :=
  let cs :=
    match cs with
    | c :: rest => if c.toNat = 0xFEFF then rest else cs
    | [] => []
  (readLines cs.length.succ [] [] cs).map closeFields

end CodePermit.Toml
