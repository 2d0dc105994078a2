import CodePermit.FileTree
import CodePermit.Shell.Arithmetic
/-!
# Conditions of the shell

A condition is made of words that ask about texts, numbers or files, joined by signs for *and* and
*or* and put in parentheses.

* `conditionHolds` — whether a condition holds, or what is wrong with it.
-/

namespace CodePermit.Shell

/-! ### Questions -/

/-- A whole number, perhaps with blanks around it. -/
def wholeNumber (text : String) : Option Int :=
  let cs := text.toList.dropWhile isSpace
  let (sign, digits) :=
    match cs with
    | '-' :: cs => ((-1 : Int), cs)
    | '+' :: cs => (1, cs)
    | cs => (1, cs)
  let figures := digits.takeWhile Char.isDigit
  let n := figures.foldl (fun n c => 10 * n + (c.toNat - '0'.toNat)) 0
  if figures = [] ∨ greatestNumber < n then none
  else if (digits.drop figures.length).all isSpace then some (sign * n)
  else none

/-- What is wrong with a text that is no number. -/
def noNumber (text : String) : String :=
  s!"Illegal number: {text}"

/-- Two numbers in a relation. -/
def compared (relation : Int → Int → Bool) (x y : String) : Except String Bool :=
  match wholeNumber x, wholeNumber y with
  | some m, some n => .ok (relation m n)
  | none, _ => .error (noNumber x)
  | _, none => .error (noNumber y)

/-- The questions about one word. -/
def unaryQuestions : List String :=
  ["-r", "-w", "-x", "-e", "-f", "-d", "-c", "-b", "-p", "-u", "-g", "-k", "-s", "-t", "-z", "-n",
    "-h", "-O", "-G", "-L", "-S"]

/-- The questions about two words. -/
def binaryQuestions : List String :=
  ["=", "!=", "<", ">", "-eq", "-ne", "-ge", "-gt", "-le", "-lt", "-nt", "-ot", "-ef"]

/-- What is asked about one word. -/
def askedOfOne (t : FileTree) (cwd question x : String) : Except String Bool :=
  let found := (t.find cwd x).toOption
  match question with
  | "-n" => .ok (x ≠ "")
  | "-z" => .ok (x = "")
  | "-e" | "-r" | "-w" | "-O" | "-G" => .ok found.isSome
  | "-f" => .ok (found.any fun n => n ≠ .directory)
  | "-d" => .ok (found = some .directory)
  | "-x" => .ok (found = some .directory || t.isProgram cwd x)
  | "-s" =>
    .ok <| found.any fun n =>
      match n with
      | .file content _ => !content.isEmpty
      | .directory => true
  | "-t" => if (wholeNumber x).isSome then .ok false else .error (noNumber x)
  | _ => .ok false

/-- What is asked about two words. -/
def askedOfTwo (t : FileTree) (cwd question x y : String) : Except String Bool :=
  match question with
  | "=" => .ok (x == y)
  | "!=" => .ok (x != y)
  | "<" => .ok (x < y)
  | ">" => .ok (y < x)
  | "-eq" => compared (· == ·) x y
  | "-ne" => compared (· != ·) x y
  | "-lt" => compared (· < ·) x y
  | "-le" => compared (· ≤ ·) x y
  | "-gt" => compared (· > ·) x y
  | "-ge" => compared (· ≥ ·) x y
  | "-ef" =>
    .ok ((t.find cwd x).toOption.isSome && FileTree.place cwd x == FileTree.place cwd y)
  | _ => .ok false

/-! ### Signs -/

/-- What the word in front of a condition is. -/
inductive Sign where
  /-- There is none. -/
  | nothing
  /-- A question about one word. -/
  | unary
  /-- A question about two words. -/
  | binary
  /-- The sign for *not*. -/
  | negation
  /-- The sign for *and*. -/
  | conjunction
  /-- The sign for *or*. -/
  | disjunction
  /-- An opening parenthesis. -/
  | opening
  /-- A closing parenthesis. -/
  | closing
  /-- Any other word. -/
  | operand
deriving DecidableEq

/-- What a word is, whatever follows it. -/
def signOf (word : String) : Sign :=
  if unaryQuestions.contains word then .unary
  else if binaryQuestions.contains word then .binary
  else
    match word with
    | "!" => .negation
    | "-a" => .conjunction
    | "-o" => .disjunction
    | "(" => .opening
    | ")" => .closing
    | _ => .operand

/-- What the first of some words is; a question about one word needs a word behind it that is
asked about. -/
def sign : List String → Sign
  | [] => .nothing
  | word :: rest =>
    match signOf word, rest with
    | .unary, [] => .operand
    | .unary, _ :: [] => .unary
    | .unary, next :: _ => if signOf next = .binary then .operand else .unary
    | .opening, [] => .operand
    | s, _ => s

/-! ### Conditions -/

/-- The answer of a part of a condition, with the words from its last one on. -/
abbrev Part : Type :=
  Except String (Bool × List String)

mutual

/-- Parts joined by the sign for *or*. -/
def disjunction (t : FileTree) (cwd : String) : (bound : Nat) → List String → Part
  | 0, ws => .ok (false, ws)
  | bound + 1, ws => do
    let (answer, ws) ← conjunction t cwd bound ws
    if sign ws.tail = .disjunction then
      let (other, ws) ← disjunction t cwd bound ws.tail.tail
      return (answer || other, ws)
    else return (answer, ws)

/-- Parts joined by the sign for *and*. -/
def conjunction (t : FileTree) (cwd : String) : (bound : Nat) → List String → Part
  | 0, ws => .ok (false, ws)
  | bound + 1, ws => do
    let (answer, ws) ← negation t cwd bound ws
    if sign ws.tail = .conjunction then
      let (other, ws) ← conjunction t cwd bound ws.tail.tail
      return (answer && other, ws)
    else return (answer, ws)

/-- A part behind signs for *not*. -/
def negation (t : FileTree) (cwd : String) : (bound : Nat) → List String → Part
  | 0, ws => .ok (false, ws)
  | bound + 1, ws =>
    if sign ws = .negation then do
      let (answer, ws) ← negation t cwd bound (if ws.tail = [] then ws else ws.tail)
      return (!answer, ws)
    else primary t cwd bound ws

/-- A question, a word that should not be empty, or a part in parentheses. -/
def primary (t : FileTree) (cwd : String) : (bound : Nat) → List String → Part
  | 0, ws => .ok (false, ws)
  | bound + 1, ws =>
    match sign ws, ws with
    | .opening, _ :: ws => do
      if sign ws = .closing then return (false, ws)
      let (answer, ws) ← disjunction t cwd bound ws
      if sign ws.tail = .closing then return (answer, ws.tail)
      else .error "closing paren expected"
    | .unary, question :: x :: ws => do
      return (← askedOfOne t cwd question x, x :: ws)
    | _, x :: question :: ws =>
      if sign (question :: ws) = .binary then
        match ws with
        | y :: ws => do return (← askedOfTwo t cwd question x y, y :: ws)
        | [] => .error s!"{question}: argument expected"
      else .ok (x ≠ "", x :: question :: ws)
    | _, [x] => .ok (x ≠ "", [x])
    | _, [] => .ok (false, [])

end

/-- Whether a condition of several parts holds; no word may be left behind it. -/
def wholeHolds (t : FileTree) (cwd : String) (ws : List String) : Except String Bool := do
  let (answer, ws) ← disjunction t cwd (4 * ws.length + 4) ws
  match ws with
  | word :: _ :: _ => .error s!"{word}: unexpected operator"
  | _ => .ok answer

/-- Whether a condition holds, or what is wrong with it. -/
def conditionHolds (t : FileTree) (cwd : String) : List String → Except String Bool
  | [] => .ok false
  | ["!", x, y, z] => (conditionHolds t cwd [x, y, z]).map not
  | ["(", x, y, ")"] => wholeHolds t cwd [x, y]
  | [x, question, y] =>
    if signOf question = .binary then askedOfTwo t cwd question x y
    else if x = "(" && y = ")" then wholeHolds t cwd [question]
    else if x = "!" then (conditionHolds t cwd [question, y]).map not
    else wholeHolds t cwd [x, question, y]
  | ws => wholeHolds t cwd ws

end CodePermit.Shell
