import CodePermit.Shell.Word
/-!
# Scripts of the shell

A script is read line by line, as far as a command does not need more than one line.  A command is
simple, or it brackets, joins, chooses between or repeats other commands.

* `Command` — the commands of a script;
* `SyntaxFault` — what is wrong with a script that cannot be read;
* `readLine` — the commands on the next line.
-/

namespace CodePermit.Shell

/-! ### Commands -/

/-- A redirection: what is redirected, how, and where to. -/
inductive Redirection where
  /-- A descriptor leads to or from a file, or to where another one leads. -/
  | file (descriptor : Nat) (direction : Direction) (target : Word)
  /-- A descriptor gives a text of the script. -/
  | text (descriptor : Nat) (text : Word)

/-- Words and redirections on a line. -/
structure SimpleCommand where
  /-- The words that set variables. -/
  settings : List (String × Word) := []
  /-- The name of the command and its arguments. -/
  words : List Word := []
  /-- The redirections in order. -/
  redirections : List Redirection := []

/-- A command. -/
inductive Command where
  /-- A simple command on a line. -/
  | simple (line : Nat) (command : SimpleCommand)
  /-- Commands with redirections around them. -/
  | redirected (line : Nat) (body : List Command) (redirections : List Redirection)
  /-- Commands that change nothing in the shell around them, with redirections of their own. -/
  | apart (line : Nat) (body : List Command) (redirections : List Redirection)
  /-- A command beside all others. -/
  | aside (command : Command)
  /-- Commands each of which reads what the one before it writes. -/
  | pipe (commands : List Command)
  /-- A command whose success is a failure, and the other way round. -/
  | negated (command : Command)
  /-- A command that follows a success or a failure of another one. -/
  | joined (afterSuccess : Bool) (first second : Command)
  /-- A choice between commands by the success of others. -/
  | choice (condition yes no : List Command)
  /-- Commands repeated as long as others succeed, or fail. -/
  | loop (success : Bool) (condition body : List Command)
  /-- Commands repeated for each of some words. -/
  | each (line : Nat) (name : String) (words : List Word) (body : List Command)
  /-- A choice between commands by the pattern that a word fits. -/
  | fit (line : Nat) (word : Word) (cases : List (List Word × List Command))
  /-- A name for a command. -/
  | definition (name : String) (body : Command)

/-! ### Faults -/

/-- What is wrong with a script, on a line. -/
structure SyntaxFault where
  /-- The number of the line. -/
  line : Nat
  /-- What is wrong. -/
  message : String
deriving DecidableEq

/-- The words that are not names of commands. -/
def keywords : List String :=
  ["!", "case", "do", "done", "elif", "else", "esac", "fi", "for", "if", "in", "then", "until",
    "while", "\x7b", "\x7d"]

/-- The words that end a sequence of commands. -/
def terminators : List String :=
  ["do", "done", "elif", "else", "esac", "fi", "then", "\x7d"]

/-- The keyword that a token is. -/
def Token.keyword? : Token → Option String
  | word w => (Word.bare? w).filter keywords.contains
  | _ => none

/-- A token as it is named in faults; a keyword counts as one where it may stand. -/
def Token.name (keywordsCount : Bool) (t : Token) : String :=
  match t with
  | word w =>
    match if keywordsCount then Token.keyword? (.word w) else none with
    | some k => s!"\"{k}\""
    | none => "word"
  | operator o => s!"\"{o.text}\""
  | lineEnd => "newline"
  | redirect _ _ => "redirection"
  | text _ _ => "redirection"
  | fault _ => "end of file"

/-- A reader takes something off the front of tokens and gives the rest. -/
abbrev LineReader (α : Type) : Type :=
  Lines → Except SyntaxFault (α × Lines)

/-- The line on which the next token ends; `last` is the line on which the tokens end. -/
def lineOf (last : Nat) (ts : Lines) : Nat :=
  (ts.head?.map Prod.fst).getD last

/-- The fault of a token that may not stand where it does, with what is expected instead. -/
def unexpected (last : Nat) (keywordsCount : Bool) (expected : Option String) (ts : Lines) :
    SyntaxFault :=
  match ts.head? with
  | some (line, .fault message) => ⟨line, message⟩
  | head =>
    let name := (head.map fun t => t.2.name keywordsCount).getD "end of file"
    let clause := (expected.map fun e => s!" (expecting {e})").getD ""
    ⟨lineOf last ts, s!"{name} unexpected{clause}"⟩

/-! ### Small readers -/

/-- The tokens behind line ends. -/
def skipLineEnds : Lines → Lines
  | (_, .lineEnd) :: ts => skipLineEnds ts
  | ts => ts

/-- The keyword in front. -/
def keyword? (ts : Lines) : Option String :=
  ts.head?.bind fun t => t.2.keyword?

/-- A sequence of commands ends here. -/
def atTerminator (ts : Lines) : Bool :=
  match ts with
  | [] => true
  | (_, .operator .closing) :: _ => true
  | (_, .operator .caseEnd) :: _ => true
  | ts => (keyword? ts).any terminators.contains

/-- Passes over a keyword. -/
def expectKeyword (last : Nat) (keyword : String) (ts : Lines) : Except SyntaxFault Lines :=
  if keyword? ts = some keyword then .ok ts.tail
  else .error (unexpected last true (some s!"\"{keyword}\"") ts)

/-- Passes over an operator. -/
def expectOperator (last : Nat) (keywordsCount : Bool) (o : Operator) (ts : Lines) :
    Except SyntaxFault Lines :=
  match ts with
  | (line, .operator p) :: rest =>
    if p = o then .ok rest
    else
      .error
        (unexpected last keywordsCount (some s!"\"{o.text}\"") ((line, .operator p) :: rest))
  | ts => .error (unexpected last keywordsCount (some s!"\"{o.text}\"") ts)

/-- The name and the value of a word that sets a variable. -/
def Word.setting? (w : Word) : Option (String × Word) :=
  let name := w.takeWhile fun p => p.bare? ≠ some '='
  match Word.bare? name, w.drop name.length with
  | some name, _ :: value =>
    if name.toList.head?.any startsName && name.toList.all inName then some (name, value) else none
  | _, _ => none

/-- Reads one redirection, if there is one in front. -/
def readRedirection (last : Nat) (ts : Lines) :
    Except SyntaxFault (Option (Redirection × Lines)) :=
  match ts with
  | (_, .redirect d direction) :: (_, .word w) :: rest =>
    .ok (some (.file d direction w, rest))
  | (_, .redirect _ _) :: rest => .error (unexpected last false none rest)
  | (_, .text d text) :: rest => .ok (some (.text d text, rest))
  | _ => .ok none

/-- Reads at most `bound` redirections. -/
def readRedirections (last : Nat) : (bound : Nat) → LineReader (List Redirection)
  | 0, ts => .ok ([], ts)
  | bound + 1, ts => do
    match ← readRedirection last ts with
    | some (r, rest) =>
      let (rs, rest) ← readRedirections last bound rest
      return (r :: rs, rest)
    | none => return ([], ts)

/-- Reads at most `bound` words. -/
def readWords : (bound : Nat) → Lines → List Word × Lines
  | bound + 1, (_, .word w) :: ts =>
    let (ws, ts) := readWords bound ts
    (w :: ws, ts)
  | _, ts => ([], ts)

/-- Reads a simple command of at most `bound` parts; words set variables up to the first that does
not. -/
def readSimple (last : Nat) : (bound : Nat) → SimpleCommand → LineReader SimpleCommand
  | 0, c, ts => .ok (c, ts)
  | bound + 1, c, ts => do
    match ts with
    | (_, .word w) :: rest =>
      match if c.words.isEmpty then Word.setting? w else none with
      | some setting => readSimple last bound { c with settings := c.settings ++ [setting] } rest
      | none => readSimple last bound { c with words := c.words ++ [w] } rest
    | ts =>
      match ← readRedirection last ts with
      | some (r, rest) =>
        readSimple last bound { c with redirections := c.redirections ++ [r] } rest
      | none => return (c, ts)

/-- The commands that define or change the shell itself, whose names are no names of others. -/
def specialNames : List String :=
  [".", ":", "break", "continue", "eval", "exec", "exit", "export", "local", "readonly", "return",
    "set", "shift", "times", "trap", "unset"]

/-- The word that stands for all arguments. -/
def allArguments : Word :=
  [.quote, .parameter "@" .plain [] true]

/-! ### Reading commands -/

/-- Commands in braces with redirections behind them.  Those take the place of the redirections of
commands that stand apart and alone in the braces. -/
def Command.braced (line : Nat) (body : List Command) (redirections : List Redirection) : Command :=
  match body, redirections with
  | [command], [] => command
  | [apart line body _], rs => apart line body rs
  | body, rs => redirected line body rs

/-- How far a sequence of commands goes. -/
inductive Extent where
  /-- Up to the end of the line. -/
  | line
  /-- Up to a terminator, behind at least one command. -/
  | filled
  /-- Up to a terminator. -/
  | rest
deriving DecidableEq

mutual

/-- Reads a sequence of commands; at its end is a terminator, or the end of the line if it goes no
further. -/
def readSequence (last : Nat) : (bound : Nat) → Extent → LineReader (List Command)
  | 0, _, ts => .error (unexpected last true none ts)
  | bound + 1, extent, ts => do
    let ts := if extent = .line then ts else skipLineEnds ts
    match ts with
    | (_, .lineEnd) :: _ => return ([], ts)
    | ts =>
      if ts.isEmpty ∨ (extent = .rest ∧ atTerminator ts) then return ([], ts)
      else
        let (command, ts) ← readJoined last bound ts
        let next : Extent := if extent = .line then .line else .rest
        match ts with
        | (_, .operator .ampersand) :: ts =>
          let (commands, ts) ← readSequence last bound next ts
          return (.aside command :: commands, ts)
        | (_, .operator .semicolon) :: ts =>
          let (commands, ts) ← readSequence last bound next ts
          return (command :: commands, ts)
        | (line, .lineEnd) :: ts =>
          if extent = .line then return ([command], (line, .lineEnd) :: ts)
          else
            let (commands, ts) ← readSequence last bound next ts
            return (command :: commands, ts)
        | ts =>
          if extent = .line ∧ !ts.isEmpty then .error (unexpected last true none ts)
          else return ([command], ts)

/-- Reads commands joined by their success. -/
def readJoined (last : Nat) : (bound : Nat) → LineReader Command
  | 0, ts => .error (unexpected last true none ts)
  | bound + 1, ts => do
    let (command, ts) ← readPipe last bound ts
    readJoinedBehind last bound command ts

/-- Reads what is joined to a command by its success. -/
def readJoinedBehind (last : Nat) : (bound : Nat) → Command → LineReader Command
  | 0, command, ts => .ok (command, ts)
  | bound + 1, command, ts =>
    let further (afterSuccess : Bool) (ts : Lines) :
        Except SyntaxFault (Command × Lines) := do
      let (second, ts) ← readPipe last bound (skipLineEnds ts)
      readJoinedBehind last bound (.joined afterSuccess command second) ts
    match ts with
    | (_, .operator .both) :: ts => further true ts
    | (_, .operator .either) :: ts => further false ts
    | ts => .ok (command, ts)

/-- Reads commands in a pipe. -/
def readPipe (last : Nat) : (bound : Nat) → LineReader Command
  | 0, ts => .error (unexpected last true none ts)
  | bound + 1, ts => do
    let isNegated := keyword? ts = some "!"
    let (command, ts) ← readCommand last bound (if isNegated then ts.tail else ts)
    let (commands, ts) ← readPipeBehind last bound ts
    let command := if commands.isEmpty then command else .pipe (command :: commands)
    return (if isNegated then .negated command else command, ts)

/-- Reads the commands behind one in a pipe. -/
def readPipeBehind (last : Nat) : (bound : Nat) → LineReader (List Command)
  | 0, ts => .ok ([], ts)
  | bound + 1, ts => do
    match ts with
    | (_, .operator .pipe) :: ts =>
      let (command, ts) ← readCommand last bound (skipLineEnds ts)
      let (commands, ts) ← readPipeBehind last bound ts
      return (command :: commands, ts)
    | ts => return ([], ts)

/-- Reads a command. -/
def readCommand (last : Nat) : (bound : Nat) → LineReader Command
  | 0, ts => .error (unexpected last true none ts)
  | bound + 1, ts => do
    let line := lineOf last ts
    let wrapped (command : Command) (ts : Lines) : Except SyntaxFault (Command × Lines) := do
      let (rs, ts) ← readRedirections last bound ts
      return (if rs.isEmpty then command else .redirected line [command] rs, ts)
    match ts, keyword? ts with
    | (_, .operator .opening) :: ts, _ =>
      let (body, ts) ← readSequence last bound .filled ts
      let (rs, ts) ← readRedirections last bound (← expectOperator last true .closing ts)
      return (.apart line body rs, ts)
    | _ :: ts, some "\x7b" =>
      let (body, ts) ← readSequence last bound .filled ts
      let (rs, ts) ← readRedirections last bound (← expectKeyword last "\x7d" ts)
      return (Command.braced line body rs, ts)
    | _ :: ts, some "if" =>
      let (command, ts) ← readIf last bound ts
      wrapped command ts
    | _ :: ts, some "while" =>
      let (condition, ts) ← readSequence last bound .filled ts
      let (body, ts) ← readBody last bound ts
      wrapped (.loop true condition body) ts
    | _ :: ts, some "until" =>
      let (condition, ts) ← readSequence last bound .filled ts
      let (body, ts) ← readBody last bound ts
      wrapped (.loop false condition body) ts
    | _ :: ts, some "for" =>
      let (command, ts) ← readFor last bound line ts
      wrapped command ts
    | _ :: ts, some "case" =>
      match ts with
      | (_, .word w) :: ts =>
        let ts ← expectKeyword last "in" (skipLineEnds ts)
        let (cases, ts) ← readCases last bound (skipLineEnds ts)
        wrapped (.fit line w cases) ts
      | ts => .error (unexpected last false (some "word") ts)
    | ts, some _ => .error (unexpected last true none ts)
    | (_, .word w) :: (place, .operator .opening) :: ts, none =>
      let opened : Lines := (place, .operator .opening) :: ts
      if (Word.setting? w).isSome then .error (unexpected last true none opened)
      let ts ← expectOperator last false .closing ts
      match Word.bare? w with
      | some name =>
        if name.toList.head?.any startsName && name.toList.all inName
            && !specialNames.contains name then
          let (body, ts) ← readCommand last bound (skipLineEnds ts)
          return (.definition name body, ts)
        else .error ⟨lineOf last ts, "Bad function name"⟩
      | none => .error ⟨lineOf last ts, "Bad function name"⟩
    | ts, none =>
      let (command, rest) ← readSimple last ts.length.succ {} ts
      if command.words.isEmpty && command.settings.isEmpty && command.redirections.isEmpty then
        .error (unexpected last true none ts)
      else return (.simple line command, rest)

/-- Reads the condition of a choice and what follows it up to its end. -/
def readIf (last : Nat) : (bound : Nat) → LineReader Command
  | 0, ts => .error (unexpected last true none ts)
  | bound + 1, ts => do
    let (condition, ts) ← readSequence last bound .filled ts
    let (yes, ts) ← readSequence last bound .filled (← expectKeyword last "then" ts)
    match ts, keyword? ts with
    | _ :: ts, some "elif" =>
      let (inner, ts) ← readIf last bound ts
      return (.choice condition yes [inner], ts)
    | _ :: ts, some "else" =>
      let (no, ts) ← readSequence last bound .filled ts
      return (.choice condition yes no, ← expectKeyword last "fi" ts)
    | ts, _ => return (.choice condition yes [], ← expectKeyword last "fi" ts)

/-- Reads the body of a loop. -/
def readBody (last : Nat) : (bound : Nat) → LineReader (List Command)
  | 0, ts => .error (unexpected last true none ts)
  | bound + 1, ts => do
    let (body, ts) ← readSequence last bound .filled (← expectKeyword last "do" ts)
    return (body, ← expectKeyword last "done" ts)

/-- Reads a loop over words behind its first word. -/
def readFor (last : Nat) : (bound line : Nat) → LineReader Command
  | 0, _, ts => .error (unexpected last true none ts)
  | bound + 1, line, ts => do
    let bad : SyntaxFault := ⟨lineOf last ts, "Bad for loop variable"⟩
    match ts with
    | (_, .word w) :: ts =>
      match Word.bare? w with
      | some name =>
        if !(name.toList.head?.any startsName && name.toList.all inName) then .error bad
        else
          let ts := skipLineEnds ts
          if keyword? ts = some "in" then
            let (words, ts) := readWords ts.length ts.tail
            match ts with
            | (_, .operator .semicolon) :: ts | (_, .lineEnd) :: ts =>
              let (body, ts) ← readBody last bound (skipLineEnds ts)
              return (.each line name words body, ts)
            | ts => .error (unexpected last false none ts)
          else
            let ts :=
              match ts with
              | (_, .operator .semicolon) :: ts => ts
              | ts => ts
            let (body, ts) ← readBody last bound (skipLineEnds ts)
            return (.each line name [allArguments] body, ts)
      | none => .error bad
    | (line, .fault message) :: _ => .error ⟨line, message⟩
    | _ => .error bad

/-- Reads the cases of a choice by patterns. -/
def readCases (last : Nat) : (bound : Nat) → LineReader (List (List Word × List Command))
  | 0, ts => .error (unexpected last true none ts)
  | bound + 1, ts => do
    if keyword? ts = some "esac" then return ([], ts.tail)
    else
      let ts :=
        match ts with
        | (_, .operator .opening) :: ts => ts
        | ts => ts
      let (patterns, ts) ← readPatterns last bound ts
      let (body, ts) ← readSequence last bound .rest ts
      let ts := skipLineEnds ts
      if keyword? ts = some "esac" then return ([(patterns, body)], ts.tail)
      else
        let ts ← expectOperator last true .caseEnd ts
        let (cases, ts) ← readCases last bound (skipLineEnds ts)
        return ((patterns, body) :: cases, ts)

/-- Reads the patterns of a case. -/
def readPatterns (last : Nat) : (bound : Nat) → LineReader (List Word)
  | 0, ts => .error (unexpected last true none ts)
  | bound + 1, ts => do
    match ts with
    | (_, .word w) :: (_, .operator .pipe) :: ts =>
      let (ws, ts) ← readPatterns last bound ts
      return (w :: ws, ts)
    | (_, .word w) :: ts => return ([w], ← expectOperator last false .closing ts)
    | [] => .error (unexpected last false (some "\")\"") [])
    | _ :: ts => .error (unexpected last false (some "\")\"") ts)

end

/-- Reads the commands on the next line, with the line ends and the rest behind it. -/
def readLine (last : Nat) (ts : Lines) : Except SyntaxFault (List Command × Lines) :=
  readSequence last (8 * ts.length + 8) .line ts

/-! ### Scripts inside words -/

/-- The scripts in words, with the lines on which they start, and whether a parenthesis closes
them. -/
def scriptsIn : List Piece → List (Nat × List Char × Bool)
  | [] => []
  | .output line script isClosed _ :: ps => (line, script, isClosed) :: scriptsIn ps
  | .parameter _ _ word _ :: ps => scriptsIn word ++ scriptsIn ps
  | .sum word _ :: ps => scriptsIn word ++ scriptsIn ps
  | .char _ _ :: ps => scriptsIn ps
  | .quote :: ps => scriptsIn ps

/-- Commands up to the end of a script inside a word are read for their faults. -/
def faultOf (last : Nat) (isClosed : Bool) (ts : Lines) : Option SyntaxFault :=
  let ts := if isClosed then ts ++ [(last, .operator .closing)] else ts
  let read : Except SyntaxFault Unit := do
    let (_, rest) ← readSequence last (8 * ts.length + 8) .rest ts
    if isClosed then
      let _ ← expectOperator last true .closing rest
    else if !rest.isEmpty then .error (unexpected last true none rest)
  match read with
  | .ok () => none
  | .error fault => some fault

/-- The tokens of a script that starts on a line, of which the scripts inside words are looked
through, at most so deep inside each other; the first one that cannot be read makes a fault. -/
def checkedTokens : (depth : Nat) → (line : Nat) → List Char → Lines
  | 0, line, script => tokens line script
  | depth + 1, line, script =>
    (tokens line script).map fun t =>
      let word : Word :=
        match t.2 with
        | .word w => w
        | .text _ w => w
        | _ => []
      let fault := (scriptsIn word).findSome? fun (line, script, isClosed) =>
        faultOf (line + script.count '\n') isClosed (checkedTokens depth line script)
      match fault with
      | some fault => (fault.line, .fault fault.message)
      | none => t

end CodePermit.Shell
