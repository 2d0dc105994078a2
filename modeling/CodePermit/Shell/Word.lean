import CodePermit.Shell.Arithmetic
import CodePermit.Text.Substitution
/-!
# Words of the shell

A script is cut into tokens: words, operators that join or bracket commands, and redirections.
Quotes and backslashes take characters literally; a dollar sign brings in a parameter, the output
of a command, or a number that is worked out.

* `Piece`, `Word` — what a word is made of;
* `readPieces` — the pieces up to the end of their surroundings;
* `Token`, `tokens` — the tokens of a script, the last of which may be a fault.
-/

namespace CodePermit.Shell

/-! ### Pieces -/

/-- How the value of a parameter is used; `emptyToo` treats an empty value like none. -/
inductive Use where
  /-- As it is. -/
  | plain
  /-- Its length is used. -/
  | length
  /-- A word stands in for a value that is missing. -/
  | fallback (emptyToo : Bool)
  /-- A word becomes the value that is missing. -/
  | store (emptyToo : Bool)
  /-- A value that is missing ends the script with a word. -/
  | demand (emptyToo : Bool)
  /-- A word stands in for a value that is there. -/
  | replacement (emptyToo : Bool)
  /-- A part at one of its ends that fits a pattern is cut off. -/
  | trim (front longest : Bool)
  /-- In a way that there is not. -/
  | unknown
deriving DecidableEq

/-- A piece of a word, quoted or not. -/
inductive Piece where
  /-- A character that stands for itself. -/
  | char (c : Char) (quoted : Bool)
  /-- Something is quoted from here on. -/
  | quote
  /-- A parameter by its name, and how it is used. -/
  | parameter (name : String) (use : Use) (word : List Piece) (quoted : Bool)
  /-- The output of a script that starts on a line; a parenthesis may close the script. -/
  | output (line : Nat) (script : List Char) (isClosed quoted : Bool)
  /-- A number that is worked out. -/
  | sum (expression : List Piece) (quoted : Bool)

/-- A word by its pieces. -/
abbrev Word : Type :=
  List Piece

/-- A literal character of a word that is not quoted. -/
def Piece.bare? : Piece → Option Char
  | char c false => some c
  | _ => none

/-- The text of a word that is written without quotes and dollar signs. -/
def Word.bare? (w : Word) : Option String :=
  (w.mapM Piece.bare?).map String.ofList

/-- Some part of a word is quoted. -/
def Word.isQuoted (w : Word) : Bool :=
  w.any fun p =>
    match p with
    | .quote => true
    | _ => false

/-! ### Surroundings -/

/-- What stands around pieces. -/
inductive Surround where
  /-- Nothing: the pieces are a word. -/
  | bare
  /-- Double quotes. -/
  | quotes
  /-- The braces of a parameter, in double quotes or not. -/
  | braces (quoted : Bool)
  /-- The two parentheses of an expression, inside so many others. -/
  | parentheses (depth : Nat)
  /-- Nothing: the pieces are a text of several lines. -/
  | text
deriving DecidableEq

/-- Pieces in some surroundings are quoted. -/
def Surround.isQuoted : Surround → Bool
  | bare => false
  | braces quoted => quoted
  | _ => true

/-- The quote that asks for the output of a command. -/
def backquote : Char :=
  Char.ofNat 96

/-- A character that ends a word. -/
def endsWord (c : Char) : Bool :=
  [' ', '\t', '\n', ';', '&', '|', '(', ')', '<', '>'].contains c

/-- A character that a backslash protects in quoted surroundings. -/
def Surround.protects (s : Surround) (c : Char) : Bool :=
  c == '$' || c == '\\' || c == backquote || (c == '"' && s ≠ .text)
    || (c == '}' && s = .braces true)

/-- A character that is the name of a parameter. -/
def namesParameter (c : Char) : Bool :=
  ['@', '*', '#', '?', '-', '$', '!'].contains c

/-- What is wrong with quotes that are left open. -/
def openQuotes : String := "Unterminated quoted string"

/-- What is wrong with a backquote that is left open. -/
def openBackquote : String := "EOF in backquote substitution"

/-- What is wrong with a script in parentheses that are left open. -/
def openScript : String := "end of file unexpected (expecting \")\")"

/-- What is wrong where the text ends in some surroundings, if something is. -/
def Surround.openFault : Surround → Option String
  | bare => none
  | quotes => some openQuotes
  | braces true => some openQuotes
  | braces false => some "Missing '\x7d'"
  | parentheses _ => some "Missing '))'"
  | text => none

/-! ### Scripts inside words -/

/-- What may be open inside a script. -/
inductive Bracket where
  /-- A script up to a closing parenthesis. -/
  | script
  /-- The cases of a choice, whose patterns end with parentheses that close nothing. -/
  | cases
  /-- A parameter in braces. -/
  | braces
  /-- Double quotes. -/
  | double
  /-- Single quotes. -/
  | single
  /-- A script between backquotes. -/
  | backquoted
deriving DecidableEq

/-- The character that closes a bracket. -/
def Bracket.closer : Bracket → Option Char
  | script => some ')'
  | cases => none
  | braces => some '}'
  | double => some '"'
  | single => some '\''
  | backquoted => some backquote

/-- What is wrong with a bracket that is left open. -/
def Bracket.openFault : Bracket → String
  | double => openQuotes
  | single => openQuotes
  | backquoted => openBackquote
  | _ => openScript

/-- Commands stand in a bracket. -/
def Bracket.holdsCommands (b : Bracket) : Bool :=
  b = script || b = cases

/-- The bracket that opens at the front of a text inside another one, and its length. -/
def Bracket.inside (b : Bracket) (cs : List Char) : Option (Bracket × Nat) :=
  match cs with
  | '$' :: '(' :: _ => some (script, 2)
  | '$' :: '{' :: _ => some (braces, 2)
  | c :: _ =>
    if c = backquote then some (backquoted, 1)
    else if b = double then none
    else if c = '"' then some (double, 1)
    else if c = '\'' then some (single, 1)
    else if c = '(' ∧ b.holdsCommands then some (script, 1)
    else none
  | [] => none

/-- The words behind which a command starts. -/
def openingWords : List String :=
  ["if", "then", "elif", "else", "while", "until", "do", "!", "\x7b"]

/-- Where the reading of a script up to its end stands. -/
structure Nesting where
  /-- What is open, innermost first. -/
  brackets : List Bracket
  /-- A word may start. -/
  fresh : Bool := true
  /-- A command may start. -/
  command : Bool := true

/-- The word at the front of a text, if it is one of plain characters. -/
def plainWord (cs : List Char) : List Char :=
  let word := cs.takeWhile fun c => c.isAlpha || c == '!' || c == '{' || c == '}'
  if (cs.drop word.length).head?.all endsWord then word else []

/-- Where the reading stands behind a word. -/
def Nesting.behindWord (n : Nesting) (word : String) : Nesting :=
  let inCases := n.brackets.head? = some .cases
  let n := { n with fresh := false }
  if n.command ∧ word = "case" then
    { n with brackets := .cases :: n.brackets, command := false }
  else if n.command ∧ word = "esac" ∧ inCases then
    { n with brackets := n.brackets.tail, command := false }
  else
    { n with
      command := (n.command && openingWords.contains word) || (inCases && word == "in") }

/-- Where the reading stands behind a character that means nothing else. -/
def Nesting.behindChar (n : Nesting) (c : Char) : Nesting :=
  if c = ' ' ∨ c = '\t' then { n with fresh := true }
  else if endsWord c then { n with fresh := true, command := true }
  else { n with fresh := false, command := false }

/-- The text up to where all is closed, at most `bound` steps of it, and the rest. -/
def closingFrom : (bound : Nat) → Nesting → List Char → Except String (List Char × List Char)
  | 0, _, _ => .error openScript
  | bound + 1, n, cs => do
    let onward (count : Nat) (n : Nesting) : Except String (List Char × List Char) := do
      let (text, rest) ← closingFrom bound n (cs.drop count)
      return (cs.take count ++ text, rest)
    match n.brackets, cs with
    | [], cs => return ([], cs)
    | bracket :: _, [] => .error bracket.openFault
    | bracket :: brackets, c :: rest =>
      let word := if bracket.holdsCommands && n.fresh then plainWord cs else []
      if some c = bracket.closer then
        if brackets = [] then return ([], rest)
        else onward 1 ⟨brackets, false, bracket == .script⟩
      else if bracket = .single then onward 1 n
      else if c = '\\' then onward 2 { n with fresh := false, command := false }
      else if bracket = .backquoted then onward 1 n
      else if c = '#' ∧ n.fresh ∧ bracket.holdsCommands then
        onward (1 + (rest.takeWhile (· ≠ '\n')).length) n
      else if word ≠ [] then onward word.length (n.behindWord (String.ofList word))
      else
        match bracket.inside cs with
        | some (inner, count) => onward count { brackets := inner :: n.brackets }
        | none => onward 1 (n.behindChar c)

/-- The script up to its closing parenthesis, and the rest. -/
def readScriptText (cs : List Char) : Except String (List Char × List Char) :=
  closingFrom (cs.length + 2) { brackets := [.script] } cs

/-- The script up to its closing backquote, and the rest; a backslash protects what it could
otherwise not hold. -/
def readBackquoted (quoted : Bool) : List Char → Except String (List Char × List Char)
  | [] => .error openBackquote
  | '\\' :: c :: cs => do
    let (text, rest) ← readBackquoted quoted cs
    if c = '$' ∨ c = '\\' ∨ c = backquote ∨ (c = '"' ∧ quoted) then return (c :: text, rest)
    else return ('\\' :: c :: text, rest)
  | c :: cs =>
    if c = backquote then .ok ([], cs)
    else do
      let (text, rest) ← readBackquoted quoted cs
      return (c :: text, rest)

/-! ### Parameters -/

/-- The name of a parameter in braces, whether its length is asked for, and the rest. -/
def readName (cs : List Char) : Option (String × Bool × List Char) :=
  let named (length : Bool) (cs : List Char) : Option (String × Bool × List Char) :=
    match cs with
    | c :: cs =>
      if startsName c then
        some (String.ofList (c :: cs.takeWhile inName), length, cs.dropWhile inName)
      else if c.isDigit then
        some (String.ofList (c :: cs.takeWhile Char.isDigit), length, cs.dropWhile Char.isDigit)
      else if namesParameter c then some (String.ofList [c], length, cs)
      else none
    | [] => none
  match cs with
  | '#' :: c :: rest =>
    if inName c then named true (c :: rest)
    else if c ≠ '}' ∧ rest.head? = some '}' then named true (c :: rest)
    else some ("#", false, c :: rest)
  | cs => named false cs

/-- How a parameter in braces is used, and the rest. -/
def readUse (cs : List Char) : Use × List Char :=
  let asked (emptyToo : Bool) (cs : List Char) : Option (Use × List Char) :=
    match cs with
    | '-' :: cs => some (.fallback emptyToo, cs)
    | '=' :: cs => some (.store emptyToo, cs)
    | '?' :: cs => some (.demand emptyToo, cs)
    | '+' :: cs => some (.replacement emptyToo, cs)
    | _ => none
  match cs with
  | '}' :: _ => (.plain, cs)
  | ':' :: rest => (asked true rest).getD (.unknown, rest)
  | '#' :: '#' :: rest => (.trim true true, rest)
  | '#' :: rest => (.trim true false, rest)
  | '%' :: '%' :: rest => (.trim false true, rest)
  | '%' :: rest => (.trim false false, rest)
  | cs => (asked false cs).getD (.unknown, cs)

/-- The surroundings of the word that goes with a use: a pattern may hold quotes in any case. -/
def Use.surround (use : Use) (quoted : Bool) : Surround :=
  match use with
  | trim _ _ => .braces false
  | _ => .braces quoted

/-! ### Reading pieces -/

/-- The line on which a rest of a text starts, if the text starts on a line. -/
def lineAt (line : Nat) (text rest : List Char) : Nat :=
  line + (text.count '\n' - rest.count '\n')

mutual

/-- At most `bound` pieces up to the end of their surroundings, which is passed over, and the
rest. -/
def readPieces : (bound line : Nat) → Surround → List Char → Except String (Word × List Char)
  | 0, _, _, cs => .ok ([], cs)
  | _, _, s, [] =>
    match s.openFault with
    | some fault => .error fault
    | none => .ok ([], [])
  | bound + 1, line, s, c :: cs => do
    let onward (found : Word) (s : Surround) (rest : List Char) :
        Except String (Word × List Char) := do
      let (pieces, rest) ← readPieces bound (lineAt line (c :: cs) rest) s rest
      return (found ++ pieces, rest)
    match s, c, cs with
    | .quotes, '"', cs => return ([], cs)
    | .braces _, '}', cs => return ([], cs)
    | .parentheses 0, ')', ')' :: cs => return ([], cs)
    | .parentheses depth, ')', cs => onward [.char ')' true] (.parentheses (depth - 1)) cs
    | .parentheses depth, '(', cs => onward [.char '(' true] (.parentheses (depth + 1)) cs
    | s, '\\', '\n' :: cs => onward [] s cs
    | s, '\\', d :: cs =>
      if !s.isQuoted then onward [.quote, .char d true] s cs
      else if s.protects d then onward [.char d true] s cs
      else onward [.char '\\' true] s (d :: cs)
    | s, '$', cs =>
      let (piece, rest) ← readDollar bound line s.isQuoted cs
      onward [piece] s rest
    | .braces true, '"', cs => onward [] (.braces true) cs
    | s, c, cs =>
      if c = backquote then
        let (script, rest) ← readBackquoted s.isQuoted cs
        onward [.output 1 script false s.isQuoted] s rest
      else if s.isQuoted then onward [.char c true] s cs
      else if c = '"' then
        let (found, rest) ← readPieces bound line .quotes cs
        onward (.quote :: found) s rest
      else if c = '\'' then
        match cs.dropWhile (· ≠ '\'') with
        | _ :: rest =>
          onward (.quote :: (cs.takeWhile (· ≠ '\'')).map fun c => .char c true) s rest
        | [] => .error openQuotes
      else if s = .bare ∧ endsWord c then return ([], c :: cs)
      else onward [.char c false] s cs

/-- The piece behind a dollar sign, and the rest. -/
def readDollar : (bound line : Nat) → (quoted : Bool) → List Char →
    Except String (Piece × List Char)
  | 0, _, quoted, cs => .ok (.char '$' quoted, cs)
  | bound + 1, line, quoted, cs =>
    match cs with
    | '(' :: '(' :: cs => do
      let (expression, rest) ← readPieces bound line (.parentheses 0) cs
      return (.sum expression quoted, rest)
    | '(' :: cs => do
      let (script, rest) ← readScriptText cs
      return (.output line script true quoted, rest)
    | '{' :: cs => do
      let (name, use, rest) :=
        match readName cs with
        | some (name, true, rest) =>
          (name, if rest.head? = some '}' then Use.length else Use.unknown, rest)
        | some (name, false, rest) => (name, readUse rest)
        | none => ("", .unknown, cs)
      let (word, rest) ← readPieces bound line (use.surround quoted) rest
      return (.parameter name use word quoted, rest)
    | c :: cs =>
      if startsName c then
        .ok (.parameter (String.ofList (c :: cs.takeWhile inName)) .plain [] quoted,
          cs.dropWhile inName)
      else if c.isDigit || namesParameter c then
        .ok (.parameter (String.ofList [c]) .plain [] quoted, cs)
      else .ok (.char '$' quoted, c :: cs)
    | [] => .ok (.char '$' quoted, [])

end

/-! ### Tokens -/

/-- An operator that joins or brackets commands. -/
inductive Operator where
  /-- One command after another. -/
  | semicolon
  /-- A command beside others. -/
  | ampersand
  /-- A command after a success. -/
  | both
  /-- A command after a failure. -/
  | either
  /-- A command that reads what another writes. -/
  | pipe
  /-- An opening parenthesis. -/
  | opening
  /-- A closing parenthesis. -/
  | closing
  /-- The end of a case. -/
  | caseEnd
deriving DecidableEq

/-- The operators as they are written, each before those that it starts with. -/
def Operator.forms : List (String × Operator) :=
  [("&&", both), ("||", either), (";;", caseEnd), (";", semicolon), ("&", ampersand), ("|", pipe),
    ("(", opening), (")", closing)]

/-- An operator as it is written. -/
def Operator.text (o : Operator) : String :=
  ((forms.find? fun f => f.2 == o).map Prod.fst).getD ""

/-- Where a redirection leads. -/
inductive Direction where
  /-- To a file that is emptied first, if files may be. -/
  | overwrite
  /-- To a file that is emptied first. -/
  | force
  /-- To the end of a file. -/
  | append
  /-- From a file. -/
  | read
  /-- From or to a file that is left as it is. -/
  | update
  /-- To or from where a descriptor leads. -/
  | duplicate
deriving DecidableEq

/-- The signs of redirections, each before those that it starts with, with the descriptors that
they redirect. -/
def Direction.forms : List (String × Nat × Direction) :=
  [(">>", 1, append), (">&", 1, duplicate), (">|", 1, force), (">", 1, overwrite),
    ("<&", 0, duplicate), ("<>", 0, update), ("<", 0, read)]

/-- A token of a script. -/
inductive Token where
  /-- A word. -/
  | word (word : Word)
  /-- An operator. -/
  | operator (operator : Operator)
  /-- The end of a line. -/
  | lineEnd
  /-- A redirection of a descriptor, whose target is the next word. -/
  | redirect (descriptor : Nat) (direction : Direction)
  /-- A redirection of a descriptor from a text in the script. -/
  | text (descriptor : Nat) (text : Word)
  /-- Something that is no token. -/
  | fault (message : String)

/-- Tokens with the numbers of the lines on which they end. -/
abbrev Lines : Type :=
  List (Nat × Token)

/-- A piece as it is written, if it is a character. -/
def Piece.literal? : Piece → Option Char
  | char c _ => some c
  | _ => none

/-- The lines of a text up to a certain one, which is passed over; leading tabulators may be left
out. -/
def linesUpTo (stripped : Bool) (delimiter : List Char) :
    (bound : Nat) → List Char → List Char × List Char
  | 0, cs => ([], cs)
  | _, [] => ([], [])
  | bound + 1, cs =>
    let line := cs.takeWhile (· ≠ '\n')
    let rest := (cs.dropWhile (· ≠ '\n')).tail
    let line := if stripped then line.dropWhile (· = '\t') else line
    if line = delimiter then ([], rest)
    else
      let (text, rest) := linesUpTo stripped delimiter bound rest
      (line ++ '\n' :: text, rest)

/-- The text that a redirection behind its sign takes from the lines that follow, with the number
of those, and the script without it; `none` if no word says where the text ends. -/
def readText (line : Nat) (cs : List Char) :
    Except String (Option (Word × Nat) × List Char) := do
  let stripped := cs.head? = some '-'
  let cs := (if stripped then cs.tail else cs).dropWhile fun c => c = ' ' ∨ c = '\t'
  let (delimiter, rest) ← readPieces cs.length.succ line .bare cs
  if delimiter.isEmpty then return (none, cs)
  let behind := rest.dropWhile (· ≠ '\n')
  let (text, below) :=
    linesUpTo stripped (delimiter.filterMap Piece.literal?) behind.length behind.tail
  let rest := rest.takeWhile (· ≠ '\n') ++ (if behind.isEmpty then [] else '\n' :: below)
  let lines := behind.tail.count '\n' - below.count '\n'
  if Word.isQuoted delimiter then return (some (text.map fun c => .char c true, lines), rest)
  else
    let (pieces, _) ← readPieces text.length.succ line .text text
    return (some (pieces, lines), rest)

/-- The descriptor that a word in front of a redirection names; no word names the usual one. -/
def descriptor? (usual : Nat) (w : Word) : Option Nat :=
  match w with
  | [] => some usual
  | [.char c false] => if c.isDigit then some (c.toNat - '0'.toNat) else none
  | _ => none

/-- At most `bound` tokens of a script that starts on a line; so many lines have been `taken` from
behind that line. -/
def tokensFrom : (bound line taken : Nat) → List Char → Lines
  | 0, _, _, _ => []
  | _, _, _, [] => []
  | bound + 1, line, taken, c :: cs =>
    if c = ' ' ∨ c = '\t' then tokensFrom bound line taken cs
    else if c = '\\' ∧ cs.head? = some '\n' then tokensFrom bound (line + 1) taken cs.tail
    else if c = '#' then tokensFrom bound line taken (cs.dropWhile (· ≠ '\n'))
    else if c = '\n' then
      let next := line + 1 + taken
      (next, .lineEnd) :: tokensFrom bound next 0 cs
    else
      match Operator.forms.find? fun f => f.1.toList.isPrefixOf (c :: cs) with
      | some (sign, o) =>
        (line, .operator o) :: tokensFrom bound line taken ((c :: cs).drop sign.length)
      | none =>
        match readPieces cs.length.succ.succ line .bare (c :: cs) with
        | .error fault => [(line + cs.count '\n', .fault fault)]
        | .ok (word, rest) =>
          let line := lineAt line (c :: cs) rest
          let redirection := Direction.forms.find? fun f => f.1.toList.isPrefixOf rest
          let usual := if rest.head? = some '<' then 0 else 1
          match redirection, descriptor? usual word, rest with
          | some _, some d, '<' :: '<' :: rest =>
            match readText line rest with
            | .error fault => [(line + rest.count '\n', .fault fault)]
            | .ok (some (text, lines), rest) =>
              (line, .text d text) :: tokensFrom bound line (taken + lines) rest
            | .ok (none, rest) => (line, .redirect d .read) :: tokensFrom bound line taken rest
          | some (sign, _, direction), some d, rest =>
            (line, .redirect d direction) :: tokensFrom bound line taken (rest.drop sign.length)
          | _, _, rest => (line, .word word) :: tokensFrom bound line taken rest

/-- The tokens of a script that starts on a line. -/
def tokens (line : Nat) (script : List Char) : Lines :=
  tokensFrom script.length.succ line 0 script

end CodePermit.Shell
