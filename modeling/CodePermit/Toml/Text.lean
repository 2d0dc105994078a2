import CodePermit.Json.Reader
import CodePermit.Toml.Value
/-!
# Strings in TOML

TOML has four forms of strings.  Basic strings stand between double quotes and know escapes,
literal strings stand between single quotes and know none; each may go over several lines if its
quotes are tripled.  A line end is a line feed with or without a carriage return before it and is
kept as it stands; other control characters but the tabulator are refused.

* `Toml.readBasic` — a basic string behind its opening quotes;
* `Toml.readLiteral` — a literal string behind its opening quotes;
* `Toml.readQuoted` — a string of any form.
-/

namespace CodePermit.Toml

open Json (Reader)

/-! ### Characters -/

/-- A blank between tokens on a line. -/
def isBlank (c : Char) : Bool :=
  c == ' ' || c == '\t'

/-- A control character that may not stand in strings and comments. -/
def isControl (c : Char) : Bool :=
  (c.toNat < 0x20 && c != '\t') || c.toNat == 0x7F

/-- The character that a one-letter escape stands for. -/
def shortEscape (c : Char) : Option Char :=
  if c = '"' ∨ c = '\\' then some c
  else if c = 'b' then some (Char.ofNat 8)
  else if c = 't' then some '\t'
  else if c = 'n' then some '\n'
  else if c = 'f' then some (Char.ofNat 12)
  else if c = 'r' then some '\r'
  else if c = 'e' then some (Char.ofNat 27)
  else none

/-- How many digits a numeric escape has. -/
def escapeDigits (c : Char) : Option Nat :=
  if c = 'x' then some 2
  else if c = 'u' then some 4
  else if c = 'U' then some 8
  else none

/-- The character with a number, if there is one. -/
def character (n : Nat) : Option Char :=
  if n < 0xD800 ∨ (0xE000 ≤ n ∧ n < 0x110000) then some (Char.ofNat n) else none

/-! ### Basic strings -/

/-- Where the reading of a basic string stands. -/
inductive Position where
  /-- Between characters. -/
  | plain
  /-- Behind so many quotes in a row. -/
  | quotes (count : Nat)
  /-- Behind a carriage return. -/
  | carriage
  /-- Behind a backslash. -/
  | escape
  /-- In a numeric escape with so many digits to come and a value so far. -/
  | digits (left value : Nat)
  /-- Behind a backslash and blanks that must lead to a line end. -/
  | joinBlank
  /-- Behind a backslash, blanks and a carriage return. -/
  | joinCarriage
  /-- In the blanks and line ends that a backslash at the end of a line swallows. -/
  | joining
deriving DecidableEq

/-- What a character means between characters. -/
inductive Move where
  /-- Reading goes on. -/
  | onward (position : Position) (found : List Char)
  /-- The string ends. -/
  | close
  /-- The character may not stand here. -/
  | refuse
deriving DecidableEq

/-- Reads a character that stands between characters. -/
def plainMove (multiline : Bool) (found : List Char) (c : Char) : Move :=
  if c = '"' then if multiline then .onward (.quotes 1) found else .close
  else if c = '\\' then .onward .escape found
  else if c = '\n' then if multiline then .onward .plain ('\n' :: found) else .refuse
  else if c = '\r' then if multiline then .onward .carriage found else .refuse
  else if isControl c then .refuse
  else .onward .plain (c :: found)

/-- Reads a character behind a backslash. -/
def escapeMove (multiline : Bool) (found : List Char) (c : Char) : Move :=
  match escapeDigits c with
  | some n => .onward (.digits n 0) found
  | none =>
    match shortEscape c with
    | some d => .onward .plain (d :: found)
    | none =>
      if !multiline then .refuse
      else if isBlank c then .onward .joinBlank found
      else if c = '\n' then .onward .joining found
      else if c = '\r' then .onward .joinCarriage found
      else .refuse

/-- Reads a digit of a numeric escape. -/
def digitMove (left value : Nat) (found : List Char) (c : Char) : Move :=
  match Json.hexValue c with
  | none => .refuse
  | some d =>
    let value := value * 16 + d
    if 1 < left then .onward (.digits (left - 1) value) found
    else
      match character value with
      | some ch => .onward .plain (ch :: found)
      | none => .refuse

/-- Reads a character anywhere but behind quotes. -/
def move (multiline : Bool) (position : Position) (found : List Char) (c : Char) : Move :=
  match position with
  | .plain => plainMove multiline found c
  | .quotes count => plainMove multiline (List.replicate count '"' ++ found) c
  | .carriage => if c = '\n' then .onward .plain ('\n' :: '\r' :: found) else .refuse
  | .escape => escapeMove multiline found c
  | .digits left value => digitMove left value found c
  | .joinBlank =>
    if isBlank c then .onward .joinBlank found
    else if c = '\n' then .onward .joining found
    else if c = '\r' then .onward .joinCarriage found
    else .refuse
  | .joinCarriage => if c = '\n' then .onward .joining found else .refuse
  | .joining =>
    if isBlank c ∨ c = '\n' then .onward .joining found
    else if c = '\r' then .onward .joinCarriage found
    else plainMove multiline found c

/-- The number of quotes in a row, if a string over several lines ends with them: three close it
and up to two before them belong to it. -/
def closingQuotes : Position → Option Nat
  | .quotes count => if 3 ≤ count then some (count - 3) else none
  | _ => none

/-- Reads on in a basic string up to its closing quotes; `found` holds the characters read, latest
first. -/
def readBasicFrom (multiline : Bool) : Position → (found : List Char) → Reader (List Char)
  | position, found, [] =>
    (closingQuotes position).map fun extra => ((List.replicate extra '"' ++ found).reverse, [])
  | position, found, c :: cs =>
    match position, closingQuotes position with
    | .quotes count, some extra =>
      if c = '"' ∧ count < 5 then readBasicFrom multiline (.quotes (count + 1)) found cs
      else some ((List.replicate extra '"' ++ found).reverse, c :: cs)
    | .quotes count, none =>
      if c = '"' then readBasicFrom multiline (.quotes (count + 1)) found cs
      else
        match move multiline (.quotes count) found c with
        | .onward p f => readBasicFrom multiline p f cs
        | _ => none
    | p, _ =>
      match move multiline p found c with
      | .onward q f => readBasicFrom multiline q f cs
      | .close => some (found.reverse, cs)
      | .refuse => none

/-- The text behind a line end, if it starts with one. -/
def afterLineEnd : List Char → Option (List Char)
  | '\n' :: cs => some cs
  | '\r' :: '\n' :: cs => some cs
  | _ => none

/-- A basic string behind its opening quotes; a line end right behind tripled quotes is
dropped. -/
def readBasic (multiline : Bool) : Reader String := fun cs =>
  let cs := if multiline then (afterLineEnd cs).getD cs else cs
  (readBasicFrom multiline .plain [] cs).map fun r => (String.ofList r.1, r.2)

/-! ### Literal strings -/

/-- Reads on in a literal string over several lines; `quotes` single quotes were read in a row and
`carriage` tells whether the last character was a carriage return. -/
def readLiteralLines : (quotes : Nat) → (carriage : Bool) → (found : List Char) →
    Reader (List Char)
  | quotes, _, found, [] =>
    if 3 ≤ quotes then some ((List.replicate (quotes - 3) '\'' ++ found).reverse, []) else none
  | quotes, carriage, found, c :: cs =>
    if c = '\'' ∧ carriage = false ∧ quotes < 5 then
      readLiteralLines (quotes + 1) false found cs
    else if 3 ≤ quotes then
      some ((List.replicate (quotes - 3) '\'' ++ found).reverse, c :: cs)
    else
      let found := List.replicate quotes '\'' ++ found
      if c = '\n' then readLiteralLines 0 false ('\n' :: found) cs
      else if carriage then none
      else if c = '\r' then readLiteralLines 0 true ('\r' :: found) cs
      else if isControl c then none
      else readLiteralLines 0 false (c :: found) cs

/-- A literal string behind its opening quotes. -/
def readLiteral (multiline : Bool) : Reader String := fun cs =>
  if multiline then
    (readLiteralLines 0 false [] ((afterLineEnd cs).getD cs)).map fun r =>
      (String.ofList r.1, r.2)
  else
    let text := cs.takeWhile (· != '\'')
    match cs.dropWhile (· != '\'') with
    | _ :: rest => if text.any isControl then none else some (String.ofList text, rest)
    | [] => none

/-- A string of one of the forms, with its opening quotes. -/
def readQuoted : Reader String
  | '"' :: '"' :: '"' :: cs => readBasic true cs
  | '"' :: cs => readBasic false cs
  | '\'' :: '\'' :: '\'' :: cs => readLiteral true cs
  | '\'' :: cs => readLiteral false cs
  | _ => none

end CodePermit.Toml
