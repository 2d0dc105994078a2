import CodePermit.Toml.Value
/-!
# Writing TOML

A table is written as its plain keys, one on a line, followed by its arrays of tables and its
tables under headers.  An array of two or more elements has one element on each line.  A text is
written in the plainest form that can hold it.

* `Toml.writeText` — a text in the form chosen by `Toml.chooseForm`;
* `Toml.writeValue` — a value behind its key;
* `Toml.write` — a whole document.
-/

namespace CodePermit.Toml

/-! ### Texts -/

/-- What decides the form of a text. -/
structure Profile where
  /-- The longest run of single quotes. -/
  single : Nat
  /-- The longest run of double quotes. -/
  double : Nat
  /-- A control character needs an escape. -/
  control : Bool
  /-- There is a backslash. -/
  backslash : Bool
  /-- There is a line feed. -/
  newline : Bool

/-- The longest run of a character, counting on from a run of length `current`. -/
def longestRun (c : Char) : (current : Nat) → List Char → Nat
  | current, [] => current
  | current, d :: ds =>
    if d = c then longestRun c (current + 1) ds else max current (longestRun c 0 ds)

/-- A control character that a text can hold only as an escape. -/
def needsEscape (c : Char) : Bool :=
  (c.toNat < 0x20 && c != '\t' && c != '\n') || c.toNat == 0x7F

/-- The profile of a text. -/
def profile (cs : List Char) : Profile where
  single := longestRun '\'' 0 cs
  double := longestRun '"' 0 cs
  control := cs.any needsEscape
  backslash := cs.contains '\\'
  newline := cs.contains '\n'

/-- The forms of a text. -/
inductive Form where
  /-- Between double quotes. -/
  | basic
  /-- Between single quotes. -/
  | literal
  /-- Over several lines between tripled double quotes. -/
  | basicLines
  /-- Over several lines between tripled single quotes. -/
  | literalLines
deriving DecidableEq

/-- The plainest form of a text: one without escapes if there is one, on one line before several,
and double quotes before single ones. -/
def chooseForm (p : Profile) : Form :=
  if !p.control && !p.backslash && p.double == 0 && !p.newline then .basic
  else if !p.control && p.single == 0 && !p.newline then .literal
  else if !p.control && !p.backslash && p.double ≤ 2 then .basicLines
  else if !p.control && p.single ≤ 2 then .literalLines
  else if p.newline then .basicLines
  else .basic

/-- A hexadecimal digit, in upper case. -/
def upperHexDigit (n : Nat) : Char :=
  if n < 10 then Char.ofNat ('0'.toNat + n) else Char.ofNat ('A'.toNat + (n - 10))

/-- The numeric escape of a control character. -/
def numberEscape (c : Char) : List Char :=
  ['\\', 'u', '0', '0', upperHexDigit (c.toNat / 16), upperHexDigit (c.toNat % 16)]

/-- Characters inside double quotes; up to `room` double quotes in a row need no escape, and
`used` of them have just been written. -/
def escapeBasic (multiline : Bool) (room : Nat) : (used : Nat) → List Char → List Char
  | _, [] => []
  | used, c :: cs =>
    if c = '"' then
      if used < room then '"' :: escapeBasic multiline room (used + 1) cs
      else '\\' :: '"' :: escapeBasic multiline room 0 cs
    else
      let written : List Char :=
        if c = '\\' then ['\\', '\\']
        else if c = '\n' then if multiline then ['\n'] else ['\\', 'n']
        else if c = '\t' then ['\\', 't']
        else if c = '\r' then ['\\', 'r']
        else if c.toNat = 8 then ['\\', 'b']
        else if c.toNat = 12 then ['\\', 'f']
        else if needsEscape c then numberEscape c
        else [c]
      written ++ escapeBasic multiline room 0 cs

/-- A text in its plainest form.  A text over several lines starts on a line of its own. -/
def writeText (s : String) : List Char :=
  let cs := s.toList
  let p := profile cs
  let start : List Char := if p.newline then ['\n'] else []
  match chooseForm p with
  | .basic => '"' :: escapeBasic false 0 0 cs ++ ['"']
  | .literal => '\'' :: cs ++ ['\'']
  | .basicLines => ['"', '"', '"'] ++ start ++ escapeBasic true 2 0 cs ++ ['"', '"', '"']
  | .literalLines => ['\'', '\'', '\''] ++ start ++ cs ++ ['\'', '\'', '\'']

/-! ### Values -/

mutual

/-- A value behind its key. -/
def writeValue : Toml → List Char
  | .string s => writeText s
  | .integer n => (toString n).toList
  | .float literal => literal.toList
  | .unheld literal => literal.toList
  | .boolean true => "true".toList
  | .boolean false => "false".toList
  | .moment literal => literal.toList
  | .array [] => ['[', ']']
  | .array [v] => '[' :: writeValue v ++ [']']
  | .array (v :: vs) => '[' :: '\n' :: writeElements (v :: vs) ++ [']']
  | .table [] => ['{', '}']
  | .table (f :: fs) => '{' :: ' ' :: writeFields (f :: fs) ++ [' ', '}']

/-- The elements of an array, one on a line. -/
def writeElements : List Toml → List Char
  | [] => []
  | v :: vs => List.replicate 4 ' ' ++ writeValue v ++ ',' :: '\n' :: writeElements vs

/-- The fields of an inline table. -/
def writeFields : List (String × Toml) → List Char
  | [] => []
  | [(key, v)] => key.toList ++ ' ' :: '=' :: ' ' :: writeValue v
  | (key, v) :: fs =>
    key.toList ++ ' ' :: '=' :: ' ' :: writeValue v ++ ',' :: ' ' :: writeFields fs

end

/-! ### Documents -/

/-- The fields of a table. -/
def fields? : Toml → Option (List (String × Toml))
  | .table fields => some fields
  | _ => none

/-- The tables of an array that holds at least one element and nothing but tables. -/
def tables? : Toml → Option (List (List (String × Toml)))
  | .array [] => none
  | .array vs => vs.mapM fields?
  | _ => none

/-- One key with its value on a line. -/
def writeField (field : String × Toml) : List Char :=
  field.1.toList ++ ' ' :: '=' :: ' ' :: writeValue field.2 ++ ['\n']

/-- The plain keys of a table. -/
def writePlain (fields : List (String × Toml)) : List Char :=
  (fields.filter fun f => (tables? f.2).isNone).flatMap writeField

/-- The tables of an array under a doubled header. -/
def writeTables (key : String) (tables : List (List (String × Toml))) : List Char :=
  tables.flatMap fun fields =>
    '\n' :: '[' :: '[' :: key.toList ++ ']' :: ']' :: '\n' :: fields.flatMap writeField

/-- A whole document: the plain keys, then the arrays of tables. -/
def write (fields : List (String × Toml)) : List Char :=
  writePlain fields
    ++ fields.flatMap fun f =>
      match tables? f.2 with
      | some tables => writeTables f.1 tables
      | none => []

end CodePermit.Toml
