import CodePermit.Text.Line
/-!
# Patterns of the shell

A pattern is matched against a whole text.  A star stands for any characters, a question mark for
one, and brackets for one of those in them; what is quoted stands for itself.

* `Wildcard`, `Pattern` — what a pattern is made of;
* `Pattern.ofLetters` — the pattern that characters make up;
* `Pattern.matches` — whether a text fits a pattern;
* `Pattern.cut` — a text without the part at one of its ends that fits a pattern.
-/

namespace CodePermit.Shell

/-- Some characters in brackets. -/
inductive CharRange where
  /-- The characters from one up to another. -/
  | between (low high : Char)
  /-- The characters with a property. -/
  | having (property : String)
deriving DecidableEq

/-- One place of a pattern. -/
inductive Wildcard where
  /-- A character. -/
  | char (c : Char)
  /-- Any character. -/
  | any
  /-- Any number of characters. -/
  | many
  /-- A character that is or is not one of some. -/
  | among (negated : Bool) (ranges : List CharRange)
deriving DecidableEq

/-- A pattern by its places. -/
abbrev Pattern : Type :=
  List Wildcard

/-! ### Reading patterns -/

/-- A character of a pattern, quoted or not. -/
structure Letter where
  /-- The character. -/
  char : Char
  /-- It stands for itself. -/
  quoted : Bool
deriving DecidableEq

/-- The letter is a certain character that is not quoted. -/
def Letter.isBare (l : Letter) (c : Char) : Bool :=
  l.char == c && !l.quoted

/-- The name of a property between colons and a closing bracket, and the letters behind it. -/
def readProperty (ls : List Letter) : Option (String × List Letter) :=
  let name := (ls.takeWhile fun l => l.char.isAlpha).map Letter.char
  match ls.drop name.length with
  | ⟨':', false⟩ :: ⟨']', false⟩ :: rest => some (String.ofList name, rest)
  | _ => none

/-- At most `bound` ranges up to a closing bracket, and the letters behind it; a bracket in front
closes nothing. -/
def readRanges : (bound : Nat) → (front : Bool) → List Letter →
    Option (List CharRange × List Letter)
  | 0, _, _ => none
  | _, _, [] => none
  | bound + 1, front, l :: ls => do
    if l.isBare ']' && !front then some ([], ls)
    else
      let property :=
        if l.isBare '[' && ls.head?.any (·.isBare ':') then readProperty ls.tail else none
      let (range, ls) :=
        match property, ls with
        | some (name, rest), _ => (CharRange.having name, rest)
        | none, ⟨'-', false⟩ :: high :: rest =>
          if high.isBare ']' then (.between l.char l.char, ls)
          else (.between l.char high.char, rest)
        | none, ls => (.between l.char l.char, ls)
      let (ranges, ls) ← readRanges bound false ls
      some (range :: ranges, ls)

/-- The pattern that letters make up; a bracket that is not closed stands for itself. -/
def Pattern.ofLettersFrom : (bound : Nat) → List Letter → Pattern
  | 0, _ => []
  | _, [] => []
  | bound + 1, l :: ls =>
    if l.isBare '*' then .many :: ofLettersFrom bound ls
    else if l.isBare '?' then .any :: ofLettersFrom bound ls
    else if l.isBare '[' then
      let negated := ls.head?.any fun l => l.isBare '!'
      match readRanges bound true (if negated then ls.tail else ls) with
      | some (ranges, rest) => .among negated ranges :: ofLettersFrom bound rest
      | none => .char '[' :: ofLettersFrom bound ls
    else .char l.char :: ofLettersFrom bound ls

/-- The pattern that letters make up. -/
def Pattern.ofLetters (ls : List Letter) : Pattern :=
  ofLettersFrom ls.length ls

/-! ### Matching -/

/-- A character that is printed with ink and is neither a letter nor a digit. -/
def isPunctuation (c : Char) : Bool :=
  0x20 < c.toNat && c.toNat < 0x7F && !c.isAlphanum

/-- A character has a property by its name. -/
def hasProperty (name : String) (c : Char) : Bool :=
  match name with
  | "alpha" => c.isAlpha
  | "digit" => c.isDigit
  | "alnum" => c.isAlphanum
  | "upper" => c.isUpper
  | "lower" => c.isLower
  | "space" => c == ' ' || (9 ≤ c.toNat && c.toNat ≤ 13)
  | "blank" => c == ' ' || c == '\t'
  | "punct" => isPunctuation c
  | "graph" => isPunctuation c || c.isAlphanum
  | "print" => c == ' ' || isPunctuation c || c.isAlphanum
  | "cntrl" => c.toNat < 0x20 || c.toNat == 0x7F
  | "xdigit" => c.isDigit || ('a' ≤ c && c ≤ 'f') || ('A' ≤ c && c ≤ 'F')
  | _ => false

/-- A character is one of some. -/
def CharRange.has (r : CharRange) (c : Char) : Bool :=
  match r with
  | between low high => low ≤ c && c ≤ high
  | having property => hasProperty property c

/-- A character fits a place. -/
def Wildcard.admits (w : Wildcard) (c : Char) : Bool :=
  match w with
  | char d => c == d
  | any => true
  | many => true
  | among negated ranges => (ranges.any fun r => r.has c) != negated

/-- A text fits a pattern. -/
def Pattern.matches : Pattern → List Char → Bool
  | [], cs => cs.isEmpty
  | .many :: ws, [] => Pattern.matches ws []
  | .many :: ws, c :: cs => Pattern.matches ws (c :: cs) || Pattern.matches (.many :: ws) cs
  | _ :: _, [] => false
  | w :: ws, c :: cs => w.admits c && Pattern.matches ws cs
termination_by ws cs => ws.length + cs.length

/-- A pattern stands for a single text. -/
def Pattern.isPlain (p : Pattern) : Bool :=
  p.all fun w =>
    match w with
    | .char _ => true
    | _ => false

/-- A text without the shortest or the longest part in front, or at its end, that fits a
pattern. -/
def Pattern.cut (p : Pattern) (front longest : Bool) (cs : List Char) : List Char :=
  let lengths := List.range cs.length.succ
  let lengths := if longest then lengths.reverse else lengths
  let fits (n : Nat) : Bool :=
    if front then Pattern.matches p (cs.take n) else Pattern.matches p (cs.drop (cs.length - n))
  match lengths.find? fits with
  | some n => if front then cs.drop n else cs.take (cs.length - n)
  | none => cs

end CodePermit.Shell
