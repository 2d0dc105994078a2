import CodePermit.Json.Value
/-!
# Reading JSON

A strict reader: one value and nothing after it but white space, no raw control characters in
strings, surrogates only in pairs, numbers that fit a double float when their leading digits and
their power of ten are multiplied as such, and at most so many arrays and objects inside each
other.  Reading is on lists of characters; what is nested is read under a
smaller depth and what is repeated under a bound on the text left, so that reading always ends.

* `Json.readString` — a string behind its opening quote;
* `Json.readNumber` — a number;
* `Json.readValue` — a value under a depth;
* `Json.read` — a whole text.
-/

namespace CodePermit.Json

/-- A reader takes a value off the front of a text and gives the rest. -/
abbrev Reader (α : Type) : Type :=
  List Char → Option (α × List Char)

/-- The white space between tokens. -/
def isSpace (c : Char) : Bool :=
  c == ' ' || c == '\n' || c == '\t' || c == '\r'

/-- The text behind its leading white space. -/
def skipSpace (cs : List Char) : List Char :=
  cs.dropWhile isSpace

/-! ### Strings -/

/-- The value of a hexadecimal digit. -/
def hexValue (c : Char) : Option Nat :=
  if c.isDigit then some (c.toNat - '0'.toNat)
  else if 'a' ≤ c ∧ c ≤ 'f' then some (c.toNat - 'a'.toNat + 10)
  else if 'A' ≤ c ∧ c ≤ 'F' then some (c.toNat - 'A'.toNat + 10)
  else none

/-- The character that a one-letter escape stands for. -/
def shortEscape (c : Char) : Option Char :=
  if c = '"' ∨ c = '\\' ∨ c = '/' then some c
  else if c = 'b' then some (Char.ofNat 8)
  else if c = 'f' then some (Char.ofNat 12)
  else if c = 'n' then some '\n'
  else if c = 'r' then some '\r'
  else if c = 't' then some '\t'
  else none

/-- The first half of a surrogate pair. -/
def isHighSurrogate (n : Nat) : Bool :=
  0xD800 ≤ n && n < 0xDC00

/-- The second half of a surrogate pair. -/
def isLowSurrogate (n : Nat) : Bool :=
  0xDC00 ≤ n && n < 0xE000

/-- The character of a surrogate pair. -/
def ofSurrogates (high low : Nat) : Char :=
  Char.ofNat (0x10000 + (high - 0xD800) * 0x400 + (low - 0xDC00))

/-- Where the reading of a string stands. -/
inductive Position where
  /-- Between characters. -/
  | plain
  /-- Behind a backslash. -/
  | escape
  /-- In a numeric escape with so many digits to come and a value so far; the first half of a pair
  may have come before it. -/
  | digits (left value : Nat) (high : Option Nat)
  /-- Behind the first half of a pair. -/
  | pairSlash (high : Nat)
  /-- Behind the first half of a pair and a backslash. -/
  | pairLetter (high : Nat)
deriving DecidableEq

/-- The character that a finished numeric escape gives, or the half of a pair it leaves open. -/
def finishDigits (value : Nat) : Option Nat → Option (Char ⊕ Nat)
  | some high => if isLowSurrogate value then some (.inl (ofSurrogates high value)) else none
  | none =>
    if isHighSurrogate value then some (.inr value)
    else if isLowSurrogate value then none
    else some (.inl (Char.ofNat value))

/-- Reads on in a string up to its closing quote; `found` holds the characters read, latest
first. -/
def readStringFrom : Position → (found : List Char) → Reader (List Char)
  | _, _, [] => none
  | .plain, found, c :: cs =>
    if c = '"' then some (found.reverse, cs)
    else if c = '\\' then readStringFrom .escape found cs
    else if c.toNat < 0x20 then none
    else readStringFrom .plain (c :: found) cs
  | .escape, found, c :: cs =>
    if c = 'u' then readStringFrom (.digits 4 0 none) found cs
    else
      match shortEscape c with
      | some d => readStringFrom .plain (d :: found) cs
      | none => none
  | .digits left value high, found, c :: cs =>
    match hexValue c with
    | none => none
    | some d =>
      let value := value * 16 + d
      if 1 < left then readStringFrom (.digits (left - 1) value high) found cs
      else
        match finishDigits value high with
        | some (.inl ch) => readStringFrom .plain (ch :: found) cs
        | some (.inr half) => readStringFrom (.pairSlash half) found cs
        | none => none
  | .pairSlash high, found, c :: cs =>
    if c = '\\' then readStringFrom (.pairLetter high) found cs else none
  | .pairLetter high, found, c :: cs =>
    if c = 'u' then readStringFrom (.digits 4 0 (some high)) found cs else none

/-- A string behind its opening quote. -/
def readString : Reader String := fun cs =>
  (readStringFrom .plain [] cs).map fun r => (String.ofList r.1, r.2)

/-! ### Numbers -/

/-- The leading digits of a text and the rest. -/
def spanDigits (cs : List Char) : List Char × List Char :=
  (cs.takeWhile Char.isDigit, cs.dropWhile Char.isDigit)

/-- The value of digits read after a value so far. -/
def appendDigits (value : Nat) (ds : List Char) : Nat :=
  ds.foldl (fun n d => 10 * n + (d.toNat - '0'.toNat)) value

/-- The digits behind a point; none at all if there is no point. -/
def readFraction : Reader (List Char)
  | '.' :: cs =>
    let (ds, rest) := spanDigits cs
    if ds = [] then none else some (ds, rest)
  | cs => some ([], cs)

/-- The exponent behind an `e`; zero if there is none. -/
def readExponent : Reader Int
  | c :: cs =>
    if c = 'e' ∨ c = 'E' then
      let (negative, cs) :=
        match cs with
        | '+' :: cs => (false, cs)
        | '-' :: cs => (true, cs)
        | cs => (false, cs)
      let (ds, rest) := spanDigits cs
      if ds = [] then none
      else
        let n : Int := appendDigits 0 ds
        some (if negative then -n else n, rest)
    else some (0, c :: cs)
  | [] => some (0, [])

/-- Appends leading digits to a number for as long as it stays below 2^64, and gives the digits
that are left. -/
def appendFitting : (value : Nat) → List Char → Nat × List Char
  | value, [] => (value, [])
  | value, d :: ds =>
    let longer := appendDigits value [d]
    if longer < UInt64.size then appendFitting longer ds else (value, d :: ds)

/-- The number that digits before and behind a point make with an exponent, when its mantissa
takes from each of them the leading digits that fit 64 bits. -/
def abridged (whole fraction : List Char) (exponent : Int) : Decimal :=
  let (value, dropped) := appendFitting 0 whole
  let (value, left) := appendFitting value fraction
  ⟨value, exponent + dropped.length + left.length - fraction.length⟩

/-- A number without its sign. -/
def readUnsigned (negative : Bool) : Reader Decimal := fun cs => do
  let (whole, rest) := spanDigits cs
  if whole = [] ∨ (1 < whole.length ∧ whole.head? = some '0') then none
  else
    let (fraction, rest) ← readFraction rest
    let (exponent, rest) ← readExponent rest
    let m : Int := appendDigits (appendDigits 0 whole) fraction
    let value : Decimal := ⟨if negative then -m else m, exponent - fraction.length⟩
    if (abridged whole fraction exponent).overflowsByFactors then none else some (value, rest)

/-- A number. -/
def readNumber : Reader Decimal
  | '-' :: cs => readUnsigned true cs
  | cs => readUnsigned false cs

/-! ### Values -/

/-- The text behind a word it starts with. -/
def expect : (word : List Char) → List Char → Option (List Char)
  | [], cs => some cs
  | w :: ws, c :: cs => if w = c then expect ws cs else none
  | _ :: _, [] => none

/-- Items separated by commas up to a closing character, at least one, white space around each;
at most `bound` items are read, latest first in `found`. -/
def readItems {α : Type} (close : Char) (item : Reader α) :
    (bound : Nat) → (found : List α) → Reader (List α)
  | 0, _, _ => none
  | bound + 1, found, cs =>
    match item (skipSpace cs) with
    | none => none
    | some (a, cs) =>
      match skipSpace cs with
      | c :: cs =>
        if c = close then some ((a :: found).reverse, cs)
        else if c = ',' then readItems close item bound (a :: found) cs
        else none
      | [] => none

/-- The items behind an opening bracket, possibly none. -/
def readList {α : Type} (close : Char) (item : Reader α) : Reader (List α) := fun cs =>
  match skipSpace cs with
  | c :: rest =>
    if c = close then some ([], rest)
    else readItems close item rest.length.succ [] (c :: rest)
  | [] => none

/-- One member of an object. -/
def readMember (value : Reader Json) : Reader (String × Json)
  | '"' :: cs => do
    let (name, cs) ← readString cs
    match skipSpace cs with
    | ':' :: cs =>
      let (v, cs) ← value (skipSpace cs)
      some ((name, v), cs)
    | _ => none
  | _ => none

/-- A value that starts with the first character of the text, with at most `depth` arrays and
objects inside each other. -/
def readValue : (depth : Nat) → Reader Json
  | _, '"' :: cs => do
    let (s, cs) ← readString cs
    some (.string s, cs)
  | depth + 1, '[' :: cs => do
    let (elements, cs) ← readList ']' (readValue depth) cs
    some (.array elements, cs)
  | depth + 1, '{' :: cs => do
    let (fields, cs) ← readList '}' (readMember (readValue depth)) cs
    some (.object fields, cs)
  | _, 't' :: cs => (expect ['r', 'u', 'e'] cs).map (.bool true, ·)
  | _, 'f' :: cs => (expect ['a', 'l', 's', 'e'] cs).map (.bool false, ·)
  | _, 'n' :: cs => (expect ['u', 'l', 'l'] cs).map (.null, ·)
  | _, cs => do
    let (n, cs) ← readNumber cs
    some (.number n, cs)

/-- How many arrays and objects a text may hold inside each other. -/
def depthLimit : Nat := 127

/-- The value of a whole text. -/
def read (cs : List Char) : Option Json :=
  match readValue depthLimit (skipSpace cs) with
  | some (j, rest) => if skipSpace rest = [] then some j else none
  | none => none

end CodePermit.Json
