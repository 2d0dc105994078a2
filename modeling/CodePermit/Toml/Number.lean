import CodePermit.Toml.Text
/-!
# Numbers and dates in TOML

A bare word is a truth value, a whole number in one of four bases, a number with a fraction or an
exponent, a special number, or a date and time.  Digits may be grouped by single underscores;
decimal numbers have no leading zeros; only decimal numbers have a sign.  A number of the right
form that is too large is still a value, which holds no number.

* `Toml.readInteger`, `Toml.readFloat`, `Toml.readMoment` — the value of a word of each kind;
* `Toml.readWord` — the value of a bare word.
-/

namespace CodePermit.Toml

/-! ### Digits -/

/-- The digits of a group of digits and single underscores between them. -/
def ungroup (isDigit : Char → Bool) : List Char → Option (List Char)
  | [] => none
  | [c] => if isDigit c then some [c] else none
  | c :: '_' :: cs => if isDigit c then (ungroup isDigit cs).map (c :: ·) else none
  | c :: cs => if isDigit c then (ungroup isDigit cs).map (c :: ·) else none

/-- The value of digits in a base. -/
def valueIn (base : Nat) (ds : List Char) : Nat :=
  ds.foldl (fun n d => base * n + (Json.hexValue d).getD 0) 0

/-- The digits of a decimal number without a sign and without leading zeros. -/
def decimalDigits (cs : List Char) : Option (List Char) :=
  (ungroup Char.isDigit cs).filter fun ds => ds.length = 1 ∨ ds.head? ≠ some '0'

/-- A word without its sign, and whether the sign was a minus; `none` is a word without a sign. -/
def splitSign : List Char → Option Bool × List Char
  | '+' :: cs => (some false, cs)
  | '-' :: cs => (some true, cs)
  | cs => (none, cs)

/-! ### Whole numbers -/

/-- The least whole number that is read. -/
def leastInteger : Int := -(Nat.pow 2 127 : Nat)

/-- The bound of the whole numbers that are read. -/
def integerBound : Int := (Nat.pow 2 128 : Nat)

/-- A whole number as a value; one out of bounds is not held. -/
def holdInteger (word : List Char) (n : Int) : Toml :=
  if leastInteger ≤ n ∧ n < integerBound then .integer n else .unheld (String.ofList word)

/-- A whole number in a base other than ten, behind the letter of the base; without any digits it
is not held. -/
def readBased (word : List Char) (base : Nat) (isDigit : Char → Bool) (cs : List Char) :
    Option Toml :=
  if cs = [] then some (.unheld (String.ofList word))
  else (ungroup isDigit cs).map fun ds => holdInteger word (valueIn base ds)

/-- A whole number. -/
def readInteger (word : List Char) : Option Toml :=
  match word with
  | '0' :: 'x' :: cs => readBased word 16 (fun c => (Json.hexValue c).isSome) cs
  | '0' :: 'o' :: cs => readBased word 8 (fun c => c.isDigit && c < '8') cs
  | '0' :: 'b' :: cs => readBased word 2 (fun c => c == '0' || c == '1') cs
  | _ =>
    let (sign, cs) := splitSign word
    (decimalDigits cs).map fun ds =>
      let n : Int := valueIn 10 ds
      holdInteger word (if sign = some true then -n else n)

/-! ### Other numbers -/

/-- A piece of a word up to the first character with a property, and the rest. -/
def cut (p : Char → Bool) (cs : List Char) : List Char × List Char :=
  (cs.takeWhile fun c => !p c, cs.dropWhile fun c => !p c)

/-- The exponent behind an `e`: an optional sign and digits that may start with zeros. -/
def readPower (cs : List Char) : Option Int :=
  let (sign, cs) := splitSign cs
  (ungroup Char.isDigit cs).map fun ds =>
    let n : Int := valueIn 10 ds
    if sign = some true then -n else n

/-- The size of a number with a fraction or an exponent and without a sign. -/
def readMagnitude (cs : List Char) : Option Decimal := do
  let (mantissa, power) := cut (fun c => c == 'e' || c == 'E') cs
  let (whole, fraction) := cut (· == '.') mantissa
  if power = [] ∧ fraction = [] then none
  else
    let ws ← decimalDigits whole
    let fs ← if fraction = [] then some [] else ungroup Char.isDigit fraction.tail
    let e ← if power = [] then some 0 else readPower power.tail
    some ⟨valueIn 10 (ws ++ fs), e - fs.length⟩

/-- A number with a fraction or an exponent, or a special number.  One that rounds to infinity is
not held. -/
def readFloat (word : List Char) : Option Toml :=
  let literal := String.ofList word
  let (_, cs) := splitSign word
  if cs = "inf".toList ∨ cs = "nan".toList then some (.float literal)
  else
    (readMagnitude cs).map fun size =>
      if size.overflows then .unheld literal else .float literal

/-! ### Dates and times -/

/-- A number of exactly so many digits at the front of a word. -/
def fixedDigits (count : Nat) (cs : List Char) : Option (Nat × List Char) :=
  let ds := cs.take count
  if ds.length = count ∧ ds.all Char.isDigit then some (valueIn 10 ds, cs.drop count) else none

/-- The length of a month. -/
def daysIn (year month : Nat) : Nat :=
  if month = 2 then
    if year % 4 = 0 ∧ (year % 100 ≠ 0 ∨ year % 400 = 0) then 29 else 28
  else if month = 4 ∨ month = 6 ∨ month = 9 ∨ month = 11 then 30
  else 31

/-- The rest of a word behind a date. -/
def afterDate (cs : List Char) : Option (List Char) := do
  let (year, cs) ← fixedDigits 4 cs
  let cs ← Json.expect ['-'] cs
  let (month, cs) ← fixedDigits 2 cs
  let cs ← Json.expect ['-'] cs
  let (day, cs) ← fixedDigits 2 cs
  if 1 ≤ month ∧ month ≤ 12 ∧ 1 ≤ day ∧ day ≤ daysIn year month then some cs else none

/-- The rest of a word behind hours and minutes. -/
def afterMinutes (cs : List Char) : Option (List Char) := do
  let (hour, cs) ← fixedDigits 2 cs
  let cs ← Json.expect [':'] cs
  let (minute, cs) ← fixedDigits 2 cs
  if hour < 24 ∧ minute < 60 then some cs else none

/-- The rest of a word behind a time of day; seconds and their fraction may be left out. -/
def afterTime (cs : List Char) : Option (List Char) := do
  let cs ← afterMinutes cs
  match cs with
  | ':' :: cs =>
    let (second, cs) ← fixedDigits 2 cs
    if 60 < second then none
    else
      match cs with
      | '.' :: cs =>
        if (cs.takeWhile Char.isDigit) = [] then none else some (cs.dropWhile Char.isDigit)
      | cs => some cs
  | cs => some cs

/-- What may follow a date and a time: nothing, or an offset. -/
def isOffset : List Char → Bool
  | [] => true
  | ['Z'] => true
  | ['z'] => true
  | '+' :: cs => afterMinutes cs == some []
  | '-' :: cs => afterMinutes cs == some []
  | _ => false

/-- A word is a date, a time of day, or both with or without an offset. -/
def isMoment (word : List Char) : Bool :=
  match afterDate word with
  | some [] => true
  | some (c :: cs) =>
    (c == 'T' || c == 't' || c == ' ')
      && match afterTime cs with
        | some rest => isOffset rest
        | none => false
  | none => afterTime word == some []

/-- A date, a time of day or both. -/
def readMoment (word : List Char) : Option Toml :=
  if isMoment word then some (.moment (String.ofList word)) else none

/-! ### Bare words -/

/-- The value of a bare word. -/
def readWord (word : List Char) : Option Toml :=
  if word = "true".toList then some (.boolean true)
  else if word = "false".toList then some (.boolean false)
  else
    (readInteger word).orElse fun _ => (readFloat word).orElse fun _ => readMoment word

end CodePermit.Toml
