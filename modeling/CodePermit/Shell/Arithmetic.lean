import CodePermit.Text.Natural
/-!
# Arithmetic of the shell

An expression over whole numbers of 64 bits reads and sets variables.  It is read as a whole and
then worked out; what lies behind a decision that is not taken sets nothing.

* `Expression` — the expressions;
* `readExpression` — the expression in a text;
* `Expression.work` — the number that an expression comes to, with the variables that it sets.
-/

namespace CodePermit.Shell

/-! ### Numbers -/

/-- A whole number in the range of 64 bits with a sign. -/
def wrapped (n : Int) : Int :=
  Int.bmod n (Nat.pow 2 64)

/-- The greatest number. -/
def greatestNumber : Nat :=
  Nat.pow 2 63 - 1

/-- The value of a digit in a base up to sixteen. -/
def digitIn (base : Nat) (c : Char) : Option Nat :=
  let value :=
    if c.isDigit then c.toNat - '0'.toNat
    else if 'a' ≤ c ∧ c ≤ 'f' then c.toNat - 'a'.toNat + 10
    else if 'A' ≤ c ∧ c ≤ 'F' then c.toNat - 'A'.toNat + 10
    else 16
  if value < base then some value else none

/-- The number that the digits in front of a text make up in a base, and the rest. -/
def readDigitsIn (base : Nat) (cs : List Char) : Nat × List Char :=
  let digits := cs.takeWhile fun c => (digitIn base c).isSome
  (digits.foldl (fun n c => base * n + (digitIn base c).getD 0) 0, cs.drop digits.length)

/-- A number without a sign that starts with a digit, and the rest of the text.  A zero in front
makes the base eight, and an `x` behind it makes it sixteen. -/
def readNumber (cs : List Char) : Nat × List Char :=
  match cs with
  | '0' :: x :: d :: rest =>
    if (x = 'x' ∨ x = 'X') ∧ (digitIn 16 d).isSome then readDigitsIn 16 (d :: rest)
    else readDigitsIn 8 cs
  | '0' :: _ => readDigitsIn 8 cs
  | _ => readDigitsIn 10 cs

/-- A blank around a number. -/
def isSpace (c : Char) : Bool :=
  c == ' ' || (9 ≤ c.toNat && c.toNat ≤ 13)

/-- The number that the value of a variable stands for; no value at all is zero. -/
def numberOf (value : String) : Option Int :=
  let (sign, digits) :=
    match value.toList.dropWhile isSpace with
    | '-' :: cs => ((-1 : Int), cs)
    | '+' :: cs => (1, cs)
    | cs => (1, cs)
  if value = "" then some 0
  else if digits.head?.any Char.isDigit then
    let (n, rest) := readNumber digits
    if rest.all isSpace ∧ n ≤ greatestNumber then some (sign * n) else none
  else none

/-! ### Expressions -/

/-- An expression. -/
inductive Expression where
  /-- A number. -/
  | number (n : Int)
  /-- The number in a variable. -/
  | named (name : String)
  /-- Sets a variable, perhaps to what an operator makes of its number and another. -/
  | assign (name operator : String) (value : Expression)
  /-- A sign in front of an expression. -/
  | signed (sign : String) (e : Expression)
  /-- An operator between two expressions. -/
  | binary (operator : String) (e f : Expression)
  /-- A choice. -/
  | choice (condition e f : Expression)

/-- A token of an expression. -/
inductive Atom where
  /-- A number. -/
  | number (n : Nat)
  /-- A name. -/
  | name (text : String)
  /-- An operator or a bracket. -/
  | sign (text : String)
  /-- Something that means nothing. -/
  | unknown
deriving DecidableEq

/-- The operators, each before those that it starts with. -/
def signs : List String :=
  ["<<=", ">>=", "<<", ">>", "<=", ">=", "==", "!=", "&&", "||", "*=", "/=", "%=", "+=", "-=", "&=",
    "^=", "|=", "=", "<", ">", "!", "&", "|", "*", "/", "%", "+", "-", "^", "~", "?", ":", "(", ")"]

/-- A character that a name starts with. -/
def startsName (c : Char) : Bool :=
  c.isAlpha || c == '_'

/-- A character of a name. -/
def inName (c : Char) : Bool :=
  c.isAlphanum || c == '_'

/-- At most `bound` tokens of an expression. -/
def atomsFrom : (bound : Nat) → List Char → List Atom
  | 0, _ => []
  | _, [] => []
  | bound + 1, c :: cs =>
    if isSpace c then atomsFrom bound cs
    else if c.isDigit then
      let (n, rest) := readNumber (c :: cs)
      .number (min n greatestNumber) :: atomsFrom bound rest
    else if startsName c then
      .name (String.ofList (c :: cs.takeWhile inName)) :: atomsFrom bound (cs.dropWhile inName)
    else
      match signs.find? fun s => s.toList.isPrefixOf (c :: cs) with
      | some s => .sign s :: atomsFrom bound ((c :: cs).drop s.length)
      | none => .unknown :: atomsFrom bound cs

/-- The tokens of an expression. -/
def atoms (cs : List Char) : List Atom :=
  atomsFrom cs.length cs

/-- How tightly an operator between two expressions binds. -/
def bindingPower (operator : String) : Option Nat :=
  match operator with
  | "||" => some 1
  | "&&" => some 2
  | "|" => some 3
  | "^" => some 4
  | "&" => some 5
  | "==" | "!=" => some 6
  | "<" | "<=" | ">" | ">=" => some 7
  | "<<" | ">>" => some 8
  | "+" | "-" => some 9
  | "*" | "/" | "%" => some 10
  | _ => none

/-- The operator in a sign that sets a variable; plain setting has none. -/
def settingOperator (sign : String) : Option String :=
  if sign = "=" then some ""
  else if sign ∈ ["<<=", ">>=", "*=", "/=", "%=", "+=", "-=", "&=", "^=", "|="] then
    some (String.ofList sign.toList.dropLast)
  else none

/-- What is wrong with an expression that lacks something. -/
def lacking (what : String) {α : Type} : Except String α :=
  .error s!"expecting {what}"

mutual

/-- Reads an expression that sets a variable or decides between two others. -/
def readSetting : (bound : Nat) → List Atom → Except String (Expression × List Atom)
  | 0, _ => lacking "primary"
  | bound + 1, ts =>
    match ts with
    | .name x :: .sign s :: rest =>
      match settingOperator s with
      | some operator => do
        let (e, rest) ← readSetting bound rest
        return (.assign x operator e, rest)
      | none => readChoice bound ts
    | ts => readChoice bound ts

/-- Reads an expression that may decide between two others. -/
def readChoice : (bound : Nat) → List Atom → Except String (Expression × List Atom)
  | 0, _ => lacking "primary"
  | bound + 1, ts => do
    let (condition, ts) ← readBinary bound 1 ts
    match ts with
    | .sign "?" :: ts =>
      let (e, ts) ← readSetting bound ts
      match ts with
      | .sign ":" :: ts =>
        let (f, ts) ← readChoice bound ts
        return (.choice condition e f, ts)
      | _ => lacking "':'"
    | ts => return (condition, ts)

/-- Reads expressions between operators that bind at least so tightly. -/
def readBinary : (bound least : Nat) → List Atom → Except String (Expression × List Atom)
  | 0, _, _ => lacking "primary"
  | bound + 1, least, ts => do
    let (e, ts) ← readPrimary bound ts
    readFurther bound least e ts

/-- Reads on behind an expression as long as operators bind at least so tightly. -/
def readFurther : (bound least : Nat) → Expression → List Atom →
    Except String (Expression × List Atom)
  | 0, _, _, _ => lacking "primary"
  | bound + 1, least, e, ts =>
    match ts with
    | .sign s :: rest =>
      match bindingPower s with
      | some power =>
        if least ≤ power then do
          let (f, rest) ← readBinary bound (power + 1) rest
          readFurther bound least (.binary s e f) rest
        else return (e, ts)
      | none => return (e, ts)
    | ts => return (e, ts)

/-- Reads a number, a variable, or an expression in parentheses or behind a sign. -/
def readPrimary : (bound : Nat) → List Atom → Except String (Expression × List Atom)
  | 0, _ => lacking "primary"
  | bound + 1, ts =>
    match ts with
    | .number n :: ts => return (.number n, ts)
    | .name x :: ts => return (.named x, ts)
    | .sign "(" :: ts => do
      let (e, ts) ← readSetting bound ts
      match ts with
      | .sign ")" :: ts => return (e, ts)
      | _ => lacking "')'"
    | .sign s :: ts =>
      if s ∈ ["+", "-", "!", "~"] then do
        let (e, ts) ← readPrimary bound ts
        return (.signed s e, ts)
      else lacking "primary"
    | _ => lacking "primary"

end

/-- The expression in a text. -/
def readExpression (text : List Char) : Except String Expression := do
  let ts := atoms text
  let (e, rest) ← readSetting (8 * ts.length + 8) ts
  if rest = [] then return e else lacking "EOF"

/-! ### Working out -/

/-- Why an expression comes to no number. -/
inductive ArithmeticFault where
  /-- A division by zero. -/
  | division
  /-- The value of a variable is no number. -/
  | noNumber (value : String)
deriving DecidableEq

/-- One for what holds and zero for what does not. -/
def truth (b : Bool) : Int :=
  if b then 1 else 0

/-- The bits of a number without a sign. -/
def bits (n : Int) : Nat :=
  (Int.emod n (Nat.pow 2 64 : Nat)).toNat

/-- What an operator makes of two numbers. -/
def operate (operator : String) (m n : Int) : Except ArithmeticFault Int :=
  match operator with
  | "|" => .ok (wrapped (Nat.lor (bits m) (bits n)))
  | "^" => .ok (wrapped (Nat.xor (bits m) (bits n)))
  | "&" => .ok (wrapped (Nat.land (bits m) (bits n)))
  | "==" => .ok (truth (m == n))
  | "!=" => .ok (truth (m != n))
  | "<" => .ok (truth (m < n))
  | "<=" => .ok (truth (m ≤ n))
  | ">" => .ok (truth (m > n))
  | ">=" => .ok (truth (m ≥ n))
  | "<<" => .ok (wrapped (m * Nat.pow 2 (bits n % 64)))
  | ">>" => .ok (Int.fdiv m (Nat.pow 2 (bits n % 64) : Nat))
  | "+" => .ok (wrapped (m + n))
  | "-" => .ok (wrapped (m - n))
  | "*" => .ok (wrapped (m * n))
  | "/" => if n = 0 then .error .division else .ok (wrapped (Int.tdiv m n))
  | "%" => if n = 0 then .error .division else .ok (Int.tmod m n)
  | _ => .ok n

/-- What a sign makes of a number. -/
def applySign (sign : String) (n : Int) : Int :=
  match sign with
  | "-" => wrapped (-n)
  | "!" => truth (n == 0)
  | "~" => -n - 1
  | _ => n

/-- Variables that have been set to numbers, the latest first. -/
abbrev Numbers : Type :=
  List (String × Int)

/-- The number in a variable. -/
def lookUp (value : String → String) (set : Numbers) (name : String) :
    Except ArithmeticFault Int :=
  match set.find? fun v => v.1 == name with
  | some v => .ok v.2
  | none =>
    match numberOf (value name) with
    | some n => .ok n
    | none => .error (.noNumber (value name))

/-- The number that an expression comes to, with the variables set before and by it. -/
def Expression.work (value : String → String) : Numbers → Expression →
    Except ArithmeticFault (Int × Numbers)
  | set, number n => .ok (n, set)
  | set, named name => do return (← lookUp value set name, set)
  | set, assign name operator e => do
    let (n, set) ← e.work value set
    let n ← if operator = "" then pure n else operate operator (← lookUp value set name) n
    return (n, (name, n) :: set)
  | set, signed sign e => do
    let (n, set) ← e.work value set
    return (applySign sign n, set)
  | set, binary operator e f => do
    let (m, set) ← e.work value set
    if operator = "&&" ∧ m = 0 then return (0, set)
    else if operator = "||" ∧ m ≠ 0 then return (1, set)
    else
      let (n, set) ← f.work value set
      if operator = "&&" ∨ operator = "||" then return (truth (n != 0), set)
      else return (← operate operator m n, set)
  | set, choice condition e f => do
    let (n, set) ← condition.work value set
    if n ≠ 0 then e.work value set else f.work value set

end CodePermit.Shell
