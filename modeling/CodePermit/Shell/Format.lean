import CodePermit.Shell.Arithmetic
import CodePermit.Text.Encoding
/-!
# Formatted output of the shell

What is printed may hold escapes behind backslashes, which stand for single bytes, and a format
may hold places that are filled from arguments and is used again as long as arguments are left.

* `unescape` — the bytes of a text with escapes;
* `echoed` — the line that prints words;
* `Formatted`, `formatted` — a format filled from arguments.
-/

namespace CodePermit.Shell

/-! ### Escapes -/

/-- A digit in base eight. -/
def isOctal (c : Char) : Bool :=
  c.isDigit && c < '8'

/-- The byte that octal digits stand for. -/
def octalByte (ds : List Char) : UInt8 :=
  (ds.foldl (fun n d => 8 * n + Text.digitValue d) 0).toUInt8

/-- The number of the character that a one-letter escape stands for. -/
def escapeCode (c : Char) : Option UInt8 :=
  if c = 'a' then some 7
  else if c = 'b' then some 8
  else if c = 't' then some 9
  else if c = 'n' then some 10
  else if c = 'v' then some 11
  else if c = 'f' then some 12
  else if c = 'r' then some 13
  else if c = 'e' then some 27
  else if c = '\\' then some 92
  else none

/-- The bytes of an escape and the text behind it; an escape that means nothing stands for
itself.  Octal digits are up to three, behind a zero that does not count or not. -/
def readEscape (zero : Bool) (cs : List Char) : List UInt8 × List Char :=
  let digits := (cs.takeWhile isOctal).take (if zero && cs.head? = some '0' then 4 else 3)
  if digits ≠ [] then ([octalByte digits], cs.drop digits.length)
  else
    match cs with
    | c :: rest =>
      match escapeCode c with
      | some byte => ([byte], rest)
      | none => (Text.encode ['\\', c], rest)
    | [] => (Text.encodeChar '\\', [])

/-- The bytes of a text with escapes, of which at most `bound` characters are read, and whether the
output ends with it. -/
def unescapeFrom : (bound : Nat) → List Char → List UInt8 × Bool
  | 0, _ => ([], false)
  | _ + 1, [] => ([], false)
  | _ + 1, '\\' :: 'c' :: _ => ([], true)
  | bound + 1, c :: cs =>
    let (bytes, rest) := if c = '\\' then readEscape true cs else (Text.encodeChar c, cs)
    let (more, ended) := unescapeFrom bound rest
    (bytes ++ more, ended)

/-- The bytes of a text with escapes, and whether the output ends with it. -/
def unescape (text : String) : List UInt8 × Bool :=
  unescapeFrom text.length.succ text.toList

/-- The line that prints words. -/
def echoed (words : List String) : List UInt8 :=
  let (words, lineEnd) :=
    match words with
    | "-n" :: words => (words, [])
    | words => (words, Text.encodeChar '\n')
  let (bytes, ended) := unescape (" ".intercalate words)
  if ended then bytes else bytes ++ lineEnd

/-! ### Formats -/

/-- What a format comes to. -/
structure Formatted where
  /-- The bytes. -/
  bytes : List UInt8 := []
  /-- What is wrong with the arguments and the format. -/
  complaints : List String := []
  /-- The code with which printing ends. -/
  status : Nat := 0
  /-- Nothing is printed after it. -/
  ended : Bool := false

/-- One piece of output behind another. -/
def Formatted.append (f g : Formatted) : Formatted :=
  { g with
    bytes := f.bytes ++ g.bytes
    complaints := f.complaints ++ g.complaints
    status := Nat.max f.status g.status }

/-- A format that cannot be used. -/
def unformattable (complaint : String) : Formatted :=
  { complaints := [complaint], status := 2, ended := true }

/-- A place in a format. -/
structure Slot where
  /-- It starts with what is put between the sign for places and its kind. -/
  signs : List Char := []
  /-- The least number of characters. -/
  width : Nat := 0
  /-- The number of digits, or the greatest number of characters. -/
  precision : Option Nat := none
  /-- What is printed. -/
  kind : Char := 's'

/-- The characters stand to the left. -/
def Slot.isLeft (p : Slot) : Bool :=
  p.signs.contains '-'

/-- A text filled up to the width of a place. -/
def Slot.fill (p : Slot) (cs : List Char) : List Char :=
  let blanks := List.replicate (p.width - cs.length) ' '
  if p.isLeft then cs ++ blanks else blanks ++ cs

/-- A text at a place. -/
def Slot.text (p : Slot) (cs : List Char) : List Char :=
  p.fill (cs.take (p.precision.getD cs.length))

/-- The digits of a number in a base. -/
def Slot.digits (p : Slot) (n : Nat) : List Char :=
  let digits :=
    if p.kind = 'x' then Nat.toDigits 16 n
    else if p.kind = 'X' then (Nat.toDigits 16 n).map Char.toUpper
    else if p.kind = 'o' then Nat.toDigits 8 n
    else Nat.toDigits 10 n
  let digits := if n = 0 && p.precision = some 0 then [] else digits
  List.replicate (p.precision.getD 0 - digits.length) '0' ++ digits

/-- What stands in front of the digits of a number. -/
def Slot.front (p : Slot) (isNegative : Bool) (n : Nat) (digits : List Char) : List Char :=
  if p.kind = 'd' then
    if isNegative then ['-']
    else if p.signs.contains '+' then ['+']
    else if p.signs.contains ' ' then [' ']
    else []
  else if !p.signs.contains '#' then []
  else if p.kind = 'o' then (if digits.head? = some '0' then [] else ['0'])
  else if p.kind = 'u' || n = 0 then []
  else ['0', p.kind]

/-- A number at a place. -/
def Slot.number (p : Slot) (n : Int) : List Char :=
  let magnitude := if p.kind = 'd' then n.natAbs else bits n
  let digits := p.digits magnitude
  let front := p.front (n < 0) magnitude digits
  if p.signs.contains '0' && !p.isLeft && p.precision.isNone then
    front ++ List.replicate (p.width - front.length - digits.length) '0' ++ digits
  else p.fill (front ++ digits)

/-- An argument as a whole number, and what is wrong with it. -/
def argumentNumber (isSigned : Bool) (argument : String) : Int × Option String :=
  match argument.toList with
  | '"' :: cs | '\'' :: cs => ((cs.head?.map fun c => (c.toNat : Int)).getD 0, none)
  | cs =>
    let (sign, digits) :=
      match cs.dropWhile isSpace with
      | '-' :: cs => ((-1 : Int), cs)
      | '+' :: cs => (1, cs)
      | cs => (1, cs)
    if cs = [] then (0, none)
    else if !digits.head?.any Char.isDigit then (0, some s!"{argument}: expected numeric value")
    else
      let (n, rest) := readNumber digits
      let high := if isSigned then (greatestNumber : Int) else Nat.pow 2 64 - 1
      let low := if isSigned then -high - 1 else -high
      let value := sign * n
      if value < low || high < value then
        (if isSigned then (if value < low then low else high) else high,
          some s!"{argument}: Numerical result out of range")
      else (value, if rest = [] then none else some s!"{argument}: not completely converted")

/-- An argument at a place. -/
def formattedAt (p : Slot) (argument : String) : Formatted :=
  let numeric (p : Slot) : Formatted :=
    let (n, complaint) := argumentNumber (p.kind = 'd') argument
    { bytes := Text.encode (p.number n)
      complaints := complaint.toList
      status := if complaint.isSome then 1 else 0 }
  match p.kind with
  | 's' => { bytes := Text.encode (p.text argument.toList) }
  | 'c' => { bytes := Text.encode (p.fill [argument.toList.headD (Char.ofNat 0)]) }
  | 'b' =>
    let (bytes, ended) := unescape argument
    let bytes := bytes.take (p.precision.getD bytes.length)
    let blanks := Text.encode (List.replicate (p.width - bytes.length) ' ')
    { bytes := if p.isLeft then bytes ++ blanks else blanks ++ bytes, ended := ended }
  | 'i' => numeric { p with kind := 'd' }
  | _ => numeric p

/-- A width or a precision: digits, or a star for which an argument is taken; with the text and
the arguments behind it. -/
def readMeasure (cs : List Char) (arguments : List String) :
    Option Int × List Char × List String :=
  match cs with
  | '*' :: cs => (some (argumentNumber true (arguments.headD "")).1, cs, arguments.tail)
  | cs =>
    let digits := cs.takeWhile Char.isDigit
    (if digits = [] then none else some (Text.digitsValue digits), cs.drop digits.length,
      arguments)

/-- The place behind its sign, with the text and the arguments behind it. -/
def readSlot (cs : List Char) (arguments : List String) : Slot × List Char × List String :=
  let signs := cs.takeWhile fun c => ['#', '-', '+', ' ', '0'].contains c
  let (width, cs, arguments) := readMeasure (cs.drop signs.length) arguments
  let signs := if width.any (· < 0) then '-' :: signs else signs
  let (precision, cs, arguments) :=
    match cs with
    | '.' :: cs =>
      let (precision, cs, arguments) := readMeasure cs arguments
      (some (precision.getD 0), cs, arguments)
    | cs => (none, cs, arguments)
  let slot : Slot :=
    { signs := signs
      width := (width.getD 0).natAbs
      precision := (precision.filter fun n => 0 ≤ n).map Int.toNat
      kind := cs.headD ' ' }
  (slot, cs.tail, arguments)

/-- The kinds of places. -/
def slotKinds : List Char :=
  ['s', 'c', 'b', 'd', 'i', 'o', 'u', 'x', 'X']

/-- A format filled once from arguments, of which at most `bound` characters are read, and the
arguments left. -/
def formatOnce : (bound : Nat) → List Char → List String → Formatted × List String
  | 0, _, arguments => ({}, arguments)
  | _ + 1, [], arguments => ({}, arguments)
  | bound + 1, '%' :: '%' :: cs, arguments =>
    let (rest, arguments) := formatOnce bound cs arguments
    (Formatted.append { bytes := Text.encodeChar '%' } rest, arguments)
  | bound + 1, '%' :: cs, arguments =>
    let (slot, rest, arguments) := readSlot cs arguments
    if slotKinds.contains slot.kind then
      let f := formattedAt slot (arguments.headD "")
      if f.ended then (f, [])
      else
        let (g, arguments) := formatOnce bound rest arguments.tail
        (f.append g, arguments)
    else
      let place := String.ofList ('%' :: cs.take (cs.length - rest.length))
      let isOpen := rest = [] && !cs.getLast?.any (fun c => c = slot.kind)
      (unformattable
        (if isOpen then "missing format character" else s!"{place}: invalid directive"), [])
  | bound + 1, c :: cs, arguments =>
    let (bytes, cs) := if c = '\\' then readEscape false cs else (Text.encodeChar c, cs)
    let (rest, arguments) := formatOnce bound cs arguments
    (Formatted.append { bytes := bytes } rest, arguments)

/-- A format filled again and again, at most `bound` times, as long as it uses up arguments. -/
def formatAll : (bound : Nat) → (format : String) → List String → Formatted
  | 0, _, _ => {}
  | bound + 1, format, arguments =>
    let (f, left) := formatOnce format.length.succ format.toList arguments
    if f.ended ∨ left = [] ∨ left.length = arguments.length then f
    else f.append (formatAll bound format left)

/-- A format filled from arguments. -/
def formatted (format : String) (arguments : List String) : Formatted :=
  formatAll arguments.length.succ format arguments

end CodePermit.Shell
