import CodePermit.Json.Value
/-!
# Writing JSON

* `Json.write` — the text of a value on one line, without white space;
* `Json.writeIndented` — the text of a value with one element or member on each line, indented by
  two blanks a level.
-/

namespace CodePermit.Json

/-- A hexadecimal digit. -/
def hexDigit (n : Nat) : Char :=
  if n < 10 then Char.ofNat ('0'.toNat + n) else Char.ofNat ('a'.toNat + (n - 10))

/-- A character as it stands inside a string: quotes, backslashes and control characters are
escaped. -/
def writeChar (c : Char) : List Char :=
  if c = '"' then ['\\', '"']
  else if c = '\\' then ['\\', '\\']
  else if c = '\n' then ['\\', 'n']
  else if c = '\r' then ['\\', 'r']
  else if c = '\t' then ['\\', 't']
  else if c.toNat = 8 then ['\\', 'b']
  else if c.toNat = 12 then ['\\', 'f']
  else if c.toNat < 0x20 then
    ['\\', 'u', '0', '0', hexDigit (c.toNat / 16), hexDigit (c.toNat % 16)]
  else [c]

/-- A string between quotes. -/
def writeString (s : String) : List Char :=
  '"' :: s.toList.flatMap writeChar ++ ['"']

/-- A number: its digits, and its power of ten unless that is zero. -/
def writeNumber (d : Decimal) : List Char :=
  (toString d.mantissa).toList
    ++ if d.exponent = 0 then [] else 'e' :: (toString d.exponent).toList

/-- Texts separated by a text. -/
def joinWith (separator : List Char) : List (List Char) → List Char
  | [] => []
  | [t] => t
  | t :: ts => t ++ separator ++ joinWith separator ts

mutual

/-- The text of a value on one line. -/
def write : Json → List Char
  | null => "null".toList
  | bool true => "true".toList
  | bool false => "false".toList
  | number d => writeNumber d
  | string s => writeString s
  | array elements => '[' :: joinWith [','] (writeElements elements) ++ [']']
  | object fields => '{' :: joinWith [','] (writeMembers fields) ++ ['}']

/-- The texts of the elements of an array. -/
def writeElements : List Json → List (List Char)
  | [] => []
  | j :: js => write j :: writeElements js

/-- The texts of the members of an object. -/
def writeMembers : List (String × Json) → List (List Char)
  | [] => []
  | (name, j) :: rest => (writeString name ++ ':' :: write j) :: writeMembers rest

end

/-- A new line indented to a level. -/
def newline (level : Nat) : List Char :=
  '\n' :: List.replicate (2 * level) ' '

mutual

/-- The text of a value that stands at a level, over several lines. -/
def writeAt (level : Nat) : Json → List Char
  | array [] => "[]".toList
  | array (j :: js) =>
    '[' :: newline (level + 1)
      ++ joinWith (',' :: newline (level + 1)) (writeElementsAt (level + 1) (j :: js))
      ++ newline level ++ [']']
  | object [] => ['{', '}']
  | object (m :: ms) =>
    '{' :: newline (level + 1)
      ++ joinWith (',' :: newline (level + 1)) (writeMembersAt (level + 1) (m :: ms))
      ++ newline level ++ ['}']
  | null => "null".toList
  | bool true => "true".toList
  | bool false => "false".toList
  | number d => writeNumber d
  | string s => writeString s

/-- The texts of the elements of an array at a level. -/
def writeElementsAt (level : Nat) : List Json → List (List Char)
  | [] => []
  | j :: js => writeAt level j :: writeElementsAt level js

/-- The texts of the members of an object at a level. -/
def writeMembersAt (level : Nat) : List (String × Json) → List (List Char)
  | [] => []
  | (name, j) :: rest =>
    (writeString name ++ ':' :: ' ' :: writeAt level j) :: writeMembersAt level rest

end

/-- The text of a value over several lines. -/
def writeIndented (j : Json) : List Char :=
  writeAt 0 j

end CodePermit.Json
