import CodePermit.Text.Extending
import CodePermit.Text.Unseen
/-!
# Quoted text

A text shown inside a message is put between double quotes.  Quotes, backslashes and what cannot
be seen on its own are written as escapes, so that a message stays on one line.

* `isVisible` — characters shown as they are;
* `quoted` — the quoted form of a text.
-/

namespace CodePermit.Text

/-- A character shown as it is: it stands on its own and can be seen. -/
def isVisible (c : Char) : Bool :=
  !isExtending c && !isUnseen c

/-- The escape of a character by its number in hexadecimal. -/
def numberEscape (c : Char) : List Char :=
  "\\u\x7b".toList ++ Nat.toDigits 16 c.toNat ++ ['}']

/-- A character as it stands inside a quoted text. -/
def quotedChar (c : Char) : List Char :=
  if c = '\n' then ['\\', 'n']
  else if c = '\r' then ['\\', 'r']
  else if c = '\t' then ['\\', 't']
  else if c = Char.ofNat 0 then ['\\', '0']
  else if c = '"' then ['\\', '"']
  else if c = '\\' then ['\\', '\\']
  else if isVisible c then [c]
  else numberEscape c

/-- A text between double quotes, on one line. -/
def quoted (s : String) : String :=
  String.ofList ('"' :: s.toList.flatMap quotedChar ++ ['"'])

end CodePermit.Text
