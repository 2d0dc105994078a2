/-!
# Lines

A text splits into lines at line feeds; a carriage return right before a line feed, or none at
all, belongs to the line end, and a final line end opens no further line.

* `splitOn` — the pieces of a text between the occurrences of one character;
* `lines` — the lines of a text.
-/

namespace CodePermit.Text

/-! ### Splitting at one character -/

/-- The pieces of a text between the occurrences of `sep`; there is always at least one. -/
def splitOn (sep : Char) : List Char → List (List Char)
  | [] => [[]]
  | c :: cs =>
    if c = sep then [] :: splitOn sep cs
    else
      match splitOn sep cs with
      | [] => [[c]]
      | piece :: pieces => (c :: piece) :: pieces

/-! ### Lines of a text -/

/-- A line without the carriage return that ends it. -/
def chomp (line : List Char) : List Char :=
  if line.getLast? = some '\r' then line.dropLast else line

/-- The lines among the pieces between line feeds: the last piece is a line only if it holds
something, and only the pieces closed by a line feed lose a carriage return. -/
def closedLines : List (List Char) → List (List Char)
  | [] => []
  | [last] => if last = [] then [] else [last]
  | closed :: pieces => chomp closed :: closedLines pieces

/-- The lines of a text, without their ends. -/
def lines (cs : List Char) : List (List Char) :=
  closedLines (splitOn '\n' cs)

end CodePermit.Text
