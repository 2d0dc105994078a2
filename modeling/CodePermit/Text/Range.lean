/-!
# Ranges of characters

A property of characters is a table of the ranges of code points that have it.

* `Ranges` — a table;
* `Ranges.has` — whether a character has the property.
-/

namespace CodePermit.Text

/-- Ranges of code points, each given by its first and its last one. -/
abbrev Ranges : Type :=
  List (Nat × Nat)

namespace Ranges

/-- A character lies in one of the ranges. -/
def has (ranges : Ranges) (c : Char) : Bool :=
  ranges.any fun r => r.1 ≤ c.toNat && c.toNat ≤ r.2

end Ranges

end CodePermit.Text
