/-!
# Natural numbers in text

An unsigned number is written as an optional plus sign and at least one ASCII digit; leading
zeros are allowed and the value has to stay below a bound.

* `digitsValue` — the value of a string of digits;
* `readNatural` — the number a text stands for, if it is one;
* `readBelow` — the same under a bound, with `readUInt32` and `readUInt64` for machine words.
-/

namespace CodePermit.Text

/-- The value of an ASCII digit. -/
def digitValue (c : Char) : Nat :=
  c.toNat - '0'.toNat

/-- The value of a string of decimal digits, most significant first. -/
def digitsValue (ds : List Char) : Nat :=
  ds.foldl (fun n d => 10 * n + digitValue d) 0

/-- The number written by decimal digits alone. -/
def readDigits (ds : List Char) : Option Nat :=
  if ds ≠ [] ∧ ds.all Char.isDigit = true then some (digitsValue ds) else none

/-- The number written by an optional plus sign and decimal digits. -/
def readNatural : List Char → Option Nat
  | '+' :: ds => readDigits ds
  | ds => readDigits ds

/-- The number a text stands for, if it is below `bound`. -/
def readBelow (bound : Nat) (cs : List Char) : Option Nat :=
  (readNatural cs).filter (· < bound)

/-- A 32-bit unsigned number. -/
def readUInt32 (cs : List Char) : Option UInt32 :=
  (readBelow UInt32.size cs).map UInt32.ofNat

/-- A 64-bit unsigned number. -/
def readUInt64 (cs : List Char) : Option UInt64 :=
  (readBelow UInt64.size cs).map UInt64.ofNat

theorem readDigits_eq_some_iff {ds : List Char} {n : Nat} :
    readDigits ds = some n ↔
      ds ≠ [] ∧ ds.all Char.isDigit = true ∧ digitsValue ds = n := by
  simp only [readDigits]
  split
  · rename_i h
    simp [h.1]
    intro _
    simpa using h.2
  · rename_i h
    constructor
    · intro hn
      cases hn
    · intro hn
      exact absurd ⟨hn.1, hn.2.1⟩ h

end CodePermit.Text
