/-!
# Decimal numbers

A decimal number is a whole mantissa times a power of ten.  Formats that keep numbers as double
floats refuse the decimals that round to infinity.

* `Decimal` — a decimal number;
* `Decimal.overflows` — the decimals too large for a double float;
* `Decimal.overflowsByFactors` — the same if mantissa and power are rounded first.
-/

namespace CodePermit

/-- The number `mantissa * 10 ^ exponent`. -/
structure Decimal where
  /-- The digits, with their sign. -/
  mantissa : Int
  /-- The power of ten. -/
  exponent : Int := 0
deriving DecidableEq

namespace Decimal

/-- A whole number. -/
def ofNat (n : Nat) : Decimal :=
  ⟨n, 0⟩

/-- The natural number that a decimal is, if it is written as one. -/
def toNat? (d : Decimal) : Option Nat :=
  if 0 ≤ d.mantissa ∧ d.exponent = 0 then some d.mantissa.toNat else none

/-- The least value that rounds to infinity: half a unit in the last place beyond the greatest
finite double float. -/
def doubleBound : Nat :=
  Nat.pow 2 1024 - Nat.pow 2 970

/-- A decimal too large for a double float.  Far from the bound the number of digits decides, near
it the exact value. -/
def overflows (d : Decimal) : Bool :=
  let m := d.mantissa.natAbs
  if m = 0 then false
  else
    let size : Int := (Nat.toDigits 10 m).length + d.exponent
    if 310 < size then true
    else if size < 300 then false
    else if 0 ≤ d.exponent then doubleBound ≤ m * Nat.pow 10 d.exponent.toNat
    else doubleBound * Nat.pow 10 (-d.exponent).toNat ≤ m

/-- The nearest natural number with at most 53 binary digits that count; a tie goes to the one with
an even last digit. -/
def toDouble (n : Nat) : Nat :=
  let unit := Nat.pow 2 (n.log2 - 52)
  let digits := n / unit
  let rest := n % unit
  let up := unit < 2 * rest ∨ (2 * rest = unit ∧ digits % 2 = 1)
  (if up then digits + 1 else digits) * unit

/-- The greatest power of ten among the double floats. -/
def greatestPower : Nat := 308

/-- A decimal too large for a double float if the mantissa and the power of ten become double
floats before they are multiplied. -/
def overflowsByFactors (d : Decimal) : Bool :=
  let m := d.mantissa.natAbs
  if m = 0 ∨ d.exponent ≤ 0 then false
  else if greatestPower < d.exponent then true
  else doubleBound ≤ toDouble m * toDouble (Nat.pow 10 d.exponent.toNat)

end Decimal

end CodePermit
