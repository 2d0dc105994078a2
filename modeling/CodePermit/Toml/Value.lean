/-!
# TOML values

* `Toml` — a TOML value; a table keeps its keys in the order in which they appeared;
* `Toml.lookup` — the value of a key of a table;
* `Toml.isHeld` — values in which every number can be held.
-/

namespace CodePermit

/-- A TOML value. -/
inductive Toml where
  /-- A text. -/
  | string (value : String)
  /-- A whole number. -/
  | integer (value : Int)
  /-- A number with a fraction or an exponent, or one of the special numbers, as written. -/
  | float (literal : String)
  /-- A number that cannot be held, as written: it is too large, or it has a base and no digits. -/
  | unheld (literal : String)
  /-- A truth value. -/
  | boolean (value : Bool)
  /-- A date, a time of day or both, as written. -/
  | moment (literal : String)
  /-- An array. -/
  | array (elements : List Toml)
  /-- A table. -/
  | table (fields : List (String × Toml))

namespace Toml

/-- The value of a key in the fields of a table. -/
def lookup (fields : List (String × Toml)) (key : String) : Option Toml :=
  (fields.find? fun f => f.1 == key).map Prod.snd

mutual

/-- Every number in a value can be held. -/
def isHeld : Toml → Bool
  | .unheld _ => false
  | .array elements => areHeld elements
  | .table fields => fieldsAreHeld fields
  | _ => true

/-- Every number in the elements of an array can be held. -/
def areHeld : List Toml → Bool
  | [] => true
  | v :: vs => v.isHeld && areHeld vs

/-- Every number in the fields of a table can be held. -/
def fieldsAreHeld : List (String × Toml) → Bool
  | [] => true
  | (_, v) :: fs => v.isHeld && fieldsAreHeld fs

end

end Toml

end CodePermit
