import CodePermit.Text.Decimal
/-!
# JSON values

* `Json` — a JSON value; an object keeps its members in order and may repeat a name;
* `Json.member?`, `Json.members` — the members of an object by name.
-/

namespace CodePermit

/-- A JSON value. -/
inductive Json where
  /-- The null value. -/
  | null
  /-- A truth value. -/
  | bool (value : Bool)
  /-- A number. -/
  | number (value : Decimal)
  /-- A text. -/
  | string (value : String)
  /-- An array. -/
  | array (elements : List Json)
  /-- An object with its members in order. -/
  | object (members : List (String × Json))

namespace Json

/-- A natural number as a JSON value. -/
def ofNat (n : Nat) : Json :=
  number (.ofNat n)

/-- The values of the members of an object that have a name, in order. -/
def members : Json → String → List Json
  | object fields, name => (fields.filter fun f => f.1 == name).map Prod.snd
  | _, _ => []

/-- The first member of an object with a name. -/
def member? (j : Json) (name : String) : Option Json :=
  (j.members name).head?

/-- The text that a value is. -/
def text? : Json → Option String
  | string s => some s
  | _ => none

end Json

end CodePermit
