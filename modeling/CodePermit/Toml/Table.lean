import CodePermit.Toml.Value
/-!
# Building tables

A document builds its tables piece by piece.  A header opens a table, a doubled header adds a
table to an array, and a dotted key reaches into tables that dotted keys made.  What is written as
a value is closed, and nothing is defined twice.

* `Toml.Node` — a value or a table under construction;
* `Toml.insert` — a value under a dotted key;
* `Toml.declare`, `Toml.extend` — a header and a doubled header;
* `Toml.inTable` — a change made in the table that a header has opened;
* `Toml.close` — the finished fields.
-/

namespace CodePermit.Toml

/-- How a table came about. -/
inductive Origin where
  /-- A header names it. -/
  | header
  /-- A header names a table inside it. -/
  | implied
  /-- A dotted key leads through it. -/
  | dotted
deriving DecidableEq

/-- A value, a table or an array of tables under construction. -/
inductive Node where
  /-- A value that is closed. -/
  | leaf (value : Toml)
  /-- A table. -/
  | branch (origin : Origin) (fields : List (String × Node))
  /-- An array of tables; the last one is open. -/
  | series (tables : List (List (String × Node)))

/-- The fields of a table under construction. -/
abbrev Fields : Type :=
  List (String × Node)

/-- The node of a key. -/
def Fields.get? (fields : Fields) (key : String) : Option Node :=
  (fields.find? fun f => f.1 == key).map Prod.snd

/-- The fields with another node for a key that is there. -/
def Fields.set (fields : Fields) (key : String) (node : Node) : Fields :=
  fields.map fun f => if f.1 == key then (key, node) else f

/-- Adds a key that is not there yet. -/
def Fields.add (fields : Fields) (key : String) (node : Node) : Option Fields :=
  match fields.get? key with
  | none => some (fields ++ [(key, node)])
  | some _ => none

/-- A value under a dotted key.  Tables on the way are made if they are missing; the last one has
to have been made by dotted keys, and none of them by a header.  The last table of an array stands
for the array on the way, and no value is put right into it. -/
def insert (value : Toml) : (path : List String) → Fields → Option Fields
  | [], _ => none
  | [key], fields => fields.add key (.leaf value)
  | key :: path, fields =>
    match fields.get? key with
    | none => (insert value path []).bind fun sub => fields.add key (.branch .dotted sub)
    | some (.branch origin sub) =>
      if origin = .header ∨ (path.length = 1 ∧ origin ≠ .dotted) then none
      else (insert value path sub).map fun sub => fields.set key (.branch origin sub)
    | some (.series tables) =>
      match path, tables.getLast? with
      | _ :: _ :: _, some last =>
        (insert value path last).map fun last =>
          fields.set key (.series (tables.dropLast ++ [last]))
      | _, _ => none
    | some (.leaf _) => none

/-- Makes a change in the table at a path of headers; tables on the way are made if they are
missing, and the last table of an array stands for the array. -/
def inTable (change : Fields → Option Fields) : (path : List String) → Fields → Option Fields
  | [], fields => change fields
  | key :: path, fields =>
    match fields.get? key with
    | none => (inTable change path []).bind fun sub => fields.add key (.branch .implied sub)
    | some (.leaf _) => none
    | some (.branch origin sub) =>
      (inTable change path sub).map fun sub => fields.set key (.branch origin sub)
    | some (.series tables) =>
      match tables.getLast? with
      | none => none
      | some last =>
        (inTable change path last).map fun last =>
          fields.set key (.series (tables.dropLast ++ [last]))

/-- Opens the table of a header; a table that was only implied may still be opened. -/
def openTable (key : String) (fields : Fields) : Option Fields :=
  match fields.get? key with
  | none => fields.add key (.branch .header [])
  | some (.branch .implied sub) => some (fields.set key (.branch .header sub))
  | some _ => none

/-- Adds a table to the array of a doubled header. -/
def openElement (key : String) (fields : Fields) : Option Fields :=
  match fields.get? key with
  | none => fields.add key (.series [[]])
  | some (.series tables) => some (fields.set key (.series (tables ++ [[]])))
  | some _ => none

/-- A header: everything but its last key is the way to the table that holds it. -/
def declare (path : List String) (fields : Fields) : Option Fields :=
  match path.getLast? with
  | some key => inTable (openTable key) path.dropLast fields
  | none => none

/-- A doubled header. -/
def extend (path : List String) (fields : Fields) : Option Fields :=
  match path.getLast? with
  | some key => inTable (openElement key) path.dropLast fields
  | none => none

mutual

/-- The value of a node. -/
def Node.close : Node → Toml
  | .leaf value => value
  | .branch _ fields => .table (closeFields fields)
  | .series tables => .array (closeTables tables)

/-- The values of the fields of a table. -/
def closeFields : List (String × Node) → List (String × Toml)
  | [] => []
  | (key, node) :: rest => (key, node.close) :: closeFields rest

/-- The values of the tables of an array. -/
def closeTables : List (List (String × Node)) → List Toml
  | [] => []
  | fields :: rest => .table (closeFields fields) :: closeTables rest

end

end CodePermit.Toml
