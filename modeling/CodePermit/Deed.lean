import CodePermit.FileTree
/-!
# Deeds of programs

A program that has been started may outlive the exchange for which it was started.  What it does
to its surroundings is kept as its agenda: its deeds, each at a moment in milliseconds.  The files
around it change when the moments come.

* `Deed`, `Agenda` — what a program does, and when;
* `FileTree.perform` — the files after a deed;
* `Agenda.during` — the deeds between two moments;
* `Agenda.quiet` — an agenda that ends where the program would be heard.
-/

namespace CodePermit

/-- What a program does to its surroundings. -/
inductive Deed where
  /-- It writes to its standard output or to its standard error. -/
  | speak (toErrors : Bool) (bytes : List UInt8)
  /-- It makes a file empty, which is there from then on. -/
  | empty (place : Place)
  /-- It writes to the end of a file. -/
  | append (place : Place) (bytes : List UInt8)
deriving DecidableEq

/-- The deeds of a program with their moments, in order. -/
abbrev Agenda : Type :=
  List (Nat × Deed)

/-- Whether a deed is heard by whoever started the program. -/
def Deed.isHeard : Deed → Bool
  | speak _ _ => true
  | _ => false

/-- The bytes that a deed writes to one of the two outputs. -/
def Deed.spoken (toErrors : Bool) : Deed → List UInt8
  | speak e bytes => if e = toErrors then bytes else []
  | _ => []

/-- The files after a deed. -/
def FileTree.perform (t : FileTree) : Deed → FileTree
  | .speak _ _ => t
  | .empty place => t.fill place []
  | .append place bytes => t.fill place (t.contentAt place ++ bytes)

namespace Agenda

/-- The deeds after a moment up to another one. -/
def during (c : Agenda) (start stop : Nat) : Agenda :=
  c.filter fun d => start < d.1 && d.1 ≤ stop

/-- The deeds of several agendas in the order of their moments. -/
def merged (cs : List Agenda) : Agenda :=
  cs.flatten.mergeSort fun d e => d.1 ≤ e.1

/-- The files after all deeds of an agenda. -/
def performOn (c : Agenda) (t : FileTree) : FileTree :=
  c.foldl (fun t d => t.perform d.2) t

/-- An agenda whose outputs are closed after a moment: what comes later ends with the first deed
that would be heard. -/
def quiet (c : Agenda) (moment : Nat) : Agenda :=
  c.takeWhile fun d => d.1 ≤ moment || !d.2.isHeard

/-- What an agenda writes to one of the two outputs. -/
def spoken (c : Agenda) (toErrors : Bool) : List UInt8 :=
  c.flatMap fun d => d.2.spoken toErrors

end Agenda

end CodePermit
