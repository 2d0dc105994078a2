import CodePermit.Text.Blank
import CodePermit.Text.Line
import CodePermit.Text.Natural
/-!
# Versions of the operating system

A version has three numbers and is compared from the left.  Its text has one to three numbers
separated by dots, blanks around it are ignored, and the numbers left out are zero.

* `Version` — a version, ordered lexicographically;
* `Version.text` — the full text of a version;
* `Version.read` — the version of a text, or why it is none.
-/

namespace CodePermit

/-- A version of the operating system. -/
structure Version where
  /-- The leading number. -/
  major : UInt64
  /-- The middle number. -/
  minor : UInt64
  /-- The last number. -/
  patch : UInt64
deriving DecidableEq

namespace Version

/-! ### Order -/

/-- The numbers of a version, most significant first. -/
def key (v : Version) : Nat × Nat × Nat :=
  (v.major.toNat, v.minor.toNat, v.patch.toNat)

/-- Versions are compared number by number, from the left. -/
def order (v w : Version) : Ordering :=
  (compare v.major.toNat w.major.toNat).then
    ((compare v.minor.toNat w.minor.toNat).then (compare v.patch.toNat w.patch.toNat))

instance : Ord Version := ⟨order⟩

/-- One version lies strictly below another. -/
def below (v w : Version) : Bool :=
  order v w == .lt

theorem below_iff {v w : Version} :
    below v w = true ↔
      v.major.toNat < w.major.toNat ∨
        v.major.toNat = w.major.toNat ∧
          (v.minor.toNat < w.minor.toNat ∨
            v.minor.toNat = w.minor.toNat ∧ v.patch.toNat < w.patch.toNat) := by
  simp [below, order, Ordering.then_eq_lt, Nat.compare_eq_lt]

theorem order_self (v : Version) : order v v = .eq := by
  simp [order]

/-! ### Text -/

/-- The three numbers of a version, separated by dots. -/
def text (v : Version) : String :=
  s!"{v.major.toNat}.{v.minor.toNat}.{v.patch.toNat}"

/-- Why a text is no version; the text is kept as it was given. -/
inductive Fault where
  /-- A component is not a 64-bit number. -/
  | notNumeric (text : String)
  /-- There is a fourth component. -/
  | tooManyComponents (text : String)
deriving DecidableEq

/-- What is reported for a text that is no version. -/
def Fault.message : Fault → String
  | notNumeric text => s!"`{text}` is not a dotted numeric version"
  | tooManyComponents text => s!"`{text}` has more than three components"

/-- Reads components from the left with room for `room` more.  A component too many is noticed
before it is read. -/
def readComponents (text : String) : (room : Nat) → List (List Char) → Except Fault (List UInt64)
  | _, [] => .ok []
  | 0, _ :: _ => .error (.tooManyComponents text)
  | room + 1, c :: cs =>
    match Text.readUInt64 c with
    | none => .error (.notNumeric text)
    | some n => (readComponents text room cs).map (n :: ·)

/-- The version with the given leading numbers and zeros after them. -/
def ofNumbers (ns : List UInt64) : Version :=
  ⟨ns.getD 0 0, ns.getD 1 0, ns.getD 2 0⟩

/-- The version of a text, or why it is none. -/
def read (text : String) : Except Fault Version :=
  (readComponents text 3 (Text.splitOn '.' (Text.trim text.toList))).map ofNumbers

end Version

end CodePermit
