import CodePermit.Proofs.Numerals
import CodePermit.Version
import Mathlib.Data.List.Forall2
/-!
# The grammar of versions

Which texts are versions, and why the others are not.  What is left of a text between the blanks at
its ends splits at the dots into components.  It is a version if there are at most three of them and
each is a numeral below `2 ^ 64`.  Components are read from the left, and a fourth one is noticed
before it is read: so it is what is reported unless one of the first three is no such numeral.

* `readComponents_eq_ok_iff`, `readComponents_tooMany_iff`, `readComponents_notNumeric_iff` — what
  reading components from the left comes to;
* `Version.numbers`, `eq_ofNumbers_iff` — the numbers that are left out are zero;
* `Version.Reads`, `read_grammar` — what becomes of a text.
-/

namespace CodePermit

open Text (Numeral IsTrimmed readUInt64)

namespace Version

/-! ### Components from the left -/

section Components

variable {text : String} {room : Nat} {pieces : List (List Char)}

theorem readComponents_of_none {piece : List Char} (h : readUInt64 piece = none) :
    readComponents text (room + 1) (piece :: pieces) = .error (.notNumeric text) := by
  simp only [readComponents, h]

theorem readComponents_of_some {piece : List Char} {n : UInt64} (h : readUInt64 piece = some n) :
    readComponents text (room + 1) (piece :: pieces) =
      (readComponents text room pieces).map (n :: ·) := by
  simp only [readComponents, h]

theorem map_eq_error_iff {ε α β : Type} {f : α → β} {x : Except ε α} {fault : ε} :
    x.map f = .error fault ↔ x = .error fault := by
  cases x <;> simp [Except.map]

theorem map_eq_ok_iff {ε α β : Type} {f : α → β} {x : Except ε α} {b : β} :
    x.map f = .ok b ↔ ∃ a, x = .ok a ∧ b = f a := by
  cases x <;> simp [Except.map, eq_comm]

/-- All components are read if there is room for them and each is a number. -/
theorem readComponents_eq_ok_iff {ns : List UInt64} :
    readComponents text room pieces = .ok ns ↔
      pieces.length ≤ room ∧ List.Forall₂ (fun p n => readUInt64 p = some n) pieces ns := by
  induction pieces generalizing room ns with
  | nil => cases room <;> simp [readComponents, eq_comm]
  | cons piece pieces ih =>
    cases room with
    | zero => simp [readComponents]
    | succ room =>
      cases hn : readUInt64 piece with
      | none => simp [readComponents_of_none hn, List.forall₂_cons_left_iff, hn]
      | some n =>
        rw [readComponents_of_some hn, map_eq_ok_iff, List.forall₂_cons_left_iff]
        simp only [ih, hn, Option.some.injEq, List.length_cons, Nat.add_le_add_iff_right]
        grind

/-- A component too many is reported if those there is room for are numbers. -/
theorem readComponents_tooMany_iff :
    readComponents text room pieces = .error (.tooManyComponents text) ↔
      room < pieces.length ∧ ∀ p ∈ pieces.take room, ∃ n, readUInt64 p = some n := by
  induction pieces generalizing room with
  | nil => cases room <;> simp [readComponents]
  | cons piece pieces ih =>
    cases room with
    | zero => simp [readComponents]
    | succ room =>
      cases hn : readUInt64 piece with
      | none => simp [readComponents_of_none hn, hn]
      | some n => simp [readComponents_of_some hn, map_eq_error_iff, ih, hn]

/-- A component that is no number is reported if it is one of those there is room for. -/
theorem readComponents_notNumeric_iff :
    readComponents text room pieces = .error (.notNumeric text) ↔
      ∃ p ∈ pieces.take room, readUInt64 p = none := by
  induction pieces generalizing room with
  | nil => cases room <;> simp [readComponents]
  | cons piece pieces ih =>
    cases room with
    | zero => simp [readComponents]
    | succ room =>
      cases hn : readUInt64 piece with
      | none => simp [readComponents_of_none hn, hn]
      | some n => simp [readComponents_of_some hn, map_eq_error_iff, ih, hn]

theorem readComponents_fault {fault : Fault}
    (h : readComponents text room pieces = .error fault) :
    fault = .tooManyComponents text ∨ fault = .notNumeric text := by
  induction pieces generalizing room with
  | nil => cases room <;> cases h
  | cons piece pieces ih =>
    cases room with
    | zero =>
      cases h
      exact Or.inl rfl
    | succ room =>
      cases hn : readUInt64 piece with
      | none =>
        rw [readComponents_of_none hn] at h
        cases h
        exact Or.inr rfl
      | some n =>
        rw [readComponents_of_some hn, map_eq_error_iff] at h
        exact ih h

end Components

/-! ### Numbers of a version -/

/-- The numbers of a version, from the left. -/
def numbers (v : Version) : List UInt64 :=
  [v.major, v.minor, v.patch]

/-- The numbers that are left out are zero. -/
theorem eq_ofNumbers_iff {v : Version} {ns : List UInt64} (h : ns.length ≤ 3) :
    v = ofNumbers ns ↔ v.numbers = ns ++ List.replicate (3 - ns.length) 0 := by
  obtain ⟨major, minor, patch⟩ := v
  match ns with
  | [] => simp [ofNumbers, numbers, List.replicate]
  | [a] => simp [ofNumbers, numbers, List.replicate]
  | [a, b] => simp [ofNumbers, numbers]
  | [a, b, c] => simp [ofNumbers, numbers]
  | _ :: _ :: _ :: _ :: _ =>
    simp only [List.length_cons] at h
    omega

/-! ### Texts -/

/-- The components of a text. -/
def components (text : String) : List (List Char) :=
  (Text.trim text.toList).splitOn '.'

theorem components_ne_nil (text : String) : components text ≠ [] :=
  List.splitOnP_ne_nil _ _

theorem read_eq (text : String) :
    read text = (readComponents text 3 (components text)).map ofNumbers := by
  rw [read, Text.splitOn_eq, components]

/-- **When a text is a version**, and which one. -/
theorem read_eq_ok_iff {text : String} {v : Version} :
    read text = .ok v ↔ (components text).length ≤ 3 ∧
      ∃ ns, List.Forall₂ (fun p n => readUInt64 p = some n) (components text) ns ∧
        v = ofNumbers ns := by
  rw [read_eq, map_eq_ok_iff]
  simp only [readComponents_eq_ok_iff, and_assoc, exists_and_left]

/-- The piece is a component of a version: a numeral below `2 ^ 64`. -/
def IsComponent (piece : List Char) : Prop :=
  ∃ n, Numeral piece n ∧ n < UInt64.size

theorem isComponent_iff {piece : List Char} :
    IsComponent piece ↔ ∃ n, readUInt64 piece = some n :=
  Text.exists_readUInt64_iff.symm

theorem read_tooMany_iff {text : String} :
    read text = .error (.tooManyComponents text) ↔
      4 ≤ (components text).length ∧ ∀ p ∈ (components text).take 3, IsComponent p := by
  rw [read_eq, map_eq_error_iff, readComponents_tooMany_iff]
  simp only [isComponent_iff]
  rfl

theorem read_notNumeric_iff {text : String} :
    read text = .error (.notNumeric text) ↔
      ∃ p ∈ (components text).take 3, ¬IsComponent p := by
  rw [read_eq, map_eq_error_iff, readComponents_notNumeric_iff]
  simp only [isComponent_iff, Option.eq_none_iff_forall_ne_some, not_exists]

theorem read_fault {text : String} {fault : Fault} (h : read text = .error fault) :
    fault = .tooManyComponents text ∨ fault = .notNumeric text := by
  rw [read_eq, map_eq_error_iff] at h
  exact readComponents_fault h

/-- A text is a version unless there is something to report. -/
theorem exists_read_ok_iff {text : String} :
    (∃ v, read text = .ok v) ↔
      read text ≠ .error (.tooManyComponents text) ∧ read text ≠ .error (.notNumeric text) := by
  constructor
  · rintro ⟨v, hv⟩
    simp [hv]
  · rintro ⟨hmany, hnumeric⟩
    cases h : read text with
    | ok v => exact ⟨v, rfl⟩
    | error fault =>
      rcases read_fault h with rfl | rfl
      · exact absurd h hmany
      · exact absurd h hnumeric

/-- What becomes of a text whose pieces between the dots are given. -/
structure Reads (text : String) (pieces : List (List Char)) : Prop where
  /-- It is a version if it has one to three pieces, and all of them are components. -/
  accepted : (∃ v, read text = .ok v) ↔
    (1 ≤ pieces.length ∧ pieces.length ≤ 3) ∧ ∀ p ∈ pieces, IsComponent p
  /-- The version has the values of the pieces, and zeros after them. -/
  values : ∀ v, read text = .ok v → ∃ ns : List UInt64,
    List.Forall₂ (fun p n => Numeral p n.toNat) pieces ns ∧
      v.numbers = ns ++ List.replicate (3 - ns.length) 0
  /-- There are too many pieces, and the first three are components. -/
  tooMany : read text = .error (.tooManyComponents text) ↔
    4 ≤ pieces.length ∧ ∀ p ∈ pieces.take 3, IsComponent p
  /-- One of the first three pieces is no component. -/
  notNumeric : read text = .error (.notNumeric text) ↔
    ∃ p ∈ pieces.take 3, ¬IsComponent p
  /-- Nothing else is reported, and the text is quoted as it was given. -/
  refused : ∀ fault, read text = .error fault →
    fault = .tooManyComponents text ∧
        fault.message = "`" ++ text ++ "` has more than three components" ∨
      fault = .notNumeric text ∧
        fault.message = "`" ++ text ++ "` is not a dotted numeric version"

theorem reads_components (text : String) : Reads text (components text) where
  accepted := by
    have hne : 1 ≤ (components text).length := List.length_pos_iff.2 (components_ne_nil text)
    rw [exists_read_ok_iff, ne_eq, ne_eq, read_tooMany_iff, read_notNumeric_iff]
    constructor
    · rintro ⟨hmany, hnumeric⟩
      have hall : ∀ p ∈ (components text).take 3, IsComponent p := fun p hp =>
        by_contra fun hnot => hnumeric ⟨p, hp, hnot⟩
      have hlength : (components text).length ≤ 3 := by
        by_contra hlong
        exact hmany ⟨by omega, hall⟩
      rw [List.take_of_length_le hlength] at hall
      exact ⟨⟨hne, hlength⟩, hall⟩
    · rintro ⟨⟨-, hlength⟩, hall⟩
      refine ⟨fun hmany => by omega, ?_⟩
      rintro ⟨p, hp, hnot⟩
      exact hnot (hall p (List.mem_of_mem_take hp))
  values := by
    intro v hv
    obtain ⟨hlength, ns, hns, hv⟩ := read_eq_ok_iff.1 hv
    rw [hns.length_eq] at hlength
    exact ⟨ns, hns.imp fun _ _ h => Text.readUInt64_eq_some_iff.1 h,
      (eq_ofNumbers_iff hlength).1 hv⟩
  tooMany := read_tooMany_iff
  notNumeric := read_notNumeric_iff
  refused := by
    intro fault h
    rcases read_fault h with rfl | rfl
    · exact Or.inl ⟨rfl, rfl⟩
    · exact Or.inr ⟨rfl, rfl⟩

/-- **The grammar of versions**: what becomes of a text hangs on the pieces between the dots of what
is left of it without the blanks at its ends. -/
theorem read_grammar (text : String) :
    ∃ inner, (∀ other, IsTrimmed text.toList other ↔ other = inner) ∧
      Reads text (inner.splitOn '.') :=
  ⟨Text.trim text.toList, fun _ => Text.isTrimmed_iff, reads_components text⟩

/-- A fourth component is noticed only behind three that are read. -/
example : read " +1.02\u00a0" = .ok ⟨1, 2, 0⟩ ∧
    read "1..3.4" = .error (.notNumeric "1..3.4") ∧
    read "1.2.3.x" = .error (.tooManyComponents "1.2.3.x") :=
  ⟨rfl, rfl, rfl⟩

end Version

end CodePermit
