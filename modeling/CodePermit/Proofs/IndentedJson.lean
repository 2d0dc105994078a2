import CodePermit.Proofs.JsonTexts
import CodePermit.Proofs.Numerals
/-!
# Indented JSON that is read as it was written

A value that is written over several lines is read again, with the new lines and the blanks between
its pieces.  A number ends where something stands that cannot belong to it; it is read if it fits 64
bits, since of longer ones no more than the size is kept.

* `readUnsigned_digits`, `spells_number` — natural numbers;
* `Laid` — values that are read as they are written at any level;
* `laid_array`, `laid_object` — arrays and objects, with an element or a member on each line;
* `Laid.read_writeIndented` — a value on its own, with a new line behind it or not.
-/

namespace CodePermit.Json

/-! ### Numbers -/

theorem appendDigits_cons (value : Nat) (d : Char) (ds : List Char) :
    appendDigits value (d :: ds) = appendDigits (appendDigits value [d]) ds := by
  simp only [appendDigits, List.foldl_cons, List.foldl_nil]

theorem le_appendDigits (value : Nat) (ds : List Char) : value ≤ appendDigits value ds := by
  induction ds generalizing value with
  | nil => exact Nat.le_refl value
  | cons d ds ih =>
    have hdigit : value ≤ appendDigits value [d] := by
      simp only [appendDigits, List.foldl_cons, List.foldl_nil]
      omega
    rw [appendDigits_cons]
    exact Nat.le_trans hdigit (ih (appendDigits value [d]))

/-- All digits of a number that fits 64 bits fit. -/
theorem appendFitting_of_lt {ds : List Char} {value : Nat}
    (h : appendDigits value ds < UInt64.size) :
    appendFitting value ds = (appendDigits value ds, []) := by
  induction ds generalizing value with
  | nil => rfl
  | cons d ds ih =>
    rw [appendDigits_cons] at h
    have hfits : appendDigits value [d] < UInt64.size := Nat.lt_of_le_of_lt (le_appendDigits _ ds) h
    rw [appendFitting, if_pos hfits, ih h, ← appendDigits_cons]

theorem appendDigits_toDigits (n : Nat) : appendDigits 0 (Nat.toDigits 10 n) = n :=
  Nat.ofDigitChars_ten_toDigits

section Digits

variable {n : Nat} {rest : List Char}

theorem spanDigits_digits (n : Nat) (hrest : Follows rest) :
    spanDigits (Nat.toDigits 10 n ++ rest) = (Nat.toDigits 10 n, rest) := by
  have hdigits : ∀ d ∈ Nat.toDigits 10 n, d.isDigit = true := fun _ => Text.isDigit_of_mem_toDigits
  have hend : ∀ c ∈ rest.head?, c.isDigit = false := by
    intro c hc
    have hfollows := hrest c hc
    simp only [extendsNumber, Bool.or_eq_false_iff] at hfollows
    exact hfollows.1.1.1
  rw [spanDigits, Text.takeWhile_boundary hdigits hend, Text.dropWhile_boundary hdigits hend]

/-- A number of several digits does not start with a zero. -/
theorem not_zero_first (n : Nat) :
    ¬(Nat.toDigits 10 n = [] ∨
      (1 < (Nat.toDigits 10 n).length ∧ (Nat.toDigits 10 n).head? = some '0')) := by
  rintro (hnil | ⟨hlength, hhead⟩)
  · exact Nat.toDigits_ne_nil hnil
  · refine Text.head?_toDigits ?_ hhead
    by_contra hsmall
    rw [Nat.toDigits_of_lt_base (by omega)] at hlength
    exact absurd hlength (Nat.lt_irrefl 1)

theorem readFraction_of_follows (hrest : Follows rest) : readFraction rest = some ([], rest) := by
  unfold readFraction
  split
  · exact absurd (hrest '.' rfl) (by decide)
  · rfl

theorem readExponent_of_follows (hrest : Follows rest) : readExponent rest = some (0, rest) := by
  unfold readExponent
  split
  · rename_i c cs
    have hletter : ¬(c = 'e' ∨ c = 'E') := by
      rintro (rfl | rfl)
      · exact absurd (hrest _ rfl) (by decide)
      · exact absurd (hrest _ rfl) (by decide)
    rw [if_neg hletter]
  · rfl

theorem abridged_toDigits (h : n < UInt64.size) : abridged (Nat.toDigits 10 n) [] 0 = .ofNat n := by
  have hfits : appendDigits 0 (Nat.toDigits 10 n) < UInt64.size := by
    rwa [appendDigits_toDigits]
  rw [abridged, appendFitting_of_lt hfits, appendDigits_toDigits]
  rfl

/-- **The digits of a number are read as that number**, if it fits 64 bits and nothing follows that
could belong to it. -/
theorem readUnsigned_digits (h : n < UInt64.size) (hrest : Follows rest) :
    readUnsigned false (Nat.toDigits 10 n ++ rest) = some (.ofNat n, rest) := by
  have hsize : (Decimal.ofNat n).overflowsByFactors = false :=
    if_pos (.inr (Int.le_refl 0))
  simp only [readUnsigned, spanDigits_digits n hrest, readFraction_of_follows hrest,
    readExponent_of_follows hrest, abridged_toDigits h, hsize, if_neg (not_zero_first n),
    Option.bind_eq_bind, Option.bind_some]
  have hvalue : appendDigits (appendDigits 0 (Nat.toDigits 10 n)) [] = n := appendDigits_toDigits n
  rw [hvalue]
  rfl

/-- A value that begins with a digit is a number. -/
theorem readValue_digit {d : Char} (h : d.isDigit = true) (depth : Nat) (cs : List Char) :
    readValue depth (d :: cs) =
      (readUnsigned false (d :: cs)).bind fun r => some (.number r.1, r.2) := by
  have hne : ∀ e : Char, e.isDigit = false → d ≠ e := fun _ => Text.ne_of_class h
  have hnumber : readNumber (d :: cs) = readUnsigned false (d :: cs) := by
    unfold readNumber
    split
    · rename_i heq
      exact absurd (List.cons.inj heq).1 (hne '-' rfl)
    · rfl
  rw [← hnumber]
  unfold readValue
  split
  · rename_i heq
    exact absurd (List.cons.inj heq).1 (hne '"' rfl)
  · rename_i heq
    exact absurd (List.cons.inj heq).1 (hne '[' rfl)
  · rename_i heq
    exact absurd (List.cons.inj heq).1 (hne '{' rfl)
  · rename_i heq
    exact absurd (List.cons.inj heq).1 (hne 't' rfl)
  · rename_i heq
    exact absurd (List.cons.inj heq).1 (hne 'f' rfl)
  · rename_i heq
    exact absurd (List.cons.inj heq).1 (hne 'n' rfl)
  · rfl

theorem spells_number (depth : Nat) (h : n < UInt64.size) :
    Spells (readValue depth) (writeNumber (.ofNat n)) (.ofNat n) := by
  have hwrite : writeNumber (.ofNat n) = Nat.toDigits 10 n := by
    rw [writeNumber, Decimal.ofNat, if_pos rfl, List.append_nil]
    exact Nat.toList_repr
  obtain ⟨d, ds, hds⟩ := List.exists_cons_of_ne_nil (Nat.toDigits_ne_nil (b := 10) (n := n))
  have hd : d.isDigit = true := Text.isDigit_of_mem_toDigits (n := n) (by rw [hds]; exact .head _)
  have hne : ∀ e : Char, e.isDigit = false → d ≠ e := fun _ => Text.ne_of_class hd
  constructor
  · refine ⟨d, ds, hwrite.trans hds, ?_, hne ']' rfl, hne '}' rfl⟩
    simp [isSpace, hne ' ' rfl, hne '\n' rfl, hne '\t' rfl, hne '\r' rfl]
  · intro rest hrest
    have hread := readUnsigned_digits h hrest
    rw [hds, List.cons_append] at hread
    rw [hwrite, hds, List.cons_append, readValue_digit hd, hread]
    rfl

end Digits

/-! ### Truth values -/

theorem spells_bool (depth : Nat) (b : Bool) :
    Spells (readValue depth) (write (.bool b)) (.bool b) := by
  cases b with
  | true =>
    refine ⟨⟨'t', ['r', 'u', 'e'], rfl, rfl, by decide, by decide⟩, fun rest _ => ?_⟩
    cases depth <;> rfl
  | false =>
    refine ⟨⟨'f', ['a', 'l', 's', 'e'], rfl, rfl, by decide, by decide⟩, fun rest _ => ?_⟩
    cases depth <;> rfl

/-! ### Values over several lines -/

/-- A value that is read as it is written at any level, with at most so many arrays and objects
inside each other. -/
def Laid (depth : Nat) (j : Json) : Prop :=
  ∀ level, Spells (readValue depth) (writeAt level j) j

theorem laid_string (depth : Nat) (s : String) : Laid depth (.string s) :=
  fun _ => spells_string depth s

theorem laid_bool (depth : Nat) (b : Bool) : Laid depth (.bool b) := by
  intro level
  cases b
  · exact spells_bool depth false
  · exact spells_bool depth true

theorem laid_nat (depth : Nat) {n : Nat} (h : n < UInt64.size) : Laid depth (.ofNat n) :=
  fun _ => spells_number depth h

theorem isGap_newline (level : Nat) : IsGap (newline level) := by
  intro c hc
  rcases List.mem_cons.1 hc with rfl | hc
  · rfl
  · rw [List.eq_of_mem_replicate hc]
    rfl

theorem writeElementsAt_eq_map (level : Nat) (js : List Json) :
    writeElementsAt level js = js.map (writeAt level) := by
  induction js with
  | nil => rfl
  | cons j js ih => rw [writeElementsAt, ih, List.map_cons]

theorem writeMembersAt_eq_map (level : Nat) (fields : List (String × Json)) :
    writeMembersAt level fields =
      fields.map fun f => writeString f.1 ++ ':' :: ([' '] ++ writeAt level f.2) := by
  induction fields with
  | nil => rfl
  | cons f fields ih => rw [writeMembersAt, ih, List.map_cons, List.singleton_append]

/-- **An array is read as it is written**, with each element on a line of its own. -/
theorem laid_array {depth : Nat} {js : List Json} (h : ∀ j ∈ js, Laid depth j) :
    Laid (depth + 1) (.array js) := by
  intro level
  cases js with
  | nil => exact spells_emptyArray depth
  | cons j js =>
    have hspells := spells_array (List.cons_ne_nil j js) (isGap_newline (level + 1))
      (isGap_newline level) fun k hk => h k hk (level + 1)
    rw [writeAt, writeElementsAt_eq_map]
    simpa only [List.cons_append, List.append_assoc] using hspells

/-- Members whose values are read as they are written. -/
def LaidMembers (depth : Nat) (fields : List (String × Json)) : Prop :=
  ∀ f ∈ fields, Laid depth f.2

theorem LaidMembers.nil {depth : Nat} : LaidMembers depth [] :=
  List.forall_mem_nil _

theorem LaidMembers.cons {depth : Nat} {name : String} {j : Json} {fields : List (String × Json)}
    (h : Laid depth j) (hs : LaidMembers depth fields) : LaidMembers depth ((name, j) :: fields) :=
  List.forall_mem_cons.2 ⟨h, hs⟩

/-- **An object is read as it is written**, with each member on a line of its own. -/
theorem laid_object {depth : Nat} {fields : List (String × Json)}
    (h : LaidMembers depth fields) : Laid (depth + 1) (.object fields) := by
  intro level
  cases fields with
  | nil => exact spells_emptyObject depth
  | cons f fields =>
    have hblank : IsGap [' '] := by
      intro c hc
      rw [List.mem_singleton.1 hc]
      rfl
    have hspells := spells_object (List.cons_ne_nil f fields) (isGap_newline (level + 1))
      (isGap_newline level) fun g hg => spells_member hblank (h g hg (level + 1))
    rw [writeAt, writeMembersAt_eq_map]
    simpa only [List.cons_append, List.append_assoc] using hspells

/-- **A value over several lines is read as it was written**, with a new line at its end or not. -/
theorem Laid.read_writeIndented {j : Json} (h : Laid depthLimit j) {after : List Char}
    (hafter : IsGap after) : read (writeIndented j ++ after) = some j :=
  (h 0).read hafter

end CodePermit.Json
