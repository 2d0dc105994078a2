import CodePermit.Text.Blank
import CodePermit.Text.Line
import CodePermit.Text.Natural
import Mathlib.Data.List.DropRight
/-!
# Blanks, pieces and numerals

What texts of versions and of numbers are made of, said without the functions that read them.  A
text has blanks around what is left of it, that splits at a separator, and the pieces are numerals:
digits with or without a plus sign in front.

* `IsTrimmed`, `isTrimmed_iff` — the text between the blanks at both ends;
* `splitOn_eq` — splitting at one character is that of the library, so that the pieces joined again
  are the text;
* `Numeral`, `readNatural_eq_some_iff`, `readUInt64_eq_some_iff` — the texts that are numbers;
* `takeWhile_boundary`, `dropWhile_boundary` — the characters of a kind at the front of a text;
* `numeral_toDigits`, `head?_toDigits` — the digits of a number are a numeral of it, and the first
  of several is no zero.
-/

namespace CodePermit.Text

/-! ### Blanks at both ends -/

/-- What is left of a text without the blanks at both ends. -/
structure IsTrimmed (text inner : List Char) : Prop where
  around : ∃ before after, text = before ++ (inner ++ after) ∧
    (∀ c ∈ before, isBlank c = true) ∧ ∀ c ∈ after, isBlank c = true
  first : ∀ c ∈ inner.head?, isBlank c = false
  last : ∀ c ∈ inner.getLast?, isBlank c = false

theorem isBlank_of_head?_trimStart {cs : List Char} {c : Char} (h : c ∈ (trimStart cs).head?) :
    isBlank c = false := by
  have hdrop := List.head?_dropWhile_not isBlank cs
  rw [trimStart, Option.mem_def] at h
  rw [h] at hdrop
  exact hdrop

theorem trimEnd_eq_rdropWhile (cs : List Char) : trimEnd cs = cs.rdropWhile isBlank :=
  rfl

theorem trim_isTrimmed (text : List Char) : IsTrimmed text (trim text) where
  around := by
    refine ⟨text.takeWhile isBlank, (trimStart text).rtakeWhile isBlank, ?_,
      fun c => List.mem_takeWhile_imp, fun c hc => ?_⟩
    · rw [trim, trimEnd_eq_rdropWhile, List.rdropWhile_append_rtakeWhile]
      exact List.takeWhile_append_dropWhile.symm
    · exact List.mem_rtakeWhile_imp hc
  first := by
    intro c hc
    -- what is left starts as the text did before its end was trimmed
    obtain ⟨rest, hrest⟩ : trim text <+: trimStart text := List.rdropWhile_prefix isBlank _
    have hstart : (trimStart text).head? = some c := by
      rw [← hrest, List.head?_append, Option.mem_def.1 hc]
      rfl
    exact isBlank_of_head?_trimStart hstart
  last := by
    intro c hc
    rw [trim, trimEnd, List.getLast?_reverse] at hc
    exact isBlank_of_head?_trimStart hc

theorem IsTrimmed.trim_eq {text inner : List Char} (h : IsTrimmed text inner) :
    trim text = inner := by
  obtain ⟨before, after, rfl, hbefore, hafter⟩ := h.around
  rw [trim, trimStart_blank_append hbefore]
  rcases inner.eq_nil_or_concat with rfl | ⟨start, d, hlast⟩
  · have hnone : trimStart after = [] := List.dropWhile_eq_nil_iff.2 hafter
    rw [List.nil_append, hnone]
    rfl
  · have hd : isBlank d = false := h.last d (by simp [hlast])
    have hstart : trimStart (inner ++ after) = inner ++ after := by
      cases inner with
      | nil => simp at hlast
      | cons c cs => exact trimStart_of_not_blank (h.first c rfl) (cs ++ after)
    rw [hstart, trimEnd_append_blank hafter, hlast, List.concat_eq_append]
    exact trimEnd_of_not_blank hd start

/-- **What is left of a text is what trimming gives**, and nothing else is. -/
theorem isTrimmed_iff {text inner : List Char} : IsTrimmed text inner ↔ inner = trim text := by
  constructor
  · intro h
    exact h.trim_eq.symm
  · rintro rfl
    exact trim_isTrimmed text

/-- A text without blanks stays as it is. -/
theorem trim_of_no_blank {cs : List Char} (h : ∀ c ∈ cs, isBlank c = false) : trim cs = cs := by
  refine IsTrimmed.trim_eq ⟨⟨[], [], by simp, by simp, by simp⟩, fun c hc => ?_, fun c hc => ?_⟩
  · exact h c (List.mem_of_mem_head? hc)
  · exact h c (List.mem_of_mem_getLast? hc)

/-! ### Pieces -/

theorem splitOn_eq (sep : Char) (cs : List Char) : splitOn sep cs = cs.splitOn sep := by
  induction cs with
  | nil => rfl
  | cons c cs ih =>
    rw [splitOn, ih, List.splitOn, List.splitOn, List.splitOnP_cons_eq_if_modifyHead]
    by_cases hc : c = sep
    · simp [hc]
    · have hne := List.splitOnP_ne_nil (· == sep) cs
      cases hpieces : cs.splitOnP (· == sep) with
      | nil => exact absurd hpieces hne
      | cons piece pieces => simp [hc]

/-! ### The front of a text -/

section Fronts

variable {p : Char → Bool} {cs rest : List Char}

theorem takeWhile_boundary (hcs : ∀ c ∈ cs, p c = true) (hrest : ∀ c ∈ rest.head?, p c = false) :
    (cs ++ rest).takeWhile p = cs := by
  rw [List.takeWhile_append_of_pos hcs]
  cases rest with
  | nil => simp
  | cons c rest => simp [hrest c rfl]

theorem dropWhile_boundary (hcs : ∀ c ∈ cs, p c = true) (hrest : ∀ c ∈ rest.head?, p c = false) :
    (cs ++ rest).dropWhile p = rest := by
  rw [List.dropWhile_append_of_pos hcs]
  cases rest with
  | nil => rfl
  | cons c rest => simp [hrest c rfl]

/-- A character of another kind is such an end. -/
theorem boundary_cons {c : Char} (hc : p c = false) (rest : List Char) :
    ∀ d ∈ (c :: rest).head?, p d = false := by
  intro d hd
  rwa [← Option.some.inj hd]

/-- Where the characters of a kind end, a text splits in one way only. -/
theorem boundary_unique {cs' rest' : List Char} (hcs : ∀ c ∈ cs, p c = true)
    (hrest : ∀ c ∈ rest.head?, p c = false) (hcs' : ∀ c ∈ cs', p c = true)
    (hrest' : ∀ c ∈ rest'.head?, p c = false) (h : cs ++ rest = cs' ++ rest') :
    cs = cs' ∧ rest = rest' := by
  have htake := congrArg (List.takeWhile p) h
  have hdrop := congrArg (List.dropWhile p) h
  rw [takeWhile_boundary hcs hrest, takeWhile_boundary hcs' hrest'] at htake
  rw [dropWhile_boundary hcs hrest, dropWhile_boundary hcs' hrest'] at hdrop
  exact ⟨htake, hdrop⟩

theorem ne_of_class {c d : Char} (hc : p c = true) (hd : p d = false) : c ≠ d := by
  rintro rfl
  rw [hc] at hd
  cases hd

end Fronts

/-! ### Numerals -/

/-- A number in decimal digits. -/
structure Digits (ds : List Char) (n : Nat) : Prop where
  nonempty : ds ≠ []
  digits : ∀ d ∈ ds, d.isDigit = true
  value : Nat.ofDigitChars 10 ds 0 = n

/-- A number in decimal digits, with or without a plus sign in front. -/
inductive Numeral : List Char → Nat → Prop
  | plain {ds : List Char} {n : Nat} (h : Digits ds n) : Numeral ds n
  | signed {ds : List Char} {n : Nat} (h : Digits ds n) : Numeral ('+' :: ds) n

theorem readDigits_iff {ds : List Char} {n : Nat} :
    readDigits ds = some n ↔ Digits ds n := by
  rw [readDigits_eq_some_iff, List.all_eq_true]
  exact ⟨fun ⟨hne, hall, hvalue⟩ => ⟨hne, hall, hvalue⟩,
    fun h => ⟨h.nonempty, h.digits, h.value⟩⟩

theorem readNatural_eq_some_iff {cs : List Char} {n : Nat} :
    readNatural cs = some n ↔ Numeral cs n := by
  constructor
  · intro h
    unfold readNatural at h
    split at h
    · exact .signed (readDigits_iff.1 h)
    · exact .plain (readDigits_iff.1 h)
  · intro h
    cases h with
    | signed h => exact readDigits_iff.2 h
    | plain h =>
      unfold readNatural
      split
      · -- digits do not start with a plus sign
        exact absurd (h.digits '+' (by simp)) (by decide)
      · exact readDigits_iff.2 h

theorem readBelow_eq_some_iff {bound : Nat} {cs : List Char} {n : Nat} :
    readBelow bound cs = some n ↔ Numeral cs n ∧ n < bound := by
  rw [readBelow, Option.filter_eq_some_iff, readNatural_eq_some_iff, decide_eq_true_iff]

/-- **The texts that are 64-bit numbers.** -/
theorem readUInt64_eq_some_iff {cs : List Char} {n : UInt64} :
    readUInt64 cs = some n ↔ Numeral cs n.toNat := by
  rw [readUInt64, Option.map_eq_some_iff]
  constructor
  · rintro ⟨m, hm, rfl⟩
    obtain ⟨hnumeral, hlt⟩ := readBelow_eq_some_iff.1 hm
    rwa [UInt64.toNat_ofNat_of_lt' hlt]
  · intro h
    refine ⟨n.toNat, readBelow_eq_some_iff.2 ⟨h, UInt64.toNat_lt_size n⟩, ?_⟩
    exact UInt64.ofNat_toNat

theorem exists_readUInt64_iff {cs : List Char} :
    (∃ n, readUInt64 cs = some n) ↔ ∃ n, Numeral cs n ∧ n < UInt64.size := by
  constructor
  · rintro ⟨n, hn⟩
    exact ⟨n.toNat, readUInt64_eq_some_iff.1 hn, UInt64.toNat_lt_size n⟩
  · rintro ⟨n, hn, hlt⟩
    refine ⟨UInt64.ofNat n, readUInt64_eq_some_iff.2 ?_⟩
    rwa [UInt64.toNat_ofNat_of_lt' hlt]

theorem isDigit_of_mem_toDigits {n : Nat} {d : Char} (h : d ∈ Nat.toDigits 10 n) :
    d.isDigit = true :=
  Nat.isDigit_of_mem_toDigits (by decide) (by decide) h

/-- The digits of a number are a numeral of it. -/
theorem numeral_toDigits (n : Nat) : Numeral (Nat.toDigits 10 n) n :=
  .plain ⟨Nat.toDigits_ne_nil, fun _ => isDigit_of_mem_toDigits, Nat.ofDigitChars_ten_toDigits⟩

theorem toDigits_injective : Function.Injective (Nat.toDigits 10) :=
  Function.LeftInverse.injective (g := fun ds => Nat.ofDigitChars 10 ds 0)
    fun _ => Nat.ofDigitChars_ten_toDigits

/-- A number of several digits does not start with a zero. -/
theorem head?_toDigits {n : Nat} (h : 10 ≤ n) : (Nat.toDigits 10 n).head? ≠ some '0' := by
  induction n using Nat.strongRecOn with
  | ind n ih =>
    rw [Nat.toDigits_of_base_le (by decide) h, List.head?_append_of_ne_nil _ Nat.toDigits_ne_nil]
    by_cases hmore : 10 ≤ n / 10
    · exact ih (n / 10) (by omega) hmore
    · have hall : ∀ d < 10, 0 < d → [d.digitChar].head? ≠ some '0' := by decide
      rw [Nat.toDigits_of_lt_base (by omega)]
      exact hall (n / 10) (by omega) (by omega)

theorem isBlank_of_isDigit {d : Char} (h : d.isDigit = true) : isBlank d = false := by
  have hrange := Char.isDigit_iff_toNat.1 h
  have h0 : '0'.toNat = 48 := rfl
  have h9 : '9'.toNat = 57 := rfl
  simp only [isBlank, Bool.or_eq_false_iff, Bool.and_eq_false_iff, beq_eq_false_iff_ne,
    decide_eq_false_iff_not]
  omega

end CodePermit.Text
