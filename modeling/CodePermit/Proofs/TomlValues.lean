import CodePermit.Proofs.Numerals
import CodePermit.Proofs.TomlTexts
import CodePermit.Toml.Reader
/-!
# TOML values that are read as they were written

Reading undoes writing for texts, whole numbers from zero and truth values, and for arrays of values
for which it does, whether they are written on one line or on several.

* `Follows`, `Legible` — values that are read as they were written, whatever follows them;
* `legible_string` — texts;
* `legible_word`, `legible_boolean` — bare words and truth values;
* `decimalDigits_toDigits`, `readInteger_toDigits`, `legible_integer` — whole numbers;
* `readElements_written`, `legible_array` — arrays.
-/

namespace CodePermit.Toml

/-! ### What follows a value -/

/-- The end of a line, the sign between elements, or the end of an array. -/
def Follows (rest : List Char) : Prop :=
  ∃ c cs, rest = c :: cs ∧ (c = '\n' ∨ c = ',' ∨ c = ']')

/-- A character that is skipped neither on a line nor between lines, and ends no array. -/
def isFirm (c : Char) : Bool :=
  !isBlank c && c != '\n' && c != '\r' && c != '#' && c != ']'

/-- A value that is read as it was written, whatever follows it, with at most so many arrays inside
each other. -/
structure Legible (depth : Nat) (v : Toml) : Prop where
  begins : ∃ c cs, writeValue v = c :: cs ∧ isFirm c = true
  reads : ∀ rest, Follows rest → readValue depth (writeValue v ++ rest) = some (v, rest)

/-! ### Texts -/

theorem writeText_eq_cons (s : String) :
    ∃ cs, writeText s = '"' :: cs ∨ writeText s = '\'' :: cs := by
  simp only [writeText]
  cases chooseForm (profile s.toList) with
  | basic => exact ⟨_, .inl rfl⟩
  | literal => exact ⟨_, .inr rfl⟩
  | basicLines => exact ⟨_, .inl rfl⟩
  | literalLines => exact ⟨_, .inr rfl⟩

theorem legible_string (depth : Nat) (s : String) : Legible depth (.string s) := by
  obtain ⟨cs, hcs⟩ := writeText_eq_cons s
  refine ⟨?_, fun rest hrest => ?_⟩
  · rcases hcs with hcs | hcs
    · exact ⟨_, cs, by rw [writeValue, hcs], by decide⟩
    · exact ⟨_, cs, by rw [writeValue, hcs], by decide⟩
  · obtain ⟨c, rest, rfl, hc⟩ := hrest
    have hdouble : (c :: rest).head? ≠ some '"' := by
      rintro h
      obtain rfl := Option.some.inj h
      exact absurd hc (by decide)
    have hsingle : (c :: rest).head? ≠ some '\'' := by
      rintro h
      obtain rfl := Option.some.inj h
      exact absurd hc (by decide)
    have hread := readQuoted_writeText s hdouble hsingle
    rw [writeValue]
    rcases hcs with hcs | hcs
    · rw [hcs] at hread ⊢
      rw [List.cons_append] at hread ⊢
      rw [readValue, hread]
      rfl
    · rw [hcs] at hread ⊢
      rw [List.cons_append] at hread ⊢
      rw [readValue, hread]
      rfl

/-! ### Bare words -/

section Words

variable {depth : Nat} {word : List Char}

theorem readValue_bare {c : Char} {cs : List Char} (hdouble : c ≠ '"') (hsingle : c ≠ '\'')
    (harray : c ≠ '[') (htable : c ≠ '{') :
    readValue depth (c :: cs) = readBareWord (c :: cs) := by
  unfold readValue
  split <;> grind

/-- A word ends where something follows it. -/
theorem readBareWord_follows (hword : ∀ c ∈ word, endsWord c = false) {rest : List Char}
    (hrest : Follows rest) :
    readBareWord (word ++ rest) = (readWord word).map (·, rest) := by
  obtain ⟨c, rest, rfl, hc⟩ := hrest
  have hends : endsWord c = true := by
    rcases hc with rfl | rfl | rfl <;> decide
  have hblank : c ≠ ' ' := by
    rcases hc with rfl | rfl | rfl <;> decide
  have hcut : cut endsWord (word ++ c :: rest) = (word, c :: rest) := by
    have hplain : ∀ d ∈ word, (!endsWord d) = true := fun d hd => by rw [hword d hd]; rfl
    have hend : ∀ d ∈ (c :: rest).head?, (!endsWord d) = false :=
      Text.boundary_cons (by rw [hends]; rfl) rest
    rw [cut, Text.takeWhile_boundary hplain hend, Text.dropWhile_boundary hplain hend]
  simp [readBareWord, hcut, hblank]

/-- A word that stands for a value is legible if it starts like one. -/
theorem legible_word {v : Toml} {c : Char} {cs : List Char} (hwrite : writeValue v = c :: cs)
    (hfirst : c.isAlphanum = true) (hword : ∀ d ∈ c :: cs, endsWord d = false)
    (hread : readWord (c :: cs) = some v) : Legible depth v := by
  have hne : ∀ d : Char, d.isAlphanum = false → c ≠ d := fun _ => Text.ne_of_class hfirst
  refine ⟨⟨c, cs, hwrite, ?_⟩, fun rest hrest => ?_⟩
  · have hblank : isBlank c = false := by
      simp [isBlank, hne ' ' (by decide), hne '\t' (by decide)]
    simp [isFirm, hblank, hne '\n' (by decide), hne '\r' (by decide), hne '#' (by decide),
      hne ']' (by decide)]
  · rw [hwrite, List.cons_append, readValue_bare (hne _ (by decide)) (hne _ (by decide))
      (hne _ (by decide)) (hne _ (by decide)), ← List.cons_append,
      readBareWord_follows hword hrest, hread]
    rfl

theorem legible_boolean (depth : Nat) (b : Bool) : Legible depth (.boolean b) := by
  have htrue : ∀ c ∈ ['t', 'r', 'u', 'e'], endsWord c = false := by simp [endsWord, isBlank]
  have hfalse : ∀ c ∈ ['f', 'a', 'l', 's', 'e'], endsWord c = false := by simp [endsWord, isBlank]
  cases b with
  | true => exact legible_word rfl (by decide) htrue rfl
  | false => exact legible_word rfl (by decide) hfalse rfl

/-! ### Whole numbers -/

theorem ungroup_digits {ds : List Char} (hne : ds ≠ []) (h : ∀ d ∈ ds, d.isDigit = true) :
    ungroup Char.isDigit ds = some ds := by
  induction ds with
  | nil => exact absurd rfl hne
  | cons d ds ih =>
    obtain ⟨hd, hds⟩ := List.forall_mem_cons.1 h
    unfold ungroup
    split
    · rename_i heq
      cases heq
    · rename_i heq
      cases heq
      rw [if_pos hd]
    · rename_i heq
      cases heq
      exact absurd (hds '_' (.head _)) (by decide)
    · rename_i c cs hsingle _ heq
      cases heq
      rw [if_pos hd, ih (fun hnil => hsingle (by rw [hnil])) hds]
      rfl

theorem valueIn_digits {ds : List Char} (h : ∀ d ∈ ds, d.isDigit = true) :
    valueIn 10 ds = Nat.ofDigitChars 10 ds 0 := by
  refine List.foldl_ext _ _ _ fun n d hd => ?_
  rw [Json.hexValue, if_pos (h d hd)]
  rfl

theorem decimalDigits_toDigits (n : Nat) :
    decimalDigits (Nat.toDigits 10 n) = some (Nat.toDigits 10 n) := by
  rw [decimalDigits, ungroup_digits Nat.toDigits_ne_nil fun _ => Text.isDigit_of_mem_toDigits,
    Option.filter_some, if_pos]
  rw [decide_eq_true_iff]
  by_cases h : 10 ≤ n
  · exact .inr (Text.head?_toDigits h)
  · rw [Nat.toDigits_of_lt_base (by omega)]
    exact .inl rfl

theorem readInteger_toDigits {n : Nat} (h : (n : Int) < integerBound) :
    readInteger (Nat.toDigits 10 n) = some (.integer n) := by
  have hdigits : ∀ d ∈ Nat.toDigits 10 n, d.isDigit = true := fun _ => Text.isDigit_of_mem_toDigits
  have hsign : splitSign (Nat.toDigits 10 n) = (none, Nat.toDigits 10 n) := by
    unfold splitSign
    split
    · rename_i heq
      exact absurd (hdigits '+' (by rw [heq]; exact .head _)) (by decide)
    · rename_i heq
      exact absurd (hdigits '-' (by rw [heq]; exact .head _)) (by decide)
    · rfl
  have hheld : leastInteger ≤ (n : Int) ∧ (n : Int) < integerBound :=
    ⟨Int.le_trans (by decide) (Int.natCast_nonneg n), h⟩
  unfold readInteger
  -- the letter of another base is no digit
  split
  · rename_i heq
    exact absurd (hdigits 'x' (by rw [heq]; exact .tail _ (.head _))) (by decide)
  · rename_i heq
    exact absurd (hdigits 'o' (by rw [heq]; exact .tail _ (.head _))) (by decide)
  · rename_i heq
    exact absurd (hdigits 'b' (by rw [heq]; exact .tail _ (.head _))) (by decide)
  · simp only [hsign, decimalDigits_toDigits, valueIn_digits hdigits,
      Nat.ofDigitChars_ten_toDigits, Option.map_some]
    rw [if_neg (by decide), holdInteger, if_pos hheld]

theorem legible_integer (depth : Nat) {n : Nat} (h : (n : Int) < integerBound) :
    Legible depth (.integer n) := by
  have hdigits : ∀ d ∈ Nat.toDigits 10 n, d.isDigit = true := fun _ => Text.isDigit_of_mem_toDigits
  have hwrite : writeValue (.integer n) = Nat.toDigits 10 n := Nat.toList_repr
  obtain ⟨d, ds, hds⟩ := List.exists_cons_of_ne_nil (Nat.toDigits_ne_nil (b := 10) (n := n))
  have hread : readWord (Nat.toDigits 10 n) = some (.integer n) := by
    have htrue : Nat.toDigits 10 n ≠ "true".toList := by
      intro heq
      exact absurd (hdigits 't' (by rw [heq]; exact .head _)) (by decide)
    have hfalse : Nat.toDigits 10 n ≠ "false".toList := by
      intro heq
      exact absurd (hdigits 'f' (by rw [heq]; exact .head _)) (by decide)
    rw [readWord, if_neg htrue, if_neg hfalse, readInteger_toDigits h]
    rfl
  rw [hds] at hdigits hwrite hread
  refine legible_word hwrite ?_ (fun c hc => ?_) hread
  · rw [Char.isAlphanum, hdigits d (.head _), Bool.or_true]
  · have hne : ∀ e : Char, e.isDigit = false → c ≠ e := fun _ => Text.ne_of_class (hdigits c hc)
    simp [endsWord, isBlank, hne ' ' (by decide), hne '\t' (by decide), hne '\n' (by decide),
      hne '\r' (by decide), hne ',' (by decide), hne ']' (by decide), hne '}' (by decide),
      hne '#' (by decide)]

end Words

/-! ### Arrays -/

section Arrays

variable {depth : Nat} {v : Toml} {vs : List Toml}

theorem skipFill_firm {c : Char} (h : isFirm c = true) (cs : List Char) :
    skipFill (c :: cs) = some (c :: cs) := by
  simp only [isFirm, Bool.and_eq_true, Bool.not_eq_true', bne_iff_ne] at h
  obtain ⟨⟨⟨⟨hblank, hline⟩, hreturn⟩, hsharp⟩, -⟩ := h
  have hend : afterLineEnd (c :: cs) = none :=
    afterLineEnd_eq_none fun d hd => by
      obtain rfl := Option.some.inj hd
      exact ⟨hline, hreturn⟩
  unfold skipFill skipFillFrom
  split
  · rename_i heq
    cases heq
    exact absurd rfl hsharp
  · rename_i heq
    cases heq
    rw [if_neg (Bool.eq_false_iff.1 hblank), hend]
  · rename_i heq
    cases heq

theorem skipFill_indented (cs : List Char) :
    skipFill ('\n' :: (List.replicate 4 ' ' ++ cs)) = skipFill cs := rfl

theorem skipFill_close (rest : List Char) : skipFill (']' :: rest) = some (']' :: rest) := rfl

theorem skipFill_comma (rest : List Char) : skipFill (',' :: rest) = some (',' :: rest) := rfl

/-- One element with the sign behind it, on a line of its own. -/
theorem readElements_cons (h : Legible depth v) (n : Nat) (found : List Toml) (rest : List Char) :
    readElements (readValue depth) (n + 1) found
        ('\n' :: (writeElements (v :: vs) ++ ']' :: rest)) =
      readElements (readValue depth) n (v :: found)
        ('\n' :: (writeElements vs ++ ']' :: rest)) := by
  obtain ⟨c, cs, hwrite, hfirm⟩ := h.begins
  have hread := h.reads (',' :: '\n' :: (writeElements vs ++ ']' :: rest))
    ⟨',', _, rfl, .inr (.inl rfl)⟩
  have hskip : skipFill ('\n' :: (writeElements (v :: vs) ++ ']' :: rest)) =
      some (writeValue v ++ ',' :: '\n' :: (writeElements vs ++ ']' :: rest)) := by
    rw [writeElements, List.append_assoc, List.append_assoc, skipFill_indented, hwrite,
      List.cons_append, skipFill_firm hfirm]
    rfl
  have hopen : c ≠ ']' := by
    rintro rfl
    exact absurd hfirm (by decide)
  rw [hwrite, List.cons_append] at hread hskip
  rw [readElements, hskip]
  simp [hopen, hread, skipFill_comma]

/-- **The elements of an array are read as they were written**, one on each line. -/
theorem readElements_written (h : ∀ v ∈ vs, Legible depth v) {n : Nat} (hbound : vs.length < n)
    (found : List Toml) (rest : List Char) :
    readElements (readValue depth) n found ('\n' :: (writeElements vs ++ ']' :: rest)) =
      some (found.reverse ++ vs, rest) := by
  obtain ⟨n, rfl⟩ := Nat.exists_eq_succ_of_ne_zero (Nat.ne_zero_of_lt hbound)
  induction vs generalizing n found with
  | nil =>
    have hskip : skipFill ('\n' :: ([] ++ ']' :: rest)) = some (']' :: rest) := rfl
    rw [writeElements, readElements, hskip, List.append_nil]
    rfl
  | cons v vs ih =>
    obtain ⟨hv, hvs⟩ := List.forall_mem_cons.1 h
    have hmore : vs.length < n := Nat.lt_of_succ_lt_succ hbound
    obtain ⟨m, rfl⟩ := Nat.exists_eq_succ_of_ne_zero (Nat.ne_zero_of_lt hmore)
    rw [readElements_cons hv, ih hvs (v :: found) m hmore, List.reverse_cons, List.append_assoc]
    rfl

/-- There are no more elements than characters. -/
theorem length_le_writeElements (vs : List Toml) : vs.length ≤ (writeElements vs).length := by
  induction vs with
  | nil => exact Nat.le_refl 0
  | cons v vs ih =>
    simp only [writeElements, List.length_append, List.length_cons]
    omega

theorem readElements_singleton (h : Legible depth v) (n : Nat) (rest : List Char) :
    readElements (readValue depth) (n + 1) [] (writeValue v ++ ']' :: rest) = some ([v], rest) := by
  obtain ⟨c, cs, hwrite, hfirm⟩ := h.begins
  have hread := h.reads (']' :: rest) ⟨']', _, rfl, .inr (.inr rfl)⟩
  have hopen : c ≠ ']' := by
    rintro rfl
    exact absurd hfirm (by decide)
  rw [hwrite, List.cons_append] at hread ⊢
  rw [readElements, skipFill_firm hfirm]
  simp [hopen, hread, skipFill_close]

/-- **An array of legible values is legible.** -/
theorem legible_array (h : ∀ v ∈ vs, Legible depth v) : Legible (depth + 1) (.array vs) := by
  have hread : ∀ body rest, readElements (readValue depth) (body.length + 1) [] body =
      some (vs, rest) → readValue (depth + 1) ('[' :: body) = some (.array vs, rest) := by
    intro body rest hbody
    rw [readValue]
    simp [hbody]
  cases vs with
  | nil =>
    refine ⟨⟨'[', [']'], rfl, by decide⟩, fun rest _ => ?_⟩
    exact hread (']' :: rest) rest rfl
  | cons v vs =>
    cases vs with
    | nil =>
      have hwrite : ∀ rest, writeValue (.array [v]) ++ rest =
          '[' :: (writeValue v ++ ']' :: rest) := by
        intro rest
        simp [writeValue]
      refine ⟨⟨'[', _, rfl, by decide⟩, fun rest _ => ?_⟩
      rw [hwrite]
      exact hread _ rest (readElements_singleton (h v (.head _)) _ rest)
    | cons w vs =>
      have hwrite : ∀ rest, writeValue (.array (v :: w :: vs)) ++ rest =
          '[' :: '\n' :: (writeElements (v :: w :: vs) ++ ']' :: rest) := by
        intro rest
        simp [writeValue]
      refine ⟨⟨'[', _, rfl, by decide⟩, fun rest _ => ?_⟩
      rw [hwrite]
      refine hread _ rest (readElements_written h ?_ [] rest)
      have hlength := length_le_writeElements (v :: w :: vs)
      simp only [List.length_cons, List.length_append] at hlength ⊢
      omega

end Arrays

end CodePermit.Toml
