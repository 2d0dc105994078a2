/-!
# White space

The white space that surrounds version texts, process-status values and helper output is the
Unicode property `White_Space`.  This file gives the class and the trimming built on it.

* `isBlank` — the property;
* `trim` — a text without its leading and trailing blanks;
* `trimStart_blank_append`, `trimEnd_append_blank` — blanks around a text do not matter;
* `trimStart_of_not_blank`, `trimEnd_of_not_blank` — an end that is not blank is left alone.
-/

namespace CodePermit.Text

/-! ### The class -/

/-- A character with the Unicode property `White_Space`. -/
def isBlank (c : Char) : Bool :=
  let n := c.toNat
  (9 ≤ n && n ≤ 13) || n == 0x20 || n == 0x85 || n == 0xA0 || n == 0x1680
    || (0x2000 ≤ n && n ≤ 0x200A) || n == 0x2028 || n == 0x2029 || n == 0x202F
    || n == 0x205F || n == 0x3000

/-! ### Trimming -/

/-- A text without its leading blanks. -/
def trimStart (cs : List Char) : List Char :=
  cs.dropWhile isBlank

/-- A text without its trailing blanks. -/
def trimEnd (cs : List Char) : List Char :=
  (cs.reverse.dropWhile isBlank).reverse

/-- A text without its leading and trailing blanks. -/
def trim (cs : List Char) : List Char :=
  trimEnd (trimStart cs)

theorem trimStart_blank_append {ws : List Char} (h : ∀ c ∈ ws, isBlank c = true)
    (cs : List Char) : trimStart (ws ++ cs) = trimStart cs := by
  induction ws with
  | nil => rfl
  | cons c ws ih =>
    have hc : isBlank c = true := h c (by simp)
    have hw : ∀ d ∈ ws, isBlank d = true := fun d hd => h d (by simp [hd])
    simp only [trimStart, List.cons_append, List.dropWhile_cons, hc, if_true] at ih ⊢
    exact ih hw

theorem trimEnd_append_blank {ws : List Char} (h : ∀ c ∈ ws, isBlank c = true)
    (cs : List Char) : trimEnd (cs ++ ws) = trimEnd cs := by
  have hr : ∀ c ∈ ws.reverse, isBlank c = true := fun c hc => h c (by simpa using hc)
  have := trimStart_blank_append hr cs.reverse
  simp only [trimStart] at this
  simp only [trimEnd, List.reverse_append, this]

theorem trimStart_of_not_blank {c : Char} (h : isBlank c = false) (cs : List Char) :
    trimStart (c :: cs) = c :: cs := by
  simp [trimStart, h]

theorem trimEnd_of_not_blank {c : Char} (h : isBlank c = false) (cs : List Char) :
    trimEnd (cs ++ [c]) = cs ++ [c] := by
  simp [trimEnd, h]

end CodePermit.Text
