import CodePermit.Proofs.JsonTexts
import CodePermit.Proofs.Numerals
import CodePermit.Toml.Text
import CodePermit.Toml.Writer
/-!
# TOML texts that are read as they were written

A text is written in one of four forms.  Whichever is chosen, reading undoes writing, if no quote
follows that could be taken for one of the text.

* `behindQuotes`, `readBasicFrom_writtenBasic` — one character between double quotes;
* `readBasicFrom_escapeBasic` — all characters between double quotes;
* `readLiteral_line`, `readLiteralLines_written` — characters between single quotes;
* `readQuoted_writeText` — a text in the form that is chosen for it.
-/

namespace CodePermit.Toml

/-! ### Between double quotes -/

/-- Where reading stands between characters when it has just passed so many quotes that may belong
to the text. -/
def behindQuotes : Nat → Position
  | 0 => .plain
  | n + 1 => .quotes (n + 1)

section Basic

variable {multiline : Bool} {used : Nat} {c : Char} {found rest : List Char}

/-- Up to two quotes before a character belong to the text. -/
theorem readBasicFrom_onward {p : Position} {f : List Char} (hused : used < 3) (hc : c ≠ '"')
    (h : plainMove multiline (List.replicate used '"' ++ found) c = .onward p f) :
    readBasicFrom multiline (behindQuotes used) found (c :: rest) =
      readBasicFrom multiline p f rest := by
  cases used with
  | zero =>
    have hmove : move multiline .plain found c = .onward p f := h
    simp only [behindQuotes, readBasicFrom, hmove]
  | succ n =>
    have hmove : move multiline (.quotes (n + 1)) found c = .onward p f := h
    have hopen : closingQuotes (.quotes (n + 1)) = none := if_neg (Nat.not_le_of_lt hused)
    simp only [behindQuotes, readBasicFrom, hopen, if_neg hc, hmove]

/-- An escape of one letter. -/
theorem readBasicFrom_shortEscape {d : Char} (hused : used < 3) (hdigits : escapeDigits d = none)
    (h : shortEscape d = some c) :
    readBasicFrom multiline (behindQuotes used) found ('\\' :: d :: rest) =
      readBasicFrom multiline .plain (c :: (List.replicate used '"' ++ found)) rest := by
  rw [readBasicFrom_onward hused (by decide) rfl]
  simp only [readBasicFrom, move, escapeMove, hdigits, h]

theorem hexValue_upperHexDigit {n : Nat} (h : n < 16) :
    Json.hexValue (upperHexDigit n) = some n := by
  have hall : ∀ n < 16, Json.hexValue (upperHexDigit n) = some n := by decide
  exact hall n h

/-- The numeric escape of a control character. -/
theorem readBasicFrom_numberEscape (hused : used < 3) (hc : c.toNat < 0x80) :
    readBasicFrom multiline (behindQuotes used) found (numberEscape c ++ rest) =
      readBasicFrom multiline .plain (c :: (List.replicate used '"' ++ found)) rest := by
  have hzero : Json.hexValue '0' = some 0 := by decide
  have hhigh := hexValue_upperHexDigit (n := c.toNat / 16) (by omega)
  have hlow := hexValue_upperHexDigit (n := c.toNat % 16) (by omega)
  have hnumber : c.toNat / 16 * 16 + c.toNat % 16 = c.toNat := by omega
  have hcharacter : character c.toNat = some c := by
    rw [character, if_pos (.inl (by omega)), Char.ofNat_toNat]
  show readBasicFrom multiline (behindQuotes used) found
    ('\\' :: 'u' :: '0' :: '0' :: upperHexDigit (c.toNat / 16) :: upperHexDigit (c.toNat % 16) ::
      rest) = _
  rw [readBasicFrom_onward hused (by decide) rfl]
  simp [readBasicFrom, move, escapeMove, escapeDigits, digitMove, hzero, hhigh, hlow, hnumber,
    hcharacter]

/-- A character that is no quote, as it is written between double quotes. -/
def writtenBasic (multiline : Bool) (c : Char) : List Char :=
  if c = '\\' then ['\\', '\\']
  else if c = '\n' then if multiline then ['\n'] else ['\\', 'n']
  else if c = '\t' then ['\\', 't']
  else if c = '\r' then ['\\', 'r']
  else if c.toNat = 8 then ['\\', 'b']
  else if c.toNat = 12 then ['\\', 'f']
  else if needsEscape c then numberEscape c
  else [c]

theorem escapeBasic_cons (hc : c ≠ '"') (room : Nat) (cs : List Char) :
    escapeBasic multiline room used (c :: cs) =
      writtenBasic multiline c ++ escapeBasic multiline room 0 cs := by
  rw [escapeBasic, if_neg hc]
  rfl

theorem toNat_lt_of_needsEscape (h : needsEscape c = true) : c.toNat < 0x80 := by
  simp only [needsEscape, Bool.or_eq_true, Bool.and_eq_true, decide_eq_true_eq, beq_iff_eq] at h
  omega

theorem isControl_of_not_needsEscape (h : needsEscape c = false) (hline : c ≠ '\n') :
    isControl c = false := by
  simp only [needsEscape, isControl, Bool.or_eq_false_iff, Bool.and_eq_false_iff,
    bne_eq_false_iff_eq, decide_eq_false_iff_not] at h ⊢
  exact ⟨h.1.resolve_right hline, h.2⟩

/-- **A character is read as it was written**, with or without an escape. -/
theorem readBasicFrom_writtenBasic (hused : used < 3) (hc : c ≠ '"') :
    readBasicFrom multiline (behindQuotes used) found (writtenBasic multiline c ++ rest) =
      readBasicFrom multiline .plain (c :: (List.replicate used '"' ++ found)) rest := by
  unfold writtenBasic
  split
  · rename_i h
    subst h
    exact readBasicFrom_shortEscape hused (by decide) rfl
  rename_i hslash
  split
  · rename_i h
    subst h
    cases multiline with
    | true => exact readBasicFrom_onward hused hc rfl
    | false => exact readBasicFrom_shortEscape hused (by decide) rfl
  rename_i hline
  split
  · rename_i h
    subst h
    exact readBasicFrom_shortEscape hused (by decide) rfl
  split
  · rename_i h
    subst h
    exact readBasicFrom_shortEscape hused (by decide) rfl
  rename_i hreturn
  split
  · rename_i h
    have hc : Char.ofNat 8 = c := by rw [← h, Char.ofNat_toNat]
    exact readBasicFrom_shortEscape hused (by decide) (hc ▸ rfl)
  split
  · rename_i h
    have hc : Char.ofNat 12 = c := by rw [← h, Char.ofNat_toNat]
    exact readBasicFrom_shortEscape hused (by decide) (hc ▸ rfl)
  split
  · rename_i h
    exact readBasicFrom_numberEscape hused (toNat_lt_of_needsEscape h)
  · rename_i h
    have hcontrol : ¬isControl c = true :=
      Bool.eq_false_iff.1 (isControl_of_not_needsEscape (Bool.eq_false_iff.2 h) hline)
    refine readBasicFrom_onward hused hc ?_
    rw [plainMove, if_neg hc, if_neg hslash, if_neg hline, if_neg hreturn, if_neg hcontrol]

/-- A quote that is written as it is: there may be two of them in a row over several lines. -/
theorem readBasicFrom_quote (hused : used < 2) :
    readBasicFrom true (behindQuotes used) found ('"' :: rest) =
      readBasicFrom true (behindQuotes (used + 1)) found rest := by
  obtain rfl | rfl : used = 0 ∨ used = 1 := by omega
  · rfl
  · rfl

/-- **What stands between double quotes is read as it was written**, if this holds of the end. -/
theorem readBasicFrom_escapeBasic (room : Nat) (hroom : room = if multiline then 2 else 0)
    {ending : List Char} (hending : ∀ used ≤ room, ∀ found,
      readBasicFrom multiline (behindQuotes used) found ending =
        some ((List.replicate used '"' ++ found).reverse, rest))
    (cs : List Char) (hused : used ≤ room) :
    readBasicFrom multiline (behindQuotes used) found
        (escapeBasic multiline room used cs ++ ending) =
      some ((List.replicate used '"' ++ found).reverse ++ cs, rest) := by
  have hfew : room < 3 := by
    rw [hroom]
    cases multiline <;> decide
  induction cs generalizing used found with
  | nil =>
    rw [escapeBasic, List.nil_append, hending used hused, List.append_nil]
  | cons c cs ih =>
    -- behind any character but a quote without an escape no quotes are held back
    have hplain := @ih 0 (c :: (List.replicate used '"' ++ found)) (Nat.zero_le room)
    rw [List.replicate_zero, List.nil_append, List.reverse_cons, List.append_assoc,
      List.singleton_append] at hplain
    by_cases hc : c = '"'
    · subst hc
      by_cases hmore : used < room
      · -- only over several lines is there room for such a quote
        have hlines : multiline = true := by
          cases multiline with
          | true => rfl
          | false =>
            rw [hroom] at hmore
            exact absurd hmore (Nat.not_lt_zero used)
        subst hlines
        have hquote := @ih (used + 1) found hmore
        rw [List.replicate_succ, List.cons_append, List.reverse_cons, List.append_assoc,
          List.singleton_append] at hquote
        rw [escapeBasic, if_pos rfl, if_pos hmore, List.cons_append,
          readBasicFrom_quote (by omega), hquote]
      · rw [escapeBasic, if_pos rfl, if_neg hmore, List.cons_append, List.cons_append,
          readBasicFrom_shortEscape (by omega) (by decide) rfl]
        exact hplain
    · rw [escapeBasic_cons hc, List.append_assoc, readBasicFrom_writtenBasic (by omega) hc]
      exact hplain

/-- The end of a text on one line. -/
theorem readBasicFrom_close :
    readBasicFrom false .plain found ('"' :: rest) = some (found.reverse, rest) := rfl

/-- The end of a text over several lines, which up to two quotes of the text may precede. -/
theorem readBasicFrom_closeLines (hused : used < 3) (hrest : rest.head? ≠ some '"') :
    readBasicFrom true (behindQuotes used) found ('"' :: '"' :: '"' :: rest) =
      some ((List.replicate used '"' ++ found).reverse, rest) := by
  have hclosed : readBasicFrom true (behindQuotes used) found ('"' :: '"' :: '"' :: rest) =
      readBasicFrom true (.quotes (used + 3)) found rest := by
    obtain rfl | rfl | rfl : used = 0 ∨ used = 1 ∨ used = 2 := by omega
    · rfl
    · rfl
    · rfl
  rw [hclosed]
  have hthree : closingQuotes (.quotes (used + 3)) = some used := by
    rw [closingQuotes, if_pos (Nat.le_add_left 3 used), Nat.add_sub_cancel]
  cases rest with
  | nil => rw [readBasicFrom, hthree]; rfl
  | cons c rest =>
    have hc : ¬(c = '"' ∧ used + 3 < 5) := fun h => hrest (congrArg some h.1)
    simp only [readBasicFrom, hthree, if_neg hc]

theorem readBasicFrom_line (cs : List Char) :
    readBasicFrom false .plain [] (escapeBasic false 0 0 cs ++ '"' :: rest) = some (cs, rest) := by
  refine readBasicFrom_escapeBasic 0 rfl (fun used hused found => ?_) cs (Nat.le_refl 0)
  rw [Nat.le_zero.1 hused]
  exact readBasicFrom_close

theorem readBasicFrom_lines (cs : List Char) (hrest : rest.head? ≠ some '"') :
    readBasicFrom true .plain [] (escapeBasic true 2 0 cs ++ '"' :: '"' :: '"' :: rest) =
      some (cs, rest) := by
  refine readBasicFrom_escapeBasic 2 rfl (fun used hused found => ?_) cs (Nat.zero_le 2)
  exact readBasicFrom_closeLines (Nat.lt_succ_of_le hused) hrest

end Basic

/-! ### Between single quotes -/

section Literal

variable {cs found rest : List Char}

theorem le_longestRun (c : Char) (current : Nat) (cs : List Char) :
    current ≤ longestRun c current cs := by
  induction cs generalizing current with
  | nil => exact Nat.le_refl _
  | cons d cs ih =>
    rw [longestRun]
    split
    · exact Nat.le_of_succ_le (ih (current + 1))
    · exact Nat.le_max_left _ _

theorem not_mem_of_longestRun {c : Char} {current : Nat} (h : longestRun c current cs = 0) :
    c ∉ cs := by
  induction cs generalizing current with
  | nil => exact List.not_mem_nil
  | cons d cs ih =>
    rw [longestRun] at h
    split at h
    · exact absurd (h ▸ le_longestRun c (current + 1) cs) (Nat.not_succ_le_zero current)
    · rename_i hd
      rw [List.mem_cons, not_or]
      exact ⟨Ne.symm hd, ih (Nat.max_eq_zero_iff.1 h).2⟩

/-- Between single quotes on one line a text stands as it is. -/
theorem readLiteral_line (hquote : '\'' ∉ cs) (hcontrol : ∀ c ∈ cs, isControl c = false) :
    readLiteral false (cs ++ '\'' :: rest) = some (String.ofList cs, rest) := by
  have hplain : ∀ c ∈ cs, (c != '\'') = true := by
    intro c hc
    rw [bne_iff_ne]
    rintro rfl
    exact hquote hc
  have hclose : ∀ c ∈ ('\'' :: rest).head?, (c != '\'') = false := Text.boundary_cons rfl rest
  have htext := Text.takeWhile_boundary hplain hclose
  have hend := Text.dropWhile_boundary hplain hclose
  have hallowed : ¬cs.any isControl = true := by
    simpa using hcontrol
  simp only [readLiteral, htext, hend, if_neg hallowed]
  rfl

theorem readLiteralLines_close {quotes : Nat} (h : quotes < 3) (hrest : rest.head? ≠ some '\'') :
    readLiteralLines quotes false found ('\'' :: '\'' :: '\'' :: rest) =
      some ((List.replicate quotes '\'' ++ found).reverse, rest) := by
  have hclosed : readLiteralLines quotes false found ('\'' :: '\'' :: '\'' :: rest) =
      readLiteralLines (quotes + 3) false found rest := by
    obtain rfl | rfl | rfl : quotes = 0 ∨ quotes = 1 ∨ quotes = 2 := by omega
    · rfl
    · rfl
    · rfl
  rw [hclosed]
  have hthree : 3 ≤ quotes + 3 := Nat.le_add_left 3 quotes
  cases rest with
  | nil => rw [readLiteralLines, if_pos hthree]; rfl
  | cons c rest =>
    have hc : ¬(c = '\'' ∧ false = false ∧ quotes + 3 < 5) := fun h => hrest (congrArg some h.1)
    rw [readLiteralLines, if_neg hc, if_pos hthree]
    rfl

/-- Over several lines, too, if no more than two single quotes follow each other. -/
theorem readLiteralLines_written {quotes : Nat} (hrun : longestRun '\'' quotes cs < 3)
    (hescape : ∀ c ∈ cs, needsEscape c = false) (hrest : rest.head? ≠ some '\'') :
    readLiteralLines quotes false found (cs ++ '\'' :: '\'' :: '\'' :: rest) =
      some ((List.replicate quotes '\'' ++ found).reverse ++ cs, rest) := by
  induction cs generalizing quotes found with
  | nil =>
    have hfew : quotes < 3 := hrun
    rw [List.nil_append, readLiteralLines_close hfew hrest, List.append_nil]
  | cons c cs ih =>
    have hfew : quotes < 3 := Nat.lt_of_le_of_lt (le_longestRun _ _ _) hrun
    obtain ⟨hc, hcs⟩ := List.forall_mem_cons.1 hescape
    rw [List.cons_append, readLiteralLines]
    rw [longestRun] at hrun
    by_cases hquote : c = '\''
    · subst hquote
      rw [if_pos rfl] at hrun
      rw [if_pos ⟨rfl, rfl, by omega⟩, ih hrun hcs, List.replicate_succ]
      simp
    · rw [if_neg hquote] at hrun
      have hnext : longestRun '\'' 0 cs < 3 := Nat.lt_of_le_of_lt (Nat.le_max_right _ _) hrun
      have hread : readLiteralLines 0 false (c :: (List.replicate quotes '\'' ++ found))
          (cs ++ '\'' :: '\'' :: '\'' :: rest) =
          some ((List.replicate quotes '\'' ++ found).reverse ++ c :: cs, rest) := by
        rw [ih hnext hcs]
        simp
      rw [if_neg (fun h => hquote h.1), if_neg (Nat.not_le_of_lt hfew)]
      by_cases hline : c = '\n'
      · subst hline
        exact hread
      · have hcontrol := isControl_of_not_needsEscape hc hline
        have hreturn : c ≠ '\r' := by
          rintro rfl
          exact absurd hc (by decide)
        rw [if_neg hline, if_neg Bool.false_ne_true, if_neg hreturn,
          if_neg (Bool.eq_false_iff.1 hcontrol)]
        exact hread

end Literal

/-! ### The form that is chosen -/

theorem of_chooseForm_literal {p : Profile} (h : chooseForm p = .literal) :
    p.control = false ∧ p.single = 0 ∧ p.newline = false := by
  unfold chooseForm at h
  grind

theorem of_chooseForm_literalLines {p : Profile} (h : chooseForm p = .literalLines) :
    p.control = false ∧ p.single < 3 := by
  unfold chooseForm at h
  grind

theorem not_needsEscape_of_profile {cs : List Char} (h : (profile cs).control = false) :
    ∀ c ∈ cs, needsEscape c = false := by
  simpa [profile] using h

theorem afterLineEnd_eq_none {cs : List Char} (h : ∀ c ∈ cs.head?, c ≠ '\n' ∧ c ≠ '\r') :
    afterLineEnd cs = none := by
  unfold afterLineEnd
  split
  · exact absurd rfl (h '\n' rfl).1
  · exact absurd rfl (h '\r' rfl).2
  · rfl

/-- What a text over several lines starts with: a line end, if there is one in it. -/
def startOf (cs : List Char) : List Char :=
  if (profile cs).newline then ['\n'] else []

/-- The line end at the beginning is dropped, and no other one is. -/
theorem afterLineEnd_start {cs body : List Char}
    (h : ∀ c ∈ body.head?, c ≠ '\r' ∧ (c = '\n' → '\n' ∈ cs)) :
    (afterLineEnd (startOf cs ++ body)).getD (startOf cs ++ body) = body := by
  cases hline : (profile cs).newline with
  | true =>
    have hstart : startOf cs = ['\n'] := if_pos hline
    rw [hstart]
    rfl
  | false =>
    have hstart : startOf cs = [] := if_neg (Bool.eq_false_iff.1 hline)
    have hnone : '\n' ∉ cs := by simpa [profile] using hline
    have hbody : afterLineEnd body = none :=
      afterLineEnd_eq_none fun c hc => ⟨fun hn => hnone ((h c hc).2 hn), (h c hc).1⟩
    rw [hstart, List.nil_append, hbody]
    rfl

theorem head?_writtenBasic (multiline : Bool) (c : Char) :
    ∃ d, (writtenBasic multiline c).head? = some d ∧ (d = '\\' ∨ d = c ∧ c ≠ '\r') := by
  unfold writtenBasic numberEscape
  cases multiline <;> grind

/-- What is written between double quotes starts with an escape or with the first character. -/
theorem head?_escapeBasic (multiline : Bool) (room : Nat) (c : Char) (cs : List Char) :
    ∃ d, (escapeBasic multiline room 0 (c :: cs)).head? = some d ∧
      (d = '\\' ∨ d = c ∧ c ≠ '\r' ∧ (c = '"' → 0 < room)) := by
  by_cases hc : c = '"'
  · rw [escapeBasic, if_pos hc]
    split
    · rename_i hroom
      exact ⟨'"', rfl, .inr ⟨hc.symm, by rw [hc]; decide, fun _ => hroom⟩⟩
    · exact ⟨'\\', rfl, .inl rfl⟩
  · obtain ⟨d, hd, hfirst⟩ := head?_writtenBasic multiline c
    rw [escapeBasic_cons hc, List.head?_append, hd]
    exact ⟨d, rfl, hfirst.imp_right fun h => ⟨h.1, h.2, fun h => absurd h hc⟩⟩

section Forms

variable {rest : List Char}

theorem readQuoted_basic {body : List Char} (h : ∀ cs, body ≠ '"' :: '"' :: cs) :
    readQuoted ('"' :: body) = readBasic false body := by
  unfold readQuoted
  split <;> grind

theorem readQuoted_literal {body : List Char} (h : ∀ cs, body ≠ '\'' :: '\'' :: cs) :
    readQuoted ('\'' :: body) = readLiteral false body := by
  unfold readQuoted
  split <;> grind

/-- Behind an empty text no third quote follows, and no other text starts with a quote. -/
theorem escapeBasic_no_quotes (cs : List Char) (hrest : rest.head? ≠ some '"')
    (cs' : List Char) : escapeBasic false 0 0 cs ++ '"' :: rest ≠ '"' :: '"' :: cs' := by
  intro h
  cases cs with
  | nil =>
    rw [escapeBasic, List.nil_append, List.cons_inj_right] at h
    exact hrest (by rw [h]; rfl)
  | cons c cs =>
    obtain ⟨d, hd, hfirst⟩ := head?_escapeBasic false 0 c cs
    have hquote : (escapeBasic false 0 0 (c :: cs) ++ '"' :: rest).head? = some '"' := by
      rw [h]
      rfl
    rw [List.head?_append, hd] at hquote
    obtain rfl : d = '"' := Option.some.inj hquote
    rcases hfirst with hslash | ⟨hc, -, hroom⟩
    · exact absurd hslash (by decide)
    · exact absurd (hroom hc.symm) (Nat.not_lt_zero 0)

theorem readQuoted_line (cs : List Char) (hrest : rest.head? ≠ some '"') :
    readQuoted ('"' :: (escapeBasic false 0 0 cs ++ '"' :: rest)) =
      some (String.ofList cs, rest) := by
  rw [readQuoted_basic (escapeBasic_no_quotes cs hrest), readBasic, if_neg Bool.false_ne_true,
    readBasicFrom_line]
  rfl

theorem readQuoted_lines (cs : List Char) (hrest : rest.head? ≠ some '"') :
    readQuoted ('"' :: '"' :: '"' ::
        (startOf cs ++ (escapeBasic true 2 0 cs ++ '"' :: '"' :: '"' :: rest))) =
      some (String.ofList cs, rest) := by
  have hstart : ∀ c ∈ (escapeBasic true 2 0 cs ++ '"' :: '"' :: '"' :: rest).head?,
      c ≠ '\r' ∧ (c = '\n' → '\n' ∈ cs) := by
    intro c hc
    cases cs with
    | nil =>
      obtain rfl := Option.some.inj hc
      exact ⟨by decide, fun h => absurd h (by decide)⟩
    | cons d ds =>
      obtain ⟨e, he, hfirst⟩ := head?_escapeBasic true 2 d ds
      rw [List.head?_append, he] at hc
      obtain rfl := Option.some.inj hc
      rcases hfirst with rfl | ⟨rfl, hreturn, -⟩
      · exact ⟨by decide, fun h => absurd h (by decide)⟩
      · exact ⟨hreturn, fun h => h ▸ .head _⟩
  rw [readQuoted, readBasic, if_pos rfl, afterLineEnd_start hstart, readBasicFrom_lines cs hrest]
  rfl

theorem readQuoted_literalLine {cs : List Char} (hquote : '\'' ∉ cs)
    (hcontrol : ∀ c ∈ cs, isControl c = false) (hrest : rest.head? ≠ some '\'') :
    readQuoted ('\'' :: (cs ++ '\'' :: rest)) = some (String.ofList cs, rest) := by
  have hbody : ∀ cs', cs ++ '\'' :: rest ≠ '\'' :: '\'' :: cs' := by
    intro cs' h
    cases cs with
    | nil =>
      rw [List.nil_append, List.cons_inj_right] at h
      exact hrest (by rw [h]; rfl)
    | cons c cs =>
      rw [List.cons_append, List.cons.injEq] at h
      exact hquote (by simp [h.1])
  rw [readQuoted_literal hbody, readLiteral_line hquote hcontrol]

theorem readQuoted_literalLines {cs : List Char} (hrun : longestRun '\'' 0 cs < 3)
    (hescape : ∀ c ∈ cs, needsEscape c = false) (hrest : rest.head? ≠ some '\'') :
    readQuoted ('\'' :: '\'' :: '\'' :: (startOf cs ++ (cs ++ '\'' :: '\'' :: '\'' :: rest))) =
      some (String.ofList cs, rest) := by
  have hstart : ∀ c ∈ (cs ++ '\'' :: '\'' :: '\'' :: rest).head?,
      c ≠ '\r' ∧ (c = '\n' → '\n' ∈ cs) := by
    intro c hc
    cases cs with
    | nil =>
      obtain rfl := Option.some.inj hc
      exact ⟨by decide, fun h => absurd h (by decide)⟩
    | cons d ds =>
      obtain rfl := Option.some.inj hc
      refine ⟨?_, fun h => h ▸ .head _⟩
      rintro rfl
      exact absurd (hescape '\r' (.head _)) (by decide)
  rw [readQuoted, readLiteral, if_pos rfl, afterLineEnd_start hstart,
    readLiteralLines_written hrun hescape hrest]
  rfl

/-- **A text is read as it was written**, in whichever form. -/
theorem readQuoted_writeText (s : String) (hdouble : rest.head? ≠ some '"')
    (hsingle : rest.head? ≠ some '\'') : readQuoted (writeText s ++ rest) = some (s, rest) := by
  simp only [writeText]
  cases hform : chooseForm (profile s.toList) with
  | basic => simpa using readQuoted_line s.toList hdouble
  | literal =>
    obtain ⟨hcontrol, hrun, hline⟩ := of_chooseForm_literal hform
    have hplain : ∀ c ∈ s.toList, isControl c = false := by
      intro c hc
      refine isControl_of_not_needsEscape (not_needsEscape_of_profile hcontrol c hc) ?_
      rintro rfl
      simp [profile, hc] at hline
    simpa using readQuoted_literalLine (not_mem_of_longestRun hrun) hplain hsingle
  | basicLines => simpa [startOf] using readQuoted_lines s.toList hdouble
  | literalLines =>
    obtain ⟨hcontrol, hrun⟩ := of_chooseForm_literalLines hform
    simpa [startOf] using
      readQuoted_literalLines hrun (not_needsEscape_of_profile hcontrol) hsingle

end Forms

end CodePermit.Toml
