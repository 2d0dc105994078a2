import CodePermit.Json.Reader
import CodePermit.Json.Writer
/-!
# JSON that is read as it was written

Reading undoes writing for texts, whatever characters they hold, and for arrays and objects of what
is read as it was written, whatever white space stands between.  The messages exchanged with helpers
are texts and objects on one line.

* `readStringFrom_writeChar`, `readString_written` — texts between quotes;
* `Spells` — a text that is read as something, whatever follows it;
* `readList_joined` — items with commas between them;
* `spells_string`, `spells_array`, `spells_object` — values, in any layout;
* `Spells.read` — a whole text;
* `Legible`, `legible_object`, `Legible.read_write` — values on one line.
-/

namespace CodePermit.Json

/-! ### Texts -/

theorem hexValue_hexDigit {n : Nat} (h : n < 16) : hexValue (hexDigit n) = some n := by
  have hall : ∀ n < 16, hexValue (hexDigit n) = some n := by decide
  exact hall n h

/-- A character that is shown as it is. -/
theorem readStringFrom_plain {c : Char} (hquote : c ≠ '"') (hslash : c ≠ '\\')
    (hcontrol : ¬c.toNat < 0x20) (found rest : List Char) :
    readStringFrom .plain found (c :: rest) = readStringFrom .plain (c :: found) rest := by
  rw [readStringFrom, if_neg hquote, if_neg hslash, if_neg hcontrol]

/-- An escape of one letter. -/
theorem readStringFrom_shortEscape {c d : Char} (hletter : d ≠ 'u') (h : shortEscape d = some c)
    (found rest : List Char) :
    readStringFrom .plain found ('\\' :: d :: rest) = readStringFrom .plain (c :: found) rest := by
  rw [readStringFrom, if_neg (by decide), if_pos rfl, readStringFrom, if_neg hletter]
  simp only [h]

/-- The numeric escape of a control character. -/
theorem readStringFrom_numberEscape {c : Char} (h : c.toNat < 0x20) (found rest : List Char) :
    readStringFrom .plain found
        ('\\' :: 'u' :: '0' :: '0' :: hexDigit (c.toNat / 16) :: hexDigit (c.toNat % 16) :: rest) =
      readStringFrom .plain (c :: found) rest := by
  have hzero : hexValue '0' = some 0 := by decide
  have hhigh := hexValue_hexDigit (n := c.toNat / 16) (by omega)
  have hlow := hexValue_hexDigit (n := c.toNat % 16) (by omega)
  have hvalue : ((0 * 16 + 0) * 16 + 0) * 16 + c.toNat / 16 = c.toNat / 16 := by omega
  have hnumber : c.toNat / 16 * 16 + c.toNat % 16 = c.toNat := by omega
  have hfinish : finishDigits c.toNat none = some (.inl c) := by
    have hfirst : isHighSurrogate c.toNat = false := by
      simp only [isHighSurrogate, Bool.and_eq_false_iff, decide_eq_false_iff_not]
      omega
    have hsecond : isLowSurrogate c.toNat = false := by
      simp only [isLowSurrogate, Bool.and_eq_false_iff, decide_eq_false_iff_not]
      omega
    rw [finishDigits, hfirst, hsecond, Char.ofNat_toNat]
    rfl
  rw [readStringFrom, if_neg (by decide), if_pos rfl, readStringFrom, if_pos rfl]
  simp only [readStringFrom, hzero, hhigh, hlow, hvalue, hnumber, hfinish]
  simp

/-- **A character is read as it was written**, with or without an escape. -/
theorem readStringFrom_writeChar (c : Char) (found rest : List Char) :
    readStringFrom .plain found (writeChar c ++ rest) =
      readStringFrom .plain (c :: found) rest := by
  unfold writeChar
  split
  · rename_i h
    subst h
    exact readStringFrom_shortEscape (by decide) rfl found rest
  split
  · rename_i h
    subst h
    exact readStringFrom_shortEscape (by decide) rfl found rest
  split
  · rename_i h
    exact readStringFrom_shortEscape (by decide) (h ▸ rfl) found rest
  split
  · rename_i h
    exact readStringFrom_shortEscape (by decide) (h ▸ rfl) found rest
  split
  · rename_i h
    exact readStringFrom_shortEscape (by decide) (h ▸ rfl) found rest
  split
  · rename_i h
    have hc : Char.ofNat 8 = c := by rw [← h, Char.ofNat_toNat]
    exact readStringFrom_shortEscape (by decide) (hc ▸ rfl) found rest
  split
  · rename_i h
    have hc : Char.ofNat 12 = c := by rw [← h, Char.ofNat_toNat]
    exact readStringFrom_shortEscape (by decide) (hc ▸ rfl) found rest
  split
  · rename_i h
    exact readStringFrom_numberEscape h found rest
  · rename_i hquote hslash _ _ _ _ _ hcontrol
    exact readStringFrom_plain hquote hslash hcontrol found rest

theorem readStringFrom_written (cs found rest : List Char) :
    readStringFrom .plain found (cs.flatMap writeChar ++ '"' :: rest) =
      some (found.reverse ++ cs, rest) := by
  induction cs generalizing found with
  | nil =>
    rw [List.flatMap_nil, List.nil_append, readStringFrom, if_pos rfl, List.append_nil]
  | cons c cs ih =>
    rw [List.flatMap_cons, List.append_assoc, readStringFrom_writeChar, ih]
    simp

/-- **A text is read as it was written.** -/
theorem readString_written (s : String) (rest : List Char) :
    readString (s.toList.flatMap writeChar ++ '"' :: rest) = some (s, rest) := by
  rw [readString, readStringFrom_written]
  simp

/-! ### Texts that are read as something -/

/-- Nothing but white space. -/
def IsGap (cs : List Char) : Prop :=
  ∀ c ∈ cs, isSpace c = true

/-- A character that could be taken for a part of a number before it. -/
def extendsNumber (c : Char) : Bool :=
  c.isDigit || c == '.' || c == 'e' || c == 'E'

/-- What may stand behind a value: nothing that could be taken for a part of it. -/
def Follows (rest : List Char) : Prop :=
  ∀ c ∈ rest.head?, extendsNumber c = false

/-- A text that a reader takes for something, whatever follows it.  It begins with something that is
no white space and closes nothing. -/
structure Spells {α : Type} (reader : Reader α) (text : List Char) (a : α) : Prop where
  begins : ∃ c cs, text = c :: cs ∧ isSpace c = false ∧ c ≠ ']' ∧ c ≠ '}'
  reads : ∀ rest, Follows rest → reader (text ++ rest) = some (a, rest)

theorem skipSpace_of_not_space {c : Char} (h : isSpace c = false) (cs : List Char) :
    skipSpace (c :: cs) = c :: cs := by
  rw [skipSpace, List.dropWhile_cons, h]
  rfl

theorem skipSpace_append {gap : List Char} (h : IsGap gap) (cs : List Char) :
    skipSpace (gap ++ cs) = skipSpace cs :=
  List.dropWhile_append_of_pos h

theorem follows_cons {c : Char} (h : extendsNumber c = false) (cs : List Char) :
    Follows (c :: cs) := by
  intro d hd
  rwa [← Option.some.inj hd]

theorem extendsNumber_of_isSpace {c : Char} (h : isSpace c = true) : extendsNumber c = false := by
  simp only [isSpace, Bool.or_eq_true, beq_iff_eq] at h
  rcases h with ((rfl | rfl) | rfl) | rfl <;> rfl

/-- White space may follow a value, if what stands behind the white space may. -/
theorem follows_gap {gap cs : List Char} (hgap : IsGap gap) (h : Follows cs) :
    Follows (gap ++ cs) := by
  cases gap with
  | nil => exact h
  | cons c gap => exact follows_cons (extendsNumber_of_isSpace (hgap c (.head _))) _

section Lists

variable {α : Type} {reader : Reader α} {text : α → List Char} {a : α} {as : List α}
variable {gap outer : List Char} {close : Char}

theorem Spells.skipSpace {cs : List Char} (h : Spells reader cs a) (rest : List Char) :
    skipSpace (cs ++ rest) = cs ++ rest := by
  obtain ⟨c, cs, rfl, hspace, -⟩ := h.begins
  exact skipSpace_of_not_space hspace _

/-- A bracket that closes a list. -/
def Closes (close : Char) : Prop :=
  close = ']' ∨ close = '}'

theorem Closes.isSpace (h : Closes close) : isSpace close = false := by
  rcases h with rfl | rfl <;> rfl

theorem Closes.extendsNumber (h : Closes close) : extendsNumber close = false := by
  rcases h with rfl | rfl <;> rfl

theorem Closes.ne_comma (h : Closes close) : ',' ≠ close := by
  rcases h with rfl | rfl <;> decide

theorem Spells.begins_ne {cs : List Char} (h : Spells reader cs a) (hclose : Closes close) :
    ∃ c tail, cs = c :: tail ∧ c ≠ close := by
  obtain ⟨c, tail, hcs, -, hbracket, hbrace⟩ := h.begins
  rcases hclose with rfl | rfl
  · exact ⟨c, tail, hcs, hbracket⟩
  · exact ⟨c, tail, hcs, hbrace⟩

/-- An item behind white space, with the closing bracket behind it. -/
theorem readItems_last (hclose : Closes close) (houter : IsGap outer) (h : Spells reader (text a) a)
    {lead : List Char} (hlead : IsGap lead) (n : Nat) (found : List α) (rest : List Char) :
    readItems close reader (n + 1) found (lead ++ (text a ++ (outer ++ close :: rest))) =
      some (found.reverse ++ [a], rest) := by
  have hfollows : Follows (outer ++ close :: rest) :=
    follows_gap houter (follows_cons hclose.extendsNumber rest)
  have hend : Json.skipSpace (outer ++ close :: rest) = close :: rest := by
    rw [skipSpace_append houter, skipSpace_of_not_space hclose.isSpace]
  simp [readItems, skipSpace_append hlead, h.skipSpace, h.reads _ hfollows, hend]

/-- An item behind white space, with a comma behind it. -/
theorem readItems_next (hclose : Closes close) (h : Spells reader (text a) a) {lead : List Char}
    (hlead : IsGap lead) (n : Nat) (found : List α) (rest : List Char) :
    readItems close reader (n + 1) found (lead ++ (text a ++ ',' :: rest)) =
      readItems close reader n (a :: found) rest := by
  have hfollows : Follows (',' :: rest) := follows_cons rfl rest
  have hcomma : Json.skipSpace (',' :: rest) = ',' :: rest := skipSpace_of_not_space rfl rest
  simp [readItems, skipSpace_append hlead, h.skipSpace, h.reads _ hfollows, hcomma,
    hclose.ne_comma]

/-- **Items with commas between them are read one after another**, whatever white space stands
before each of them and behind the last one. -/
theorem readItems_joined (hclose : Closes close) (hgap : IsGap gap) (houter : IsGap outer)
    (h : ∀ b ∈ a :: as, Spells reader (text b) b) {lead : List Char} (hlead : IsGap lead)
    {n : Nat} (hbound : as.length ≤ n) (found : List α) (rest : List Char) :
    readItems close reader (n + 1) found
        (lead ++ (joinWith (',' :: gap) ((a :: as).map text) ++ (outer ++ close :: rest))) =
      some (found.reverse ++ a :: as, rest) := by
  induction as generalizing a n found lead with
  | nil => exact readItems_last hclose houter (h a (.head _)) hlead n found rest
  | cons b as ih =>
    obtain ⟨hfirst, hrest⟩ := List.forall_mem_cons.1 h
    obtain ⟨n, rfl⟩ := Nat.exists_eq_succ_of_ne_zero (Nat.ne_zero_of_lt hbound)
    have hjoined : joinWith (',' :: gap) ((a :: b :: as).map text) ++ (outer ++ close :: rest) =
        text a ++ ',' :: (gap ++ (joinWith (',' :: gap) ((b :: as).map text) ++
          (outer ++ close :: rest))) := by
      simp [joinWith]
    rw [hjoined, readItems_next hclose hfirst hlead,
      ih hrest hgap (Nat.le_of_succ_le_succ hbound) (a :: found)]
    simp

/-- There are hardly more items than characters. -/
theorem length_le_joinWith (c : Char) (gap : List Char) (ts : List (List Char)) :
    ts.length ≤ (joinWith (c :: gap) ts).length + 1 := by
  induction ts with
  | nil => exact Nat.zero_le _
  | cons t ts ih =>
    cases ts with
    | nil => exact Nat.le_add_left _ _
    | cons u ts =>
      have hjoin : joinWith (c :: gap) (t :: u :: ts) =
          t ++ (c :: gap) ++ joinWith (c :: gap) (u :: ts) := rfl
      rw [hjoin]
      simp only [List.length_append, List.length_cons] at ih ⊢
      omega

/-- **A list of items is read as it was written**, up to its closing bracket. -/
theorem readList_joined (hclose : Closes close) (hgap : IsGap gap) (houter : IsGap outer)
    (h : ∀ b ∈ a :: as, Spells reader (text b) b) (rest : List Char) :
    readList close reader
        (gap ++ (joinWith (',' :: gap) ((a :: as).map text) ++ (outer ++ close :: rest))) =
      some (a :: as, rest) := by
  -- the first item stands at the front, once the white space before it is gone
  have hfront : ∃ ds, joinWith (',' :: gap) ((a :: as).map text) = text a ++ ds := by
    cases as with
    | nil => exact ⟨[], (List.append_nil _).symm⟩
    | cons b as => exact ⟨_, List.append_assoc _ _ _⟩
  obtain ⟨ds, hds⟩ := hfront
  have hfirst := h a (.head _)
  obtain ⟨c, tail, hc, hne⟩ := hfirst.begins_ne hclose
  have hbound : as.length ≤ (tail ++ (ds ++ (outer ++ close :: rest))).length := by
    have hlength := length_le_joinWith ',' gap ((a :: as).map text)
    rw [hds, hc] at hlength
    simp only [List.length_append, List.length_cons, List.length_map] at hlength ⊢
    omega
  have hitems := readItems_joined hclose hgap houter h (List.forall_mem_nil _) hbound [] rest
  rw [hds, List.nil_append, List.append_assoc, hc, List.cons_append] at hitems
  rw [hds, List.append_assoc, readList, skipSpace_append hgap, hfirst.skipSpace, hc,
    List.cons_append]
  simpa [hne] using hitems

end Lists

/-! ### Values -/

section Values

variable {depth : Nat} {inner outer : List Char}

theorem spells_string (depth : Nat) (s : String) :
    Spells (readValue depth) (writeString s) (.string s) where
  begins := ⟨'"', s.toList.flatMap writeChar ++ ['"'], rfl, rfl, by decide, by decide⟩
  reads rest _ := by
    have hwrite : writeString s ++ rest = '"' :: (s.toList.flatMap writeChar ++ '"' :: rest) := by
      simp [writeString]
    rw [hwrite]
    cases depth <;> simp [readValue, readString_written]

/-- A member with its name, a colon and white space before its value. -/
theorem spells_member {gap text : List Char} {name : String} {j : Json} (hgap : IsGap gap)
    (h : Spells (readValue depth) text j) :
    Spells (readMember (readValue depth)) (writeString name ++ ':' :: (gap ++ text)) (name, j) where
  begins := ⟨'"', _, rfl, rfl, by decide, by decide⟩
  reads rest hrest := by
    have hwrite : writeString name ++ ':' :: (gap ++ text) ++ rest =
        '"' :: (name.toList.flatMap writeChar ++ '"' :: ':' :: (gap ++ (text ++ rest))) := by
      simp [writeString]
    have hcolon : skipSpace (':' :: (gap ++ (text ++ rest))) = ':' :: (gap ++ (text ++ rest)) :=
      skipSpace_of_not_space rfl _
    rw [hwrite, readMember, readString_written]
    simp [hcolon, skipSpace_append hgap, h.skipSpace, h.reads rest hrest]

/-- **An array of values that are read as they were written is so itself.** -/
theorem spells_array {text : Json → List Char} {js : List Json} (hne : js ≠ [])
    (hinner : IsGap inner) (houter : IsGap outer)
    (h : ∀ j ∈ js, Spells (readValue depth) (text j) j) :
    Spells (readValue (depth + 1))
      ('[' :: (inner ++ (joinWith (',' :: inner) (js.map text) ++ (outer ++ [']']))))
      (.array js) where
  begins := ⟨'[', _, rfl, rfl, by decide, by decide⟩
  reads rest _ := by
    obtain ⟨j, js, rfl⟩ := List.exists_cons_of_ne_nil hne
    have hlist := readList_joined (.inl rfl) hinner houter h rest
    simp only [List.cons_append, List.append_assoc, List.nil_append, readValue]
    rw [hlist]
    rfl

theorem spells_emptyArray (depth : Nat) :
    Spells (readValue (depth + 1)) ['[', ']'] (.array []) where
  begins := ⟨'[', [']'], rfl, rfl, by decide, by decide⟩
  reads rest _ := by
    have hend : skipSpace (']' :: rest) = ']' :: rest := skipSpace_of_not_space rfl rest
    simp [readValue, readList, hend]

/-- **An object of members that are read as they were written is so itself.** -/
theorem spells_object {text : String × Json → List Char} {fields : List (String × Json)}
    (hne : fields ≠ []) (hinner : IsGap inner) (houter : IsGap outer)
    (h : ∀ f ∈ fields, Spells (readMember (readValue depth)) (text f) f) :
    Spells (readValue (depth + 1))
      ('{' :: (inner ++ (joinWith (',' :: inner) (fields.map text) ++ (outer ++ ['}']))))
      (.object fields) where
  begins := ⟨'{', _, rfl, rfl, by decide, by decide⟩
  reads rest _ := by
    obtain ⟨f, fields, rfl⟩ := List.exists_cons_of_ne_nil hne
    have hlist := readList_joined (.inr rfl) hinner houter h rest
    simp only [List.cons_append, List.append_assoc, List.nil_append, readValue]
    rw [hlist]
    rfl

theorem spells_emptyObject (depth : Nat) :
    Spells (readValue (depth + 1)) ['{', '}'] (.object []) where
  begins := ⟨'{', ['}'], rfl, rfl, by decide, by decide⟩
  reads rest _ := by
    have hend : skipSpace ('}' :: rest) = '}' :: rest := skipSpace_of_not_space rfl rest
    simp [readValue, readList, hend]

/-- **A whole text is read**, with white space at its end or not. -/
theorem Spells.read {text after : List Char} {j : Json} (h : Spells (readValue depthLimit) text j)
    (hafter : IsGap after) : read (text ++ after) = some j := by
  have hfollows : Follows after := by
    rw [← List.append_nil after]
    exact follows_gap hafter nofun
  have hend : Json.skipSpace after = [] := by
    rw [← List.append_nil after, skipSpace_append hafter]
    rfl
  rw [Json.read, h.skipSpace, h.reads after hfollows]
  simp [hend]

end Values

/-! ### Values on one line -/

/-- A value that is read as it is written on one line, with at most so many arrays and objects
inside each other. -/
def Legible (depth : Nat) (j : Json) : Prop :=
  Spells (readValue depth) j.write j

theorem legible_string (depth : Nat) (s : String) : Legible depth (.string s) :=
  spells_string depth s

theorem writeMembers_eq_map (fields : List (String × Json)) :
    writeMembers fields = fields.map fun f => writeString f.1 ++ ':' :: ([] ++ f.2.write) := by
  induction fields with
  | nil => rfl
  | cons f fields ih => rw [writeMembers, ih, List.map_cons, List.nil_append]

/-- An object of legible values is legible. -/
theorem legible_object {depth : Nat} {fields : List (String × Json)}
    (h : ∀ f ∈ fields, Legible depth f.2) : Legible (depth + 1) (.object fields) := by
  have hgap : IsGap [] := List.forall_mem_nil _
  by_cases hne : fields = []
  · rw [hne]
    exact spells_emptyObject depth
  · rw [Legible, write, writeMembers_eq_map]
    exact spells_object hne hgap hgap fun f hf => spells_member hgap (h f hf)

/-- **A legible value is read as it was written.** -/
theorem Legible.read_write {j : Json} (h : Legible depthLimit j) : read j.write = some j := by
  rw [← List.append_nil j.write]
  exact Spells.read h nofun

end CodePermit.Json
