import CodePermit.Proofs.TomlValues
/-!
# TOML documents that are read as they were written

A document has plain keys with values, one on a line, and behind them tables under doubled headers.
Reading it line by line builds up the tables that were written, if no key is there twice and all
values are read as they were written.

* `readKey_bare`, `readLine_field`, `readLine_header` — the lines of a document;
* `Opens`, `withSeries` — the table that is open among those that were read;
* `reads_fields`, `reads_tables` — fields and tables, one after another;
* `read_write` — a whole document.
-/

namespace CodePermit.Toml

/-! ### Lines -/

/-- A key that can be written without quotes. -/
structure IsBareKey (key : String) : Prop where
  nonempty : key.toList ≠ []
  bare : ∀ c ∈ key.toList, isBare c = true

section Lines

variable {key : String} {v : Toml} {fields : Fields} {header : List String} {rest : List Char}

theorem skipBlanks_of_not_blank {c : Char} (h : isBlank c = false) (cs : List Char) :
    skipBlanks (c :: cs) = c :: cs := by
  rw [skipBlanks, List.dropWhile_cons, h]
  rfl

theorem isBlank_of_isBare {c : Char} (h : isBare c = true) : isBlank c = false := by
  simp [isBlank, Text.ne_of_class h (d := ' ') (by decide),
    Text.ne_of_class h (d := '\t') (by decide)]

theorem readKeyPart_bare (h : IsBareKey key) (hrest : ∀ c ∈ rest.head?, isBare c = false) :
    readKeyPart (key.toList ++ rest) = some (key, rest) := by
  obtain ⟨c, cs, hcs⟩ := List.exists_cons_of_ne_nil h.nonempty
  have hc : isBare c = true := h.bare c (by rw [hcs]; exact .head _)
  have htake := Text.takeWhile_boundary h.bare hrest
  have hdrop := Text.dropWhile_boundary h.bare hrest
  unfold readKeyPart
  split
  · rename_i heq
    rw [hcs, List.cons_append, List.cons.injEq] at heq
    exact absurd heq.1 (Text.ne_of_class hc (by decide))
  · rename_i heq
    rw [hcs, List.cons_append, List.cons.injEq] at heq
    exact absurd heq.1 (Text.ne_of_class hc (by decide))
  · simp only [htake, hdrop, if_neg h.nonempty, String.ofList_toList]

/-- A bare key of one part, whatever follows it. -/
theorem readKey_bare (h : IsBareKey key) (hrest : ∀ c ∈ rest.head?, isBare c = false)
    (hdot : ∀ cs, skipBlanks rest ≠ '.' :: cs) :
    readKey (key.toList ++ rest) = some ([key], skipBlanks rest) := by
  have hskip : skipBlanks (key.toList ++ rest) = key.toList ++ rest := by
    obtain ⟨c, cs, hcs⟩ := List.exists_cons_of_ne_nil h.nonempty
    rw [hcs, List.cons_append,
      skipBlanks_of_not_blank (isBlank_of_isBare (h.bare c (by rw [hcs]; exact .head _)))]
  have hpart := readKeyPart_bare h hrest
  unfold readKey partLimit readKeyFrom
  rw [hskip, hpart]
  simp only [Option.bind_eq_bind, Option.bind_some]

theorem finishLine_newline (rest : List Char) : finishLine ('\n' :: rest) = some rest := rfl

theorem readLine_blank (fields : Fields) (header : List String) (rest : List Char) :
    readLine fields header ('\n' :: rest) = some (fields, header, rest) := rfl

/-- A header of an array of tables. -/
theorem readLine_header (h : IsBareKey key) :
    readLine fields header ('[' :: '[' :: (key.toList ++ ']' :: ']' :: '\n' :: rest)) =
      (openElement key fields).map fun fields => (fields, [key], rest) := by
  have hkey : readKey (key.toList ++ ']' :: ']' :: '\n' :: rest) =
      some ([key], ']' :: ']' :: '\n' :: rest) :=
    readKey_bare h (Text.boundary_cons (by decide) _)
      (fun cs h => by cases h)
  have hskip : skipBlanks ('[' :: '[' :: (key.toList ++ ']' :: ']' :: '\n' :: rest)) =
      '[' :: '[' :: (key.toList ++ ']' :: ']' :: '\n' :: rest) := rfl
  rw [readLine, hskip]
  simp only [Option.bind_eq_bind, hkey, Option.bind_some, Json.expect, if_true, finishLine_newline]
  exact Option.map_eq_bind.symm

/-- A key, its sign and its value. -/
theorem readPair_field (h : IsBareKey key) (hv : Legible depthLimit v) (rest : List Char) :
    readPair (some ∘ skipBlanks) (readValue depthLimit) (writeField (key, v) ++ rest) =
      some (([key], v), '\n' :: rest) := by
  obtain ⟨c, cs, hwrite, hfirm⟩ := hv.begins
  have hblank : isBlank c = false := by
    simp only [isFirm, Bool.and_eq_true, Bool.not_eq_true'] at hfirm
    exact hfirm.1.1.1.1
  have hvalue := hv.reads ('\n' :: rest) ⟨'\n', rest, rfl, .inl rfl⟩
  have hskip : skipBlanks (' ' :: (writeValue v ++ '\n' :: rest)) =
      writeValue v ++ '\n' :: rest := by
    have hspace : skipBlanks (' ' :: (writeValue v ++ '\n' :: rest)) =
        skipBlanks (writeValue v ++ '\n' :: rest) := rfl
    rw [hspace, hwrite, List.cons_append, skipBlanks_of_not_blank hblank]
  have hkey : readKey (key.toList ++ ' ' :: '=' :: ' ' :: (writeValue v ++ '\n' :: rest)) =
      some ([key], '=' :: ' ' :: (writeValue v ++ '\n' :: rest)) :=
    readKey_bare h (Text.boundary_cons (by decide) _)
      (fun cs h => by cases h)
  have htext : writeField (key, v) ++ rest =
      key.toList ++ ' ' :: '=' :: ' ' :: (writeValue v ++ '\n' :: rest) := by
    simp [writeField]
  have hequals : skipBlanks ('=' :: ' ' :: (writeValue v ++ '\n' :: rest)) =
      '=' :: ' ' :: (writeValue v ++ '\n' :: rest) := rfl
  rw [htext, readPair, hkey]
  simp only [Option.bind_eq_bind, Option.bind_some, Function.comp_apply, hequals, hskip, hvalue]

/-- A key with its value on a line. -/
theorem readLine_field (h : IsBareKey key) (hv : Legible depthLimit v) :
    readLine fields header (writeField (key, v) ++ rest) =
      (inTable (insert v [key]) header fields).map fun fields => (fields, header, rest) := by
  have hpair := readPair_field h hv rest
  obtain ⟨c, cs, hcs⟩ := List.exists_cons_of_ne_nil h.nonempty
  have hc : isBare c = true := h.bare c (by rw [hcs]; exact .head _)
  obtain ⟨cs, htext⟩ : ∃ cs, writeField (key, v) ++ rest = c :: cs :=
    ⟨_, by rw [writeField, hcs]; rfl⟩
  rw [htext] at hpair ⊢
  have hskip : skipBlanks (c :: cs) = c :: cs := skipBlanks_of_not_blank (isBlank_of_isBare hc) cs
  have hopen : c ≠ '[' := Text.ne_of_class hc (by decide)
  have hsharp : c ≠ '#' := Text.ne_of_class hc (by decide)
  have hend : afterLineEnd (c :: cs) = none :=
    afterLineEnd_eq_none fun d hd => by
      obtain rfl := Option.some.inj hd
      exact ⟨Text.ne_of_class hc (by decide), Text.ne_of_class hc (by decide)⟩
  have hunfinished : finishLine (c :: cs) = none := by
    simp [finishLine, hskip, hsharp, hend]
  rw [readLine, hskip]
  split
  · rename_i heq
    cases heq
    exact absurd rfl hopen
  · rename_i heq
    cases heq
    exact absurd rfl hopen
  · rename_i heq
    cases heq
  · simp only [hunfinished, hpair, Option.bind_eq_bind, Option.bind_some, finishLine_newline]
    exact Option.map_eq_bind.symm

end Lines

/-! ### Tables under construction -/

section Tables

variable {key : String} {node : Node} {fields base : Fields}

theorem get?_eq_none (h : key ∉ fields.map Prod.fst) : fields.get? key = none := by
  have hfind : fields.find? (fun f => f.1 == key) = none := by
    rw [List.find?_eq_none]
    intro f hf heq
    exact h (List.mem_map.2 ⟨f, hf, beq_iff_eq.1 heq⟩)
  rw [Fields.get?, hfind]
  rfl

theorem get?_concat (h : key ∉ fields.map Prod.fst) :
    Fields.get? (fields ++ [(key, node)]) key = some node := by
  have hfind : fields.find? (fun f => f.1 == key) = none := by
    simpa [Fields.get?] using get?_eq_none h
  simp [Fields.get?, List.find?_append, hfind]

theorem add_of_not_mem (h : key ∉ fields.map Prod.fst) :
    fields.add key node = some (fields ++ [(key, node)]) := by
  rw [Fields.add, get?_eq_none h]

theorem set_concat (h : key ∉ fields.map Prod.fst) (node' : Node) :
    Fields.set (fields ++ [(key, node)]) key node' = fields ++ [(key, node')] := by
  have hother : ∀ f ∈ fields, (if (f.1 == key) = true then (key, node') else f) = f := by
    intro f hf
    refine if_neg fun heq => h (List.mem_map.2 ⟨f, hf, beq_iff_eq.1 heq⟩)
  rw [Fields.set, List.map_append, List.map_congr_left hother, List.map_id']
  simp

/-- The table that a header has opened, in all that was read before. -/
def Opens (header : List String) (put : Fields → Fields) : Prop :=
  ∀ change sub, inTable change header (put sub) = (change sub).map put

theorem opens_nil : Opens [] id := by
  intro change sub
  rw [Option.map_id]
  rfl

/-- Behind the header of an array the last table of the array is open. -/
theorem opens_last (h : key ∉ base.map Prod.fst) (tables : List Fields) :
    Opens [key] fun sub => base ++ [(key, .series (tables ++ [sub]))] := by
  intro change sub
  simp only [inTable, get?_concat h, List.getLast?_concat, List.dropLast_concat]
  cases change sub with
  | none => rfl
  | some sub' => exact congrArg some (set_concat h _)

/-- The array of tables of a key behind other keys, if it has any table yet. -/
def withSeries (base : Fields) (key : String) : List Fields → Fields
  | [] => base
  | t :: ts => base ++ [(key, .series (t :: ts))]

theorem withSeries_concat (base : Fields) (key : String) (tables : List Fields) (t : Fields) :
    withSeries base key (tables ++ [t]) = base ++ [(key, .series (tables ++ [t]))] := by
  cases tables <;> rfl

theorem openElement_withSeries (h : key ∉ base.map Prod.fst) (tables : List Fields) :
    openElement key (withSeries base key tables) =
      some (base ++ [(key, .series (tables ++ [[]]))]) := by
  cases tables with
  | nil =>
    rw [withSeries, openElement, get?_eq_none h]
    exact add_of_not_mem h
  | cons t ts =>
    rw [withSeries, openElement, get?_concat h]
    exact congrArg some (set_concat h _)

/-- The fields of a table as they are while it is open. -/
def leaves (fields : List (String × Toml)) : Fields :=
  fields.map fun f => (f.1, .leaf f.2)

theorem closeFields_append (fields fields' : Fields) :
    closeFields (fields ++ fields') = closeFields fields ++ closeFields fields' := by
  induction fields with
  | nil => rfl
  | cons f fields ih => rw [List.cons_append, closeFields, ih]; rfl

theorem closeFields_leaves (fields : List (String × Toml)) :
    closeFields (leaves fields) = fields := by
  induction fields with
  | nil => rfl
  | cons f fields ih =>
    show (f.1, f.2) :: closeFields (leaves fields) = f :: fields
    rw [ih]

theorem closeTables_leaves (tables : List (List (String × Toml))) :
    closeTables (tables.map leaves) = tables.map .table := by
  induction tables with
  | nil => rfl
  | cons t tables ih => rw [List.map_cons, closeTables, closeFields_leaves, ih]; rfl

end Tables

/-! ### Documents -/

/-- The fields of a table that can be written: no key has two values. -/
structure Writable (fields : List (String × Toml)) : Prop where
  bare : ∀ f ∈ fields, IsBareKey f.1
  legible : ∀ f ∈ fields, Legible depthLimit f.2
  nodup : (fields.map Prod.fst).Nodup

/-- What is read when there are enough lines. -/
def Reads (fields : Fields) (header : List String) (cs : List Char) (result : Fields) : Prop :=
  ∀ bound, cs.length < bound → readLines bound fields header cs = some result

section Documents

variable {key : String} {fields base result : Fields} {header : List String} {cs rest : List Char}

theorem reads_nil (fields : Fields) (header : List String) : Reads fields header [] fields := by
  intro bound _
  cases bound <;> rfl

theorem Reads.line {fields' : Fields} {header' : List String}
    (hline : readLine fields header cs = some (fields', header', rest))
    (hlt : rest.length < cs.length) (h : Reads fields' header' rest result) :
    Reads fields header cs result := by
  intro bound hbound
  obtain ⟨bound, rfl⟩ := Nat.exists_eq_succ_of_ne_zero (Nat.ne_zero_of_lt hbound)
  have hne : cs ≠ [] := List.ne_nil_of_length_pos (Nat.zero_lt_of_lt hlt)
  rw [readLines, if_neg hne, hline]
  exact h bound (Nat.lt_of_lt_of_le hlt (Nat.le_of_lt_succ hbound))

/-- **Fields are read as they were written**, into the table that is open. -/
theorem reads_fields {put : Fields → Fields} (hopens : Opens header put)
    {fs : List (String × Toml)} (hbare : ∀ f ∈ fs, IsBareKey f.1)
    (hlegible : ∀ f ∈ fs, Legible depthLimit f.2) {sub : Fields}
    (hnodup : (sub.map Prod.fst ++ fs.map Prod.fst).Nodup)
    (h : Reads (put (sub ++ leaves fs)) header rest result) :
    Reads (put sub) header (fs.flatMap writeField ++ rest) result := by
  induction fs generalizing sub with
  | nil => simpa [leaves] using h
  | cons f fs ih =>
    obtain ⟨hkey, hkeys⟩ := List.forall_mem_cons.1 hbare
    obtain ⟨hvalue, hvalues⟩ := List.forall_mem_cons.1 hlegible
    have hnew : f.1 ∉ sub.map Prod.fst := by
      intro hmem
      exact (List.nodup_append.1 hnodup).2.2 f.1 hmem f.1 (.head _) rfl
    have hline : readLine (put sub) header (writeField f ++ (fs.flatMap writeField ++ rest)) =
        some (put (sub ++ [(f.1, .leaf f.2)]), header, fs.flatMap writeField ++ rest) := by
      rw [readLine_field hkey hvalue, hopens]
      show ((sub.add f.1 (.leaf f.2)).map put).map _ = _
      rw [add_of_not_mem hnew]
      rfl
    rw [List.flatMap_cons, List.append_assoc]
    refine Reads.line hline ?_ (ih hkeys hvalues ?_ ?_)
    · simp [writeField]
      omega
    · simpa using hnodup
    · simpa [leaves] using h

/-- **Tables are read as they were written**, as elements of one array. -/
theorem reads_tables (hkey : IsBareKey key) (hnew : key ∉ base.map Prod.fst)
    {tables : List (List (String × Toml))} (h : ∀ t ∈ tables, Writable t) (done : List Fields) :
    Reads (withSeries base key done) header (writeTables key tables)
      (withSeries base key (done ++ tables.map leaves)) := by
  induction tables generalizing done header with
  | nil =>
    rw [List.map_nil, List.append_nil]
    exact reads_nil _ _
  | cons t tables ih =>
    obtain ⟨ht, htables⟩ := List.forall_mem_cons.1 h
    have htext : writeTables key (t :: tables) = '\n' :: '[' :: '[' ::
        (key.toList ++ ']' :: ']' :: '\n' :: (t.flatMap writeField ++ writeTables key tables)) := by
      simp [writeTables]
    rw [htext]
    -- a blank line, the header, its fields, and then the tables that are left
    refine Reads.line (readLine_blank _ _ _) (by simp) ?_
    refine Reads.line (by rw [readLine_header hkey, openElement_withSeries hnew]; rfl)
      (by simp; omega) ?_
    refine reads_fields (opens_last hnew done) ht.bare ht.legible (by simpa using ht.nodup) ?_
    have hrest : Reads (withSeries base key (done ++ [leaves t])) [key] (writeTables key tables)
        (withSeries base key (done ++ [leaves t] ++ tables.map leaves)) :=
      ih htables (done ++ [leaves t])
    rw [withSeries_concat] at hrest
    simpa using hrest

theorem mapM_map {α : Type} {f : α → Toml} {g : Toml → Option α} (h : ∀ a, g (f a) = some a)
    (as : List α) : (as.map f).mapM g = some as := by
  induction as with
  | nil => rfl
  | cons a as ih => rw [List.map_cons, List.mapM_cons, h, ih]; rfl

theorem tables?_tables {tables : List (List (String × Toml))} (h : tables ≠ []) :
    tables? (.array (tables.map .table)) = some tables := by
  cases tables with
  | nil => exact absurd rfl h
  | cons t tables => exact mapM_map (g := fields?) (fun _ => rfl) (t :: tables)

/-- Plain keys come first, and then the tables under their headers. -/
theorem write_eq {plain : List (String × Toml)} {tables : List (List (String × Toml))}
    (hplain : ∀ f ∈ plain, tables? f.2 = none) (hne : tables ≠ []) :
    write (plain ++ [(key, .array (tables.map .table))]) =
      plain.flatMap writeField ++ writeTables key tables := by
  have hkept : plain.filter (fun f => (tables? f.2).isNone) = plain :=
    List.filter_eq_self.2 fun f hf => by rw [hplain f hf]; rfl
  have hlines : writePlain (plain ++ [(key, .array (tables.map .table))]) =
      plain.flatMap writeField := by
    rw [writePlain, List.filter_append, hkept]
    simp [tables?_tables hne]
  rw [write, hlines, List.flatMap_append]
  refine congrArg (plain.flatMap writeField ++ ·) ?_
  refine (congrArg (· ++ _) (List.flatMap_eq_nil_iff.2 fun f hf => ?_)).trans ?_
  · rw [hplain f hf]
  · simp [tables?_tables hne]

/-- No byte-order mark is taken off a text that starts otherwise. -/
theorem read_of_reads {text : List Char} (hfirst : ∀ c ∈ text.head?, c ≠ Char.ofNat 0xFEFF)
    (h : Reads [] [] text result) : read text = some (closeFields result) := by
  have hlines := h text.length.succ (Nat.lt_succ_self _)
  cases text with
  | nil =>
    rw [read, hlines]
    rfl
  | cons c text =>
    have hmark : c.toNat ≠ 0xFEFF := by
      intro hc
      refine hfirst c rfl ?_
      rw [← hc, Char.ofNat_toNat]
    simp only [read, if_neg hmark, hlines]
    rfl

/-- **A document is read as it was written**: plain keys, and a key with an array of tables behind
them. -/
theorem read_write {plain : List (String × Toml)} {tables : List (List (String × Toml))}
    (hplain : Writable plain) (hvalues : ∀ f ∈ plain, tables? f.2 = none) (hkey : IsBareKey key)
    (hnew : key ∉ plain.map Prod.fst) (hne : tables ≠ []) (htables : ∀ t ∈ tables, Writable t) :
    read (write (plain ++ [(key, .array (tables.map .table))])) =
      some (plain ++ [(key, .array (tables.map .table))]) := by
  have hnew' : key ∉ (leaves plain).map Prod.fst := by simpa [leaves] using hnew
  have hreads : Reads [] [] (plain.flatMap writeField ++ writeTables key tables)
      (withSeries (leaves plain) key (tables.map leaves)) :=
    reads_fields opens_nil hplain.bare hplain.legible hplain.nodup
      (reads_tables hkey hnew' htables [])
  have hfirst : ∀ c ∈ (plain.flatMap writeField ++ writeTables key tables).head?,
      c ≠ Char.ofNat 0xFEFF := by
    intro c hc
    cases hfields : plain with
    | nil =>
      obtain ⟨t, ts, rfl⟩ := List.exists_cons_of_ne_nil hne
      rw [hfields] at hc
      obtain rfl := Option.some.inj hc
      decide
    | cons f fs =>
      have hbare := hplain.bare f (by rw [hfields]; exact .head _)
      obtain ⟨d, ds, hds⟩ := List.exists_cons_of_ne_nil hbare.nonempty
      rw [hfields, List.flatMap_cons, writeField, hds] at hc
      obtain rfl := Option.some.inj hc
      exact Text.ne_of_class (hbare.bare _ (by rw [hds]; exact .head _)) (by decide)
  rw [write_eq hvalues hne, read_of_reads hfirst hreads]
  obtain ⟨t, ts, rfl⟩ := List.exists_cons_of_ne_nil hne
  rw [List.map_cons, withSeries, closeFields_append, closeFields_leaves, ← List.map_cons]
  simp only [closeFields, Node.close, closeTables_leaves]

end Documents

end CodePermit.Toml
