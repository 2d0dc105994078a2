import CodePermit.ProcessStatus
import CodePermit.Proofs.Placeholders
import Mathlib.Data.List.Forall2
/-!
# Lines of a process status

Whether a process may run generated code is told by two lines of its status: the last one that names
its tracer and the last one with its protection flags.  All other lines may come and go, the two
kinds may pass each other, and it makes no difference how lines end.

* `values`, `ofLines_eq` — the values of the lines of one name, and what is made of them;
* `LastValue`, `lastValue_iff` — the value of the last line of a name, said of the lines themselves;
* `Traces`, `namesTracer_iff` — the values that name a tracer;
* `permits_eq_false_iff` — when a process may not run generated code;
* `Rearranged`, `Rearranged.ofLines_eq` — lines that come, go and change places;
* `EndsVary`, `EndsVary.lines` — line feeds with and without a carriage return before them;
* `status_decided` — all of this for texts.
-/

namespace CodePermit

namespace ProcessStatus

/-! ### Lines of one name -/

/-- The values of the lines of a name, in order. -/
def values (name : List Char) (lines : List (List Char)) : List (List Char) :=
  lines.filterMap (Text.afterPattern name)

theorem values_append (name : List Char) (ls ls' : List (List Char)) :
    values name (ls ++ ls') = values name ls ++ values name ls' :=
  List.filterMap_append

/-- No line is one of both names. -/
theorem afterPattern_flags_of_tracer {line value : List Char}
    (h : Text.afterPattern tracerName line = some value) :
    Text.afterPattern flagsName line = none := by
  rw [Text.eq_append_of_afterPattern h]
  rfl

theorem readLine_eq (s : ProcessStatus) (line : List Char) :
    s.readLine line =
      { traced := ((Text.afterPattern tracerName line).map namesTracer).getD s.traced
        protectionEnforced :=
          ((Text.afterPattern flagsName line).map enforcesProtection).getD
            s.protectionEnforced } := by
  unfold readLine
  cases htracer : Text.afterPattern tracerName line with
  | some value =>
    rw [afterPattern_flags_of_tracer htracer]
    rfl
  | none => cases Text.afterPattern flagsName line <;> rfl

/-- The value of the last line of a name when one more line has come. -/
theorem getLast?_values_concat (name : List Char) (lines : List (List Char)) (line : List Char) :
    (values name (lines ++ [line])).getLast? =
      (Text.afterPattern name line).or (values name lines).getLast? := by
  rw [values_append, List.getLast?_append]
  unfold values
  cases h : Text.afterPattern name line <;> simp [h]

/-- **Of several lines with one name the last one counts**, for each of the two names on its own. -/
theorem ofLines_eq (lines : List (List Char)) :
    ofLines lines =
      { traced := (values tracerName lines).getLast?.any namesTracer
        protectionEnforced := (values flagsName lines).getLast?.any enforcesProtection } := by
  -- the last line is read after all others
  induction lines using List.reverseRecOn with
  | nil => rfl
  | append_singleton lines line ih =>
    have hread : ofLines (lines ++ [line]) = (ofLines lines).readLine line := by
      rw [ofLines, List.foldl_append]
      rfl
    rw [hread, readLine_eq, ih, getLast?_values_concat, getLast?_values_concat]
    cases Text.afterPattern tracerName line <;> cases Text.afterPattern flagsName line <;> rfl

/-! ### The last line of a name -/

/-- The last line that begins with a name has this value behind it. -/
def LastValue (name : List Char) (lines : List (List Char)) (value : List Char) : Prop :=
  ∃ before after, lines = before ++ (name ++ value) :: after ∧ ∀ line ∈ after, ¬name <+: line

theorem values_eq_nil_iff {name : List Char} {lines : List (List Char)} :
    values name lines = [] ↔ ∀ line ∈ lines, ¬name <+: line := by
  simp only [values, List.filterMap_eq_nil_iff, Text.afterPattern_eq_none_iff]

theorem lastValue_iff {name value : List Char} {lines : List (List Char)} :
    LastValue name lines value ↔ (values name lines).getLast? = some value := by
  constructor
  · rintro ⟨before, after, rfl, hafter⟩
    have hvalue : values name ((name ++ value) :: after) = [value] := by
      rw [values, List.filterMap_cons, Text.afterPattern_append]
      exact congrArg _ (values_eq_nil_iff.2 hafter)
    rw [values_append, hvalue, List.getLast?_concat]
  · intro h
    induction lines using List.reverseRecOn with
    | nil => cases h
    | append_singleton lines line ih =>
      rw [getLast?_values_concat] at h
      cases hline : Text.afterPattern name line with
      | some v =>
        rw [hline] at h
        cases h
        exact ⟨lines, [], by rw [Text.eq_append_of_afterPattern hline], List.forall_mem_nil _⟩
      | none =>
        rw [hline] at h
        obtain ⟨before, after, rfl, hafter⟩ := ih h
        refine ⟨before, after ++ [line], by simp, fun l hl => ?_⟩
        rcases List.mem_append.1 hl with hl | hl
        · exact hafter l hl
        · rw [List.mem_singleton.1 hl]
          exact Text.afterPattern_eq_none_iff.1 hline

/-! ### What values say -/

/-- A value names a tracer: what is left of it without blanks is a 32-bit number other than zero. -/
def Traces (value : List Char) : Prop :=
  ∃ n, Text.Numeral (Text.trim value) n ∧ n < UInt32.size ∧ n ≠ 0

theorem namesTracer_iff {value : List Char} : namesTracer value = true ↔ Traces value := by
  unfold namesTracer Traces Text.readUInt32
  cases hread : Text.readBelow UInt32.size (Text.trim value) with
  | none =>
    constructor
    · intro h
      cases h
    · rintro ⟨n, hnumeral, hlt, -⟩
      rw [Text.readBelow_eq_some_iff.2 ⟨hnumeral, hlt⟩] at hread
      cases hread
  | some m =>
    obtain ⟨hnumeral, hlt⟩ := Text.readBelow_eq_some_iff.1 hread
    have hzero : UInt32.ofNat m ≠ 0 ↔ m ≠ 0 := by
      rw [Ne, ← UInt32.toNat_inj, UInt32.toNat_ofNat_of_lt' hlt]
      rfl
    simp only [Option.map_some, Option.any_some, decide_eq_true_eq, hzero]
    constructor
    · intro h
      exact ⟨m, hnumeral, hlt, h⟩
    · rintro ⟨n, hn, hn', hne⟩
      have hsame := Text.readBelow_eq_some_iff.2 ⟨hn, hn'⟩
      rw [hread, Option.some.injEq] at hsame
      rwa [hsame]

/-- The flag that enforces memory protection is no blank, so that it stays when blanks go. -/
theorem enforcesProtection_iff {flags : List Char} :
    enforcesProtection flags = true ↔ 'M' ∈ flags := by
  obtain ⟨before, after, hflags, hbefore, hafter⟩ := (Text.trim_isTrimmed flags).around
  have hblank : ∀ cs : List Char, (∀ c ∈ cs, Text.isBlank c = true) → 'M' ∉ cs := by
    intro cs hcs hM
    have hM' := hcs 'M' hM
    revert hM'
    decide
  rw [enforcesProtection, List.contains_iff_mem]
  constructor
  · intro h
    rw [hflags]
    simp [h]
  · intro h
    rw [hflags] at h
    simpa [hblank before hbefore, hblank after hafter] using h

/-- **A process may not run generated code if and only if** the last line of flags enforces memory
protection and the last line on the tracer, if there is one, names none. -/
theorem permits_eq_false_iff {lines : List (List Char)} :
    (ofLines lines).permits = false ↔
      (∃ flags, LastValue flagsName lines flags ∧ 'M' ∈ flags) ∧
        ∀ value, LastValue tracerName lines value → ¬Traces value := by
  have htraced : (values tracerName lines).getLast?.any namesTracer = false ↔
      ∀ value, LastValue tracerName lines value → ¬Traces value := by
    simp only [lastValue_iff, ← namesTracer_iff]
    cases (values tracerName lines).getLast? <;> simp
  have hprotected : (values flagsName lines).getLast?.any enforcesProtection = true ↔
      ∃ flags, LastValue flagsName lines flags ∧ 'M' ∈ flags := by
    simp only [lastValue_iff, ← enforcesProtection_iff]
    cases (values flagsName lines).getLast? <;> simp
  rw [ofLines_eq, permits, Bool.or_eq_false_iff, Bool.not_eq_false', htraced, hprotected, and_comm]

/-! ### Lines that come, go and change places -/

/-- A line that begins with neither name. -/
def IsOther (line : List Char) : Prop :=
  ¬tracerName <+: line ∧ ¬flagsName <+: line

/-- Two lines that begin with the same one of the names. -/
def SameName (line line' : List Char) : Prop :=
  tracerName <+: line ∧ tracerName <+: line' ∨ flagsName <+: line ∧ flagsName <+: line'

/-- Other lines come and go, and neighbours change places unless they have the same name. -/
inductive Rearranged : List (List Char) → List (List Char) → Prop
  | unchanged (lines : List (List Char)) : Rearranged lines lines
  | inserted {line : List Char} (before after : List (List Char)) (h : IsOther line) :
      Rearranged (before ++ after) (before ++ line :: after)
  | deleted {line : List Char} (before after : List (List Char)) (h : IsOther line) :
      Rearranged (before ++ line :: after) (before ++ after)
  | swapped {line line' : List Char} (before after : List (List Char)) (h : ¬SameName line line') :
      Rearranged (before ++ line :: line' :: after) (before ++ line' :: line :: after)
  | trans {ls ls' ls'' : List (List Char)} (h : Rearranged ls ls') (h' : Rearranged ls' ls'') :
      Rearranged ls ls''

theorem values_insert {name line : List Char} (h : ¬name <+: line)
    (before after : List (List Char)) :
    values name (before ++ line :: after) = values name (before ++ after) := by
  rw [values_append, values_append, values, values, List.filterMap_cons,
    Text.afterPattern_eq_none_iff.2 h, values]

theorem values_swap {name line line' : List Char} (h : ¬(name <+: line ∧ name <+: line'))
    (before after : List (List Char)) :
    values name (before ++ line' :: line :: after) =
      values name (before ++ line :: line' :: after) := by
  by_cases hline : name <+: line
  · have hline' : ¬name <+: line' := fun h' => h ⟨hline, h'⟩
    have hmoved := values_insert hline' (before ++ [line]) after
    rw [List.append_assoc, List.append_assoc] at hmoved
    rw [values_insert hline']
    exact hmoved.symm
  · have hmoved := values_insert hline (before ++ [line']) after
    rw [List.append_assoc, List.append_assoc] at hmoved
    rw [values_insert hline]
    exact hmoved

/-- The lines of each name stay as they are, in their order. -/
theorem Rearranged.values_eq {ls ls' : List (List Char)} (h : Rearranged ls ls') :
    values tracerName ls' = values tracerName ls ∧ values flagsName ls' = values flagsName ls := by
  induction h with
  | unchanged lines => exact ⟨rfl, rfl⟩
  | inserted before after h =>
    exact ⟨values_insert h.1 before after, values_insert h.2 before after⟩
  | deleted before after h =>
    exact ⟨(values_insert h.1 before after).symm, (values_insert h.2 before after).symm⟩
  | swapped before after h =>
    obtain ⟨htracer, hflags⟩ := not_or.1 h
    exact ⟨values_swap htracer before after, values_swap hflags before after⟩
  | trans _ _ ih ih' => exact ⟨ih'.1.trans ih.1, ih'.2.trans ih.2⟩

theorem Rearranged.ofLines_eq {ls ls' : List (List Char)} (h : Rearranged ls ls') :
    ofLines ls' = ofLines ls := by
  obtain ⟨htracer, hflags⟩ := h.values_eq
  rw [ProcessStatus.ofLines_eq, ProcessStatus.ofLines_eq ls, htracer, hflags]

/-! ### How lines end -/

/-- Some line feeds have got a carriage return before them. -/
inductive EndsVary : List Char → List Char → Prop
  | nil : EndsVary [] []
  | kept {t t' : List Char} (c : Char) (h : EndsVary t t') : EndsVary (c :: t) (c :: t')
  | replaced {t t' : List Char} (h : EndsVary t t') : EndsVary ('\n' :: t) ('\r' :: '\n' :: t')

/-- All line feeds may get one. -/
theorem endsVary_all (t : List Char) :
    EndsVary t (Text.replaceAll ['\n'] ['\r', '\n'] t) := by
  induction t with
  | nil =>
    rw [Text.replaceAll_nil]
    exact .nil
  | cons c t ih =>
    by_cases hc : c = '\n'
    · subst hc
      have hpattern := Text.replaceAll_pattern (a := '\n') (q := []) (v := ['\r', '\n']) t
      rw [List.cons_append, List.nil_append] at hpattern
      rw [hpattern]
      exact .replaced ih
    · have hother : ¬['\n'] <+: c :: t := fun h => hc (List.cons_prefix_cons.1 h).1.symm
      rw [Text.replaceAll_cons hother]
      exact .kept c ih

/-- A line may have got a carriage return at its end. -/
def LineVaries (line line' : List Char) : Prop :=
  line' = line ∨ line' = line ++ ['\r']

/-- The pieces between line feeds: all but the last one may have got a carriage return. -/
inductive PiecesVary : List (List Char) → List (List Char) → Prop
  | last (piece : List Char) : PiecesVary [piece] [piece]
  | closed {piece piece' : List Char} {rest rest' : List (List Char)}
      (h : LineVaries piece piece') (hrest : PiecesVary rest rest') :
      PiecesVary (piece :: rest) (piece' :: rest')

theorem PiecesVary.cons_first {c : Char} {pieces pieces' : List (List Char)}
    (h : PiecesVary pieces pieces') :
    ∃ p ps p' ps', pieces = p :: ps ∧ pieces' = p' :: ps' ∧
      PiecesVary ((c :: p) :: ps) ((c :: p') :: ps') := by
  cases h with
  | last piece => exact ⟨piece, [], piece, [], rfl, rfl, .last _⟩
  | closed h hrest =>
    refine ⟨_, _, _, _, rfl, rfl, .closed ?_ hrest⟩
    rcases h with rfl | rfl
    · exact .inl rfl
    · exact .inr rfl

theorem EndsVary.splitOn {t t' : List Char} (h : EndsVary t t') :
    PiecesVary (Text.splitOn '\n' t) (Text.splitOn '\n' t') := by
  induction h with
  | nil => exact .last []
  | @kept t t' c _ ih =>
    by_cases hc : c = '\n'
    · rw [Text.splitOn, Text.splitOn, if_pos hc, if_pos hc]
      exact .closed (.inl rfl) ih
    · obtain ⟨p, ps, p', ps', hps, hps', hcons⟩ := ih.cons_first (c := c)
      rw [Text.splitOn, Text.splitOn, if_neg hc, if_neg hc, hps, hps']
      exact hcons
  | @replaced t t' _ ih =>
    have hreturn : Text.splitOn '\n' ('\r' :: '\n' :: t') = ['\r'] :: Text.splitOn '\n' t' := by
      simp [Text.splitOn]
    rw [hreturn, Text.splitOn, if_pos rfl]
    exact .closed (.inr rfl) ih

theorem chomp_concat (line : List Char) : Text.chomp (line ++ ['\r']) = line := by
  simp [Text.chomp]

theorem lineVaries_chomp {piece piece' : List Char} (h : LineVaries piece piece') :
    LineVaries (Text.chomp piece) (Text.chomp piece') := by
  rcases h with rfl | rfl
  · exact .inl rfl
  -- the carriage return that has come is the one that goes; one that was there before stays
  rw [chomp_concat]
  by_cases hlast : piece.getLast? = some '\r'
  · obtain ⟨line, rfl⟩ := List.getLast?_eq_some_iff.1 hlast
    rw [chomp_concat]
    exact .inr rfl
  · rw [Text.chomp, if_neg hlast]
    exact .inl rfl

theorem PiecesVary.closedLines {pieces pieces' : List (List Char)}
    (h : PiecesVary pieces pieces') :
    List.Forall₂ LineVaries (Text.closedLines pieces) (Text.closedLines pieces') := by
  induction h with
  | last piece => exact List.forall₂_same.2 fun _ _ => .inl rfl
  | closed h hrest ih =>
    obtain ⟨p, ps, p', ps', rfl, rfl, -⟩ := hrest.cons_first (c := ' ')
    exact .cons (lineVaries_chomp h) ih

theorem EndsVary.lines {t t' : List Char} (h : EndsVary t t') :
    List.Forall₂ LineVaries (Text.lines t) (Text.lines t') :=
  h.splitOn.closedLines

theorem trim_concat_return (value : List Char) :
    Text.trim (value ++ ['\r']) = Text.trim value := by
  obtain ⟨⟨before, after, hvalue, hbefore, hafter⟩, hfirst, hlast⟩ := Text.trim_isTrimmed value
  refine Text.IsTrimmed.trim_eq ⟨⟨before, after ++ ['\r'], ?_, hbefore, fun c hc => ?_⟩,
    hfirst, hlast⟩
  · rw [← List.append_assoc, ← List.append_assoc, List.append_assoc before, ← hvalue]
  · rcases List.mem_append.1 hc with hc | hc
    · exact hafter c hc
    · rw [List.mem_singleton.1 hc]
      rfl

theorem afterPattern_concat_return {name : List Char} (h : '\r' ∉ name) (line : List Char) :
    Text.afterPattern name (line ++ ['\r']) =
      (Text.afterPattern name line).map (· ++ ['\r']) := by
  cases hline : Text.afterPattern name line with
  | some value =>
    rw [Text.eq_append_of_afterPattern hline, List.append_assoc, Text.afterPattern_append]
    rfl
  | none =>
    refine Text.afterPattern_eq_none_iff.2 fun hprefix => ?_
    rcases List.prefix_concat_iff.1 hprefix with hwhole | hshort
    · rw [hwhole] at h
      simp at h
    · exact Text.afterPattern_eq_none_iff.1 hline hshort

theorem readLine_varied {line line' : List Char} (h : LineVaries line line')
    (s : ProcessStatus) : s.readLine line' = s.readLine line := by
  rcases h with rfl | rfl
  · rfl
  have htracer : namesTracer ∘ (· ++ ['\r']) = namesTracer := by
    funext value
    simp only [Function.comp_apply, namesTracer, trim_concat_return]
  have hflags : enforcesProtection ∘ (· ++ ['\r']) = enforcesProtection := by
    funext flags
    simp only [Function.comp_apply, enforcesProtection, trim_concat_return]
  rw [readLine_eq, readLine_eq, afterPattern_concat_return (by decide),
    afterPattern_concat_return (by decide), Option.map_map, Option.map_map, htracer, hflags]

theorem ofLines_varied {ls ls' : List (List Char)} (h : List.Forall₂ LineVaries ls ls') :
    ofLines ls' = ofLines ls := by
  unfold ofLines
  generalize ({} : ProcessStatus) = s
  induction h generalizing s with
  | nil => rfl
  | cons hfirst _ ih => rw [List.foldl_cons, List.foldl_cons, readLine_varied hfirst, ih]

end ProcessStatus

open ProcessStatus

/-! ### Texts -/

theorem permitted_eq (text : String) :
    permitted text = (ofLines (Text.lines text.toList)).permits :=
  rfl

/-- **Two lines decide whether a process may run generated code**: the last one of flags and the
last one on the tracer.  It makes no difference which other lines there are, in which order lines of
different names stand, and how lines end. -/
theorem status_decided :
    (∀ text : String, permitted text = false ↔
      (∃ flags, LastValue flagsName (Text.lines text.toList) flags ∧ 'M' ∈ flags) ∧
        ∀ value, LastValue tracerName (Text.lines text.toList) value → ¬Traces value) ∧
    (∀ text text' : String,
      Rearranged (Text.lines text.toList) (Text.lines text'.toList) →
        permitted text' = permitted text) ∧
    (∀ text text' : String, EndsVary text.toList text'.toList →
      permitted text' = permitted text) ∧
    ∀ text : String,
      permitted (String.ofList (Text.replaceAll ['\n'] ['\r', '\n'] text.toList)) =
        permitted text := by
  have hends : ∀ text text' : String, EndsVary text.toList text'.toList →
      permitted text' = permitted text := by
    intro text text' h
    rw [permitted_eq, permitted_eq, ofLines_varied h.lines]
  refine ⟨fun text => permits_eq_false_iff, fun text text' h => ?_, hends, fun text => ?_⟩
  · rw [permitted_eq, permitted_eq, h.ofLines_eq]
  · refine hends _ _ ?_
    rw [String.toList_ofList]
    exact endsVary_all text.toList

/-- Flags that enforce protection before the line on the tracer, and the same two lines the other
way round behind a third one. -/
theorem status_decided_rearranged :
    permitted "PaX:\tPeMRs\nTracerPid:\t0\n" = false ∧
      Rearranged (Text.lines "PaX:\tPeMRs\nTracerPid:\t0\n".toList)
        (Text.lines "Name:\tx\nTracerPid:\t0\nPaX:\tPeMRs\n".toList) ∧
      permitted "Name:\tx\nTracerPid:\t0\nPaX:\tPeMRs\n" =
        permitted "PaX:\tPeMRs\nTracerPid:\t0\n" := by
  have hlines : Rearranged ["PaX:\tPeMRs".toList, "TracerPid:\t0".toList]
      ["Name:\tx".toList, "TracerPid:\t0".toList, "PaX:\tPeMRs".toList] :=
    .trans (.swapped [] [] (by unfold SameName; decide))
      (.inserted [] _ (by unfold IsOther; decide))
  exact ⟨rfl, hlines, status_decided.2.1 _ _ hlines⟩

end CodePermit
