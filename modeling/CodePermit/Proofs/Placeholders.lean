import CodePermit.Helper.Exchange
import CodePermit.Proofs.Numerals
/-!
# Placeholders

The placeholders of an argument are filled in by one pass for each of them.  What comes out is what
one scan of the argument as it was given fills in: the digits that the first pass inserts are part
of no placeholder, so that none arises from them, and the second pass inserts last.

* `replaceAll_append`, `prefix_of_prefix_replaceAll` — what a pass finds and what it leaves alone;
* `Piece`, `Scanned` — the pieces of a text that one scan for two patterns finds;
* `exists_scanned`, `Scanned.unique` — there is one way to scan a text;
* `substitute_of_scanned`, `replaceAll_of_scanned` — the simultaneous substitution and the two
  passes fill in the pieces of a scan;
* `arguments_expanded` — the arguments of a command line.
-/

namespace CodePermit

namespace Text

/-! ### One pass -/

theorem afterPattern_eq_some_iff {p t rest : List Char} :
    afterPattern p t = some rest ↔ t = p ++ rest :=
  ⟨eq_append_of_afterPattern, fun h => h ▸ afterPattern_append p rest⟩

theorem afterPattern_eq_none_iff {p t : List Char} : afterPattern p t = none ↔ ¬p <+: t := by
  rw [Option.eq_none_iff_forall_ne_some]
  constructor
  · rintro h ⟨rest, rfl⟩
    exact h rest (afterPattern_append p rest)
  · intro h rest hrest
    exact h ⟨rest, (afterPattern_eq_some_iff.1 hrest).symm⟩

section Passes

variable {a b : Char} {p q d v t : List Char}

theorem replaceAll_nil : replaceAll p v [] = [] := by
  rw [replaceAll]

theorem replaceAll_pattern (rest : List Char) :
    replaceAll (a :: q) v (a :: q ++ rest) = v ++ replaceAll (a :: q) v rest := by
  have hmatch := afterPattern_append (a :: q) rest
  rw [List.cons_append] at hmatch ⊢
  rw [replaceAll]
  split
  · rename_i rest' h
    rw [hmatch] at h
    cases h
    rfl
  · rename_i h
    rw [hmatch] at h
    cases h

theorem replaceAll_cons {c : Char} {cs : List Char} (h : ¬a :: q <+: c :: cs) :
    replaceAll (a :: q) v (c :: cs) = c :: replaceAll (a :: q) v cs := by
  have hnone := afterPattern_eq_none_iff.2 h
  rw [replaceAll]
  split
  · rename_i hsome
    rw [hnone] at hsome
    cases hsome
  · rfl

/-- A pass leaves alone what the first character of its pattern does not occur in. -/
theorem replaceAll_append (h : a ∉ d) (t : List Char) :
    replaceAll (a :: q) v (d ++ t) = d ++ replaceAll (a :: q) v t := by
  induction d with
  | nil => rfl
  | cons c d ih =>
    obtain ⟨hc, hd⟩ := not_or.1 (fun hor => h (List.mem_cons.2 hor))
    rw [List.cons_append, replaceAll_cons (fun hp => hc (List.cons_prefix_cons.1 hp).1), ih hd]
    rfl

/-- What a text begins with after a pass, and what is not inserted, it began with before. -/
theorem prefix_of_prefix_replaceAll {w : List Char} (hd : d ≠ []) (hfresh : ∀ x ∈ d, x ∉ w)
    (h : w <+: replaceAll (b :: p) d t) : w <+: t := by
  induction w generalizing t with
  | nil => exact List.nil_prefix
  | cons x w ih =>
    cases t with
    | nil =>
      rw [replaceAll_nil] at h
      exact h
    | cons c cs =>
      by_cases hp : b :: p <+: c :: cs
      · -- the text would begin with what is inserted
        obtain ⟨rest, hrest⟩ := hp
        obtain ⟨y, ys, rfl⟩ := List.exists_cons_of_ne_nil hd
        rw [← hrest, replaceAll_pattern, List.cons_append, List.cons_prefix_cons] at h
        exact absurd (by simp [h.1]) (hfresh y (by simp))
      · rw [replaceAll_cons hp, List.cons_prefix_cons] at h
        obtain ⟨rfl, hw⟩ := h
        refine List.cons_prefix_cons.2 ⟨rfl, ih (fun y hy hyw => ?_) hw⟩
        exact hfresh y hy (List.mem_cons_of_mem _ hyw)

end Passes

/-! ### One scan -/

/-- A piece of a text in which two patterns are looked for. -/
inductive Piece where
  | letter (c : Char)
  | first
  | second

/-- What stands for a piece when a value is inserted for each of the patterns. -/
def Piece.filled (d v : List Char) : Piece → List Char
  | letter c => [c]
  | first => d
  | second => v

/-- One scan of a text from the left: where a pattern stands it is a piece, and the scan goes on
behind it; elsewhere a character is one. -/
inductive Scanned (p q : List Char) : List Char → List Piece → Prop
  | done : Scanned p q [] []
  | first {rest : List Char} {ps : List Piece} (h : Scanned p q rest ps) :
      Scanned p q (p ++ rest) (.first :: ps)
  | second {rest : List Char} {ps : List Piece} (hp : ¬p <+: q ++ rest)
      (h : Scanned p q rest ps) : Scanned p q (q ++ rest) (.second :: ps)
  | letter {c : Char} {rest : List Char} {ps : List Piece} (hp : ¬p <+: c :: rest)
      (hq : ¬q <+: c :: rest) (h : Scanned p q rest ps) :
      Scanned p q (c :: rest) (.letter c :: ps)

section Scans

variable {a b : Char} {p q d v t rest : List Char} {ps : List Piece}

theorem exists_scanned (b : Char) (p : List Char) (a : Char) (q : List Char) (t : List Char) :
    ∃ ps, Scanned (b :: p) (a :: q) t ps := by
  -- the rest behind a piece is shorter than the text
  induction hn : t.length using Nat.strong_induction_on generalizing t with
  | h n ih =>
    by_cases hp : b :: p <+: t
    · obtain ⟨rest, rfl⟩ := hp
      obtain ⟨ps, hps⟩ := ih rest.length (by simp at hn; omega) rest rfl
      exact ⟨_, .first hps⟩
    · by_cases hq : a :: q <+: t
      · obtain ⟨rest, rfl⟩ := hq
        obtain ⟨ps, hps⟩ := ih rest.length (by simp at hn; omega) rest rfl
        exact ⟨_, .second hp hps⟩
      · cases t with
        | nil => exact ⟨_, .done⟩
        | cons c rest =>
          obtain ⟨ps, hps⟩ := ih rest.length (by simp at hn; omega) rest rfl
          exact ⟨_, .letter hp hq hps⟩

/-- **There is one way to scan a text.** -/
theorem Scanned.unique (h : Scanned (b :: p) (a :: q) t ps) :
    ∀ {ps'}, Scanned (b :: p) (a :: q) t ps' → ps' = ps := by
  induction h with
  | done =>
    intro ps' h'
    cases h'
    rfl
  | @first rest ps _ ih =>
    intro ps' h'
    generalize ht : b :: p ++ rest = t at h'
    cases h' with
    | done => cases ht
    | first h' =>
      obtain rfl := List.append_cancel_left ht
      rw [ih h']
    | second hp => exact absurd ⟨rest, ht⟩ hp
    | letter hp => exact absurd ⟨rest, ht⟩ hp
  | @second rest ps hp _ ih =>
    intro ps' h'
    generalize ht : a :: q ++ rest = t at h' hp
    cases h' with
    | done => cases ht
    | first => exact absurd (List.prefix_append _ _) hp
    | second _ h' =>
      obtain rfl := List.append_cancel_left ht
      rw [ih h']
    | letter _ hq => exact absurd ⟨rest, ht⟩ hq
  | @letter c rest ps hp hq _ ih =>
    intro ps' h'
    generalize ht : c :: rest = t at h' hp hq
    cases h' with
    | done => cases ht
    | first => exact absurd (List.prefix_append _ _) hp
    | second => exact absurd (List.prefix_append _ _) hq
    | letter _ _ h' =>
      cases ht
      rw [ih h']

/-- The pieces of a text are all of it. -/
theorem Scanned.flatMap_filled (h : Scanned p q t ps) : ps.flatMap (Piece.filled p q) = t := by
  induction h with
  | done => rfl
  | first _ ih => rw [List.flatMap_cons, ih, Piece.filled]
  | second _ _ ih => rw [List.flatMap_cons, ih, Piece.filled]
  | letter _ _ _ ih =>
    rw [List.flatMap_cons, ih, Piece.filled]
    rfl

theorem firstMatch_pattern {rules : List (List Char × List Char)} :
    firstMatch ((a :: q, v) :: rules) (a :: q ++ rest) = some (v, rest) := by
  rw [firstMatch, List.findSome?_cons, if_neg (List.cons_ne_nil a q), afterPattern_append]
  rfl

theorem firstMatch_other {rules : List (List Char × List Char)} (h : ¬p <+: t) :
    firstMatch ((p, d) :: rules) t = firstMatch rules t := by
  simp [firstMatch, afterPattern_eq_none_iff.2 h]

theorem substitute_of_match {rules : List (List Char × List Char)}
    (h : firstMatch rules t = some (v, rest)) :
    substitute rules t = v ++ substitute rules rest := by
  cases t with
  | nil => exact absurd (firstMatch_length h) (Nat.not_lt_zero _)
  | cons c cs =>
    rw [substitute]
    split
    · rename_i h'
      rw [h] at h'
      cases h'
      rfl
    · rename_i h'
      rw [h] at h'
      cases h'

theorem substitute_of_none {rules : List (List Char × List Char)} {c : Char}
    (h : firstMatch rules (c :: rest) = none) :
    substitute rules (c :: rest) = c :: substitute rules rest := by
  rw [substitute]
  split
  · rename_i h'
    rw [h] at h'
    cases h'
  · rfl

/-- The simultaneous substitution fills in the pieces of a scan. -/
theorem substitute_of_scanned (h : Scanned (b :: p) (a :: q) t ps) :
    substitute [(b :: p, d), (a :: q, v)] t = ps.flatMap (Piece.filled d v) := by
  induction h with
  | done => rw [substitute, List.flatMap_nil]
  | first _ ih =>
    rw [substitute_of_match firstMatch_pattern, ih]
    rfl
  | second hp _ ih =>
    rw [substitute_of_match ((firstMatch_other hp).trans firstMatch_pattern), ih]
    rfl
  | letter hp hq _ ih =>
    rw [substitute_of_none ((firstMatch_other hp).trans (firstMatch_other hq)), ih]
    rfl

/-- **Two passes fill in the pieces of one scan**, if the first pattern does not begin within the
second one and what is inserted for it shares no character with the second one. -/
theorem replaceAll_of_scanned (hb : b ∉ q) (hd : d ≠ []) (hfresh : ∀ x ∈ d, x ∉ a :: q)
    (h : Scanned (b :: p) (a :: q) t ps) :
    replaceAll (a :: q) v (replaceAll (b :: p) d t) = ps.flatMap (Piece.filled d v) := by
  induction h with
  | done => rw [replaceAll_nil, replaceAll_nil, List.flatMap_nil]
  | first _ ih =>
    -- the second pattern does not begin in what was inserted
    have hinserted : a ∉ d := fun ha => hfresh a ha List.mem_cons_self
    rw [replaceAll_pattern, replaceAll_append hinserted, ih]
    rfl
  | @second rest _ hp _ ih =>
    -- the first pass leaves the second pattern alone
    have hkept : replaceAll (b :: p) d (a :: q ++ rest) = a :: q ++ replaceAll (b :: p) d rest := by
      rw [List.cons_append] at hp ⊢
      rw [replaceAll_cons hp, replaceAll_append hb]
      rfl
    rw [hkept, replaceAll_pattern, ih]
    rfl
  | @letter c rest _ hp hq _ ih =>
    -- the first pass brings about no second pattern either
    have hq' : ¬a :: q <+: c :: replaceAll (b :: p) d rest := by
      intro hprefix
      obtain ⟨rfl, hrest⟩ := List.cons_prefix_cons.1 hprefix
      refine hq (List.cons_prefix_cons.2 ⟨rfl, prefix_of_prefix_replaceAll hd ?_ hrest⟩)
      exact fun x hx hxq => hfresh x hx (List.mem_cons_of_mem _ hxq)
    rw [replaceAll_cons hp, replaceAll_cons hq', ih]
    rfl

end Scans

end Text

/-! ### Arguments -/

open Text (Piece Scanned substitute)

/-- What is inserted for the placeholders of a request. -/
def placeholderRules (r : AttachRequest) : List (List Char × List Char) :=
  [(pidPattern, Nat.toDigits 10 r.pid.toNat), (bundlePattern, r.bundleId.toList)]

/-- What stands for a piece of an argument: the number of the process in decimal digits, the
identifier as it is, or the character. -/
def fillIn (r : AttachRequest) : Piece → List Char :=
  Piece.filled (Nat.toDigits 10 r.pid.toNat) r.bundleId.toList

/-- No digit is a character of the placeholder of the identifier. -/
theorem digit_not_mem_bundlePattern {n : Nat} :
    ∀ x ∈ Nat.toDigits 10 n, x ∉ bundlePattern := by
  intro x hx hmem
  have hdigit := Text.isDigit_of_mem_toDigits hx
  have hnone : bundlePattern.any Char.isDigit = false := rfl
  exact List.any_eq_false.1 hnone x hmem hdigit

theorem expandArgument_of_scanned {argument : String} {ps : List Piece}
    (h : Scanned pidPattern bundlePattern argument.toList ps) (r : AttachRequest) :
    expandArgument r argument = String.ofList (ps.flatMap (fillIn r)) := by
  have hdigits : (toString r.pid.toNat).toList = Nat.toDigits 10 r.pid.toNat := Nat.toList_repr
  have hfilled : Text.replaceAll bundlePattern r.bundleId.toList
      (Text.replaceAll pidPattern (Nat.toDigits 10 r.pid.toNat) argument.toList) =
        ps.flatMap (fillIn r) :=
    Text.replaceAll_of_scanned (by decide) Nat.toDigits_ne_nil digit_not_mem_bundlePattern h
  rw [expandArgument, hdigits, hfilled]

/-- The simultaneous substitution in an argument does the same. -/
theorem expandArgument_eq_substitute (r : AttachRequest) (argument : String) :
    expandArgument r argument =
      String.ofList (substitute (placeholderRules r) argument.toList) := by
  obtain ⟨ps, hps⟩ : ∃ ps, Scanned pidPattern bundlePattern argument.toList ps :=
    Text.exists_scanned _ _ _ _ argument.toList
  rw [expandArgument_of_scanned hps]
  exact congrArg String.ofList (Text.substitute_of_scanned hps).symm

/-- The pieces of an argument, found in one scan of it as it was given. -/
structure PiecesOf (argument : String) (ps : List Piece) : Prop where
  /-- There is no other way to scan it. -/
  scan : ∀ other, Scanned pidPattern bundlePattern argument.toList other ↔ other = ps
  /-- With the placeholders themselves the pieces are the argument. -/
  whole : ps.flatMap (Piece.filled pidPattern bundlePattern) = argument.toList

theorem exists_piecesOf (argument : String) : ∃ ps, PiecesOf argument ps := by
  obtain ⟨ps, hps⟩ : ∃ ps, Scanned pidPattern bundlePattern argument.toList ps :=
    Text.exists_scanned _ _ _ _ argument.toList
  refine ⟨ps, fun other => ⟨fun h => hps.unique h, fun h => h ▸ hps⟩, hps.flatMap_filled⟩

/-- **Placeholders are filled in where they stand in the arguments as given**: the pieces are found
before anything is inserted, and what is inserted is not looked at again. -/
theorem arguments_expanded (program : String) (arguments : List String) :
    ∃ scans, List.Forall₂ PiecesOf arguments scans ∧ ∀ r,
      expandArguments r (program :: arguments) =
        scans.map (fun ps => String.ofList (ps.flatMap (fillIn r))) ∧
      expandArguments r (program :: arguments) =
        arguments.map fun a => String.ofList (substitute (placeholderRules r) a.toList) := by
  induction arguments with
  | nil => exact ⟨[], .nil, fun r => ⟨rfl, rfl⟩⟩
  | cons argument arguments ih =>
    obtain ⟨scans, hscans, hexpanded⟩ := ih
    obtain ⟨ps, hps⟩ := exists_piecesOf argument
    refine ⟨ps :: scans, .cons hps hscans, fun r => ?_⟩
    obtain ⟨hfilled, hsubstituted⟩ := hexpanded r
    have hfirst := expandArgument_of_scanned ((hps.scan ps).2 rfl) r
    have hcons : expandArguments r (program :: argument :: arguments) =
        expandArgument r argument :: expandArguments r (program :: arguments) := rfl
    refine ⟨?_, ?_⟩
    · rw [hcons, hfirst, hfilled, List.map_cons]
    · rw [hcons, hsubstituted, expandArgument_eq_substitute, List.map_cons]

/-- An identifier that looks like a placeholder stays as it is. -/
example : expandArguments ⟨7, "{pid}"⟩ ["helper", "{bundle_id}{pid}", "{{pid}}"] =
    ["{pid}7", "{7}"] := by
  cbv

end CodePermit
