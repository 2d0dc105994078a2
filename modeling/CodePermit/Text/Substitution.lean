/-!
# Substitution in texts

Arguments of a helper command hold placeholders.  A pass replaces every occurrence of one
pattern, scanning from the left and going on behind what it replaced.  A second definition scans
once for several patterns at the same time and never looks at what it inserted.

* `afterPattern` — the rest of a text behind a pattern it starts with;
* `replaceAll` — one pass for one pattern;
* `substitute` — one scan for a list of patterns, the first that fits winning.
-/

namespace CodePermit.Text

/-- The rest of a text behind `pattern`, if the text starts with it. -/
def afterPattern : (pattern text : List Char) → Option (List Char)
  | [], text => some text
  | _ :: _, [] => none
  | p :: ps, c :: cs => if p = c then afterPattern ps cs else none

theorem afterPattern_length {p t r : List Char} (h : afterPattern p t = some r) :
    r.length + p.length = t.length := by
  induction p generalizing t with
  | nil =>
    simp only [afterPattern, Option.some.injEq] at h
    simp [h]
  | cons a p ih =>
    cases t with
    | nil => simp [afterPattern] at h
    | cons c cs =>
      simp only [afterPattern] at h
      split at h
      · have := ih h
        simp only [List.length_cons]
        omega
      · cases h

theorem afterPattern_append (p t : List Char) : afterPattern p (p ++ t) = some t := by
  induction p with
  | nil => rfl
  | cons a p ih => simp [afterPattern, ih]

theorem eq_append_of_afterPattern {p t r : List Char} (h : afterPattern p t = some r) :
    t = p ++ r := by
  induction p generalizing t with
  | nil => simpa [afterPattern] using h
  | cons a p ih =>
    cases t with
    | nil => simp [afterPattern] at h
    | cons c cs =>
      simp only [afterPattern] at h
      split at h
      · rename_i hac
        rw [hac, ih h]
        rfl
      · cases h

/-- Replaces every occurrence of `pattern`, from the left; an empty pattern occurs nowhere. -/
def replaceAll (pattern value : List Char) : List Char → List Char
  | [] => []
  | c :: cs =>
    match _h : afterPattern pattern (c :: cs) with
    | some rest =>
      if _hp : pattern = [] then c :: replaceAll pattern value cs
      else value ++ replaceAll pattern value rest
    | none => c :: replaceAll pattern value cs
termination_by text => text.length
decreasing_by
  · simp
  · have := afterPattern_length _h
    have : 0 < pattern.length := List.length_pos_iff.2 _hp
    simp only [List.length_cons] at *
    omega
  · simp

/-- The first rule whose pattern a text starts with: its value and the rest of the text. -/
def firstMatch (rules : List (List Char × List Char)) (text : List Char) :
    Option (List Char × List Char) :=
  rules.findSome? fun rule =>
    if rule.1 = [] then none else (afterPattern rule.1 text).map (rule.2, ·)

theorem firstMatch_length {rules : List (List Char × List Char)} {text value rest : List Char}
    (h : firstMatch rules text = some (value, rest)) : rest.length < text.length := by
  obtain ⟨rule, _, hr⟩ := List.exists_of_findSome?_eq_some h
  split at hr
  · cases hr
  · rename_i hne
    obtain ⟨r, ha, hv⟩ := Option.map_eq_some_iff.1 hr
    cases hv
    have := afterPattern_length ha
    have : 0 < rule.1.length := List.length_pos_iff.2 hne
    omega

/-- One scan from the left that replaces every pattern by its value and goes on behind it. -/
def substitute (rules : List (List Char × List Char)) : List Char → List Char
  | [] => []
  | c :: cs =>
    match _h : firstMatch rules (c :: cs) with
    | some (value, rest) => value ++ substitute rules rest
    | none => c :: substitute rules cs
termination_by text => text.length
decreasing_by
  · exact firstMatch_length _h
  · simp

end CodePermit.Text
