import CodePermit.CommandLine.Printout
import CodePermit.Proofs.IndentedJson
import Mathlib.Data.List.Forall2
/-!
# Printed reports

What is printed after acquisition tells what has become of it.  For programs it is a JSON document
from which the phase and the report can be read back; for people it is a line for each record, from
which the record can be told, and then the phase and the execution mode.

* `Phase.ofJson?`, `Report.ofJson?`, `ofJson?_startedReport` — what JSON values stand for;
* `Report.Fits`, `laid_acquisitionJson` — documents whose numbers fit 64 bits;
* `Documents`, `documents_acquisition` — what is printed for programs;
* `RecordLine`, `RecordLine.unique` — the line of a record;
* `Narrates`, `narrates_acquisition` — what is printed for people.
-/

namespace CodePermit

/-! ### Members of an object -/

namespace Json

/-- The text of a member. -/
def textOf (j : Json) (name : String) : Option String :=
  (j.member? name).bind text?

/-- The natural number of a member. -/
def natOf (j : Json) (name : String) : Option Nat :=
  match j.member? name with
  | some (number d) => d.toNat?
  | _ => none

/-- The truth value of a member. -/
def truthOf (j : Json) (name : String) : Option Bool :=
  match j.member? name with
  | some (bool b) => some b
  | _ => none

/-- The elements of a member. -/
def elementsOf (j : Json) (name : String) : Option (List Json) :=
  match j.member? name with
  | some (array js) => some js
  | _ => none

/-- The technique that a member names. -/
def techniqueOf (j : Json) (name : String) : Option Technique :=
  (j.textOf name).bind Technique.ofName?

variable {j : Json} {name : String}

theorem natOf_eq {n : Nat} (h : j.member? name = some (.ofNat n)) : j.natOf name = some n := by
  rw [natOf, h]
  rfl

theorem techniqueOf_eq {t : Technique} (h : j.member? name = some t.toJson) :
    j.techniqueOf name = some t := by
  rw [techniqueOf, textOf, h]
  exact t.ofName?_name

end Json

/-! ### What JSON values stand for -/

/-- The failure that a JSON value stands for. -/
def Failure.ofJson? (j : Json) : Option Failure := do
  let kind ← j.textOf "kind"
  if kind = "denied" then return .denied (← j.techniqueOf "strategy") (← j.textOf "reason")
  else if kind = "timed_out" then
    return .timedOut (← j.techniqueOf "strategy") (← j.natOf "timeout_ms")
  else if kind = "no_applicable_strategy" then return .nothingApplicable
  else if kind = "aborted" then return .aborted (← j.textOf "message")
  else none

/-- The phase that a JSON value stands for. -/
def Phase.ofJson? (j : Json) : Option Phase := do
  let state ← j.textOf "state"
  if state = "not_started" then return .notStarted
  else if state = "in_progress" then
    return .inProgress (← j.natOf "strategy_index") (← j.natOf "attempt")
  else if state = "succeeded" then return .succeeded (← j.techniqueOf "strategy_used")
  else if state = "failed" then
    return .failed (← (j.member? "last_error").bind Failure.ofJson?)
      (← j.truthOf "strategies_exhausted")
  else none

/-- The outcome that a JSON value stands for. -/
def Outcome.ofJson? (j : Json) : Option Outcome := do
  let outcome ← j.textOf "outcome"
  if outcome = "granted" then return .granted
  else if outcome = "denied" then return .denied (← j.textOf "reason")
  else if outcome = "timed_out" then return .timedOut
  else if outcome = "unavailable" then return .unavailable
  else none

/-- The record that a JSON value stands for. -/
def Record.ofJson? (j : Json) : Option Record := do
  return ⟨← j.techniqueOf "strategy", ← j.natOf "attempt",
    ← (j.member? "outcome").bind Outcome.ofJson?, ← j.natOf "duration_ms"⟩

/-- The report that a JSON value stands for. -/
def Report.ofJson? (j : Json) : Option Report := do
  return ⟨← (← j.elementsOf "attempts").mapM Record.ofJson?,
    ← (j.member? "final_state").bind Phase.ofJson?, ← j.natOf "elapsed_ms"⟩

theorem Failure.ofJson?_toJson (f : Failure) : ofJson? f.toJson = some f := by
  cases f with
  | denied t reason =>
    have ht : (Failure.denied t reason).toJson.techniqueOf "strategy" = some t :=
      Json.techniqueOf_eq rfl
    unfold ofJson?
    rw [ht]
    rfl
  | timedOut t limit =>
    have ht : (Failure.timedOut t limit).toJson.techniqueOf "strategy" = some t :=
      Json.techniqueOf_eq rfl
    have hlimit : (Failure.timedOut t limit).toJson.natOf "timeout_ms" = some limit :=
      Json.natOf_eq rfl
    unfold ofJson?
    rw [ht, hlimit]
    rfl
  | nothingApplicable => rfl
  | aborted message => rfl

/-- **A phase is what its JSON stands for.** -/
theorem Phase.ofJson?_toJson (p : Phase) : ofJson? p.toJson = some p := by
  cases p with
  | notStarted => rfl
  | inProgress index attempt =>
    have hindex : (Phase.inProgress index attempt).toJson.natOf "strategy_index" = some index :=
      Json.natOf_eq rfl
    have hattempt : (Phase.inProgress index attempt).toJson.natOf "attempt" = some attempt :=
      Json.natOf_eq rfl
    unfold ofJson?
    rw [hindex, hattempt]
    rfl
  | succeeded t =>
    have ht : (Phase.succeeded t).toJson.techniqueOf "strategy_used" = some t :=
      Json.techniqueOf_eq rfl
    unfold ofJson?
    rw [ht]
    rfl
  | failed f exhausted =>
    have hf : ((Phase.failed f exhausted).toJson.member? "last_error").bind Failure.ofJson? =
        some f := Failure.ofJson?_toJson f
    unfold ofJson?
    rw [hf]
    rfl

theorem Outcome.ofJson?_toJson (o : Outcome) : ofJson? o.toJson = some o := by
  cases o with
  | granted => rfl
  | denied reason => rfl
  | timedOut => rfl
  | unavailable => rfl

namespace CommandLine

theorem ofJson?_startedRecord (r : Record) (start : Nat) :
    Record.ofJson? (startedRecord r start) = some r := by
  have ht : (startedRecord r start).techniqueOf "strategy" = some r.technique :=
    Json.techniqueOf_eq rfl
  have hattempt : (startedRecord r start).natOf "attempt" = some r.attempt := Json.natOf_eq rfl
  have houtcome : ((startedRecord r start).member? "outcome").bind Outcome.ofJson? =
      some r.outcome := Outcome.ofJson?_toJson r.outcome
  have hduration : (startedRecord r start).natOf "duration_ms" = some r.duration :=
    Json.natOf_eq rfl
  unfold Record.ofJson?
  rw [ht, hattempt, houtcome, hduration]
  rfl

theorem mapM_startedRecord (pause : Technique → Nat) (elapsed : Nat) (rs : List Record) :
    (List.zipWith startedRecord rs (starts pause elapsed rs)).mapM Record.ofJson? = some rs := by
  induction rs generalizing elapsed with
  | nil => rfl
  | cons r rs ih =>
    rw [starts, List.zipWith_cons_cons, List.mapM_cons, ofJson?_startedRecord, ih]
    rfl

/-- **A report is what its JSON stands for.** -/
theorem ofJson?_startedReport (policies : List Policy) (r : Report) :
    Report.ofJson? (startedReport policies r) = some r := by
  have hrecords : (startedReport policies r).elementsOf "attempts" =
      some (List.zipWith startedRecord r.records (starts (pauseOf policies) 0 r.records)) := rfl
  have hphase : ((startedReport policies r).member? "final_state").bind Phase.ofJson? =
      some r.phase := Phase.ofJson?_toJson r.phase
  have helapsed : (startedReport policies r).natOf "elapsed_ms" = some r.elapsed :=
    Json.natOf_eq rfl
  unfold Report.ofJson?
  rw [hrecords, hphase, helapsed]
  simp only [Option.bind_eq_bind, Option.bind_some, mapM_startedRecord]
  rfl

end CommandLine

/-! ### Documents whose numbers fit 64 bits -/

/-- What is counted in a phase fits 64 bits. -/
def Phase.Fits : Phase → Prop
  | .inProgress index attempt => index < UInt64.size ∧ attempt < UInt64.size
  | .failed (.timedOut _ limit) _ => limit < UInt64.size
  | _ => True

/-- What is counted in a report fits 64 bits, the beginnings of its records included.  Counts and
times are unbounded, but stand for such as fit. -/
structure Report.Fits (policies : List Policy) (r : Report) : Prop where
  attempts : ∀ record ∈ r.records, record.attempt < UInt64.size
  durations : ∀ record ∈ r.records, record.duration < UInt64.size
  starts : ∀ start ∈ CommandLine.starts (CommandLine.pauseOf policies) 0 r.records,
    start < UInt64.size
  phase : r.phase.Fits
  elapsed : r.elapsed < UInt64.size

section Laid

open Json CommandLine

theorem laid_technique (depth : Nat) (t : Technique) : Laid depth t.toJson :=
  laid_string depth t.name

theorem laid_failure (depth : Nat) {f : Failure} {exhausted : Bool}
    (h : (Phase.failed f exhausted).Fits) : Laid (depth + 1) f.toJson := by
  cases f with
  | denied t reason =>
    exact laid_object <| .cons (laid_string _ _) <| .cons (laid_technique _ t) <|
      .cons (laid_string _ _) .nil
  | timedOut t limit =>
    exact laid_object <| .cons (laid_string _ _) <| .cons (laid_technique _ t) <|
      .cons (laid_nat _ h) .nil
  | nothingApplicable => exact laid_object <| .cons (laid_string _ _) .nil
  | aborted message => exact laid_object <| .cons (laid_string _ _) <| .cons (laid_string _ _) .nil

theorem laid_phase (depth : Nat) {p : Phase} (h : p.Fits) : Laid (depth + 2) p.toJson := by
  cases p with
  | notStarted => exact laid_object <| .cons (laid_string _ _) .nil
  | inProgress index attempt =>
    exact laid_object <| .cons (laid_string _ _) <| .cons (laid_nat _ h.1) <|
      .cons (laid_nat _ h.2) .nil
  | succeeded t => exact laid_object <| .cons (laid_string _ _) <| .cons (laid_technique _ t) .nil
  | failed f exhausted =>
    exact laid_object <| .cons (laid_string _ _) <| .cons (laid_failure depth h) <|
      .cons (laid_bool _ _) .nil

theorem laid_outcome (depth : Nat) (o : Outcome) : Laid (depth + 1) o.toJson := by
  cases o with
  | granted => exact laid_object <| .cons (laid_string _ _) .nil
  | denied reason => exact laid_object <| .cons (laid_string _ _) <| .cons (laid_string _ _) .nil
  | timedOut => exact laid_object <| .cons (laid_string _ _) .nil
  | unavailable => exact laid_object <| .cons (laid_string _ _) .nil

theorem laid_startedRecord (depth : Nat) {r : Record} {start : Nat}
    (hattempt : r.attempt < UInt64.size) (hduration : r.duration < UInt64.size)
    (hstart : start < UInt64.size) : Laid (depth + 2) (startedRecord r start) :=
  laid_object <| .cons (laid_technique _ r.technique) <| .cons (laid_nat _ hattempt) <|
    .cons (laid_outcome depth r.outcome) <| .cons (laid_nat _ hduration) <|
      .cons (laid_nat _ hstart) .nil

theorem laid_startedReport (depth : Nat) {policies : List Policy} {r : Report}
    (h : r.Fits policies) : Laid (depth + 4) (startedReport policies r) := by
  have hrecords : Laid (depth + 3) (.array
      (List.zipWith startedRecord r.records (starts (pauseOf policies) 0 r.records))) := by
    refine laid_array fun j hj => ?_
    rw [← List.map_uncurry_zip_eq_zipWith] at hj
    obtain ⟨⟨record, start⟩, hpair, rfl⟩ := List.mem_map.1 hj
    obtain ⟨hrecord, hstart⟩ := List.of_mem_zip hpair
    exact laid_startedRecord depth (h.attempts record hrecord) (h.durations record hrecord)
      (h.starts start hstart)
  exact laid_object <| .cons hrecords <| .cons (laid_phase (depth + 1) h.phase) <|
    .cons (laid_nat _ h.elapsed) .nil

theorem laid_acquisitionJson {policies : List Policy} {r : Report} (h : r.Fits policies) :
    Laid depthLimit (acquisitionJson policies r.phase (some r)) := by
  show Laid (122 + 5) _
  exact laid_object <| .cons (laid_phase (122 + 2) h.phase) <| .cons (laid_startedReport 122 h) .nil

end Laid

namespace CommandLine

/-! ### What is printed for programs -/

/-- A text is a JSON document that tells of a report and of the phase in which its run has ended; it
can be read back if what it counts fits 64 bits. -/
structure Documents (policies : List Policy) (r : Report) (output : String) (j : Json) : Prop where
  written : output = String.ofList (Json.writeIndented j) ++ "\n"
  state : (j.member? "state").bind Phase.ofJson? = some r.phase
  report : (j.member? "report").bind Report.ofJson? = some r
  readBack : r.Fits policies → Json.read output.toList = some j

/-- **What is printed for programs tells of the phase and of the report.** -/
theorem documents_acquisition (policies : List Policy) (r : Report) (events : List (Nat × Event)) :
    Documents policies r (acquisitionPrintout true policies r.phase (some r) events).output
      (acquisitionJson policies r.phase (some r)) where
  written := rfl
  state := Phase.ofJson?_toJson r.phase
  report := ofJson?_startedReport policies r
  readBack h := by
    have hend : Json.IsGap ['\n'] := List.forall_mem_singleton.2 rfl
    have hread := (laid_acquisitionJson h).read_writeIndented hend
    rw [acquisitionPrintout, if_pos rfl, String.toList_append, String.toList_ofList]
    exact hread

/-! ### Lines of records -/

/-- The line of a record: its technique in a column of eighteen characters, the number and the
length of the attempt, and its outcome. -/
def RecordLine (r : Record) (line : String) : Prop :=
  ∃ blanks : String, (∀ c ∈ blanks.toList, c = ' ') ∧ (r.technique.name ++ blanks).length = 18 ∧
    line = r.technique.name ++ blanks ++ " attempt " ++ toString r.attempt ++ " (" ++
      toString r.duration ++ " ms): " ++ outcomeText r.outcome

/-- Every technique fits the column. -/
theorem name_length_le (t : Technique) : t.name.length ≤ 18 := by
  cases t <;> decide

theorem exists_recordLine (r : Record) :
    ∃ line, RecordLine r line ∧ recordLine r = line ++ "\n" := by
  refine ⟨_, ⟨String.ofList (List.replicate (18 - r.technique.name.length) ' '), ?_, ?_, rfl⟩, rfl⟩
  · intro c hc
    rw [String.toList_ofList] at hc
    exact List.eq_of_mem_replicate hc
  · rw [String.length_append, String.length_ofList, List.length_replicate]
    exact Nat.add_sub_cancel' (name_length_le r.technique)

theorem outcomeText_injective : Function.Injective outcomeText := by
  intro o o' h
  obtain ⟨granted, hgranted⟩ : ∃ tail, (outcomeText .granted).toList = 'g' :: tail := ⟨_, rfl⟩
  obtain ⟨late, hlate⟩ : ∃ tail, (outcomeText .timedOut).toList = 't' :: tail := ⟨_, rfl⟩
  obtain ⟨skipped, hskipped⟩ : ∃ tail, (outcomeText .unavailable).toList = 's' :: tail := ⟨_, rfl⟩
  have hdenied : ∀ reason, (outcomeText (.denied reason)).toList =
      'd' :: ("enied: ".toList ++ reason.toList) := fun _ => String.toList_append
  have hlists := congrArg String.toList h
  -- two outcomes have the same first letter only if both are refusals
  cases o <;> cases o' <;> simp [hgranted, hlate, hskipped, hdenied] at hlists ⊢
  exact String.toList_inj.1 hlists

section Columns

variable {bs bs' rest rest' : List Char}

theorem name_no_blank (t : Technique) : ∀ c ∈ t.name.toList, (c != ' ') = true := by
  cases t <;> exact List.all_eq_true.1 rfl

/-- A technique ends with the first of the blanks behind it. -/
theorem technique_unique {t t' : Technique} (hbs : ∀ c ∈ bs, c = ' ') (hbs' : ∀ c ∈ bs', c = ' ')
    (h : t.name.toList ++ (bs ++ ' ' :: rest) = t'.name.toList ++ (bs' ++ ' ' :: rest')) :
    t = t' ∧ bs ++ ' ' :: rest = bs' ++ ' ' :: rest' := by
  have hblank : ∀ (cs tail : List Char), (∀ c ∈ cs, c = ' ') →
      ∀ c ∈ (cs ++ ' ' :: tail).head?, (c != ' ') = false := by
    intro cs tail hcs
    cases cs with
    | nil => exact Text.boundary_cons rfl tail
    | cons b cs => exact Text.boundary_cons (by rw [hcs b (.head _)]; rfl) _
  obtain ⟨hnames, hrest⟩ := Text.boundary_unique (name_no_blank t) (hblank bs rest hbs)
    (name_no_blank t') (hblank bs' rest' hbs') h
  have htechnique : some t = some t' := by
    rw [← t.ofName?_name, ← t'.ofName?_name, String.toList_inj.1 hnames]
  exact ⟨Option.some.inj htechnique, hrest⟩

/-- Blanks end with the word behind them. -/
theorem blanks_unique (hbs : ∀ c ∈ bs, c = ' ') (hbs' : ∀ c ∈ bs', c = ' ')
    (h : bs ++ ' ' :: 'a' :: rest = bs' ++ ' ' :: 'a' :: rest') : rest = rest' := by
  have hblank : ∀ cs : List Char, (∀ c ∈ cs, c = ' ') → ∀ c ∈ cs ++ [' '], (c == ' ') = true := by
    intro cs hcs c hc
    have heq : c = ' ' := (List.mem_append.1 hc).elim (hcs c) List.mem_singleton.1
    rw [heq]
    rfl
  rw [List.append_cons, List.append_cons bs'] at h
  have hletters := (Text.boundary_unique (hblank bs hbs) (Text.boundary_cons rfl rest)
    (hblank bs' hbs') (Text.boundary_cons rfl rest') h).2
  exact (List.cons.inj hletters).2

/-- A number ends with the blank behind it. -/
theorem numeral_unique {n m : Nat}
    (h : Nat.toDigits 10 n ++ ' ' :: rest = Nat.toDigits 10 m ++ ' ' :: rest') :
    n = m ∧ rest = rest' := by
  obtain ⟨hdigits, hrest⟩ := Text.boundary_unique (fun _ => Text.isDigit_of_mem_toDigits)
    (Text.boundary_cons rfl rest) (fun _ => Text.isDigit_of_mem_toDigits)
    (Text.boundary_cons rfl rest') h
  exact ⟨Text.toDigits_injective hdigits, (List.cons.inj hrest).2⟩

end Columns

/-- **A line tells its record.** -/
theorem RecordLine.unique {r r' : Record} {line : String} (h : RecordLine r line)
    (h' : RecordLine r' line) : r = r' := by
  obtain ⟨blanks, hblanks, -, rfl⟩ := h
  obtain ⟨blanks', hblanks', -, heq⟩ := h'
  have hdigits : ∀ n : Nat, (toString n).toList = Nat.toDigits 10 n := fun _ => Nat.toList_repr
  have hlists := congrArg String.toList heq
  simp only [String.toList_append, List.append_assoc, hdigits] at hlists
  obtain ⟨htechnique, hlists⟩ := technique_unique hblanks hblanks' hlists
  have hlists := List.append_cancel_left (blanks_unique hblanks hblanks' hlists)
  obtain ⟨hattempt, hlists⟩ := numeral_unique hlists
  obtain ⟨hduration, hlists⟩ := numeral_unique (List.cons.inj hlists).2
  have houtcome := outcomeText_injective (String.toList_inj.1 (List.append_cancel_left hlists))
  cases r
  cases r'
  simp only [Record.mk.injEq]
  exact ⟨htechnique, hattempt, houtcome, hduration⟩

/-! ### What is printed for people -/

/-- The line of a phase in which a run has ended. -/
inductive PhaseLine : Phase → String → Prop
  | succeeded (t : Technique) : PhaseLine (.succeeded t) ("acquired via " ++ t.name)
  | failed (f : Failure) : PhaseLine (.failed f false) ("failed: " ++ f.message)
  | exhausted (f : Failure) :
      PhaseLine (.failed f true) ("failed: " ++ f.message ++ " (all strategies exhausted)")

theorem phaseLine_text {p : Phase} (h : p.isTerminal = true) : PhaseLine p p.text := by
  cases p with
  | notStarted => cases h
  | inProgress index attempt => cases h
  | succeeded t => exact .succeeded t
  | failed f exhausted =>
    cases exhausted with
    | true => exact .exhausted f
    | false =>
      show PhaseLine _ ("failed: " ++ f.message ++ "")
      rw [String.append_empty]
      exact .failed f

/-- Lines, each with its end. -/
def unlines (lines : List String) : String :=
  String.join (lines.map fun line => line ++ "\n")

/-- The line of the execution mode: only a success lets dynamic code run. -/
def modeLine (p : Phase) : String :=
  "execution mode: " ++ if p.isSucceeded then "Recompiler" else "Interpreter"

/-- A text consists of the lines of the records of a report, in their order, and then of those of
the phase in which its run has ended and of the execution mode.  No other records have these
lines. -/
structure Narrates (r : Report) (output : String) (lines : List String) (state : String) :
    Prop where
  written : output = unlines (lines ++ [state, modeLine r.phase])
  records : List.Forall₂ RecordLine r.records lines
  told : ∀ records, List.Forall₂ RecordLine records lines → records = r.records
  phase : PhaseLine r.phase state

theorem exists_recordLines (rs : List Record) :
    ∃ lines, List.Forall₂ RecordLine rs lines ∧
      String.join (rs.map recordLine) = unlines lines := by
  induction rs with
  | nil => exact ⟨[], .nil, rfl⟩
  | cons r rs ih =>
    obtain ⟨line, hline, heq⟩ := exists_recordLine r
    obtain ⟨lines, hlines, hjoin⟩ := ih
    refine ⟨line :: lines, .cons hline hlines, ?_⟩
    rw [List.map_cons, String.join_cons, heq, hjoin, unlines, unlines, List.map_cons,
      String.join_cons]

theorem unlines_append (lines lines' : List String) :
    unlines (lines ++ lines') = unlines lines ++ unlines lines' := by
  rw [unlines, List.map_append, String.join_append, unlines, unlines]

/-- The two last lines. -/
theorem unlines_last (text title : String) :
    unlines [text, "execution mode: " ++ title] =
      text ++ "\nexecution mode: " ++ title ++ "\n" := by
  have hbreak : "\nexecution mode: " = "\n" ++ "execution mode: " := rfl
  rw [unlines, List.map_cons, List.map_cons, List.map_nil, String.join_cons, String.join_cons,
    String.join_nil, String.append_empty, hbreak]
  simp only [String.append_assoc]

theorem modeLine_eq (p : Phase) : modeLine p = "execution mode: " ++ p.mode.title := by
  unfold modeLine Phase.mode
  split <;> rfl

/-- **What is printed for people tells of the report and of the phase.** -/
theorem narrates_acquisition (policies : List Policy) {r : Report}
    (h : r.phase.isTerminal = true) (events : List (Nat × Event)) :
    ∃ lines state,
      Narrates r (acquisitionPrintout false policies r.phase (some r) events).output lines
        state := by
  obtain ⟨lines, hlines, hjoin⟩ := exists_recordLines r.records
  have hunique : Relator.LeftUnique RecordLine := fun _ _ _ h h' => h.unique h'
  refine ⟨lines, r.phase.text, ?_, hlines, fun _ h => hunique.forall₂ h hlines, phaseLine_text h⟩
  rw [unlines_append, modeLine_eq, unlines_last, ← hjoin]
  rfl

example : (acquisitionPrintout false [] (.succeeded .preGranted)
    (some ⟨[.detected], .succeeded .preGranted, 0⟩) []).output =
      unlines ["pre_granted        attempt 1 (0 ms): granted", "acquired via pre_granted",
        "execution mode: Recompiler"] := by
  rfl

end CommandLine

end CodePermit
