import CodePermit.CommandLine.Acquisition
import CodePermit.Proofs.Acceptance
import CodePermit.Proofs.PrintedReports
import CodePermit.Proofs.ProcessWide
import CodePermit.Proofs.Recovery
import Mathlib.Data.ENat.Lattice
/-!
# Acquisition with repetitions

The command line runs acquisition, and runs it again while it fails and repetitions are left.  The
runs that it makes are runs of the chain by itself, one after another; it stops with the first one
that succeeds, and what it prints in the end is the phase and the report of the last run it made.

* `Chain.outset`, `Chain.rerun` — the runs of a chain one after another;
* `Chain.Reports`, `exists_reports` — how they are reported;
* `firstSuccess`, `min_firstSuccess` — how many runs it takes until one succeeds;
* `Poised`, `Arrived`, `Poised.arrives` — a service before a run and after it;
* `Arrived.persist` — a service after repetitions;
* `Persisted`, `acquisition_persists` — what the runs are, and what is printed.
-/

namespace CodePermit

open Routine CommandLine

variable {σ : Type}

/-! ### One run after another -/

/-- The moment at which a run begins, where runs are counted from zero and each of them begins when
the one before has ended, whatever has become of it. -/
def Chain.outset (c : Chain σ) (probe : Probe σ) (surroundings : σ) : Nat → Playback σ
  | 0 => ⟨0, surroundings, []⟩
  | k + 1 => (CodePermit.run probe c.run (c.outset probe surroundings k)).2.afresh

/-- A run of the chain by itself among others. -/
def Chain.rerun (c : Chain σ) (probe : Probe σ) (surroundings : σ) (k : Nat) :
    Ending Report × Playback σ :=
  CodePermit.run probe c.run (c.outset probe surroundings k)

/-- What is observed of the first runs of the chain. -/
def Chain.history (c : Chain σ) (probe : Probe σ) (surroundings : σ) (runs : Nat) :
    List (Nat × Event) :=
  (List.range runs).flatMap fun k => (c.rerun probe surroundings k).2.events

/-- Every run of the chain has its report, whether it ends or breaks down. -/
def Chain.Reports (c : Chain σ) (probe : Probe σ) (surroundings : σ) (reports : Nat → Report) :
    Prop :=
  ∀ k, (c.rerun probe surroundings k).1.ReportedAs k (reports k)

theorem exists_reports (c : Chain σ) (probe : Probe σ) (surroundings : σ) :
    ∃ reports, c.Reports probe surroundings reports ∧ ∀ k, (reports k).phase.isTerminal = true := by
  have hrun : ∀ k, ∃ report, (c.rerun probe surroundings k).1.ReportedAs k report ∧
      report.phase.isTerminal = true := by
    intro k
    obtain ⟨ending, p', report, hrun, hreported, hterminal⟩ :=
      run_reported c probe (c.outset probe surroundings k) k
    rw [Chain.rerun, hrun]
    exact ⟨report, hreported, hterminal⟩
  choose reports hreports using hrun
  exact ⟨reports, fun k => (hreports k).1, fun k => (hreports k).2⟩

/-- The number of runs up to the first one that succeeds, by their reports; it is infinite if none
ever does. -/
noncomputable def firstSuccess (reports : Nat → Report) : ℕ∞ :=
  sInf {n | ∃ k : Nat, n = k + 1 ∧ (reports k).phase.isSucceeded = true}

theorem min_firstSuccess {reports : Nat → Report} {n limit : Nat}
    (hbefore : ∀ k < n, (reports k).phase.isSucceeded = false) (hle : n ≤ limit)
    (hlast : n = limit ∨ (reports n).phase.isSucceeded = true) :
    min (limit + 1 : ℕ∞) (firstSuccess reports) = n + 1 := by
  have hlower : (n + 1 : ℕ∞) ≤ firstSuccess reports := by
    refine le_sInf ?_
    rintro b ⟨k, rfl, hk⟩
    have hnk : n ≤ k := by
      by_contra hlt
      rw [hbefore k (Nat.not_le.1 hlt)] at hk
      cases hk
    exact_mod_cast Nat.succ_le_succ hnk
  rcases hlast with rfl | hsucceeded
  · exact min_eq_left hlower
  · have hupper : firstSuccess reports ≤ n + 1 := sInf_le ⟨n, rfl, hsucceeded⟩
    rw [le_antisymm hupper hlower]
    refine min_eq_right ?_
    exact_mod_cast Nat.succ_le_succ hle

/-! ### A service that runs again and again -/

/-- A service that has made some runs and would make the next one as the chain by itself would. -/
structure Poised (chain : Chain σ) (probe : Probe σ) (surroundings : σ) (runs : Nat)
    (s : Service σ) : Prop where
  chain_eq : s.chain = chain
  probe_eq : s.probe = probe
  claims : s.board.claims = runs
  now : s.now.afresh = chain.outset probe surroundings runs
  /-- What was observed is what is observed of these runs, in their order. -/
  observed : s.now.events = chain.history probe surroundings runs

/-- A call has been answered for a run: with the phase in which that run was reported, and the board
shows that phase and keeps that report. -/
structure Arrived (chain : Chain σ) (probe : Probe σ) (surroundings : σ) (reports : Nat → Report)
    (k : Nat) (answered : Phase × Service σ) : Prop where
  answer : answered.1 = (reports k).phase
  shown : answered.2.phase = (reports k).phase
  kept : answered.2.board.report = some (reports k)
  poised : Poised chain probe surroundings (k + 1) answered.2

variable {chain : Chain σ} {probe : Probe σ} {surroundings : σ} {reports : Nat → Report}

theorem poised_start (chain : Chain σ) (probe : Probe σ) (surroundings : σ) :
    Poised chain probe surroundings 0 (Service.start chain probe surroundings) :=
  ⟨rfl, rfl, rfl, rfl, rfl⟩

/-- The next run of a service ends as the run of the chain by itself does, and the service is ready
for one more. -/
theorem Poised.arrives (hreports : chain.Reports probe surroundings reports) {k : Nat}
    {s : Service σ} (h : Poised chain probe surroundings k s) :
    s.EndsIn (reports k) (chain.rerun probe surroundings k).2 ∧
      Arrived chain probe surroundings reports k
        ((reports k).phase, s.ran (reports k) (chain.rerun probe surroundings k).2) := by
  obtain ⟨rfl, rfl, rfl, hnow, hobserved⟩ := h
  have hrun : run s.probe s.chain.run s.now.afresh =
      s.chain.rerun s.probe surroundings s.board.claims := by
    rw [hnow]
    rfl
  have hends : s.EndsIn (reports s.board.claims)
      (s.chain.rerun s.probe surroundings s.board.claims).2 :=
    Service.endsIn_of_reported hrun (hreports s.board.claims)
  refine ⟨hends, rfl, hends.shown, hends.kept, rfl, rfl, Service.ran_claims _ _ _, rfl, ?_⟩
  rw [Chain.history, List.range_succ, List.flatMap_append, List.flatMap_singleton,
    ← Chain.history, ← hobserved]
  exact hends.observed

theorem arrived_acquire (hreports : chain.Reports probe surroundings reports) :
    Arrived chain probe surroundings reports 0
      (Service.start chain probe surroundings).acquire := by
  obtain ⟨hends, harrived⟩ := (poised_start chain probe surroundings).arrives hreports
  rw [hends.acquire rfl]
  exact harrived

/-- After a failure, whichever it is, another run is made. -/
theorem Arrived.retry (hreports : chain.Reports probe surroundings reports) {k : Nat}
    {answered : Phase × Service σ} (h : Arrived chain probe surroundings reports k answered)
    (hfailed : answered.1.isFailed = true) :
    Arrived chain probe surroundings reports (k + 1) answered.2.retry := by
  have hphase : answered.2.phase.isFailed = true := by
    rw [h.shown, ← h.answer, hfailed]
  obtain ⟨hends, harrived⟩ := h.poised.arrives hreports
  rw [hends.retry hphase]
  exact harrived

/-- **Runs are repeated up to the first one that succeeds**, or until no repetition is left. -/
theorem Arrived.persist (hreports : chain.Reports probe surroundings reports)
    (hterminal : ∀ k, (reports k).phase.isTerminal = true) (repetitions : Nat) {k : Nat}
    {answered : Phase × Service σ} (h : Arrived chain probe surroundings reports k answered) :
    ∃ n, n ≤ k + repetitions ∧
      Arrived chain probe surroundings reports n (persist repetitions answered) ∧
      (∀ j, k ≤ j → j < n → (reports j).phase.isSucceeded = false) ∧
      (n = k + repetitions ∨ (reports n).phase.isSucceeded = true) := by
  induction repetitions generalizing k answered with
  | zero => exact ⟨k, le_rfl, h, fun j hk hj => absurd hj (Nat.not_lt_of_le hk), .inl rfl⟩
  | succ repetitions ih =>
    rw [CommandLine.persist]
    -- another run follows a failed one; a run that has not failed has succeeded
    by_cases hfailed : answered.1.isFailed = true
    · rw [if_pos hfailed]
      obtain ⟨n, hle, harrived, hbefore, hlast⟩ := ih (h.retry hreports hfailed)
      have hsum : k + 1 + repetitions = k + (repetitions + 1) := by omega
      rw [hsum] at hle hlast
      refine ⟨n, hle, harrived, fun j hk hj => ?_, hlast⟩
      rcases hk.eq_or_lt with rfl | hlater
      · rw [h.answer] at hfailed
        exact Phase.isSucceeded_of_isFailed hfailed
      · exact hbefore j hlater hj
    · rw [if_neg hfailed]
      refine ⟨k, Nat.le_add_right _ _, h, fun j hk hj => absurd hj (Nat.not_lt_of_le hk), .inr ?_⟩
      have hended := hterminal k
      rw [Phase.isTerminal, Bool.or_eq_true] at hended
      rw [h.answer] at hfailed
      exact hended.resolve_right hfailed

/-! ### What is printed -/

/-- What is printed when acquisition has been answered. -/
def printAnswered (json : Bool) (answered : Phase × Service σ) : Printout :=
  acquisitionPrintout json answered.2.chain.policies answered.1 answered.2.board.report
    answered.2.now.events

theorem printAcquisition_of_valid (m : Machine) (pid : UInt32) (host : Option Version)
    {s : Settings} (h : s.validate = .ok ()) (json : Bool) (repetitions : Nat) :
    printAcquisition m pid host s json repetitions =
      printAnswered json (acquire repetitions (m.service pid host s)) := by
  rw [printAcquisition, Installation.install_first rfl h]
  rfl

/-- Acquisition with repetitions, by the runs of the chain by itself one after another; the last run
that is made is counted from zero. -/
structure Persisted (chain : Chain σ) (probe : Probe σ) (surroundings : σ) (repetitions : Nat)
    (reports : Nat → Report) (last : Nat) (answered : Phase × Service σ) : Prop where
  /-- The reports are those of the runs of the chain, whatever becomes of them. -/
  reported : chain.Reports probe surroundings reports
  /-- As many runs are made as are needed until one succeeds, and at most one more than there are
  repetitions. -/
  performed : ((last + 1 : Nat) : ℕ∞) = min (repetitions + 1 : ℕ∞) (firstSuccess reports)
  /-- So many runs are claimed, and what is observed is what is observed of them. -/
  claims : answered.2.board.claims = last + 1
  observed : answered.2.now.events = chain.history probe surroundings (last + 1)
  /-- The answer is the phase in which the last run has ended, and the board shows it. -/
  answer : answered.1 = (reports last).phase
  shown : answered.2.phase = answered.1
  /-- The report that is kept is that of the last run. -/
  kept : answered.2.board.report = some (reports last)
  /-- For programs that report and its phase are printed, as a document that can be read back. -/
  document : ∃ j,
    Documents chain.policies (reports last) (printAnswered true answered).output j
  /-- For people its records are printed and then its phase, each on a line of its own. -/
  narrative : ∃ lines state,
    Narrates (reports last) (printAnswered false answered).output lines state
  /-- The warnings given in any of the runs are printed as well, apart from both. -/
  warned : ∀ json, (printAnswered json answered).errors =
    warningLines (chain.history probe surroundings (last + 1))
  /-- Only a success ends the program with the code zero. -/
  exitCode : ∀ json, (printAnswered json answered).exitCode = 0 ↔ answered.1.isSucceeded = true

theorem persisted_acquire (chain : Chain σ) (probe : Probe σ) (surroundings : σ)
    (repetitions : Nat) :
    ∃ reports last, Persisted chain probe surroundings repetitions reports last
      (acquire repetitions (Service.start chain probe surroundings)) := by
  obtain ⟨reports, hreports, hterminal⟩ := exists_reports chain probe surroundings
  obtain ⟨last, hle, harrived, hbefore, hlast⟩ :=
    (arrived_acquire hreports).persist hreports hterminal repetitions
  rw [Nat.zero_add] at hle hlast
  have hperformed := min_firstSuccess (fun k hk => hbefore k (Nat.zero_le k) hk) hle hlast
  have hprinted : ∀ json, printAnswered json (acquire repetitions
      (Service.start chain probe surroundings)) =
      acquisitionPrintout json chain.policies (reports last).phase (some (reports last))
        (chain.history probe surroundings (last + 1)) := by
    intro json
    rw [printAnswered, CommandLine.acquire, harrived.answer, harrived.kept,
      harrived.poised.observed, harrived.poised.chain_eq]
  refine ⟨reports, last, hreports, ?_, harrived.poised.claims, harrived.poised.observed,
    harrived.answer, harrived.shown.trans harrived.answer.symm, harrived.kept, ?_, ?_,
    fun json => ?_, fun json => ?_⟩
  · rw [hperformed]
    rfl
  · rw [hprinted]
    exact ⟨_, documents_acquisition chain.policies (reports last) _⟩
  · rw [hprinted]
    exact narrates_acquisition chain.policies (hterminal last) _
  · rw [hprinted]
    rfl
  · show (if _ then 0 else 1) = 0 ↔ _
    split <;> simp_all

/-- **Acquisition is repeated up to the first success.**  However the runs of a chain end, one after
another, as many of them are made as are needed until one succeeds, and at most one more than there
are repetitions; the phase that is printed is that of the last one, the report is its report, and
only a success gives the exit code zero.  On a machine this is what the command prints, unless its
settings cannot be loaded. -/
theorem acquisition_persists :
    (∀ (σ : Type) (chain : Chain σ) (probe : Probe σ) (surroundings : σ) (repetitions : Nat),
      ∃ reports last, Persisted chain probe surroundings repetitions reports last
        (acquire repetitions (Service.start chain probe surroundings))) ∧
    ∀ (m : Machine) (pid : UInt32) (host : Option Version) (asked : Option String) (json : Bool)
      (repetitions : Nat),
      (∃ fault, m.loadSettings asked = .error fault ∧
        runCommand m pid host (.acquire asked json repetitions) = loadFaultPrintout fault) ∨
      ∃ s reports last, m.loadSettings asked = .ok s ∧
        Persisted (m.service pid host s).chain Machine.probe m repetitions reports last
          (acquire repetitions (m.service pid host s)) ∧
        runCommand m pid host (.acquire asked json repetitions) =
          printAnswered json (acquire repetitions (m.service pid host s)) := by
  refine ⟨fun σ => persisted_acquire, fun m pid host asked json repetitions => ?_⟩
  rw [runCommand]
  cases hload : m.loadSettings asked with
  | error fault => exact .inl ⟨fault, rfl, rfl⟩
  | ok s =>
    obtain ⟨reports, last, h⟩ :=
      persisted_acquire (m.service pid host s).chain Machine.probe m repetitions
    exact .inr ⟨s, reports, last, rfl, h,
      printAcquisition_of_valid m pid host (load_validate hload) json repetitions⟩

/-- A technique that breaks down in the first two runs is run three times, though more repetitions
were asked for; the document that is printed can be read back. -/
theorem acquisition_persists_clumsy : ∃ reports j,
    firstSuccess reports = 3 ∧
    Persisted clumsyChain clumsyProbe 2 5 reports 2
      (acquire 5 (Service.start clumsyChain clumsyProbe 2)) ∧
    reports 1 = .aborted (breakdownMessage 2 "broken") ∧
    reports 2 = ⟨[.detected], .succeeded .preGranted, 0⟩ ∧
    Json.read (printAnswered true (acquire 5
      (Service.start clumsyChain clumsyProbe 2))).output.toList = some j ∧
    (j.member? "report").bind Report.ofJson? = some (reports 2) := by
  obtain ⟨reports, last, h⟩ := acquisition_persists.1 Nat clumsyChain clumsyProbe 2 5
  have hlast : last = 2 := Nat.succ.inj h.claims.symm
  subst hlast
  have hreport : reports 2 = ⟨[.detected], .succeeded .preGranted, 0⟩ :=
    (Option.some.inj h.kept).symm
  obtain ⟨j, hdocument⟩ := h.document
  have hfits : (reports 2).Fits clumsyChain.policies := by
    rw [hreport]
    exact ⟨by decide, by decide, by decide, trivial, by decide⟩
  refine ⟨reports, j, ?_, h, h.reported 1, hreport, hdocument.readBack hfits, hdocument.report⟩
  have hperformed : (3 : ℕ∞) = min (5 + 1) (firstSuccess reports) := h.performed
  rcases min_choice (5 + 1 : ℕ∞) (firstSuccess reports) with hmin | hmin
  · rw [hmin] at hperformed
    exact absurd hperformed (by decide)
  · rw [hmin] at hperformed
    exact hperformed.symm

end CodePermit
