import CodePermit.Proofs.Aftermath
import CodePermit.Proofs.AtOnce
/-!
# Recovery

A run that has failed, or has broken down, may be followed by another one, which knows nothing of
it: it goes through the chain from the first entry, in the surroundings that it finds.  However many
runs break down in a row, the next one may still succeed.

* `run_reported` — every run ends or breaks down, and is reported in a terminal phase;
* `Service.retryAll`, `Reruns` — retrying again and again, and running the chain by itself;
* `retryAll_answers` — the answers to retries are those of the chain;
* `breakdown_contained` — what a breakdown leaves, and what comes after it.
-/

namespace CodePermit

open Routine

variable {σ : Type}

/-! ### One run -/

/-- A run that breaks down has come to a breakdown through what was observed of it. -/
theorem run_leads_breakdown (probe : Probe σ) {α : Type} {r : Routine σ α} {p p' : Playback σ}
    {message : String} (h : run probe r p = (.brokenDown message, p')) :
    ∃ es : List (Nat × Event),
      p'.events = p.events ++ es ∧ Leads r (es.map Prod.snd) (.breakdown message) := by
  have hplay := play_leads probe none r p
  rw [play_none, h] at hplay
  exact hplay

/-- Every run ends or breaks down, and there is a report of it whose phase is terminal. -/
theorem run_reported (c : Chain σ) (probe : Probe σ) (p : Playback σ) (number : Nat) :
    ∃ ending p' report, run probe c.run p = (ending, p') ∧ ending.ReportedAs number report ∧
      report.phase.isTerminal = true := by
  rcases run_ends c probe p with ⟨report, p', hrun⟩ | ⟨-, message, p', hrun⟩
  · obtain ⟨es, -, hleads⟩ := run_leads probe hrun
    have hends : EndsWith c number (es.map Prod.snd) report := .completed hleads
    exact ⟨.finished report, p', report, hrun, rfl, hends.isTerminal⟩
  · exact ⟨.brokenDown message, p', _, hrun, rfl, rfl⟩

/-! ### One run after another -/

/-- The answers to retries one after another, each of them after the surroundings were changed from
outside, and the service that they leave. -/
def Service.retryAll : Service σ → List (Nat → σ → σ) → List Phase × Service σ
  | s, [] => ([], s)
  | s, f :: fs =>
    let (phase, s) := (s.change f).retry
    let (phases, s) := s.retryAll fs
    (phase :: phases, s)

/-- The phases in which the chain ends when it is run by itself again and again, each time in the
surroundings that the run before has left, with the changes from outside; after a success it is not
run any more.  Runs are counted by a number. -/
inductive Reruns (c : Chain σ) (probe : Probe σ) :
    (number : Nat) → Playback σ → List (Nat → σ → σ) → List Phase → Prop
  | nil {number : Nat} {p : Playback σ} : Reruns c probe number p [] []
  | failed {number : Nat} {p q : Playback σ} {f : Nat → σ → σ} {fs : List (Nat → σ → σ)}
      {ending : Ending Report} {report : Report} {phases : List Phase}
      (ran : run probe c.run (p.change f).afresh = (ending, q))
      (reported : ending.ReportedAs number report) (failed : report.phase.isFailed = true)
      (rest : Reruns c probe (number + 1) q fs phases) :
      Reruns c probe number p (f :: fs) (report.phase :: phases)
  | succeeded {number : Nat} {p q : Playback σ} {f : Nat → σ → σ} {fs : List (Nat → σ → σ)}
      {ending : Ending Report} {report : Report}
      (ran : run probe c.run (p.change f).afresh = (ending, q))
      (reported : ending.ReportedAs number report) (succeeded : report.phase.isSucceeded = true) :
      Reruns c probe number p (f :: fs) (report.phase :: List.replicate fs.length report.phase)

/-- What was observed before makes no difference to the answers. -/
theorem Reruns.of_onto {c : Chain σ} {probe : Probe σ} {number : Nat} {p : Playback σ}
    {fs : List (Nat → σ → σ)} {phases : List Phase} {past : List (Nat × Event)}
    (h : Reruns c probe number (p.onto past) fs phases) : Reruns c probe number p fs phases := by
  cases h with
  | nil => exact .nil
  | failed ran reported failed rest => exact .failed ran reported failed rest
  | succeeded ran reported succeeded => exact .succeeded ran reported succeeded

namespace Service

/-- After a success every retry is answered with it. -/
theorem retryAll_of_isSucceeded {s : Service σ} (hs : s.phase.isSucceeded = true)
    (fs : List (Nat → σ → σ)) : (s.retryAll fs).1 = List.replicate fs.length s.phase := by
  induction fs generalizing s with
  | nil => rfl
  | cons f fs ih =>
    have hfailed : (s.change f).phase.isFailed = false := by
      cases hf : (s.change f).phase.isFailed with
      | false => rfl
      | true => cases (Phase.isSucceeded_of_isFailed hf).symm.trans hs
    have hretry : (s.change f).retry = (s.phase, s.change f) :=
      ((s.change f).declines.retry hfailed).2
    rw [retryAll, hretry]
    exact congrArg (s.phase :: ·) (ih (s := s.change f) hs)

theorem ran_claims (s : Service σ) (report : Report) (p' : Playback σ) :
    (s.ran report p').board.claims = s.board.claims + 1 :=
  (foldl_publish _ _).1

/-- **Retrying again and again is running the chain again and again.** -/
theorem retryAll_answers {s : Service σ} (hs : s.phase.isFailed = true)
    (fs : List (Nat → σ → σ)) :
    Reruns s.chain s.probe s.board.claims s.now fs (s.retryAll fs).1 := by
  induction fs generalizing s with
  | nil => exact .nil
  | cons f fs ih =>
    obtain ⟨ending, q, report, hrun, hreported, hterminal⟩ :=
      run_reported s.chain s.probe (s.now.change f).afresh s.board.claims
    have hends : (s.change f).EndsIn report q := endsIn_of_reported hrun hreported
    have hretry : (s.change f).retry = (report.phase, (s.change f).ran report q) := hends.retry hs
    have hanswers : (s.retryAll (f :: fs)).1 =
        report.phase :: (((s.change f).ran report q).retryAll fs).1 := by
      rw [retryAll, hretry]
    rw [hanswers]
    rw [Phase.isTerminal, Bool.or_eq_true] at hterminal
    rcases hterminal with hsucceeded | hfailed
    · rw [retryAll_of_isSucceeded (s := (s.change f).ran report q) hsucceeded]
      exact .succeeded hrun hreported hsucceeded
    · refine .failed hrun hreported hfailed ?_
      have hrest := ih (s := (s.change f).ran report q) hfailed
      rw [ran_claims] at hrest
      exact hrest.of_onto

end Service

/-- **A breakdown is contained.**  For whoever uses a service, a run that breaks down ends at the
moment of the breakdown, with a failure that says so and a report that keeps nothing else.  Whatever
callers do meanwhile, nobody who waits is lost or answered otherwise until another run is claimed.
And whatever runs have failed or broken down before, another one is a run of the chain by itself, in
the surroundings that it finds. -/
theorem breakdown_contained (chain : Chain σ) (probe : Probe σ) (surroundings : σ) :
    (∀ s : Service σ, ∃ ending p' report,
      run s.probe s.chain.run s.now.afresh = (ending, p') ∧
      ending.ReportedAs s.board.claims report ∧ s.EndsIn report p' ∧
      ∀ message, ending = .brokenDown message →
        BreaksOff s.chain.entries 0 message (p'.events.map Prod.snd) ∧
        report =
          ⟨[], .failed (.aborted (breakdownMessage (s.board.claims + 1) message)) false, 0⟩) ∧
    (∀ ts n wake message, (Lobby.after chain probe surroundings ts).scene.runs[n]? =
        some (.working wake (.breakdown message)) →
      (Lobby.after chain probe surroundings ts).Contained chain probe n
        (max wake (Lobby.after chain probe surroundings ts).scene.clock) message) ∧
    (∀ ms caller, caller.admits (Scene.after chain probe surroundings ms).board.phase = true →
      ∃ ending p' report,
        run probe chain.run (Scene.after chain probe surroundings ms).playback = (ending, p') ∧
        ending.ReportedAs (Scene.after chain probe surroundings ms).runs.length report ∧
        (Scene.after chain probe surroundings ms).RunsChain chain probe caller report p') ∧
    ∀ s : Service σ, s.phase.isFailed = true → ∀ fs,
      Reruns s.chain s.probe s.board.claims s.now fs (s.retryAll fs).1 := by
  refine ⟨?_, fun ts n wake message found => after_contained chain probe surroundings ts found,
    ?_, fun s hs fs => s.retryAll_answers hs fs⟩
  · intro s
    obtain ⟨ending, p', report, hrun, hreported, -⟩ :=
      run_reported s.chain s.probe s.now.afresh s.board.claims
    refine ⟨ending, p', report, hrun, hreported, Service.endsIn_of_reported hrun hreported, ?_⟩
    rintro message rfl
    obtain ⟨es, hevents, hleads⟩ := run_leads_breakdown s.probe hrun
    have hes : p'.events = es := hevents
    rw [hes]
    exact ⟨run_breaksOff hleads, hreported⟩
  · intro ms caller hadmits
    obtain ⟨ending, p', report, hrun, hreported, -⟩ := run_reported chain probe
      (Scene.after chain probe surroundings ms).playback
      (Scene.after chain probe surroundings ms).runs.length
    exact ⟨ending, p', report, hrun, hreported, scene_runsChain hadmits hrun hreported⟩

/-- A technique that breaks down in every attempt, and so many times brings the permission
nearer. -/
def clumsyChain : Chain Nat where
  entries := [⟨.ofTechnique .selfElevation,
    .always (fun _ => .sleep 5 (.act (fun _ s => s - 1) fun _ _ => .breakdown "broken"))
      fun _ => ⟨rfl, fun _ _ => trivial⟩⟩]
  host := none

/-- The permission is there when nothing is left to be broken. -/
def clumsyProbe : Probe Nat :=
  fun _ s => (s = 0, s)

/-- Two callers wait for a run that breaks down after five milliseconds. -/
def clumsyTurns : List (Lobby.Turn Nat) :=
  [.move (.call .acquire), .move (.call .acquire)] ++ List.replicate 6 (.move (.work 0)) ++
    [.move (.wait 5), .move (.work 0)]

theorem breakdown_contained_clumsy :
    (∃ p', run clumsyProbe clumsyChain.run ⟨0, 2, []⟩ = (.brokenDown "broken", p') ∧ p'.clock = 5 ∧
      (Service.start clumsyChain clumsyProbe 2).EndsIn
        ⟨[], .failed (.aborted (breakdownMessage 1 "broken")) false, 0⟩ p') ∧
    (Lobby.after clumsyChain clumsyProbe 2 clumsyTurns).Contained clumsyChain clumsyProbe 0 5
      "broken" ∧
    (Lobby.after clumsyChain clumsyProbe 2 clumsyTurns).waiters = [⟨0, none⟩, ⟨0, none⟩] ∧
    Reruns clumsyChain clumsyProbe 1 (Service.start clumsyChain clumsyProbe 2).acquire.2.now
      [fun _ s => s, fun _ s => s]
      [.failed (.aborted (breakdownMessage 2 "broken")) false, .succeeded .preGranted] := by
  obtain ⟨hservices, hlobbies, -, hretries⟩ := breakdown_contained clumsyChain clumsyProbe 2
  refine ⟨?_, ?_, rfl, ?_⟩
  · obtain ⟨ending, p', report, hrun, -, hends, hbroken⟩ :=
      hservices (Service.start clumsyChain clumsyProbe 2)
    obtain ⟨rfl, hclock⟩ : ending = .brokenDown "broken" ∧ p'.clock = 5 := by
      cases hrun
      exact ⟨rfl, rfl⟩
    obtain ⟨-, rfl⟩ := hbroken "broken" rfl
    exact ⟨p', hrun, hclock, hends⟩
  · exact hlobbies clumsyTurns 0 5 "broken" rfl
  · exact hretries (Service.start clumsyChain clumsyProbe 2).acquire.2 rfl
      [fun _ s => s, fun _ s => s]

end CodePermit
