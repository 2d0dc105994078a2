import CodePermit.Proofs.Lifecycle
import CodePermit.Proofs.ServiceRuns
/-!
# Calls made at once

Callers who come at the same time make their first steps in a row, before the run that one of them
may start has made any progress.  What each of them is answered depends on who was there before: the
first one who may start a run does so, and from then on a run is in progress.

* `Stop.rest`, `play_leads` — what a play has left of a routine;
* `Service.Engaged`, `performAll_engaged` — a service shows a run in progress while one is under
  way;
* `Service.Settled`, `Engaged.settled` — the run under way is settled by whoever waits for it;
* `first_eq`, `firstSteps_state`, `firstSteps_ticket` — who starts a run among callers in a row;
* `Engaged.shared` — all who wait see the same run end;
* `Service.AnswersAtOnce`, `calls_at_once` — what callers are answered who come at the same time.
-/

namespace CodePermit

open Routine

variable {σ α : Type}

/-! ### What a play has left -/

/-- What is left of a routine when it has stopped. -/
def Stop.rest : Stop σ α → Routine σ α
  | finished a => .done a
  | brokenDown message => .breakdown message
  | hung => .hang
  | asleep _ rest => rest

/-- **A play up to a horizon is one of the ways in which a routine can go.** -/
theorem play_leads (probe : Probe σ) (horizon : Option Nat) (r : Routine σ α) (p : Playback σ) :
    ∃ es : List (Nat × Event), (play probe horizon r p).2.events = p.events ++ es ∧
      Leads r (es.map Prod.snd) (play probe horizon r p).1.rest := by
  have noted : ∀ (p : Playback σ) (e : Event) (es : List (Nat × Event)),
      (p.observe e).events ++ es = p.events ++ (p.clock, e) :: es := by
    intro p e es
    simp only [Playback.events, Playback.observe, List.reverse_cons, List.append_assoc,
      List.singleton_append]
  induction r generalizing p with
  | done a => exact ⟨[], (List.append_nil _).symm, .here _⟩
  | breakdown message => exact ⟨[], (List.append_nil _).symm, .here _⟩
  | hang => exact ⟨[], (List.append_nil _).symm, .here _⟩
  | sleep length next ih =>
    rw [play]
    split
    · obtain ⟨es, hes, hleads⟩ := ih (p.pass length)
      exact ⟨_ :: es, hes.trans (noted p (.slept length) es), .sleep hleads⟩
    · exact ⟨[(p.clock, .slept length)],
        (List.append_nil _).symm.trans (noted p (.slept length) []), .sleep (.here _)⟩
  | ask who next ih =>
    obtain ⟨es, hes, hleads⟩ := ih _ (p.ask probe who).2
    exact ⟨_ :: es, hes.trans (noted p (.asked who (p.ask probe who).1) es), .ask _ hleads⟩
  | note event next ih =>
    obtain ⟨es, hes, hleads⟩ := ih (p.observe event)
    exact ⟨_ :: es, hes.trans (noted p event es), .note hleads⟩
  | act change next ih =>
    obtain ⟨es, hes, hleads⟩ := ih _ _ (p.change change)
    exact ⟨es, hes, .act _ _ hleads⟩

theorem toStop_ne_asleep (e : Ending α) (wake : Nat) (rest : Routine σ α) :
    e.toStop σ ≠ .asleep wake rest := by
  intro h
  cases e <;> cases h

/-! ### A run is in progress while one is under way -/

theorem foldl_publish (phases : List Phase) (b : Board) :
    (phases.foldl Board.publish b).claims = b.claims ∧
      (b.phase.isInProgress = true → (∀ p ∈ phases, p.isInProgress = true) →
        (phases.foldl Board.publish b).phase.isInProgress = true) := by
  induction phases generalizing b with
  | nil => exact ⟨rfl, fun h _ => h⟩
  | cons p phases ih =>
    obtain ⟨hclaims, hphase⟩ := ih (b.publish p)
    refine ⟨hclaims, fun _ h => ?_⟩
    obtain ⟨hp, hphases⟩ := List.forall_mem_cons.1 h
    exact hphase hp hphases

namespace Service

variable {s : Service σ}

/-- The board shows a run in progress exactly while one is under way.  That is the run claimed last,
and what it still does is left of the routine of the chain. -/
structure Engaged (s : Service σ) : Prop where
  idle : s.flight = none → s.phase.isInProgress = false
  flying : ∀ f, s.flight = some f → s.phase.isInProgress = true ∧
    (∃ n, f.number = n + 1 ∧ s.board.claims = n + 1) ∧ ∃ es, Leads s.chain.run es f.rest

/-- A phase is the final one of the run claimed last, which has just been settled: the board shows
it and keeps the report of the run, and nothing is under way any more. -/
structure Settled (s : Service σ) (claims : Nat) (phase : Phase) : Prop where
  shown : s.phase = phase
  terminal : phase.isTerminal = true
  idle : s.flight = none
  last : s.board.claims = claims
  kept : ∃ n report es, claims = n + 1 ∧ s.board.report = some report ∧ report.phase = phase ∧
    EndsWith s.chain n es report

theorem engaged_start (chain : Chain σ) (probe : Probe σ) (surroundings : σ) :
    (Service.start chain probe surroundings).Engaged :=
  ⟨fun _ => rfl, nofun⟩

theorem engaged_claimed (s : Service σ) : s.claimed.Engaged := by
  refine ⟨nofun, fun f hf => ?_⟩
  cases hf
  exact ⟨rfl, ⟨s.board.claims, rfl, rfl⟩, [], .here _⟩

theorem Engaged.startRun (h : s.Engaged) (admits : Phase → Bool) :
    ((s.startRun admits).getD s).Engaged := by
  cases hc : admits s.phase with
  | true =>
    rw [startRun_eq_claimed hc]
    exact engaged_claimed s
  | false =>
    rw [startRun_eq_none hc]
    exact h

/-- What a play has left of the routine of the chain is left by a longer way. -/
theorem resume_leads {f : Flight σ} {es : List Event} (hr : Leads s.chain.run es f.rest)
    (horizon : Option Nat) :
    ∃ es', Leads s.chain.run es' (s.resume horizon f).1.rest ∧
      ∀ p ∈ publishedPhases (s.resume horizon f).2.history, p.isInProgress = true := by
  obtain ⟨es', hevents, hleads⟩ := play_leads s.probe horizon f.rest
    { s.now with clock := f.wake, history := [] }
  refine ⟨es ++ es'.map Prod.snd, hr.trans hleads, fun p hp => ?_⟩
  have hhistory : (s.resume horizon f).2.history.reverse = es' := hevents.trans (List.nil_append _)
  rw [publishedPhases, hhistory] at hp
  obtain ⟨e, he, hpublished⟩ := List.mem_filterMap.1 hp
  -- what is left of a run announces attempts only
  have hrest := (hr.keeps (run_announces s.chain)).2
  have hannounced := (hleads.keeps hrest).1 e.2 (List.mem_map_of_mem he)
  obtain ⟨time, event⟩ := e
  cases event with
  | published phase =>
    obtain rfl : phase = p := Option.some.inj hpublished
    obtain ⟨i, e, n, -, -, -, rfl⟩ := hannounced phase rfl
    rfl
  | _ => cases hpublished

/-- **The run under way makes progress or is settled.** -/
theorem Engaged.advance (h : s.Engaged) (horizon : Option Nat) : (s.advance horizon).Engaged := by
  cases hf : s.flight with
  | none =>
    rw [advance_of_none hf]
    exact h
  | some f =>
    rw [advance_of_some hf]
    split
    · obtain ⟨hprogress, ⟨n, hnumber, hclaims⟩, es, hleads⟩ := h.flying f hf
      obtain ⟨es', hrest, hphases⟩ := resume_leads hleads horizon
      obtain ⟨hkept, hshown⟩ :=
        foldl_publish (publishedPhases (s.resume horizon f).2.history) s.board
      have hshown := hshown hprogress hphases
      generalize s.resume horizon f = played at hrest hkept hshown ⊢
      obtain ⟨stop, p⟩ := played
      cases stop with
      | finished report =>
        have hends : EndsWith s.chain n es' report := .completed hrest
        exact ⟨fun _ => Phase.isInProgress_of_isTerminal hends.isTerminal, nofun⟩
      | brokenDown message => exact ⟨fun _ => rfl, nofun⟩
      | hung =>
        refine ⟨nofun, fun f' hf' => ?_⟩
        cases hf'
        exact ⟨hshown, ⟨n, hnumber, hkept.trans hclaims⟩, es', hrest⟩
      | asleep wake rest =>
        refine ⟨nofun, fun f' hf' => ?_⟩
        cases hf'
        exact ⟨hshown, ⟨n, hnumber, hkept.trans hclaims⟩, es', hrest⟩
    · exact h

/-- **Whoever waits for the run under way sees it settled.** -/
theorem Engaged.settled (h : s.Engaged) (hp : s.phase.isInProgress = true) :
    (s.advance none).Settled s.board.claims (s.advance none).phase := by
  cases hf : s.flight with
  | none =>
    rw [h.idle hf] at hp
    cases hp
  | some f =>
    obtain ⟨-, ⟨n, hnumber, hclaims⟩, es, hleads⟩ := h.flying f hf
    obtain ⟨es', hrest, -⟩ := resume_leads hleads none
    obtain ⟨hkept, -⟩ := foldl_publish (publishedPhases (s.resume none f).2.history) s.board
    have hwakeful : (s.resume none f).1 ≠ .hung :=
      play_ne_hung s.probe none (hleads.keeps (run_wakeful s.chain)).2 _
    have hplayed : (s.resume none f).1 = (run s.probe f.rest
        { s.now with clock := f.wake, history := [] }).1.toStop σ :=
      congrArg Prod.fst (play_none s.probe f.rest _)
    rw [advance_of_some hf, if_pos (show reaches none f.wake = true from rfl)]
    generalize s.resume none f = played at hrest hkept hwakeful hplayed ⊢
    obtain ⟨stop, p⟩ := played
    cases stop with
    | finished report =>
      have hends : EndsWith s.chain n es' report := .completed hrest
      exact ⟨rfl, hends.isTerminal, rfl, hkept, n, report, es', hclaims, rfl, rfl, hends⟩
    | brokenDown message =>
      have hends : EndsWith s.chain n es' (.aborted (breakdownMessage (n + 1) message)) :=
        .brokenDown hrest
      rw [← hnumber] at hends
      exact ⟨rfl, rfl, rfl, hkept, n, _, es', hclaims, rfl, rfl, hends⟩
    | hung => exact absurd rfl hwakeful
    | asleep wake rest =>
      -- without a horizon a play does not stop asleep
      exact absurd hplayed.symm (toStop_ne_asleep _ wake rest)

/-! ### First steps in a row -/

/-- The phases in which a call gets a run. -/
def Call.admits : Call → Phase → Bool
  | acquire => Board.admitsFirst
  | retry => Board.admitsRetry

/-- What a call gets that finds a phase. -/
def Call.ticket : Call → Phase → Ticket
  | acquire, phase => if phase.isTerminal then .answered phase else .waiting
  | retry, phase => if phase.isFailed then .waiting else .answered phase

/-- **The first step of a call** claims a run if the phase admits that, and changes nothing
otherwise. -/
theorem first_eq (s : Service σ) (call : Call) :
    call.first s = (call.ticket s.phase, if call.admits s.phase then s.claimed else s) := by
  cases call with
  | acquire =>
    cases ha : Call.acquire.admits s.phase with
    | true =>
      have hs : s.phase = .notStarted := of_decide_eq_true ha
      rw [hs]
      exact acquireCall_eq_waiting hs
    | false =>
      have hbegin : s.begin = s := begin_of_started (of_decide_eq_false ha)
      show s.acquireCall = (Call.acquire.ticket s.phase, s)
      rw [acquireCall, hbegin, Call.ticket]
      by_cases ht : s.phase.isTerminal = true
      · rw [if_pos ht, if_pos ht]
      · rw [if_neg ht, if_neg ht]
  | retry =>
    cases hf : s.phase.isFailed with
    | true =>
      have hadmits : Call.retry.admits s.phase = true := hf
      rw [if_pos hadmits, Call.ticket, if_pos hf]
      exact retryCall_eq_waiting hf
    | false =>
      have hadmits : ¬Call.retry.admits s.phase = true := Bool.eq_false_iff.1 hf
      rw [if_neg hadmits, Call.ticket, if_neg (Bool.eq_false_iff.1 hf)]
      exact (s.declines.retry hf).1

theorem Engaged.first (h : s.Engaged) (call : Call) : (call.first s).2.Engaged := by
  rw [first_eq]
  dsimp only
  split
  · exact engaged_claimed s
  · exact h

/-- Nobody gets a run who finds one just claimed. -/
theorem not_admits_claimed (call : Call) : call.admits .claimed = false := by
  cases call <;> rfl

/-- If nobody gets a run then first steps change nothing. -/
theorem firstSteps_of_refused (h : ∀ call : Call, call.admits s.phase = false)
    (calls : List Call) : (s.firstSteps calls).2 = s := by
  induction calls with
  | nil => rfl
  | cons call calls ih =>
    have hfirst : (call.first s).2 = s := by
      rw [first_eq, h call]
      rfl
    show ((call.first s).2.firstSteps calls).2 = s
    rw [hfirst, ih]

/-- One of the calls gets a run. -/
def anyAdmitted (s : Service σ) (calls : List Call) : Bool :=
  calls.any fun call => call.admits s.phase

/-- Calls in a row claim a run if one of them may: the first that may does so, and from then on
nobody else may. -/
theorem firstSteps_state (s : Service σ) (calls : List Call) :
    (s.firstSteps calls).2 = if s.anyAdmitted calls then s.claimed else s := by
  induction calls with
  | nil => rfl
  | cons call calls ih =>
    have hfirst : (call.first s).2 = if call.admits s.phase then s.claimed else s :=
      congrArg Prod.snd (first_eq s call)
    show ((call.first s).2.firstSteps calls).2 = _
    rw [hfirst, anyAdmitted, List.any_cons]
    cases ha : call.admits s.phase with
    | true => exact firstSteps_of_refused (s := s.claimed) not_admits_claimed calls
    | false => exact ih

theorem firstSteps_length (s : Service σ) (calls : List Call) :
    (s.firstSteps calls).1.length = calls.length := by
  induction calls generalizing s with
  | nil => rfl
  | cons call calls ih => exact congrArg (· + 1) (ih (call.first s).2)

theorem firstSteps_append (s : Service σ) (calls calls' : List Call) :
    s.firstSteps (calls ++ calls') =
      ((s.firstSteps calls).1 ++ ((s.firstSteps calls).2.firstSteps calls').1,
        ((s.firstSteps calls).2.firstSteps calls').2) := by
  induction calls generalizing s with
  | nil => rfl
  | cons call calls ih =>
    have htail := ih (call.first s).2
    show (((call.first s).1 :: ((call.first s).2.firstSteps (calls ++ calls')).1),
      ((call.first s).2.firstSteps (calls ++ calls')).2) = _
    rw [htail]
    rfl

/-- The phase that a call finds after those who came before it. -/
def phaseAfter (s : Service σ) (before : List Call) : Phase :=
  if s.anyAdmitted before then .claimed else s.phase

/-- **What a call gets depends only on whether somebody before it has got a run.** -/
theorem firstSteps_ticket (s : Service σ) (before after : List Call) (call : Call) :
    (s.firstSteps (before ++ call :: after)).1[before.length]? =
      some (call.ticket (s.phaseAfter before)) := by
  have hphase : (s.firstSteps before).2.phase = s.phaseAfter before := by
    rw [firstSteps_state, phaseAfter]
    split <;> rfl
  have hfirst : (call.first (s.firstSteps before).2).1 = call.ticket (s.phaseAfter before) := by
    rw [first_eq, hphase]
  rw [firstSteps_append, ← hfirst]
  rw [List.getElem?_append_right (Nat.le_of_eq (firstSteps_length s before)), firstSteps_length,
    Nat.sub_self]
  rfl

/-! ### Answers -/

theorem advance_claims (s : Service σ) (horizon : Option Nat) :
    (s.advance horizon).board.claims = s.board.claims := by
  cases hf : s.flight with
  | none => rw [advance_of_none hf]
  | some f =>
    rw [advance_of_some hf]
    split
    · obtain ⟨hkept, -⟩ := foldl_publish (publishedPhases (s.resume horizon f).2.history) s.board
      generalize s.resume horizon f = played at hkept ⊢
      obtain ⟨stop, p⟩ := played
      cases stop <;> exact hkept
    · rfl

/-- When all calls are answered the service is the one that their first steps have left, or that
one after the end of the run if one of them has waited. -/
theorem join_state (s : Service σ) (calls : List Call) :
    (s.join calls).2 = (s.firstSteps calls).2 ∨
      (s.join calls).2 = (s.firstSteps calls).2.advance none := by
  show (if .waiting ∈ (s.firstSteps calls).1 then _ else _) = _ ∨ _
  by_cases h : .waiting ∈ (s.firstSteps calls).1
  · exact Or.inr (if_pos h)
  · exact Or.inl (if_neg h)

theorem join_answer (s : Service σ) (before after : List Call) (call : Call) :
    (s.join (before ++ call :: after)).1[before.length]? =
      some ((call.ticket (s.phaseAfter before)).redeem (s.join (before ++ call :: after)).2) := by
  show ((s.firstSteps (before ++ call :: after)).1.map (Ticket.redeem _))[before.length]? = _
  rw [List.getElem?_map, firstSteps_ticket]
  rfl

/-- If one of the calls waits then all who wait see the end of the run. -/
theorem join_of_waiting {calls : List Call} {before after : List Call} {call : Call}
    (hs : calls = before ++ call :: after) (hw : call.ticket (s.phaseAfter before) = .waiting) :
    (s.join calls).2 = (s.firstSteps calls).2.advance none := by
  have hticket := firstSteps_ticket s before after call
  rw [hw, ← hs] at hticket
  exact if_pos (List.mem_of_getElem? hticket)

/-! ### Operations -/

theorem Engaged.firstSteps (h : s.Engaged) (calls : List Call) :
    (s.firstSteps calls).2.Engaged := by
  rw [firstSteps_state]
  split
  · exact engaged_claimed s
  · exact h

theorem Engaged.await {call : Ticket × Service σ} (h : call.2.Engaged) :
    (Service.await call).2.Engaged := by
  unfold Service.await
  split
  · exact h
  · exact h.advance none

/-- Neither time nor the surroundings matter to the board and to the run under way. -/
theorem Engaged.elsewhere (h : s.Engaged) (now : Playback σ) : { s with now := now }.Engaged :=
  ⟨h.idle, h.flying⟩

/-- **Every operation leaves the board in agreement with the run under way.** -/
theorem Engaged.perform (h : s.Engaged) (op : Operation σ) : (s.perform op).Engaged := by
  cases op with
  | begin => exact h.startRun Board.admitsFirst
  | acquire => exact (h.first .acquire).await
  | retry => exact (h.first .retry).await
  | launch call => exact h.first call
  | join calls =>
    show (s.join calls).2.Engaged
    rcases join_state s calls with hj | hj
    · rw [hj]
      exact h.firstSteps calls
    · rw [hj]
      exact (h.firstSteps calls).advance none
  | sleep length => exact (h.advance _).elsewhere _
  | waitTerminal length =>
    show (s.waitTerminal length).2.Engaged
    unfold waitTerminal
    split
    · exact h
    · dsimp only
      split
      · exact h.advance _
      · exact (h.advance _).elsewhere _
  | change f => exact h.elsewhere _

theorem performAll_engaged (h : s.Engaged) (ops : List (Operation σ)) :
    (s.performAll ops).Engaged := by
  induction ops generalizing s with
  | nil => exact h
  | cons op ops ih => exact ih (h.perform op)

/-! ### Calls made at once -/

/-- Among calls made at once, each call of one kind whose forerunners are such is answered with a
phase. -/
def Answers (s : Service σ) (calls : List Call) (call : Call) (forerunners : List Call → Prop)
    (phase : Phase) : Prop :=
  ∀ before after, calls = before ++ call :: after → forerunners before →
    (s.join calls).1[before.length]? = some phase

/-- What is answered to calls made at once. -/
structure AnswersAtOnce (s : Service σ) (calls : List Call) : Prop where
  /-- Every call is answered. -/
  length : (s.join calls).1.length = calls.length
  /-- At most one run is started. -/
  atMostOne : (s.join calls).2.board.claims ≤ s.board.claims + 1
  /-- If there was no run yet, whoever wants to retry before anybody has started the first one is
  told so, whoever starts the first run or joins it is answered with its final phase, and whoever
  wants to retry after that finds the run claimed. -/
  notStarted : s.phase = .notStarted →
    s.Answers calls .retry (fun before => .acquire ∉ before) .notStarted ∧
    s.Answers calls .acquire (fun _ => True) s.acquire.1 ∧
    s.Answers calls .retry (fun before => .acquire ∈ before) .claimed ∧
    (.acquire ∈ calls → (s.join calls).2 = s.acquire.2 ∧
      s.acquire.2.Settled (s.board.claims + 1) s.acquire.1)
  /-- If a run has failed, whoever wants to start the first run before anybody retries is answered
  with that failure, the first to retry and all who join that run are answered with its final phase,
  and all others who want to retry find the run claimed. -/
  failed : s.phase.isFailed = true →
    s.Answers calls .acquire (fun before => .retry ∉ before) s.phase ∧
    s.Answers calls .retry (fun before => .retry ∉ before) s.retry.1 ∧
    s.Answers calls .acquire (fun before => .retry ∈ before) s.retry.1 ∧
    s.Answers calls .retry (fun before => .retry ∈ before) .claimed ∧
    (.retry ∈ calls → (s.join calls).2 = s.retry.2 ∧
      s.retry.2.Settled (s.board.claims + 1) s.retry.1)
  /-- If a run is under way, whoever joins it is answered with its final phase, and whoever wants to
  retry with the present one. -/
  inProgress : s.phase.isInProgress = true →
    s.Answers calls .acquire (fun _ => True) s.acquire.1 ∧
    s.Answers calls .retry (fun _ => True) s.phase ∧
    (.acquire ∈ calls → (s.join calls).2 = s.acquire.2 ∧
      s.acquire.2.Settled s.board.claims s.acquire.1)
  /-- If a run has succeeded, everybody is answered with that success. -/
  succeeded : s.phase.isSucceeded = true →
    (s.join calls).1 = List.replicate calls.length s.phase ∧ (s.join calls).2 = s

theorem anyAdmitted_iff (s : Service σ) (calls : List Call) :
    s.anyAdmitted calls = true ↔
      s.phase = .notStarted ∧ .acquire ∈ calls ∨ s.phase.isFailed = true ∧ .retry ∈ calls := by
  rw [anyAdmitted, List.any_eq_true]
  constructor
  · rintro ⟨call, hmem, hadmits⟩
    cases call with
    | acquire => exact Or.inl ⟨of_decide_eq_true hadmits, hmem⟩
    | retry => exact Or.inr ⟨hadmits, hmem⟩
  · rintro (⟨hs, hmem⟩ | ⟨hs, hmem⟩)
    · exact ⟨.acquire, hmem, decide_eq_true hs⟩
    · exact ⟨.retry, hmem, hs⟩

theorem join_claims_le (s : Service σ) (calls : List Call) :
    (s.join calls).2.board.claims ≤ s.board.claims + 1 := by
  have hfirst : (s.firstSteps calls).2.board.claims ≤ s.board.claims + 1 := by
    rw [firstSteps_state]
    split
    · exact Nat.le_refl _
    · exact Nat.le_succ _
  rcases join_state s calls with hj | hj
  · rw [hj]
    exact hfirst
  · rw [hj, advance_claims]
    exact hfirst

/-- A call waits if it gets a run or joins the one that is under way. -/
theorem waiting_iff {call : Call} {phase : Phase} : call.ticket phase = .waiting ↔
    call.admits phase = true ∨ call = .acquire ∧ phase.isInProgress = true := by
  cases call <;> cases phase <;>
    simp [Call.ticket, Call.admits, Board.admitsFirst, Board.admitsRetry, Phase.isTerminal,
      Phase.isSucceeded, Phase.isFailed, Phase.isInProgress]

/-- A call that would wait by itself waits among others unless there was one like it before. -/
theorem ticket_phaseAfter {before : List Call} {call : Call}
    (hw : call.ticket s.phase = .waiting) (hnew : call ∉ before) :
    call.ticket (s.phaseAfter before) = .waiting := by
  unfold phaseAfter
  split
  · rename_i hadmitted
    cases call with
    | acquire => rfl
    | retry =>
      -- somebody has got a run before, but after a failure only those who retry do
      have hfailed : s.phase.isFailed = true := (waiting_iff.1 hw).resolve_right nofun
      rcases (anyAdmitted_iff s before).1 hadmitted with ⟨hs, -⟩ | ⟨-, hmem⟩
      · rw [hs] at hfailed
        cases hfailed
      · exact absurd hmem hnew
  · exact hw

/-- **Whoever waits by itself and whoever waits among others see the same run end.** -/
theorem Engaged.shared (h : s.Engaged) {calls : List Call} {call : Call} (hmem : call ∈ calls)
    (hw : call.ticket s.phase = .waiting) :
    (s.join calls).2 = (Service.await (call.first s)).2 ∧
      (Service.await (call.first s)).2.Settled (call.first s).2.board.claims
        (Service.await (call.first s)).1 := by
  have hfirst := first_eq s call
  have hawait : Service.await (call.first s) =
      (((call.first s).2.advance none).phase, (call.first s).2.advance none) := by
    rw [Service.await, hfirst, hw]
  have hjoin : (s.join calls).2 = (s.firstSteps calls).2.advance none := by
    obtain ⟨before, after, hs, hnew⟩ := List.eq_append_cons_of_mem hmem
    exact join_of_waiting hs (ticket_phaseAfter hw hnew)
  obtain ⟨hstate, hprogress⟩ : (s.firstSteps calls).2 = (call.first s).2 ∧
      (call.first s).2.phase.isInProgress = true := by
    rw [firstSteps_state, hfirst]
    dsimp only
    rcases waiting_iff.1 hw with hadmits | ⟨rfl, hp⟩
    · have hany : s.anyAdmitted calls = true := List.any_eq_true.2 ⟨call, hmem, hadmits⟩
      rw [if_pos hany, if_pos hadmits]
      exact ⟨rfl, rfl⟩
    · have hnobody : ∀ call : Call, call.admits s.phase = false := by
        intro call
        cases call <;> cases hs : s.phase <;> first | rfl | (rw [hs] at hp; cases hp)
      have hany : ¬s.anyAdmitted calls = true := by
        rw [anyAdmitted, List.any_eq_true]
        rintro ⟨call, -, hadmits⟩
        exact Bool.false_ne_true ((hnobody call).symm.trans hadmits)
      rw [if_neg hany, if_neg (Bool.eq_false_iff.1 (hnobody .acquire))]
      exact ⟨rfl, hp⟩
  rw [hawait, hjoin, hstate]
  exact ⟨rfl, (h.first call).settled hprogress⟩

/-- A call is answered by what it finds and by what all see in the end. -/
theorem answers_of_ticket {calls : List Call} {call : Call} {forerunners : List Call → Prop}
    {phase : Phase}
    (h : ∀ before after, calls = before ++ call :: after → forerunners before →
      (call.ticket (s.phaseAfter before)).redeem (s.join calls).2 = phase) :
    s.Answers calls call forerunners phase := by
  intro before after hs hbefore
  have hanswer := join_answer s before after call
  rw [← hs] at hanswer
  rw [hanswer, h before after hs hbefore]

/-- Nobody has got a run before. -/
theorem phaseAfter_of_not {before : List Call}
    (h : ¬(s.phase = .notStarted ∧ .acquire ∈ before ∨ s.phase.isFailed = true ∧ .retry ∈ before)) :
    s.phaseAfter before = s.phase :=
  if_neg fun hadmitted => h ((anyAdmitted_iff s before).1 hadmitted)

section Answers

variable {calls : List Call}

/-- All who wait are answered alike. -/
theorem Engaged.awaited (h : s.Engaged) {call : Call} (hmem : call ∈ calls)
    (hw : call.ticket s.phase = .waiting) :
    (s.join calls).2.phase = (Service.await (call.first s)).1 := by
  obtain ⟨hjoin, hsettled⟩ := h.shared hmem hw
  rw [hjoin]
  exact hsettled.shown

theorem mem_of_split {before after : List Call} {call : Call}
    (hs : calls = before ++ call :: after) : call ∈ calls := by
  rw [hs]
  exact List.mem_append_right _ List.mem_cons_self

theorem answers_notStarted (h : s.Engaged) (hs : s.phase = .notStarted) :
    s.Answers calls .retry (fun before => .acquire ∉ before) .notStarted ∧
    s.Answers calls .acquire (fun _ => True) s.acquire.1 ∧
    s.Answers calls .retry (fun before => .acquire ∈ before) .claimed ∧
    (.acquire ∈ calls → (s.join calls).2 = s.acquire.2 ∧
      s.acquire.2.Settled (s.board.claims + 1) s.acquire.1) := by
  have hw : Call.acquire.ticket s.phase = .waiting := by
    rw [hs]
    rfl
  have hclaims : (Call.acquire.first s).2.board.claims = s.board.claims + 1 :=
    congrArg (fun call => call.2.board.claims) (acquireCall_eq_waiting hs)
  refine ⟨answers_of_ticket fun before after _ hnew => ?_,
    answers_of_ticket fun before after hsplit _ => ?_,
    answers_of_ticket fun before after _ hold => ?_, fun hmem => ?_⟩
  · have hfound : s.phaseAfter before = s.phase := by
      refine phaseAfter_of_not ?_
      rintro (⟨-, hold⟩ | ⟨hfailed, -⟩)
      · exact hnew hold
      · rw [hs] at hfailed
        cases hfailed
    rw [hfound, hs]
    rfl
  · have hticket : Call.acquire.ticket (s.phaseAfter before) = .waiting := by
      unfold phaseAfter
      split
      · rfl
      · exact hw
    rw [hticket]
    exact h.awaited (mem_of_split hsplit) hw
  · rw [phaseAfter, if_pos ((anyAdmitted_iff s before).2 (Or.inl ⟨hs, hold⟩))]
    rfl
  · obtain ⟨hjoin, hsettled⟩ := h.shared hmem hw
    rw [hclaims] at hsettled
    exact ⟨hjoin, hsettled⟩

theorem answers_failed (h : s.Engaged) (hs : s.phase.isFailed = true) :
    s.Answers calls .acquire (fun before => .retry ∉ before) s.phase ∧
    s.Answers calls .retry (fun before => .retry ∉ before) s.retry.1 ∧
    s.Answers calls .acquire (fun before => .retry ∈ before) s.retry.1 ∧
    s.Answers calls .retry (fun before => .retry ∈ before) .claimed ∧
    (.retry ∈ calls → (s.join calls).2 = s.retry.2 ∧
      s.retry.2.Settled (s.board.claims + 1) s.retry.1) := by
  have hw : Call.retry.ticket s.phase = .waiting := if_pos hs
  have hclaims : (Call.retry.first s).2.board.claims = s.board.claims + 1 :=
    congrArg (fun call => call.2.board.claims) (retryCall_eq_waiting hs)
  have hclaimed : ∀ {before : List Call}, .retry ∈ before → s.phaseAfter before = .claimed :=
    fun hold => if_pos ((anyAdmitted_iff s _).2 (Or.inr ⟨hs, hold⟩))
  refine ⟨answers_of_ticket fun before after _ hnew => ?_,
    answers_of_ticket fun before after hsplit hnew => ?_,
    answers_of_ticket fun before after hsplit hold => ?_,
    answers_of_ticket fun before after _ hold => ?_, fun hmem => ?_⟩
  · have hfound : s.phaseAfter before = s.phase := by
      refine phaseAfter_of_not ?_
      rintro (⟨hstart, -⟩ | ⟨-, hold⟩)
      · rw [hstart] at hs
        cases hs
      · exact hnew hold
    have hterminal : s.phase.isTerminal = true := by
      rw [Phase.isTerminal, hs, Bool.or_true]
    rw [hfound, Call.ticket, if_pos hterminal]
    rfl
  · rw [ticket_phaseAfter hw hnew]
    exact h.awaited (mem_of_split hsplit) hw
  · have hretry : .retry ∈ calls := by
      rw [hsplit]
      exact List.mem_append_left _ hold
    rw [hclaimed hold]
    exact h.awaited hretry hw
  · rw [hclaimed hold]
    rfl
  · obtain ⟨hjoin, hsettled⟩ := h.shared hmem hw
    rw [hclaims] at hsettled
    exact ⟨hjoin, hsettled⟩

theorem answers_inProgress (h : s.Engaged) (hs : s.phase.isInProgress = true) :
    s.Answers calls .acquire (fun _ => True) s.acquire.1 ∧
    s.Answers calls .retry (fun _ => True) s.phase ∧
    (.acquire ∈ calls → (s.join calls).2 = s.acquire.2 ∧
      s.acquire.2.Settled s.board.claims s.acquire.1) := by
  have hw : Call.acquire.ticket s.phase = .waiting := waiting_iff.2 (Or.inr ⟨rfl, hs⟩)
  have hstart : s.phase ≠ .notStarted := by
    intro hstart
    rw [hstart] at hs
    cases hs
  have hfailed : ¬s.phase.isFailed = true := by
    intro hfailed
    have hterminal : s.phase.isTerminal = true := by
      rw [Phase.isTerminal, hfailed, Bool.or_true]
    rw [Phase.isInProgress_of_isTerminal hterminal] at hs
    cases hs
  have hclaims : (Call.acquire.first s).2.board.claims = s.board.claims := by
    have hrefused : ¬Call.acquire.admits s.phase = true :=
      fun hadmits => hstart (of_decide_eq_true hadmits)
    rw [first_eq, if_neg hrefused]
  have hfound : ∀ before, s.phaseAfter before = s.phase := by
    refine fun before => phaseAfter_of_not ?_
    rintro (⟨h, -⟩ | ⟨h, -⟩)
    · exact hstart h
    · exact hfailed h
  refine ⟨answers_of_ticket fun before after hsplit _ => ?_,
    answers_of_ticket fun before after hsplit _ => ?_, fun hmem => ?_⟩
  · rw [hfound, hw]
    exact h.awaited (mem_of_split hsplit) hw
  · rw [hfound, Call.ticket, if_neg hfailed]
    rfl
  · obtain ⟨hjoin, hsettled⟩ := h.shared hmem hw
    rw [hclaims] at hsettled
    exact ⟨hjoin, hsettled⟩

theorem answers_succeeded (hs : s.phase.isSucceeded = true) :
    (s.join calls).1 = List.replicate calls.length s.phase ∧ (s.join calls).2 = s := by
  have hfirst := firstSteps_of_isSucceeded hs calls
  have hidle : ¬Ticket.waiting ∈ List.replicate calls.length (Ticket.answered s.phase) := by
    intro hmem
    cases List.eq_of_mem_replicate hmem
  have hjoin : (s.join calls).2 = s := by
    show (if .waiting ∈ (s.firstSteps calls).1 then _ else _) = s
    rw [hfirst]
    exact if_neg hidle
  refine ⟨?_, hjoin⟩
  show (s.firstSteps calls).1.map (Ticket.redeem _) = _
  rw [hfirst, List.map_replicate]
  rfl

end Answers

theorem answersAtOnce_of_engaged (h : s.Engaged) (calls : List Call) : s.AnswersAtOnce calls where
  length := by
    show ((s.firstSteps calls).1.map _).length = calls.length
    rw [List.length_map, firstSteps_length]
  atMostOne := join_claims_le s calls
  notStarted := answers_notStarted h
  failed := answers_failed h
  inProgress := answers_inProgress h
  succeeded := answers_succeeded

end Service

/-- **Calls made at once** start at most one run, and each of them is answered by the phase that it
finds, in every state to which operations lead. -/
theorem calls_at_once (chain : Chain σ) (probe : Probe σ) (surroundings : σ)
    (ops : List (Operation σ)) (calls : List Service.Call) :
    ((Service.start chain probe surroundings).performAll ops).AnswersAtOnce calls := by
  have hstart := Service.engaged_start chain probe surroundings
  exact Service.answersAtOnce_of_engaged (Service.performAll_engaged hstart ops) calls

end CodePermit
