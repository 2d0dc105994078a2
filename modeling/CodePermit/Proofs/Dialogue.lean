import CodePermit.Proofs.Leading
import CodePermit.Proofs.Questions
import CodePermit.Proofs.Requests
import CodePermit.Proofs.Resumption
/-!
# Dialogues with a helper

An attempt on a helper is a dialogue of requests and answers.  Each answer decides how it goes on:
with another request, if the helper could not be reached and there is time for the pause before it,
and otherwise with the end, which after an attachment is that of polling.

* `Exchange`, `Dialogue` — a request with its answer, and the course of a dialogue;
* `Playback.heard`, `Manners.answering` — what is heard in a play, and helpers that always answer;
* `requestsFrom_dialogue` — the requests of an attempt are a dialogue;
* `Dialogue.requests`, `Dialogue.another`, `Dialogue.length_le` and others — what holds of
  dialogues;
* `Conducted`, `attempt_conducted` — attempts on a helper from their first request to their end.
-/

namespace CodePermit

open Routine

variable {σ α : Type}

/-! ### What is heard -/

/-- The events of a kind that were observed, with their times. -/
def Playback.heard (p : Playback σ) (kind : Event → Bool) : List (Nat × Event) :=
  p.events.filter fun e => kind e.2

/-- The event is a request to a helper. -/
def Event.isRequest : Event → Bool
  | requested _ => true
  | _ => false

/-- The event is a question to the probe, whoever asks. -/
def Event.isAsked : Event → Bool
  | asked _ _ => true
  | _ => false

theorem heard_observe (p : Playback σ) (e : Event) (kind : Event → Bool) :
    (p.observe e).heard kind = p.heard kind ++ if kind e then [(p.clock, e)] else [] := by
  have hevents : (p.observe e).events = p.events ++ [(p.clock, e)] := List.reverse_cons
  rw [Playback.heard, hevents, List.filter_append, List.filter_cons, List.filter_nil]
  rfl

theorem heard_observe_other {p : Playback σ} {e : Event} {kind : Event → Bool}
    (h : kind e = false) : (p.observe e).heard kind = p.heard kind := by
  rw [heard_observe, h]
  exact List.append_nil _

/-- Nothing of a kind is heard of a routine whose manners forbid it. -/
theorem heard_run {probe : Probe σ} {m : Manners} {r : Routine σ α} {p p' : Playback σ} {a : α}
    {kind : Event → Bool} (hkeeps : r.Keeps m) (hother : ∀ e, m.hears e → kind e = false)
    (h : run probe r p = (.finished a, p')) : p'.heard kind = p.heard kind := by
  obtain ⟨es, hevents, hleads⟩ := run_leads probe h
  have hnone : es.filter (fun e => kind e.2) = [] := by
    rw [List.filter_eq_nil_iff]
    intro e he
    rw [hother e.2 ((hleads.keeps hkeeps).1 e.2 (List.mem_map_of_mem he))]
    exact Bool.false_ne_true
  rw [Playback.heard, hevents, List.filter_append, hnone, List.append_nil]
  rfl

/-- What a helper keeps that answers every request: before it does so it only lets time pass. -/
def Manners.answering : Manners where
  hears := fun e => ∃ length, e = .slept length
  breaksDown := False
  hangs := False

theorem run_answers (probe : Probe σ) {r : Routine σ α} (h : r.Keeps .answering)
    (p : Playback σ) : ∃ a p', run probe r p = (.finished a, p') :=
  run_finishes probe (h.mono (fun _ _ => trivial) id id) p

/-! ### Dialogues -/

/-- A request with its answer. -/
structure Exchange (σ : Type) where
  /-- Where the play stands when the request is sent. -/
  sent : Playback σ
  /-- The answer. -/
  reply : Except HelperFault AttachReply
  /-- Where the play stands when the answer has come. -/
  answered : Playback σ

/-- Another request is called for: the helper could not be reached, and there is time for a pause
before the deadline. -/
def Exchange.CallsForAnother (deadline pause : Nat) (x : Exchange σ) : Prop :=
  ∃ fault, x.reply = .error fault ∧ fault.isTransient = true ∧ x.answered.clock + pause < deadline

/-- The course of a dialogue from the request of a number on, with its exchanges and its end.  The
pause is made before another request. -/
inductive Dialogue (t : Transport σ) (request : AttachRequest) (probe : Probe σ)
    (interval deadline : Nat) :
    (number pause : Nat) → Playback σ → List (Exchange σ) → Outcome → Playback σ → Prop
  /-- The helper could not be reached, and there is time for another request. -/
  | again {number pause : Nat} {fault : HelperFault} {p p' p'' : Playback σ}
      {xs : List (Exchange σ)} {outcome : Outcome}
      (answered : run probe (t.send request) (p.observe (.requested request)) =
        (.finished (.error fault), p'))
      (transient : fault.isTransient = true) (inTime : p'.clock + pause < deadline)
      (rest : Dialogue t request probe interval deadline (number + 1) (nextPause pause)
        ((p'.observe (.warned (.requestFailed fault number))).pass (min pause longestRest)) xs
        outcome p'') :
      Dialogue t request probe interval deadline number pause p (⟨p, .error fault, p'⟩ :: xs)
        outcome p''
  /-- The helper could not be reached, and there is no time for another request. -/
  | tooLate {number pause : Nat} {fault : HelperFault} {p p' : Playback σ}
      (answered : run probe (t.send request) (p.observe (.requested request)) =
        (.finished (.error fault), p'))
      (transient : fault.isTransient = true) (late : deadline ≤ p'.clock + pause) :
      Dialogue t request probe interval deadline number pause p [⟨p, .error fault, p'⟩]
        .timedOut (p'.observe (.warned (.requestFailed fault number)))
  /-- The exchange failed for good. -/
  | failed {number pause : Nat} {fault : HelperFault} {p p' : Playback σ}
      (answered : run probe (t.send request) (p.observe (.requested request)) =
        (.finished (.error fault), p'))
      (permanent : fault.isTransient = false) :
      Dialogue t request probe interval deadline number pause p [⟨p, .error fault, p'⟩]
        (.denied fault.message) (p'.observe (.warned (.exchangeFailed fault)))
  /-- The helper refused. -/
  | rejected {number pause : Nat} {reason : String} {p p' : Playback σ}
      (answered : run probe (t.send request) (p.observe (.requested request)) =
        (.finished (.ok (.rejected reason)), p')) :
      Dialogue t request probe interval deadline number pause p [⟨p, .ok (.rejected reason), p'⟩]
        (.denied reason) p'
  /-- The helper attached, and the probe is polled until the deadline. -/
  | attached {number pause : Nat} {p p' p'' : Playback σ} {outcome : Outcome}
      (answered : run probe (t.send request) (p.observe (.requested request)) =
        (.finished (.ok .attached), p'))
      (polled : run probe (poll interval (deadline - p'.clock)) p' = (.finished outcome, p'')) :
      Dialogue t request probe interval deadline number pause p [⟨p, .ok .attached, p'⟩] outcome p''

section Attempts

variable {t : Transport σ} {request : AttachRequest}

/-- The end that the answer to the last request of an attempt brings about. -/
theorem lastAnswer_dialogue {probe : Probe σ} {interval deadline pause spent : Nat}
    {p p' : Playback σ} {reply : Except HelperFault AttachReply} (number : Nat)
    (hpos : 0 < interval)
    (hanswered : run probe (t.send request) (p.observe (.requested request)) =
      (.finished reply, p'))
    (hclock : p'.clock = p.clock + spent)
    (hlast : ∀ fault, reply = .error fault → fault.isTransient = true →
      deadline ≤ p'.clock + pause) :
    ∃ outcome p'', run probe (lastAnswer interval number (deadline - p.clock) (reply, spent)) p' =
      (.finished outcome, p'') ∧
      Dialogue t request probe interval deadline number pause p [⟨p, reply, p'⟩] outcome p'' := by
  match reply with
  | .ok .attached =>
    have hleft : deadline - p.clock - spent = deadline - p'.clock := by omega
    obtain ⟨last, outcome, p'', hrun, -⟩ := poll_polled probe deadline hpos p'
    refine ⟨outcome, p'', ?_, .attached hanswered hrun⟩
    rw [lastAnswer, hleft]
    exact hrun
  | .ok (.rejected reason) => exact ⟨_, _, rfl, .rejected hanswered⟩
  | .error fault =>
    cases htransient : fault.isTransient with
    | true =>
      refine ⟨_, _, ?_, .tooLate hanswered htransient (hlast fault rfl htransient)⟩
      rw [lastAnswer, htransient]
      rfl
    | false =>
      refine ⟨_, _, ?_, .failed hanswered htransient⟩
      rw [lastAnswer, htransient]
      rfl

/-- **The requests of an attempt are a dialogue**, if the helper always answers. -/
theorem requestsFrom_dialogue (probe : Probe σ) {interval : Nat} (hpos : 0 < interval)
    (hanswers : (t.send request).Keeps .answering) (deadline number tries : Nat) {pause : Nat}
    (hpause : 0 < pause) (p : Playback σ) :
    ∃ xs outcome p', run probe
        (requestsFrom t request interval number tries (deadline - p.clock) pause) p =
        (.finished outcome, p') ∧
      Dialogue t request probe interval deadline number pause p xs outcome p' := by
  -- each pause takes away from the time that is left
  generalize hm : deadline - p.clock = measure
  induction measure using Nat.strongRecOn generalizing number pause p with
  | ind measure ih =>
    subst hm
    obtain ⟨reply, p', hanswered⟩ := run_answers probe hanswers (p.observe (.requested request))
    obtain ⟨d, hsend⟩ := run_timed 0 hanswered
    have hclock : p'.clock = p.clock + d := run_timedFrom_clock hsend
    by_cases hagain : Exchange.CallsForAnother deadline pause ⟨p, reply, p'⟩
    · obtain ⟨fault, rfl, htransient, hearly⟩ := hagain
      have hearly : p'.clock + pause < deadline := hearly
      have hleft : deadline - p.clock - d - min pause longestRest =
          deadline - (p'.clock + min pause longestRest) := by
        omega
      have hsooner : deadline - (p'.clock + min pause longestRest) < deadline - p.clock := by
        simp only [longestRest]
        omega
      have hnext : 0 < nextPause pause := le_nextPause hpause (by decide)
      obtain ⟨xs, outcome, p'', hrun, hrest⟩ := ih _ hsooner (number + 1) hnext
        ((p'.observe (.warned (.requestFailed fault number))).pass (min pause longestRest)) rfl
      refine ⟨_, outcome, p'', ?_, .again hanswered htransient hearly hrest⟩
      rw [requestsFrom_again t request probe hsend htransient (by omega) hpause, hleft]
      exact hrun
    · -- the time that is left is up exactly if the deadline comes within the pause
      have hlast : ¬AsksAgain (deadline - p.clock) pause
          (run probe (t.send request).timed (p.observe (.requested request))).1 := by
        rintro ⟨fault, d', hending, htransient, hleft⟩
        have hsame : (Ending.finished (reply, d) : Ending _) = .finished (.error fault, d') :=
          (congrArg Prod.fst hsend).symm.trans hending
        cases hsame
        have hearly : p'.clock + pause < deadline := by omega
        exact hagain ⟨fault, rfl, htransient, hearly⟩
      obtain ⟨outcome, p'', hrun, hdialogue⟩ := lastAnswer_dialogue number hpos hanswered hclock
        fun fault hreply htransient => Nat.le_of_not_lt fun hlt =>
          hagain ⟨fault, hreply, htransient, hlt⟩
      refine ⟨_, outcome, p'', ?_, hdialogue⟩
      rw [requestsFrom_last t request probe hlast]
      show run probe ((t.send request).timed.bind _) (p.observe (.requested request)) = _
      rw [run_bind, Routine.timed, hsend]
      exact hrun

end Attempts

/-! ### What holds of dialogues -/

section Dialogues

variable {t : Transport σ} {request : AttachRequest} {probe : Probe σ}
  {interval deadline number pause : Nat} {p p' : Playback σ} {xs : List (Exchange σ)}
  {outcome : Outcome}

theorem Dialogue.begins
    (h : Dialogue t request probe interval deadline number pause p xs outcome p') :
    ∃ x rest, xs = x :: rest ∧ x.sent = p := by
  cases h <;> exact ⟨_, _, rfl, rfl⟩

theorem answered_requests {reply : Except HelperFault AttachReply}
    (hanswers : (t.send request).Keeps .answering)
    (h : run probe (t.send request) (p.observe (.requested request)) = (.finished reply, p')) :
    p'.heard Event.isRequest = p.heard Event.isRequest ++ [(p.clock, .requested request)] := by
  have hsilent : ∀ e, Manners.answering.hears e → e.isRequest = false := by
    rintro e ⟨length, rfl⟩
    rfl
  rw [heard_run hanswers hsilent h, heard_observe]
  rfl

theorem answered_unasked {reply : Except HelperFault AttachReply}
    (hanswers : (t.send request).Keeps .answering)
    (h : run probe (t.send request) (p.observe (.requested request)) = (.finished reply, p')) :
    p'.heard Event.isAsked = p.heard Event.isAsked := by
  have hsilent : ∀ e, Manners.answering.hears e → e.isAsked = false := by
    rintro e ⟨length, rfl⟩
    rfl
  rw [heard_run hanswers hsilent h, heard_observe_other rfl]

/-- Nothing of a kind is heard between an answer and the next request if it is neither a warning nor
sleep. -/
theorem heard_warned_pass {kind : Event → Bool} {w : Warning} (length : Nat)
    (hwarned : kind (.warned w) = false) (hslept : kind (.slept length) = false) :
    ((p.observe (.warned w)).pass length).heard kind = p.heard kind := by
  have hpass : ((p.observe (.warned w)).pass length).heard kind =
      ((p.observe (.warned w)).observe (.slept length)).heard kind := rfl
  rw [hpass, heard_observe_other hslept, heard_observe_other hwarned]

/-- **The requests that are heard of a dialogue are those of its exchanges.** -/
theorem Dialogue.requests (hanswers : (t.send request).Keeps .answering)
    (h : Dialogue t request probe interval deadline number pause p xs outcome p') :
    p'.heard Event.isRequest =
      p.heard Event.isRequest ++ xs.map fun x => (x.sent.clock, .requested request) := by
  induction h with
  | again answered transient inTime rest ih =>
    rw [ih, heard_warned_pass _ rfl rfl, answered_requests hanswers answered, List.append_assoc]
    rfl
  | tooLate answered transient late =>
    rw [heard_observe_other rfl, answered_requests hanswers answered]
    rfl
  | failed answered permanent =>
    rw [heard_observe_other rfl, answered_requests hanswers answered]
    rfl
  | rejected answered => exact answered_requests hanswers answered
  | attached answered polled =>
    -- whoever polls sends no request
    have hsilent : ∀ e, Manners.silent.hears e → e.isRequest = false := by
      intro e he
      cases e with
      | requested request => exact absurd rfl (he request)
      | _ => rfl
    rw [heard_run (poll_silent _ _) hsilent polled, answered_requests hanswers answered]
    rfl

/-- **Up to the answer of each exchange nobody has asked the probe.** -/
theorem Dialogue.unasked (hanswers : (t.send request).Keeps .answering)
    (h : Dialogue t request probe interval deadline number pause p xs outcome p') :
    ∀ x ∈ xs, x.answered.heard Event.isAsked = p.heard Event.isAsked := by
  induction h with
  | again answered transient inTime rest ih =>
    have hasked := answered_unasked hanswers answered
    refine List.forall_mem_cons.2 ⟨hasked, fun x hx => ?_⟩
    rw [ih x hx, heard_warned_pass _ rfl rfl, hasked]
  | tooLate answered transient late =>
    exact List.forall_mem_singleton.2 (answered_unasked hanswers answered)
  | failed answered permanent =>
    exact List.forall_mem_singleton.2 (answered_unasked hanswers answered)
  | rejected answered => exact List.forall_mem_singleton.2 (answered_unasked hanswers answered)
  | attached answered polled =>
    exact List.forall_mem_singleton.2 (answered_unasked hanswers answered)

/-- **A dialogue without an attachment ends with its last answer**, and nobody asks the probe. -/
theorem Dialogue.unattached
    (h : Dialogue t request probe interval deadline number pause p xs outcome p')
    {x : Exchange σ} (hlast : xs.getLast? = some x) (hreply : x.reply ≠ .ok .attached) :
    p'.clock = x.answered.clock ∧ p'.heard Event.isAsked = x.answered.heard Event.isAsked := by
  induction h with
  | again answered transient inTime rest ih =>
    obtain ⟨y, ys, rfl, -⟩ := rest.begins
    exact ih hlast
  | tooLate answered transient late =>
    cases hlast
    exact ⟨rfl, heard_observe_other rfl⟩
  | failed answered permanent =>
    cases hlast
    exact ⟨rfl, heard_observe_other rfl⟩
  | rejected answered =>
    cases hlast
    exact ⟨rfl, rfl⟩
  | attached answered polled =>
    cases hlast
    exact absurd rfl hreply

/-- **A dialogue goes on beyond the deadline only while an answer is awaited.** -/
theorem Dialogue.clock_le (hpos : 0 < interval)
    (h : Dialogue t request probe interval deadline number pause p xs outcome p')
    {x : Exchange σ} (hlast : xs.getLast? = some x) :
    p'.clock ≤ max deadline x.answered.clock := by
  by_cases hreply : x.reply = .ok .attached
  · induction h with
    | again answered transient inTime rest ih =>
      obtain ⟨y, ys, rfl, -⟩ := rest.begins
      exact ih hlast
    | tooLate answered transient late =>
      cases hlast
      cases hreply
    | failed answered permanent =>
      cases hlast
      cases hreply
    | rejected answered =>
      cases hlast
      cases hreply
    | @attached number pause p p' p'' outcome answered polled =>
      cases hlast
      obtain ⟨last, outcome', q, hrun, hpolled⟩ := poll_polled probe deadline hpos p'
      cases polled.symm.trans hrun
      rw [hpolled.clock, Nat.max_comm]
      exact questionTime_le _ _ _ _
  · rw [(h.unattached hlast hreply).1]
    exact Nat.le_max_right _ _

theorem Dialogue.clock_le_sent
    (h : Dialogue t request probe interval deadline number pause p xs outcome p') :
    ∀ x ∈ xs, p.clock ≤ x.sent.clock := by
  induction h with
  | @again number pause fault p p' p'' xs outcome answered transient inTime rest ih =>
    have hclock := run_clock_le probe (t.send request) (p.observe (.requested request))
    rw [answered] at hclock
    refine List.forall_mem_cons.2 ⟨Nat.le_refl _, fun x hx => ?_⟩
    exact Nat.le_trans hclock (Nat.le_trans (Nat.le_add_right _ _) (ih x hx))
  | tooLate => exact List.forall_mem_singleton.2 (Nat.le_refl _)
  | failed => exact List.forall_mem_singleton.2 (Nat.le_refl _)
  | rejected => exact List.forall_mem_singleton.2 (Nat.le_refl _)
  | attached => exact List.forall_mem_singleton.2 (Nat.le_refl _)

/-- **Requests are sent one at a time**: each of them after the answers to all requests before. -/
theorem Dialogue.oneAtATime
    (h : Dialogue t request probe interval deadline number pause p xs outcome p') :
    xs.Pairwise fun x y => x.answered.clock ≤ y.sent.clock := by
  induction h with
  | again answered transient inTime rest ih =>
    refine List.pairwise_cons.2 ⟨fun y hy => ?_, ih⟩
    exact Nat.le_trans (Nat.le_add_right _ _) (rest.clock_le_sent y hy)
  | tooLate => exact List.pairwise_singleton _ _
  | failed => exact List.pairwise_singleton _ _
  | rejected => exact List.pairwise_singleton _ _
  | attached => exact List.pairwise_singleton _ _

/-- **All requests but the first are sent before the deadline.** -/
theorem Dialogue.inTime
    (h : Dialogue t request probe interval deadline number pause p xs outcome p') :
    ∀ x ∈ xs.tail, x.sent.clock < deadline := by
  induction h with
  | @again number pause fault p p' p'' xs outcome answered transient inTime rest ih =>
    -- the next request is sent at once after the pause
    obtain ⟨y, ys, rfl, hy⟩ := rest.begins
    refine List.forall_mem_cons.2 ⟨?_, ih⟩
    rw [hy]
    show p'.clock + min pause longestRest < deadline
    omega
  | tooLate => exact List.forall_mem_nil _
  | failed => exact List.forall_mem_nil _
  | rejected => exact List.forall_mem_nil _
  | attached => exact List.forall_mem_nil _

/-- The only exchange of a dialogue is followed by no other. -/
theorem only_another {a x : Exchange σ} {i : Nat} (hx : [a][i]? = some x)
    (hlast : ¬a.CallsForAnother deadline pause) :
    i + 1 < [a].length ↔ x.CallsForAnother deadline (nextPause^[i] pause) := by
  cases i with
  | zero =>
    cases hx
    exact iff_of_false (Nat.lt_irrefl 1) hlast
  | succ i => cases hx

/-- **When another request follows**: if it is called for by the answer and the pause that has come
about by then. -/
theorem Dialogue.another
    (h : Dialogue t request probe interval deadline number pause p xs outcome p') {i : Nat}
    {x : Exchange σ} (hx : xs[i]? = some x) :
    i + 1 < xs.length ↔ x.CallsForAnother deadline (nextPause^[i] pause) := by
  induction h generalizing i with
  | @again number pause fault p p' p'' xs outcome answered transient inTime rest ih =>
    cases i with
    | zero =>
      obtain ⟨y, ys, rfl, -⟩ := rest.begins
      cases hx
      exact iff_of_true (Nat.succ_lt_succ (Nat.succ_pos _)) ⟨fault, rfl, transient, inTime⟩
    | succ i =>
      rw [Function.iterate_succ_apply, ← ih hx, List.length_cons]
      exact Nat.succ_lt_succ_iff
  | tooLate answered transient late =>
    refine only_another hx ?_
    rintro ⟨fault, -, -, hearly⟩
    exact absurd hearly (Nat.not_lt.2 late)
  | failed answered permanent =>
    refine only_another hx ?_
    rintro ⟨fault, hfault, htransient, -⟩
    cases hfault
    exact absurd (permanent.symm.trans htransient) Bool.false_ne_true
  | rejected answered =>
    refine only_another hx ?_
    rintro ⟨fault, hfault, -⟩
    cases hfault
  | attached answered polled =>
    refine only_another hx ?_
    rintro ⟨fault, hfault, -⟩
    cases hfault

/-- Each exchange but the last takes at least the shortest pause from the time that is left. -/
theorem Dialogue.pauses_le {least : Nat} (hpause : least ≤ pause) (hlongest : least ≤ longestPause)
    (h : Dialogue t request probe interval deadline number pause p xs outcome p') :
    (xs.length - 1) * least ≤ deadline - p.clock := by
  induction h with
  | @again number pause fault p p' p'' xs outcome answered transient inTime rest ih =>
    have hclock := run_clock_le probe (t.send request) (p.observe (.requested request))
    rw [answered] at hclock
    have hstart : p.clock ≤ p'.clock := hclock
    have hrest : (xs.length - 1) * least ≤ deadline - (p'.clock + min pause longestRest) :=
      ih (le_nextPause hpause hlongest)
    have hrested : least ≤ min pause longestRest := by
      simp only [longestPause, longestRest] at hlongest ⊢
      omega
    obtain ⟨y, ys, rfl, -⟩ := rest.begins
    simp only [List.length_cons, Nat.add_sub_cancel] at hrest ⊢
    rw [Nat.succ_mul]
    omega
  | tooLate => exact Nat.le_trans (Nat.le_of_eq (Nat.zero_mul _)) (Nat.zero_le _)
  | failed => exact Nat.le_trans (Nat.le_of_eq (Nat.zero_mul _)) (Nat.zero_le _)
  | rejected => exact Nat.le_trans (Nat.le_of_eq (Nat.zero_mul _)) (Nat.zero_le _)
  | attached => exact Nat.le_trans (Nat.le_of_eq (Nat.zero_mul _)) (Nat.zero_le _)

/-- **There are no more requests than shortest pauses before the deadline, and one.** -/
theorem Dialogue.length_le (hpos : 0 < interval)
    (h : Dialogue t request probe interval deadline number interval p xs outcome p') :
    xs.length ≤ 1 + (deadline - p.clock) ⌈/⌉ min interval longestPause := by
  have hleast : 0 < min interval longestPause := by
    simp only [longestPause]
    omega
  have hpauses := h.pauses_le (Nat.min_le_left _ _) (Nat.min_le_right interval longestPause)
  have hcovered : deadline - p.clock ≤
      min interval longestPause * ((deadline - p.clock) ⌈/⌉ min interval longestPause) :=
    le_smul_ceilDiv hleast
  rw [Nat.mul_comm] at hpauses
  have hrest := Nat.le_of_mul_le_mul_left (Nat.le_trans hpauses hcovered) hleast
  omega

end Dialogues

/-! ### Attempts on a helper -/

/-- How an attempt on a helper goes from its first request to its end. -/
structure Conducted (t : Transport σ) (request : AttachRequest) (probe : Probe σ)
    (interval deadline : Nat) (p : Playback σ) (xs : List (Exchange σ)) (outcome : Outcome)
    (p' : Playback σ) : Prop where
  /-- It is a dialogue that begins with the interval for its pause, and its end is the one that the
  last answer brings about. -/
  dialogue : Dialogue t request probe interval deadline 1 interval p xs outcome p'
  /-- The first request is sent at once. -/
  begins : ∃ x rest, xs = x :: rest ∧ x.sent = p
  /-- The requests that are heard are those of the exchanges. -/
  requests : p'.heard Event.isRequest =
    p.heard Event.isRequest ++ xs.map fun x => (x.sent.clock, .requested request)
  /-- They are sent one at a time. -/
  oneAtATime : xs.Pairwise fun x y => x.answered.clock ≤ y.sent.clock
  /-- Another one follows if and only if it is called for. -/
  another : ∀ i x, xs[i]? = some x →
    (i + 1 < xs.length ↔ x.CallsForAnother deadline (nextPause^[i] interval))
  /-- All but the first are sent before the deadline. -/
  inTime : ∀ x ∈ xs.tail, x.sent.clock < deadline
  /-- Nobody has asked the probe before the last answer came. -/
  unasked : ∀ x ∈ xs, x.answered.heard Event.isAsked = p.heard Event.isAsked
  /-- Without an attachment the attempt ends with the last answer, and nobody asks the probe. -/
  unattached : ∀ x, xs.getLast? = some x → x.reply ≠ .ok .attached →
    p'.clock = x.answered.clock ∧ p'.heard Event.isAsked = p.heard Event.isAsked
  /-- The attempt goes on beyond the deadline only while an answer is awaited. -/
  clock_le : ∀ x, xs.getLast? = some x → p'.clock ≤ max deadline x.answered.clock
  /-- There are no more requests than shortest pauses before the deadline, and one. -/
  length_le : xs.length ≤ 1 + (deadline - p.clock) ⌈/⌉ min interval longestPause

/-- **Attempts on a helper.**  With an interval, an attempt on a helper that always answers comes to
an end, and it is conducted from its first request to its end. -/
theorem attempt_conducted {t : Transport σ} {request : AttachRequest} {interval : Nat}
    (hanswers : (t.send request).Keeps .answering) (hpos : 0 < interval) (probe : Probe σ)
    (deadline : Nat) (p : Playback σ) :
    ∃ xs outcome p', run probe ((companionHelper (some t) request interval).attempt
        (deadline - p.clock)) p = (.finished outcome, p') ∧
      Conducted t request probe interval deadline p xs outcome p' := by
  obtain ⟨xs, outcome, p', hrun, h⟩ := requestsFrom_dialogue probe hpos hanswers deadline 1
    patience hpos p
  refine ⟨xs, outcome, p', hrun, h, h.begins, h.requests hanswers, h.oneAtATime,
    fun i x => h.another, h.inTime, h.unasked hanswers, fun x hlast hreply => ?_,
    fun x => h.clock_le hpos, h.length_le hpos⟩
  obtain ⟨hclock, hunasked⟩ := h.unattached hlast hreply
  exact ⟨hclock, hunasked.trans (h.unasked hanswers x (List.mem_of_getLast? hlast))⟩

/-- A helper that has answers in store, each with the time that it takes; when none is left it
cannot be reached. -/
def storedHelper : Transport (List (Nat × Except HelperFault AttachReply)) where
  available := fun _ _ => true
  send := fun _ => .act (fun _ s => s.tail) fun _ s =>
    .rest (s.headD (0, .error (.unreachable "nothing in store"))).1
      (.done (s.headD (0, .error (.unreachable "nothing in store"))).2)
  aside := fun _ _ _ => keeps_rest _ (fun _ => rfl) trivial

/-- A helper cannot be reached at first, attaches at the second request and is confirmed while the
probe is polled. -/
theorem attempt_conducted_stored :
    (storedHelper.send ⟨4242, "test"⟩).Keeps .answering ∧ 0 < 50 ∧
    ∃ xs outcome p', run (fun time s => (200 ≤ time, s)) ((companionHelper (some storedHelper)
        ⟨4242, "test"⟩ 50).attempt (1000 - 0))
        ⟨0, [(30, .error (.unreachable "x")), (40, .ok .attached)], []⟩ = (.finished outcome, p') ∧
      Conducted storedHelper ⟨4242, "test"⟩ (fun time s => (200 ≤ time, s)) 50 1000
        ⟨0, [(30, .error (.unreachable "x")), (40, .ok .attached)], []⟩ xs outcome p' := by
  have hanswers : (storedHelper.send ⟨4242, "test"⟩).Keeps .answering :=
    fun _ _ => keeps_rest _ (fun length => ⟨length, rfl⟩) trivial
  have hpos : 0 < 50 := by decide
  exact ⟨hanswers, hpos, attempt_conducted hanswers hpos _ 1000 ⟨0, _, []⟩⟩

end CodePermit
