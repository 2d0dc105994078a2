import CodePermit.Proofs.Timekeeping
import CodePermit.Rehearsal
import Mathlib.Algebra.Group.Nat.Defs
/-!
# Requests to a helper

A helper that cannot be reached is asked again and again, and the pauses between the requests grow.
They double from one to the next, but only up to a limit; the first of them is the interval itself,
whatever its length, so that an interval beyond the limit is waited for once.

* `Exchanges` — requests that brought nothing, with the waits after them;
* `lastAnswer` — what an attempt makes of the answer to its last request;
* `waitsFrom`, `Backoff` — how long the waits are;
* `requestsFrom_exchanges`, `request_backoff` — the requests of an attempt;
* `first_wait_uncapped` — a first wait that is longer than the limit.
-/

namespace CodePermit

open Routine

variable {σ : Type}

/-! ### Requests and answers -/

/-- From one moment of a play to another, requests were sent one at a time, each of them failed in a
way that is worth another one, and the waits passed, one after each of the answers. -/
inductive Exchanges (t : Transport σ) (request : AttachRequest) (probe : Probe σ) :
    (number : Nat) → Playback σ → (waits : List Nat) → Playback σ → Prop
  | none {number : Nat} {p : Playback σ} : Exchanges t request probe number p [] p
  | failed {number wait : Nat} {fault : HelperFault} {p p' q : Playback σ} {waits : List Nat}
      (answered : run probe (t.send request) (p.observe (.requested request)) =
        (.finished (.error fault), p'))
      (transient : fault.isTransient = true)
      (rest : Exchanges t request probe (number + 1)
        ((p'.observe (.warned (.requestFailed fault number))).pass wait) waits q) :
      Exchanges t request probe number p (wait :: waits) q

/-- What an attempt makes of the answer to its last request, the one of a number, when it had so
much time left for it. -/
def lastAnswer (interval number left : Nat) :
    Except HelperFault AttachReply × Nat → Routine σ Outcome
  | (.ok .attached, spent) => poll interval (left - spent)
  | (.ok (.rejected reason), _) => .done (.denied reason)
  | (.error fault, _) =>
    if fault.isTransient then
      .note (.warned (.requestFailed fault number)) (.done .timedOut)
    else .note (.warned (.exchangeFailed fault)) (.done (.denied fault.message))

/-- The manners of a routine that sends no request. -/
def Manners.silent : Manners where
  hears := fun e => ∀ request, e ≠ .requested request

theorem silent_asked (who : Asker) (answer : Bool) : Manners.silent.hears (.asked who answer) :=
  nofun

theorem silent_slept (length : Nat) : Manners.silent.hears (.slept length) := nofun

theorem poll_silent (interval limit : Nat) :
    (poll interval limit : Routine σ Outcome).Keeps .silent := by
  have hinsist : ∀ questions, (insist questions : Routine σ Outcome).Keeps .silent := by
    intro questions
    induction questions with
    | zero => trivial
    | succ questions ih =>
      intro answer
      refine ⟨silent_asked _ _, ?_⟩
      cases answer with
      | true => trivial
      | false => exact ih
  induction limit using Nat.strongRecOn with
  | ind limit ih =>
    rw [poll]
    intro answer
    refine ⟨silent_asked _ _, ?_⟩
    dsimp only
    split
    · trivial
    · split
      · trivial
      · split
        · exact hinsist patience
        · exact ⟨silent_slept _, ih _ (by omega)⟩

/-- After the answer to its last request an attempt sends no other one. -/
theorem lastAnswer_silent (interval number left : Nat)
    (answer : Except HelperFault AttachReply × Nat) :
    (lastAnswer interval number left answer : Routine σ Outcome).Keeps .silent := by
  obtain ⟨reply, spent⟩ := answer
  match reply with
  | .ok .attached => exact poll_silent interval _
  | .ok (.rejected reason) => trivial
  | .error fault =>
    unfold lastAnswer
    dsimp only
    split
    · exact ⟨nofun, trivial⟩
    · exact ⟨nofun, trivial⟩

/-! ### Waits -/

/-- So many waits, of which the first is as long as a pause and each other as long as the next
one. -/
def waitsFrom : (pause count : Nat) → List Nat
  | _, 0 => []
  | pause, count + 1 => min pause longestRest :: waitsFrom (nextPause pause) count

theorem nextPause_le (pause : Nat) : nextPause pause ≤ longestPause :=
  Nat.min_le_right _ _

theorem le_nextPause {least pause : Nat} (hpause : least ≤ pause)
    (hlongest : least ≤ longestPause) : least ≤ nextPause pause := by
  unfold nextPause
  omega

theorem min_nextPause (pause k : Nat) :
    min (nextPause pause * 2 ^ k) longestPause = min (pause * 2 ^ (k + 1)) longestPause := by
  have hpow : pause * 2 ^ (k + 1) = pause * 2 * 2 ^ k := by
    rw [Nat.pow_succ, Nat.mul_comm (2 ^ k) 2, Nat.mul_assoc]
  have hgrows : ∀ n, n ≤ n * 2 ^ k := fun n => Nat.le_mul_of_pos_right n (Nat.two_pow_pos k)
  rw [hpow, nextPause]
  by_cases h : pause * 2 ≤ longestPause
  · rw [Nat.min_eq_left h]
  · -- past the limit both are the limit
    have hlimit : longestPause ≤ pause * 2 := Nat.le_of_not_le h
    rw [Nat.min_eq_right hlimit, Nat.min_eq_right (hgrows _),
      Nat.min_eq_right (Nat.le_trans hlimit (hgrows _))]

/-- Waits from a pause within the limit double up to the limit. -/
theorem getElem?_waitsFrom {pause count k w : Nat} (hpause : pause ≤ longestPause)
    (h : (waitsFrom pause count)[k]? = some w) : w = min (pause * 2 ^ k) longestPause := by
  induction count generalizing pause k with
  | zero => cases h
  | succ count ih =>
    cases k with
    | zero =>
      have hw : min pause longestRest = w := Option.some.inj h
      simp only [longestPause, longestRest] at hpause hw ⊢
      omega
    | succ k =>
      rw [← min_nextPause]
      exact ih (nextPause_le pause) h

/-- How long the waits between the requests of an attempt are, for an interval. -/
structure Backoff (interval : Nat) (waits : List Nat) : Prop where
  /-- The first wait is the interval, and there is no other limit to it than that of any rest. -/
  first : ∀ w, waits[0]? = some w → w = min interval longestRest
  /-- From then on the waits double up to the limit. -/
  later : ∀ k w, waits[k + 1]? = some w → w = min (interval * 2 ^ (k + 1)) longestPause
  /-- If the interval is within the limit this law holds for all of them. -/
  doubling : interval ≤ longestPause →
    ∀ k w, waits[k]? = some w → w = min (interval * 2 ^ k) longestPause
  /-- They do not decrease then. -/
  growing : interval ≤ longestPause → waits.Pairwise (· ≤ ·)
  /-- And none of them is longer than the limit. -/
  capped : interval ≤ longestPause → ∀ w ∈ waits, w ≤ longestPause

theorem backoff_waitsFrom (interval count : Nat) : Backoff interval (waitsFrom interval count) := by
  have hdoubling : interval ≤ longestPause → ∀ k w, (waitsFrom interval count)[k]? = some w →
      w = min (interval * 2 ^ k) longestPause := fun hle k w h => getElem?_waitsFrom hle h
  refine ⟨?_, ?_, hdoubling, ?_, ?_⟩
  · intro w h
    cases count with
    | zero => cases h
    | succ count => exact (Option.some.inj h).symm
  · intro k w h
    cases count with
    | zero => cases h
    | succ count =>
      rw [← min_nextPause]
      exact getElem?_waitsFrom (nextPause_le interval) h
  · intro hle
    rw [List.pairwise_iff_getElem]
    intro j k hj hk hjk
    rw [hdoubling hle j _ (List.getElem?_eq_getElem hj),
      hdoubling hle k _ (List.getElem?_eq_getElem hk)]
    have hpow : interval * 2 ^ j ≤ interval * 2 ^ k :=
      Nat.mul_le_mul_left _ (Nat.pow_le_pow_right Nat.two_pos (Nat.le_of_lt hjk))
    omega
  · intro hle w hw
    obtain ⟨k, hk⟩ := List.getElem?_of_mem hw
    rw [hdoubling hle k w hk]
    exact Nat.min_le_right _ _

theorem length_waitsFrom (pause count : Nat) : (waitsFrom pause count).length = count := by
  induction count generalizing pause with
  | zero => rfl
  | succ count ih => exact congrArg Nat.succ (ih (nextPause pause))

/-! ### Attempts -/

section Attempts

variable (t : Transport σ) (request : AttachRequest) (probe : Probe σ)

/-- The requests of an attempt from the one of a number on, and what follows them, when there is so
much time left for it. -/
def requestsFrom (interval number tries left pause : Nat) : Routine σ Outcome :=
  (negotiate t request number tries left pause).bind fun result =>
    match result with
    | .ok left => poll interval left
    | .error outcome => .done outcome

/-- The answer to a request asks for another one, and there is time for the pause before it. -/
def AsksAgain (left pause : Nat) (ending : Ending (Except HelperFault AttachReply × Nat)) : Prop :=
  ∃ fault d, ending = .finished (.error fault, d) ∧ fault.isTransient = true ∧ pause < left - d

theorem requestsFrom_again {interval number tries left pause d : Nat} {fault : HelperFault}
    {p p' : Playback σ}
    (hsend : run probe (t.send request).timed (p.observe (.requested request)) =
      (.finished (.error fault, d), p'))
    (htransient : fault.isTransient = true) (hleft : pause < left - d) (hpause : 0 < pause) :
    run probe (requestsFrom t request interval number tries left pause) p =
      run probe (requestsFrom t request interval (number + 1) tries
          (left - d - min pause longestRest) (nextPause pause))
        ((p'.observe (.warned (.requestFailed fault number))).pass (min pause longestRest)) := by
  have hlate : ¬left - d ≤ pause := Nat.not_le_of_lt hleft
  have hsleeps : pause ≠ 0 := Nat.pos_iff_ne_zero.1 hpause
  rw [requestsFrom, negotiate]
  simp only [Routine.bind, run, bind_assoc, run_bind]
  rw [hsend]
  simp only [Ending.andThen]
  rw [if_pos htransient, if_neg hlate, if_neg hsleeps]
  rfl

theorem requestsFrom_last {interval number tries left pause : Nat} {p : Playback σ}
    (hlast : ¬AsksAgain left pause
      (run probe (t.send request).timed (p.observe (.requested request))).1) :
    run probe (requestsFrom t request interval number tries left pause) p =
      run probe (.note (.requested request) ((t.send request).timed.bind
        (lastAnswer interval number left))) p := by
  rw [requestsFrom, negotiate]
  simp only [Routine.bind, run, bind_assoc, run_bind]
  generalize run probe (t.send request).timed (p.observe (.requested request)) = sent at hlast ⊢
  obtain ⟨ending, p'⟩ := sent
  cases ending with
  | brokenDown message => rfl
  | hung => rfl
  | finished answer =>
    refine congrArg (fun r => run probe r p') ?_
    obtain ⟨reply, d⟩ := answer
    cases reply with
    | ok reply =>
      cases reply with
      | attached => rfl
      | rejected reason => rfl
    | error fault =>
      unfold lastAnswer
      dsimp only
      split
      · rename_i htransient
        have hleft : left - d ≤ pause :=
          Nat.le_of_not_lt fun hlt => hlast ⟨fault, d, rfl, htransient, hlt⟩
        rw [if_pos hleft]
        rfl
      · rfl

/-- **The requests of an attempt.**  One after another they fail and are followed by the waits from
the pause, until one comes after whose answer, if any, no other is sent. -/
theorem requestsFrom_exchanges (interval deadline number tries : Nat) {pause : Nat}
    (hpause : 0 < pause) (p : Playback σ) :
    ∃ count q, Exchanges t request probe number p (waitsFrom pause count) q ∧
      run probe (requestsFrom t request interval number tries (deadline - p.clock) pause) p =
        run probe (.note (.requested request) ((t.send request).timed.bind
          (lastAnswer interval (number + count) (deadline - q.clock)))) q := by
  -- each of the waits takes away from the time that is left
  generalize hm : deadline - p.clock = measure
  induction measure using Nat.strongRecOn generalizing number tries pause p with
  | ind measure ih =>
    subst hm
    by_cases hagain : AsksAgain (deadline - p.clock) pause
      (run probe (t.send request).timed (p.observe (.requested request))).1
    · obtain ⟨fault, d, hending, htransient, hleft⟩ := hagain
      obtain ⟨p', hsend⟩ : ∃ p', run probe (t.send request).timed
          (p.observe (.requested request)) = (.finished (.error fault, d), p') :=
        ⟨_, Prod.ext hending rfl⟩
      have hclock : p'.clock = p.clock + d := run_timedFrom_clock hsend
      have hleft' : deadline - p.clock - d - min pause longestRest =
          deadline - (p'.clock + min pause longestRest) := by
        omega
      have hsooner : deadline - (p'.clock + min pause longestRest) < deadline - p.clock := by
        simp only [longestRest]
        omega
      have hnext : 0 < nextPause pause := le_nextPause hpause (by decide)
      obtain ⟨count, q, hrest, hrun⟩ := ih _ hsooner (number + 1) tries hnext
        ((p'.observe (.warned (.requestFailed fault number))).pass (min pause longestRest)) rfl
      refine ⟨count + 1, q, .failed (run_timedFrom hsend) htransient hrest, ?_⟩
      rw [requestsFrom_again t request probe hsend htransient hleft hpause, hleft', hrun,
        Nat.add_right_comm number 1 count, Nat.add_assoc]
    · exact ⟨0, p, .none, requestsFrom_last t request probe hagain⟩

/-- **The waits between requests.**  An attempt on a helper sends requests that fail, with waits
after them that grow as the law of the interval says, and then one more, after whose answer it sends
no other. -/
theorem request_backoff {interval : Nat} (hpos : 0 < interval) (limit : Nat) (p : Playback σ) :
    ∃ waits q, Exchanges t request probe 1 p waits q ∧ Backoff interval waits ∧
      run probe ((companionHelper (some t) request interval).attempt limit) p =
        run probe (.note (.requested request) ((t.send request).timed.bind
          (lastAnswer interval (waits.length + 1) (p.clock + limit - q.clock)))) q ∧
      ∀ answer, (lastAnswer interval (waits.length + 1) (p.clock + limit - q.clock) answer :
        Routine σ Outcome).Keeps .silent := by
  obtain ⟨count, q, hexchanges, hrun⟩ := requestsFrom_exchanges t request probe interval
    (p.clock + limit) 1 patience hpos p
  refine ⟨waitsFrom interval count, q, hexchanges, backoff_waitsFrom interval count, ?_,
    lastAnswer_silent interval _ _⟩
  rw [Nat.add_sub_cancel_left] at hrun
  rw [length_waitsFrom, Nat.add_comm count 1]
  exact hrun

end Attempts

/-- A helper that cannot be reached by the first request and attaches at the second. -/
def lateHelper : Rehearsal where
  parts := [{ replies := [{ finish := .gives (.error (.unreachable "x")) },
    { permission := some true, finish := .gives (.ok .attached) }] }]

theorem request_backoff_lateHelper : 0 < 500 ∧
    ∃ waits q, Exchanges (Rehearsal.transport true 0) ⟨4242, "test"⟩ Rehearsal.probe 1
        ⟨0, lateHelper, []⟩ waits q ∧ Backoff 500 waits ∧
      run Rehearsal.probe ((companionHelper (some (Rehearsal.transport true 0)) ⟨4242, "test"⟩
        500).attempt 20000) ⟨0, lateHelper, []⟩ =
        run Rehearsal.probe (.note (.requested ⟨4242, "test"⟩)
          (((Rehearsal.transport true 0).send ⟨4242, "test"⟩).timed.bind
            (lastAnswer 500 (waits.length + 1) (0 + 20000 - q.clock)))) q := by
  have hpos : 0 < 500 := by decide
  obtain ⟨waits, q, hexchanges, hbackoff, hrun, -⟩ := request_backoff (Rehearsal.transport true 0)
    ⟨4242, "test"⟩ Rehearsal.probe hpos 20000 ⟨0, lateHelper, []⟩
  exact ⟨hpos, waits, q, hexchanges, hbackoff, hrun⟩

/-- With an interval of five seconds the first wait is that long, although the limit is four. -/
theorem first_wait_uncapped :
    (run Rehearsal.probe ((companionHelper (some (Rehearsal.transport true 0)) ⟨4242, "test"⟩
        5000).attempt 20000) ⟨0, lateHelper, []⟩).2.events =
      [(0, .requested ⟨4242, "test"⟩),
        (0, .warned (.requestFailed (.unreachable "x") 1)), (0, .slept 5000),
        (5000, .requested ⟨4242, "test"⟩), (5000, .asked .technique true)] ∧
      min (5000 * 2 ^ 0) longestPause = 4000 := by
  refine ⟨?_, rfl⟩
  show (run Rehearsal.probe ((negotiate (Rehearsal.transport true 0) ⟨4242, "test"⟩ 1 patience
    20000 5000).bind _) _).2.events = _
  rw [negotiate]
  show (run Rehearsal.probe ((negotiate (Rehearsal.transport true 0) ⟨4242, "test"⟩ 2 patience
    15000 4000).bind _) _).2.events = _
  rw [negotiate]
  show (run Rehearsal.probe (poll 5000 15000) _).2.events = _
  rw [poll]
  rfl

end CodePermit
