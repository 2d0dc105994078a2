import CodePermit.CommandLine.Acquisition
import CodePermit.Proofs.Acceptance
import CodePermit.Proofs.AtOnce
import CodePermit.Proofs.SingleFlight
/-!
# The service of a process

The process-wide service is reached by calls that install it, that ask for it, and that tell of the
launch of the application, in whatever order and whatever the default configuration file holds at
each of them.  The first call that has settings that can be used installs the service, and from then
on nothing is done but to work with that one.

* `perform_claims_le`, `notStarted_iff_unclaimed` — claims of a service after any operations;
* `candidate_of_valid`, `install_first`, `shared_first` and others — the calls one by one;
* `Occasion`, `Call`, `take`, `takeAll` — calls of a process, one after another;
* `Brings`, `take_cases` — all that a call can do;
* `launchRuns`, `launchRuns_le` — launching starts at most one run;
* `ProcessWide`, `calls_processWide` — what holds of the service of a process.
-/

namespace CodePermit

variable {σ : Type}

/-! ### Claims of a service -/

namespace Service

theorem begin_claims_le (s : Service σ) : s.board.claims ≤ s.begin.board.claims := by
  by_cases h : s.phase = .notStarted
  · rw [begin_eq_claimed h]
    exact Nat.le_succ _
  · exact Nat.le_of_eq (by rw [begin_of_started h])

theorem first_claims_le (s : Service σ) (call : Call) :
    s.board.claims ≤ (call.first s).2.board.claims := by
  rw [first_eq]
  dsimp only
  split
  · exact Nat.le_succ _
  · exact Nat.le_refl _

theorem firstSteps_claims_le (s : Service σ) (calls : List Call) :
    s.board.claims ≤ (s.firstSteps calls).2.board.claims := by
  rw [firstSteps_state]
  split
  · exact Nat.le_succ _
  · exact Nat.le_refl _

theorem await_claims (call : Ticket × Service σ) :
    (await call).2.board.claims = call.2.board.claims := by
  unfold await
  split
  · rfl
  · exact advance_claims call.2 none

/-- **No operation takes back a claim.** -/
theorem perform_claims_le (s : Service σ) (op : Operation σ) :
    s.board.claims ≤ (s.perform op).board.claims := by
  cases op with
  | begin => exact s.begin_claims_le
  | acquire =>
    show _ ≤ (await (Call.acquire.first s)).2.board.claims
    rw [await_claims]
    exact s.first_claims_le .acquire
  | retry =>
    show _ ≤ (await (Call.retry.first s)).2.board.claims
    rw [await_claims]
    exact s.first_claims_le .retry
  | launch call => exact s.first_claims_le call
  | join calls =>
    show _ ≤ (s.join calls).2.board.claims
    rcases join_state s calls with hj | hj
    · rw [hj]
      exact s.firstSteps_claims_le calls
    · rw [hj, advance_claims]
      exact s.firstSteps_claims_le calls
  | sleep length => exact Nat.le_of_eq (advance_claims s _).symm
  | waitTerminal length =>
    show _ ≤ (s.waitTerminal length).2.board.claims
    unfold waitTerminal
    split
    · exact Nat.le_refl _
    · dsimp only
      split <;> exact Nat.le_of_eq (advance_claims s _).symm
  | change f => exact Nat.le_refl _

theorem performAll_claims_le (s : Service σ) (ops : List (Operation σ)) :
    s.board.claims ≤ (s.performAll ops).board.claims := by
  induction ops generalizing s with
  | nil => exact Nat.le_refl _
  | cons op ops ih => exact Nat.le_trans (s.perform_claims_le op) (ih (s.perform op))

/-- The service has come out of operations since the beginning of time. -/
def Reached (s : Service σ) : Prop :=
  ∃ chain probe surroundings ops, s = (start chain probe surroundings).performAll ops

theorem Reached.performAll {s : Service σ} (h : s.Reached) (ops : List (Operation σ)) :
    (s.performAll ops).Reached := by
  obtain ⟨chain, probe, surroundings, before, rfl⟩ := h
  exact ⟨chain, probe, surroundings, before ++ ops, (performAll_append _ before ops).symm⟩

/-- **Nothing was started exactly as long as nothing was claimed.** -/
theorem Reached.notStarted_iff_unclaimed {s : Service σ} (h : s.Reached) :
    s.phase = .notStarted ↔ s.board.claims = 0 := by
  obtain ⟨chain, probe, surroundings, ops, rfl⟩ := h
  obtain ⟨ms, hdepicts⟩ := performAll_depicts chain probe surroundings ops
  have flight := inOrder_singleFlight (after_inOrder chain probe surroundings ms)
  rw [phase, ← hdepicts.board, flight.unstarted, flight.claims, List.length_eq_zero_iff]

/-- Starting the first run claims one only if none was ever claimed. -/
theorem Reached.begin_claims {s : Service σ} (h : s.Reached) :
    s.begin.board.claims ≤ max 1 s.board.claims := by
  by_cases hs : s.phase = .notStarted
  · have hclaims : s.board.claims = 0 := h.notStarted_iff_unclaimed.1 hs
    rw [begin_eq_claimed hs]
    show s.board.claims + 1 ≤ _
    omega
  · rw [begin_of_started hs]
    exact Nat.le_max_right _ _

end Service

namespace Installation

/-! ### Calls one by one -/

section Calls

variable {build : Settings → Service σ} {loaded : Except LoadFault Settings} {s : Settings}
  {service : Service σ} {i : Installation σ}

theorem candidate_of_valid (h : s.validate = .ok ()) : candidate build s = .ok (build s) := by
  rw [candidate, Settings.checked, h]

theorem candidate_of_invalid (build : Settings → Service σ) (h : s.validate ≠ .ok ()) :
    ∃ fault, candidate build s = .error (.settings fault) := by
  cases hs : s.validate with
  | ok u => exact absurd hs h
  | error fault =>
    refine ⟨.invalid fault, ?_⟩
    rw [candidate, Settings.checked, hs]

theorem install_first (hi : i.service = none) (h : s.validate = .ok ()) :
    i.install build s = (.ok (build s), ⟨some (build s)⟩) := by
  rw [install, candidate_of_valid h, hi]

theorem install_refused (build : Settings → Service σ) (i : Installation σ)
    (h : s.validate ≠ .ok ()) :
    ∃ fault, i.install build s = (.error fault, i) := by
  obtain ⟨fault, hfault⟩ := candidate_of_invalid build h
  refine ⟨.settings fault, ?_⟩
  rw [install, hfault]

/-- Once there is a service no other one is installed, whatever the settings. -/
theorem install_later (build : Settings → Service σ) (s : Settings)
    (hi : i.service = some service) :
    ∃ fault, i.install build s = (.error fault, i) := by
  by_cases h : s.validate = .ok ()
  · refine ⟨.alreadyInstalled, ?_⟩
    rw [install, candidate_of_valid h, hi]
  · exact install_refused build i h

theorem shared_first (hi : i.service = none) (hl : loaded = .ok s) (h : s.validate = .ok ()) :
    i.shared build loaded = (.ok (build s), ⟨some (build s)⟩) := by
  unfold shared
  rw [hi, hl]
  dsimp only
  rw [candidate_of_valid h]

theorem shared_refused (build : Settings → Service σ) (hi : i.service = none)
    (h : ∀ s, loaded = .ok s → s.validate ≠ .ok ()) :
    ∃ fault, i.shared build loaded = (.error fault, i) := by
  unfold shared
  rw [hi]
  cases hl : loaded with
  | error fault => exact ⟨.settings fault, rfl⟩
  | ok s =>
    obtain ⟨fault, hfault⟩ := candidate_of_invalid build (h s hl)
    refine ⟨.settings fault, ?_⟩
    dsimp only
    rw [hfault]

/-- Once there is a service it is the one that is asked for, whatever the file holds. -/
theorem shared_later (hi : i.service = some service) :
    i.shared build loaded = (.ok service, i) := by
  unfold shared
  rw [hi]

theorem finishLaunching_of_ok {i' : Installation σ}
    (h : i.shared build loaded = (.ok service, i')) :
    i.finishLaunching build loaded = (true, ⟨some service.begin⟩) := by
  rw [finishLaunching, h]

theorem finishLaunching_of_error {fault : InstallFault} {i' : Installation σ}
    (h : i.shared build loaded = (.error fault, i')) :
    i.finishLaunching build loaded = (true, i') := by
  rw [finishLaunching, h]

/-- An installation that fails leaves all as it was. -/
theorem install_of_error {fault : InstallFault} (h : (i.install build s).1 = .error fault) :
    (i.install build s).2 = i := by
  cases hi : i.service with
  | some service =>
    obtain ⟨other, hlater⟩ := install_later build s hi
    rw [hlater]
  | none =>
    by_cases hs : s.validate = .ok ()
    · rw [install_first hi hs] at h
      cases h
    · obtain ⟨other, hrefused⟩ := install_refused build i hs
      rw [hrefused]

/-- If there is no service to be had all stays as it was. -/
theorem shared_of_error {fault : InstallFault} (h : (i.shared build loaded).1 = .error fault) :
    i.shared build loaded = (.error fault, i) := by
  cases hi : i.service with
  | some service =>
    rw [shared_later hi] at h
    cases h
  | none =>
    by_cases hs : ∃ s, loaded = .ok s ∧ s.validate = .ok ()
    · obtain ⟨s, hl, hs⟩ := hs
      rw [shared_first hi hl hs] at h
      cases h
    · obtain ⟨other, hrefused⟩ := shared_refused build hi
        fun s hl hvalid => hs ⟨s, hl, hvalid⟩
      rw [hrefused] at h ⊢
      cases h
      rfl

/-- Launching goes on in any case. -/
theorem finishLaunching_true : (i.finishLaunching build loaded).1 = true := by
  unfold finishLaunching
  split <;> rfl

end Calls

/-! ### Calls of a process -/

/-- What the process is like when its service is called: the machine with its files, the number of
the process, and the version of the host. -/
structure Occasion where
  machine : Machine
  pid : UInt32
  host : Option Version

namespace Occasion

/-- The service that settings give. -/
def build (o : Occasion) : Settings → Service Machine :=
  o.machine.service o.pid o.host

/-- The settings that the default configuration file gives. -/
def loaded (o : Occasion) : Except LoadFault Settings :=
  o.machine.loadSettings none

end Occasion

/-- What is done about the service of a process. -/
inductive Call where
  /-- A service with given settings is installed. -/
  | install (s : Settings)
  /-- The service is asked for. -/
  | shared
  /-- The application has launched. -/
  | launch
  /-- Somebody who has the service works with it. -/
  | use (op : Operation Machine)

/-- The service of a process after a call. -/
def take (i : Installation Machine) (o : Occasion) : Call → Installation Machine
  | .install s => (i.install o.build s).2
  | .shared => (i.shared o.build o.loaded).2
  | .launch => (i.finishLaunching o.build o.loaded).2
  | .use op => ⟨i.service.map fun service => service.perform op⟩

/-- The service of a process after calls. -/
def takeAll (i : Installation Machine) (calls : List (Occasion × Call)) : Installation Machine :=
  calls.foldl (fun i c => i.take c.1 c.2) i

theorem takeAll_append (i : Installation Machine) (calls calls' : List (Occasion × Call)) :
    i.takeAll (calls ++ calls') = (i.takeAll calls).takeAll calls' :=
  List.foldl_append

/-- The call has settings that can be used: they are given, or loaded from the default place, and
they are accepted. -/
inductive Call.Brings (o : Occasion) : Call → Settings → Prop
  | given {s : Settings} (h : s.validate = .ok ()) : Brings o (.install s) s
  | found {s : Settings} (hl : o.loaded = .ok s) (h : s.validate = .ok ()) : Brings o .shared s
  | launched {s : Settings} (hl : o.loaded = .ok s) (h : s.validate = .ok ()) : Brings o .launch s

/-- What a call does with the service that is there. -/
def Call.deeds : Call → List (Operation Machine)
  | install _ | shared => []
  | launch => [.begin]
  | use op => [op]

/-- What calls do with the service that is there. -/
def deedsOf (calls : List (Occasion × Call)) : List (Operation Machine) :=
  calls.flatMap fun c => c.2.deeds

variable {i : Installation Machine} {o : Occasion} {call : Call}

theorem take_unset (hi : i.service = none) (h : ∀ s, ¬call.Brings o s) : i.take o call = i := by
  cases call with
  | install s =>
    obtain ⟨fault, hrefused⟩ := install_refused o.build i fun hs => h s (.given hs)
    exact congrArg Prod.snd hrefused
  | shared =>
    obtain ⟨fault, hrefused⟩ := shared_refused o.build hi fun s hl hs => h s (.found hl hs)
    exact congrArg Prod.snd hrefused
  | launch =>
    obtain ⟨fault, hrefused⟩ := shared_refused o.build hi fun s hl hs => h s (.launched hl hs)
    exact congrArg Prod.snd (finishLaunching_of_error hrefused)
  | use op =>
    obtain ⟨service⟩ := i
    cases hi
    rfl

theorem take_first {s : Settings} (hi : i.service = none) (h : call.Brings o s) :
    i.take o call = ⟨some ((o.build s).performAll call.deeds)⟩ := by
  cases h with
  | given hs => exact congrArg Prod.snd (install_first hi hs)
  | found hl hs => exact congrArg Prod.snd (shared_first hi hl hs)
  | launched hl hs => exact congrArg Prod.snd (finishLaunching_of_ok (shared_first hi hl hs))

theorem take_later {service : Service Machine} (hi : i.service = some service) :
    i.take o call = ⟨some (service.performAll call.deeds)⟩ := by
  obtain ⟨service⟩ := i
  cases hi
  cases call with
  | install s =>
    obtain ⟨fault, hlater⟩ := install_later (i := ⟨some service⟩) o.build s rfl
    exact congrArg Prod.snd hlater
  | shared => rfl
  | launch => rfl
  | use op => rfl

/-- **All that a call can do.**  Without a service it changes nothing or installs one, and once
there is one it does no more than to work with that. -/
theorem take_cases (i : Installation Machine) (o : Occasion) (call : Call) :
    (i.service = none ∧ i.take o call = i) ∨
    (i.service = none ∧ ∃ s, i.take o call = ⟨some ((o.build s).performAll call.deeds)⟩) ∨
    ∃ service, i.service = some service ∧
      i.take o call = ⟨some (service.performAll call.deeds)⟩ := by
  cases hi : i.service with
  | some service => exact Or.inr (Or.inr ⟨service, rfl, take_later hi⟩)
  | none =>
    by_cases h : ∃ s, call.Brings o s
    · obtain ⟨s, hs⟩ := h
      exact Or.inr (Or.inl ⟨rfl, s, take_first hi hs⟩)
    · exact Or.inl ⟨rfl, take_unset hi fun s hs => h ⟨s, hs⟩⟩

theorem takeAll_unset (hi : i.service = none) {calls : List (Occasion × Call)}
    (h : ∀ c ∈ calls, ∀ s, ¬c.2.Brings c.1 s) : i.takeAll calls = i := by
  induction calls with
  | nil => rfl
  | cons c calls ih =>
    obtain ⟨hfirst, hlater⟩ := List.forall_mem_cons.1 h
    show (i.take c.1 c.2).takeAll calls = i
    rw [take_unset hi hfirst]
    exact ih hlater

/-- **Once there is a service, calls do no more than to work with it.** -/
theorem takeAll_later {service : Service Machine} (hi : i.service = some service)
    (calls : List (Occasion × Call)) :
    i.takeAll calls = ⟨some (service.performAll (deedsOf calls))⟩ := by
  induction calls generalizing i service with
  | nil =>
    obtain ⟨service⟩ := i
    cases hi
    rfl
  | cons c calls ih =>
    show (i.take c.1 c.2).takeAll calls = _
    rw [take_later hi, ih rfl, deedsOf, deedsOf, List.flatMap_cons, Service.performAll_append]

/-- **The first call that has settings that can be used installs the service.** -/
theorem takeAll_first {s : Settings} (hi : i.service = none) (h : call.Brings o s)
    (after : List (Occasion × Call)) :
    i.takeAll ((o, call) :: after) =
      ⟨some ((o.build s).performAll (deedsOf ((o, call) :: after)))⟩ := by
  show (i.take o call).takeAll after = _
  rw [take_first hi h, takeAll_later rfl, deedsOf, deedsOf, List.flatMap_cons,
    Service.performAll_append]

/-! ### Runs that launching starts -/

/-- How many runs were claimed on the service, if there is one. -/
def claims (i : Installation Machine) : Nat :=
  (i.service.map fun service => service.board.claims).getD 0

/-- How many runs are claimed when the application has launched, over all calls. -/
def launchRuns : Installation Machine → List (Occasion × Call) → Nat
  | _, [] => 0
  | i, (o, .launch) :: calls =>
    ((i.take o .launch).claims - i.claims) + (i.take o .launch).launchRuns calls
  | i, (o, call) :: calls => (i.take o call).launchRuns calls

/-- The service, if there is one, has come out of operations. -/
def Sound (i : Installation Machine) : Prop :=
  ∀ service, i.service = some service → service.Reached

theorem reached_build (o : Occasion) (s : Settings) : (o.build s).Reached :=
  ⟨_, _, _, [], rfl⟩

theorem Sound.take (h : i.Sound) (o : Occasion) (call : Call) : (i.take o call).Sound := by
  rcases take_cases i o call with ⟨-, htake⟩ | ⟨-, s, htake⟩ | ⟨service, hi, htake⟩
  · rw [htake]
    exact h
  · rw [htake]
    intro service hs
    cases hs
    exact (reached_build o s).performAll call.deeds
  · rw [htake]
    intro service' hs
    cases hs
    exact (h service hi).performAll call.deeds

theorem take_claims_le (i : Installation Machine) (o : Occasion) (call : Call) :
    i.claims ≤ (i.take o call).claims := by
  rcases take_cases i o call with ⟨-, htake⟩ | ⟨hi, -⟩ | ⟨service, hi, htake⟩
  · exact Nat.le_of_eq (by rw [htake])
  · rw [claims, hi]
    exact Nat.zero_le _
  · rw [htake, claims, hi]
    exact service.performAll_claims_le call.deeds

/-- Launching starts a run only if none was ever started. -/
theorem Sound.launch (h : i.Sound) (o : Occasion) : (i.take o .launch).claims ≤ max 1 i.claims := by
  rcases take_cases i o .launch with ⟨-, htake⟩ | ⟨-, s, htake⟩ | ⟨service, hi, htake⟩
  · rw [htake]
    exact Nat.le_max_right _ _
  · rw [htake]
    have hfresh : (o.build s).begin.board.claims ≤ max 1 0 := (reached_build o s).begin_claims
    exact Nat.le_trans hfresh (by omega)
  · rw [htake, claims, claims, hi]
    exact (h service hi).begin_claims

/-- **Launching starts at most one run**, and none once one was started. -/
theorem launchRuns_le (h : i.Sound) (calls : List (Occasion × Call)) :
    i.launchRuns calls ≤ 1 - i.claims := by
  -- what is still allowed after a call is what was allowed before, less what the call has claimed
  induction calls generalizing i with
  | nil => exact Nat.zero_le _
  | cons c calls ih =>
    obtain ⟨o, call⟩ := c
    have hrest := ih (h.take o call)
    have hmono := take_claims_le i o call
    cases call with
    | launch =>
      have hlaunch := h.launch o
      show ((i.take o .launch).claims - i.claims) + (i.take o .launch).launchRuns calls ≤ _
      omega
    | install s =>
      show (i.take o (.install s)).launchRuns calls ≤ _
      omega
    | shared =>
      show (i.take o .shared).launchRuns calls ≤ _
      omega
    | use op =>
      show (i.take o (.use op)).launchRuns calls ≤ _
      omega

/-- The application has launched twice, and a run was started once. -/
example (o : Occasion) : launchRuns {} [(o, .install {}), (o, .launch), (o, .launch)] = 1 := rfl

/-! ### What holds of the service of a process -/

/-- What a further call gets and does, on any occasion. -/
structure FurtherCall (i : Installation Machine) (o : Occasion) : Prop where
  /-- The first settings that are accepted are installed. -/
  installFirst : ∀ s, i.service = none → s.validate = .ok () →
    i.install o.build s = (.ok (o.build s), ⟨some (o.build s)⟩)
  /-- If the default settings can be loaded they are installed when the service is first asked
  for. -/
  sharedFirst : ∀ s, i.service = none → o.loaded = .ok s →
    i.shared o.build o.loaded = (.ok (o.build s), ⟨some (o.build s)⟩)
  /-- An installation that fails leaves all as it was. -/
  installFails : ∀ s fault, (i.install o.build s).1 = .error fault → (i.install o.build s).2 = i
  /-- If there is no service to be had all stays as it was, also when the application has
  launched. -/
  sharedFails : ∀ fault, (i.shared o.build o.loaded).1 = .error fault →
    (i.shared o.build o.loaded).2 = i ∧ (i.finishLaunching o.build o.loaded).2 = i
  /-- Once there is a service it is the one that is asked for. -/
  sharedLater : ∀ service, i.service = some service →
    i.shared o.build o.loaded = (.ok service, i)
  /-- Once there is a service no other one is installed. -/
  installLater : ∀ s service, i.service = some service →
    ∃ fault, i.install o.build s = (.error fault, i)
  /-- Launching goes on in any case. -/
  launched : (i.finishLaunching o.build o.loaded).1 = true

/-- What holds of the service of a process after calls. -/
structure ProcessWide (calls : List (Occasion × Call)) : Prop where
  /-- As long as no call has settings that can be used there is no service. -/
  unset : (∀ c ∈ calls, ∀ s, ¬c.2.Brings c.1 s) → takeAll {} calls = {}
  /-- The first call that has such settings installs their service; later calls do no more than to
  work with it. -/
  set : ∀ before o call after s, calls = before ++ (o, call) :: after →
    (∀ c ∈ before, ∀ s', ¬c.2.Brings c.1 s') → call.Brings o s →
      takeAll {} calls = ⟨some ((o.build s).performAll (deedsOf ((o, call) :: after)))⟩
  /-- What a further call gets and does. -/
  further : ∀ o, (takeAll {} calls).FurtherCall o
  /-- Launching starts at most one run. -/
  launchedOnce : launchRuns {} calls ≤ 1

theorem furtherCall (i : Installation Machine) (o : Occasion) : i.FurtherCall o where
  installFirst := fun s hi hs => install_first hi hs
  sharedFirst := fun s hi hl => shared_first hi hl (load_validate hl)
  installFails := fun s fault h => install_of_error h
  sharedFails := by
    intro fault h
    have hshared := shared_of_error h
    exact ⟨congrArg Prod.snd hshared, congrArg Prod.snd (finishLaunching_of_error hshared)⟩
  sharedLater := fun service hi => shared_later hi
  installLater := fun s service hi => install_later o.build s hi
  launched := finishLaunching_true

/-- **The service of a process** is installed by the first call that has settings that can be used,
and it stays the only one.  Calls that fail change nothing, launching goes on in any case, and it
starts at most one run. -/
theorem calls_processWide (calls : List (Occasion × Call)) : ProcessWide calls where
  unset := takeAll_unset rfl
  set := by
    intro before o call after s hcalls hbefore hs
    rw [hcalls, takeAll_append, takeAll_unset rfl hbefore]
    exact takeAll_first rfl hs after
  further := fun o => furtherCall _ o
  launchedOnce := by
    have hsound : Sound {} := by
      intro service h
      cases h
    exact launchRuns_le hsound calls

end Installation

end CodePermit
