import CodePermit.Proofs.ProcessWide
/-!
# Once a service is installed

A process that has a service keeps it: whoever installs another one is refused, with whatever
settings and however often, and the service and all that it has done stay as they are.  What is
reported is the first thing that goes wrong on the way: the settings are checked first, then the
threads of a new service are started, and only then it is looked whether there is a service already.
So it is not always reported that there is one.

* `installStarting_ok` — if threads start, an installation is the one that was given;
* `lateFault`, `installStarting_later` — what is reported where there is a service;
* `installAll_later` — any number of installations, one after another;
* `TooLate`, `late_install_refused` — installations after any calls of a process;
* `late_install_blames_settings` — wrong settings where there is a service.
-/

namespace CodePermit

namespace Installation

section Late

variable {i : Installation Machine} {o : Occasion} {service : Service Machine} {s : Settings}
  {threads : Except String Unit}

/-- If threads start, an installation is the one that was given. -/
theorem installStarting_ok (build : Settings → Service Machine) (s : Settings)
    (i : Installation Machine) :
    i.installStarting (.ok ()) build s = i.install build s := by
  unfold installStarting
  split
  · rename_i h
    cases h
  · rfl

/-- What is reported where there is a service already. -/
def lateFault (threads : Except String Unit) (s : Settings) : InstallFault :=
  match s.validate, threads with
  | .error fault, _ => .settings (.invalid fault)
  | .ok (), .error text => .notStarted text
  | .ok (), .ok () => .alreadyInstalled

/-- **Where there is a service an installation is refused**, and nothing else happens. -/
theorem installStarting_later (build : Settings → Service Machine)
    (hi : i.service = some service) (threads : Except String Unit) (s : Settings) :
    i.installStarting threads build s = (.error (lateFault threads s), i) := by
  cases hs : s.validate with
  | error fault =>
    have hcandidate : candidate build s = .error (.settings (.invalid fault)) := by
      rw [candidate, Settings.checked, hs]
    simp only [installStarting, install, hcandidate, lateFault, hs]
  | ok u =>
    cases threads with
    | error text => simp only [installStarting, candidate_of_valid hs, lateFault, hs]
    | ok u =>
      rw [installStarting_ok]
      simp only [install, candidate_of_valid hs, hi, lateFault, hs]

theorem lateFault_eq_alreadyInstalled_iff :
    lateFault threads s = .alreadyInstalled ↔ s.validate = .ok () ∧ threads = .ok () := by
  unfold lateFault
  split <;> simp_all

/-! ### Any number of installations -/

/-- The service of a process after installations one after another, each on its own occasion. -/
def installAll (i : Installation Machine)
    (attempts : List (Occasion × Except String Unit × Settings)) : Installation Machine :=
  attempts.foldl (fun i a => (i.installStarting a.2.1 a.1.build a.2.2).2) i

theorem installAll_later (hi : i.service = some service)
    (attempts : List (Occasion × Except String Unit × Settings)) : i.installAll attempts = i := by
  induction attempts with
  | nil => rfl
  | cons a attempts ih =>
    show ((i.installStarting a.2.1 a.1.build a.2.2).2).installAll attempts = i
    rw [installStarting_later a.1.build hi]
    exact ih

/-! ### After any calls -/

/-- What becomes of an installation where there is a service. -/
structure TooLate (i : Installation Machine) (service : Service Machine) (o : Occasion)
    (threads : Except String Unit) (s : Settings) : Prop where
  /-- The service stays, in the state in which it is. -/
  untouched : (i.installStarting threads o.build s).2 = i ∧ i = ⟨some service⟩
  /-- That there is a service is reported if the settings can be used and threads start. -/
  alreadyInstalled : (i.installStarting threads o.build s).1 = .error .alreadyInstalled ↔
    s.validate = .ok () ∧ threads = .ok ()
  /-- Wrong settings are reported first. -/
  wrongSettings : ∀ fault, s.validate = .error fault →
    (i.installStarting threads o.build s).1 = .error (.settings (.invalid fault))
  /-- Threads that do not start come second. -/
  noThreads : ∀ text, s.validate = .ok () → threads = .error text →
    (i.installStarting threads o.build s).1 = .error (.notStarted text)

theorem tooLate (hi : i.service = some service) (o : Occasion) (threads : Except String Unit)
    (s : Settings) : TooLate i service o threads s := by
  have hlater := installStarting_later o.build hi threads s
  refine ⟨⟨congrArg Prod.snd hlater, ?_⟩, ?_, fun fault hs => ?_, fun text hs ht => ?_⟩
  · obtain ⟨service'⟩ := i
    exact congrArg Installation.mk hi
  · rw [hlater, Except.error.injEq, lateFault_eq_alreadyInstalled_iff]
  · simp only [hlater, lateFault, hs]
  · subst ht
    simp only [hlater, lateFault, hs]

/-- **Once there is a service, installations are refused and leave it as it is**, after any calls of
a process and however many there are. -/
theorem late_install_refused {calls : List (Occasion × Call)}
    (h : (takeAll {} calls).service = some service) :
    (∀ o threads s, TooLate (takeAll {} calls) service o threads s) ∧
      (∀ (o : Occasion) s, (takeAll {} calls).installStarting (.ok ()) o.build s =
        (takeAll {} calls).install o.build s) ∧
      ∀ attempts, (takeAll {} calls).installAll attempts = takeAll {} calls :=
  ⟨tooLate h, fun o s => installStarting_ok o.build s _, installAll_later h⟩

end Late

/-- A process without files and variables. -/
def bareOccasion : Occasion where
  machine := { files := {} }
  pid := 1
  host := none

theorem late_install_refused_shared :
    (takeAll {} [(bareOccasion, .shared)]).service = some (bareOccasion.build {}) ∧
      (∀ o threads s,
        TooLate (takeAll {} [(bareOccasion, .shared)]) (bareOccasion.build {}) o threads s) := by
  have h : (takeAll {} [(bareOccasion, .shared)]).service = some (bareOccasion.build {}) := rfl
  exact ⟨h, (late_install_refused h).1⟩

/-- **Wrong settings are reported instead of the service that is there.** -/
theorem late_install_blames_settings :
    (takeAll {} [(bareOccasion, .install {})]).service = some (bareOccasion.build {}) ∧
      ((takeAll {} [(bareOccasion, .install {})]).install bareOccasion.build
        { pollInterval := 0 }).1 = .error (.settings (.invalid .noPollInterval)) ∧
      ((takeAll {} [(bareOccasion, .install {})]).install bareOccasion.build
        { pollInterval := 0 }).1 ≠ .error .alreadyInstalled := by
  refine ⟨rfl, rfl, ?_⟩
  intro h
  cases h

end Installation

end CodePermit
