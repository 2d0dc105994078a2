import CodePermit.Service
import CodePermit.Settings.Loading
/-!
# The process-wide service

A process has at most one service that everybody shares.  It is installed with given settings, or
with those of the default configuration file when it is first asked for.  Once there is one it
stays; an installation that fails leaves everything as it was.

* `Installation` — the service, once there is one;
* `InstallFault` — why none could be installed, with its `message`;
* `Installation.install` — installs a service with given settings;
* `Installation.installStarting` — the same where the threads of the service may fail to start;
* `Installation.shared` — the service, installed from the default settings if there is none;
* `Installation.finishLaunching` — starts acquisition when the application has launched.
-/

namespace CodePermit

/-- Why a service cannot be installed. -/
inductive InstallFault where
  /-- There is a service already. -/
  | alreadyInstalled
  /-- The threads of the service cannot be started. -/
  | notStarted (text : String)
  /-- The settings cannot be used. -/
  | settings (fault : LoadFault)
deriving DecidableEq

namespace InstallFault

/-- What is reported when the threads of the service cannot be started. -/
def notStartedMessage (text : String) : String :=
  s!"failed to start the acquisition runtime: {text}"

/-- What is reported for an installation that fails. -/
def message : InstallFault → String
  | alreadyInstalled => "the acquisition service is already installed"
  | notStarted text => notStartedMessage text
  | settings fault => fault.message

end InstallFault

/-- The service of the process, once there is one. -/
structure Installation (σ : Type) where
  /-- The service. -/
  service : Option (Service σ) := none

namespace Installation

variable {σ : Type}

/-- The service that checked settings give, by a way to build one. -/
def candidate (build : Settings → Service σ) (s : Settings) : Except InstallFault (Service σ) :=
  match s.checked with
  | .ok s => .ok (build s)
  | .error fault => .error (.settings fault)

/-- Installs a service with given settings.  The settings are checked before it is looked whether
there is a service already. -/
def install (build : Settings → Service σ) (s : Settings) (i : Installation σ) :
    Except InstallFault (Service σ) × Installation σ :=
  match candidate build s with
  | .error fault => (.error fault, i)
  | .ok service =>
    match i.service with
    | none => (.ok service, ⟨some service⟩)
    | some _ => (.error .alreadyInstalled, i)

/-- Installs a service with given settings where its threads may fail to start; `threads` says why
if they do.  They are started when the settings have been checked, and before it is looked whether
there is a service already. -/
def installStarting (threads : Except String Unit) (build : Settings → Service σ) (s : Settings)
    (i : Installation σ) : Except InstallFault (Service σ) × Installation σ :=
  match candidate build s, threads with
  | .ok _, .error text => (.error (.notStarted text), i)
  | _, _ => i.install build s

/-- The service of the process.  If there is none yet, one is installed with the settings that
loading the default configuration file gives at this moment. -/
def shared (build : Settings → Service σ) (loaded : Except LoadFault Settings)
    (i : Installation σ) : Except InstallFault (Service σ) × Installation σ :=
  match i.service with
  | some service => (.ok service, i)
  | none =>
    match loaded with
    | .error fault => (.error (.settings fault), i)
    | .ok s =>
      match candidate build s with
      | .error fault => (.error fault, i)
      | .ok service => (.ok service, ⟨some service⟩)

/-- The application has launched: acquisition is started if it can be, and launching goes on in
any case. -/
def finishLaunching (build : Settings → Service σ) (loaded : Except LoadFault Settings)
    (i : Installation σ) : Bool × Installation σ :=
  match i.shared build loaded with
  | (.ok service, _) => (true, ⟨some service.begin⟩)
  | (.error _, i) => (true, i)

end Installation

end CodePermit
