/-!
# Messages between a process and its companion helper

A helper is asked to attach a debugger to a process.  It answers that it has attached or why it
refuses, or the exchange itself fails; some of these failures are worth another request.

* `AttachRequest`, `AttachReply` — the two messages;
* `HelperFault` — how an exchange fails, with its `message`;
* `HelperFault.isTransient` — the failures after which a request may be repeated.
-/

namespace CodePermit

/-- The request to attach to a process. -/
structure AttachRequest where
  /-- The number of the process. -/
  pid : UInt32
  /-- The identifier of the application. -/
  bundleId : String
deriving DecidableEq

/-- The answer of a helper. -/
inductive AttachReply where
  /-- The helper says that it has attached. -/
  | attached
  /-- The helper refuses. -/
  | rejected (reason : String)
deriving DecidableEq

/-- How an exchange with a helper fails. -/
inductive HelperFault where
  /-- The helper could not be started. -/
  | spawn (text : String)
  /-- Reading or writing failed. -/
  | transfer (text : String)
  /-- The answer cannot be understood. -/
  | protocol (text : String)
  /-- The helper refused by its exit code. -/
  | rejected (reason : String)
  /-- The helper could not be reached. -/
  | unreachable (text : String)
deriving DecidableEq

namespace HelperFault

/-- What is reported for a failed exchange. -/
def message : HelperFault → String
  | spawn text => s!"failed to spawn companion helper: {text}"
  | transfer text => s!"companion helper i/o failed: {text}"
  | protocol text => s!"companion helper protocol error: {text}"
  | rejected reason => s!"companion helper rejected the request: {reason}"
  | unreachable text => s!"companion helper unreachable: {text}"

/-- Another request may succeed. -/
def isTransient : HelperFault → Bool
  | transfer _ => true
  | unreachable _ => true
  | _ => false

end HelperFault

end CodePermit
