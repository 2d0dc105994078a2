import CodePermit.Helper.Message
import CodePermit.Phase
/-!
# Warnings

What goes wrong in the course of a run is told at the moment at which it goes wrong, to whoever
operates the program.  A warning says in words what happened and gives the details by name.

* `Warning` — what is told;
* `Warning.text`, `Warning.details` — its words and its details.
-/

namespace CodePermit

/-- What goes wrong in the course of a run. -/
inductive Warning where
  /-- A request to a helper failed, and the exchange may go on with another one. -/
  | requestFailed (fault : HelperFault) (number : Nat)
  /-- A request to a helper failed, and that ends the exchange. -/
  | exchangeFailed (fault : HelperFault)
  /-- An attempt was refused. -/
  | denied (technique : Technique) (attempt : Nat) (reason : String)
  /-- An attempt did not finish in time. -/
  | timedOut (technique : Technique) (attempt : Nat)
  /-- The run failed. -/
  | runFailed (failure : Failure)
deriving DecidableEq

namespace Warning

/-- What happened, in words. -/
def text : Warning → String
  | requestFailed _ _ => "Companion helper request failed"
  | exchangeFailed _ => "Companion helper request failed permanently"
  | denied _ _ _ => "Strategy denied"
  | timedOut _ _ => "Strategy timed out"
  | runFailed _ => "JIT acquisition failed, falling back to the interpreter"

/-- The details by their names, in the order in which they are told. -/
def details : Warning → List (String × String)
  | requestFailed fault number =>
    [("err", fault.message), ("request_number", toString number)]
  | exchangeFailed fault => [("err", fault.message)]
  | denied technique attempt reason =>
    [("strategy", technique.name), ("attempt", toString attempt), ("reason", reason)]
  | timedOut technique attempt =>
    [("strategy", technique.name), ("attempt", toString attempt)]
  | runFailed failure => [("error", failure.message)]

end Warning

end CodePermit
