import CodePermit.Shell.Program
import CodePermit.Strategy.Companion
/-!
# Helpers that are commands

A helper may be a command that is run once for each request, which it finds in its input.  It can
be reached if its program can be found, and it cannot be started if one of its arguments cannot be
passed or its program does not run.  A helper that nobody waits for any longer goes on with what it
does until it would be heard.

* `Machine.startHelper` — starts a helper for a request;
* `exchange` — the exchange with a helper that has started;
* `commandTransport` — the transport of a command line, unless that is empty.
-/

namespace CodePermit

/-- What is reported when a program cannot be started. -/
def Shell.LaunchFault.message : Shell.LaunchFault → String
  | notFound => ReadFault.notFound.message
  | notDirectory => ReadFault.notDirectory.message
  | denied => "Permission denied (os error 13)"
  | unknownFormat => "Exec format error (os error 8)"

/-- Starts a helper for a request at a moment. -/
def Machine.startHelper (m : Machine) (time : Nat) (request : AttachRequest) (program : String)
    (arguments : List String) : Except HelperFault Shell.Prospect :=
  match argumentFault? arguments with
  | some fault => .error (.spawn fault.message)
  | none =>
    match m.launch time program arguments request.toJson.write with
    | .ok prospect => .ok prospect
    | .error fault => .error (.spawn fault.message)

/-- The exchange with a helper that has started: its deeds are done as time passes, and its result
is known when it is over. -/
def exchange (p : Shell.Prospect) : Routine Machine CommandResult :=
  .act (fun time m => (m.upTo time).running p.agendas) fun _ _ =>
    match p.result with
    | some (length, result) => .pause length (.done result)
    | none => .hang

theorem exchange_aside (p : Shell.Prospect) : (exchange p).Keeps .aside := by
  intro time m
  dsimp only
  split
  · exact Routine.keeps_pause rfl trivial
  · trivial

/-- The transport that runs a command for each request; an empty command line is none. -/
def commandTransport : List String → Option (Transport Machine)
  | [] => none
  | program :: arguments =>
    some
      { available := fun time m =>
          (m.upTo time).files.finds m.directory m.searchPath program
        send := fun request =>
          .act (fun _ m => m) fun time m =>
            let arguments := expandArguments request (program :: arguments)
            match (m.upTo time).startHelper time request program arguments with
            | .error fault => .done (.error fault)
            | .ok prospect => (exchange prospect).bind fun result => .done (interpret result)
        aside := fun request time m => by
          dsimp only
          split
          · trivial
          · exact Routine.keeps_bind (exchange_aside _) fun _ => trivial }

end CodePermit
