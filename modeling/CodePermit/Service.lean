import CodePermit.Board
import CodePermit.Chain
import CodePermit.Text.Quoted
/-!
# The service

The service owns a chain and a board.  Starting a run only claims it; the run makes progress while
somebody waits and time may pass.  All callers share the run that is under way.

* `Service` — the chain, the board, the run under way and the moment;
* `Service.begin`, `Service.retryCall`, `Service.acquireCall` — the first steps of calls;
* `Service.advance` — lets the run make progress up to a horizon;
* `Service.acquire`, `Service.retry`, `Service.join` — calls that wait for the run;
* `Service.sleep`, `Service.waitTerminal` — waiting for a time.
-/

namespace CodePermit

/-- The run under way: its number, the time at which it goes on, and what it still does. -/
structure Flight (σ : Type) where
  /-- The number of the run, from one. -/
  number : Nat
  /-- The time at which it goes on. -/
  wake : Nat
  /-- What it still does. -/
  rest : Routine σ Report

/-- A service in its surroundings. -/
structure Service (σ : Type) where
  /-- The chain. -/
  chain : Chain σ
  /-- The probe. -/
  probe : Probe σ
  /-- The board. -/
  board : Board := {}
  /-- The run under way. -/
  flight : Option (Flight σ) := none
  /-- The moment and what has been observed. -/
  now : Playback σ

variable {σ : Type}

/-- The message of a run that broke down. -/
def breakdownMessage (number : Nat) (message : String) : String :=
  s!"task {number} panicked with message {Text.quoted message}"

/-- The phases announced in a history, in order. -/
def publishedPhases (history : List (Nat × Event)) : List Phase :=
  history.reverse.filterMap fun e =>
    match e.2 with
    | .published phase => some phase
    | _ => none

namespace Service

/-- A service at the beginning of time. -/
def start (chain : Chain σ) (probe : Probe σ) (surroundings : σ) : Service σ where
  chain := chain
  probe := probe
  now := ⟨0, surroundings, []⟩

/-- The current phase. -/
def phase (s : Service σ) : Phase :=
  s.board.phase

/-! ### Single steps -/

/-- Claims a run if the current phase admits it, and gets it ready to go. -/
def startRun (s : Service σ) (admits : Phase → Bool) : Option (Service σ) :=
  (s.board.claim admits).map fun board =>
    { s with board := board, flight := some ⟨board.claims, s.now.clock, s.chain.run⟩ }

/-- Starts a run if none ever was, and returns at once. -/
def begin (s : Service σ) : Service σ :=
  (s.startRun Board.admitsFirst).getD s

/-- Plays the run under way from the time at which it goes on, up to a horizon. -/
def resume (s : Service σ) (horizon : Option Nat) (f : Flight σ) : Stop σ Report × Playback σ :=
  play s.probe horizon f.rest { s.now with clock := f.wake, history := [] }

/-- The service when the run under way was played until it stopped.  The moment becomes that of the
last thing it did. -/
def stopped (s : Service σ) (f : Flight σ) (played : Stop σ Report × Playback σ) : Service σ :=
  let board := (publishedPhases played.2.history).foldl Board.publish s.board
  let now := { played.2 with history := played.2.history ++ s.now.history }
  match played.1 with
  | .finished report => { s with board := board.settle report, flight := none, now := now }
  | .brokenDown message =>
    { s with
      board := board.settle (.aborted (breakdownMessage f.number message))
      flight := none
      now := now }
  | .hung => { s with board := board, flight := some { f with rest := .hang }, now := now }
  | .asleep wake rest =>
    { s with board := board, flight := some { f with wake := wake, rest := rest }, now := now }

/-- Lets the run under way make progress as long as it wakes no later than the horizon. -/
def advance (horizon : Option Nat) (s : Service σ) : Service σ :=
  match s.flight with
  | none => s
  | some f => if reaches horizon f.wake then s.stopped f (s.resume horizon f) else s

/-! ### Calls -/

/-- What a call has got from its first step: an answer, or the right to wait for the end of the
run. -/
inductive Ticket where
  /-- The call is answered. -/
  | answered (phase : Phase)
  /-- The call waits for the run to end. -/
  | waiting
deriving DecidableEq

/-- The first step of a call that starts the first run or joins the run under way. -/
def acquireCall (s : Service σ) : Ticket × Service σ :=
  let s := s.begin
  if s.phase.isTerminal then (.answered s.phase, s) else (.waiting, s)

/-- The first step of a call that starts another run after a failure; from any other phase it is
answered with that phase. -/
def retryCall (s : Service σ) : Ticket × Service σ :=
  match s.startRun Board.admitsRetry with
  | some s => (.waiting, s)
  | none => (.answered s.phase, s)

/-- The answer of a call when the run has ended. -/
def Ticket.redeem (s : Service σ) : Ticket → Phase
  | answered phase => phase
  | waiting => s.phase

/-- Waits for the end of the run and answers a call. -/
def await (call : Ticket × Service σ) : Phase × Service σ :=
  match call.1 with
  | .answered phase => (phase, call.2)
  | .waiting =>
    let s := call.2.advance none
    (s.phase, s)

/-- Starts the first run if none ever was, and waits for the end of the run. -/
def acquire (s : Service σ) : Phase × Service σ :=
  await s.acquireCall

/-- Starts another run after a failure and waits for its end. -/
def retry (s : Service σ) : Phase × Service σ :=
  await s.retryCall

/-- The two calls that wait. -/
inductive Call where
  /-- Start the first run or join the run under way. -/
  | acquire
  /-- Start another run after a failure. -/
  | retry
deriving DecidableEq

/-- The first step of a call. -/
def Call.first (s : Service σ) : Call → Ticket × Service σ
  | acquire => s.acquireCall
  | retry => s.retryCall

/-- The first steps of calls in order, before the run makes any progress. -/
def firstSteps : Service σ → List Call → List Ticket × Service σ
  | s, [] => ([], s)
  | s, c :: cs =>
    let (ticket, s) := c.first s
    let (tickets, s) := firstSteps s cs
    (ticket :: tickets, s)

/-- Calls made at once, answered in their order when all of them are. -/
def join (s : Service σ) (calls : List Call) : List Phase × Service σ :=
  let (tickets, s) := s.firstSteps calls
  let s := if .waiting ∈ tickets then s.advance none else s
  (tickets.map (Ticket.redeem s), s)

/-! ### Time -/

/-- The service at a later time. -/
def atTime (s : Service σ) (time : Nat) : Service σ :=
  { s with now := { s.now with clock := time } }

/-- Lets the run under way make progress until a time. -/
def passUntil (s : Service σ) (horizon : Nat) : Service σ :=
  (s.advance (some horizon)).atTime horizon

/-- Lets time pass, at most the longest rest, while the run under way makes progress. -/
def sleep (s : Service σ) (length : Nat) : Service σ :=
  s.passUntil (s.now.clock + min length longestRest)

/-- Waits for a terminal phase for at most so long and at most the longest rest; `none` if there
was none. -/
def waitTerminal (s : Service σ) (length : Nat) : Option Phase × Service σ :=
  if s.phase.isTerminal then (some s.phase, s)
  else
    let horizon := s.now.clock + min length longestRest
    let s := s.advance (some horizon)
    if s.phase.isTerminal then (some s.phase, s) else (none, s.atTime horizon)

/-- Changes the surroundings from outside. -/
def change (s : Service σ) (f : Nat → σ → σ) : Service σ :=
  { s with now := s.now.change f }

end Service

end CodePermit
