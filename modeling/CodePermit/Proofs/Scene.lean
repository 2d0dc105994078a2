import CodePermit.Proofs.Leading
import CodePermit.Service
/-!
# Scenes

Callers, runs and those who settle them act one after another in any order.  A scene is what all of
them find: the board, the runs that were ever started with how far each of them has come, the time
and the surroundings.  Whoever makes the next move may choose freely, and nothing in a scene keeps
two runs from being under way at once except the claims on the board.

* `Caller`, `Stage`, `Occurrence`, `Scene` — callers, how far a run has come, what happens, scenes;
* `Scene.call`, `Scene.work`, `Scene.file`, `Scene.conclude` — single steps of callers, of runs and
  of those who settle them;
* `Move`, `Scene.move`, `Scene.after` — one move, and moves in any order;
* `Changes`, `move_changes` — what a move can do to the board, to the runs and to the history.
-/

namespace CodePermit

variable {σ : Type}

/-! ### Scenes -/

/-- Who asks for a run. -/
inductive Caller where
  /-- Somebody who starts the first run or joins it, and waits. -/
  | acquire
  /-- Somebody who starts the first run and does not wait. -/
  | begin
  /-- Somebody who starts another run after a failure. -/
  | retry
deriving DecidableEq

/-- The phases in which a caller gets a run. -/
def Caller.admits : Caller → Phase → Bool
  | acquire | begin => Board.admitsFirst
  | retry => Board.admitsRetry

/-- How far a run has come. -/
inductive Stage (σ : Type) where
  /-- It goes on at a time with what it still does. -/
  | working (wake : Nat) (rest : Routine σ Report)
  /-- It is over, and nobody knows yet. -/
  | ended (report : Report)
  /-- Its report is filed. -/
  | filed (report : Report)
  /-- Its final phase is shown. -/
  | settled (report : Report)

/-- The final phase of the run was shown. -/
def Stage.isSettled : Stage σ → Bool
  | settled _ => true
  | working _ _ | ended _ | filed _ => false

/-- What happens in a scene.  Runs are numbered in the order of their claims, from zero. -/
inductive Occurrence where
  /-- A caller looked at the phase and claimed a run if that was admitted. -/
  | called (caller : Caller) (seen : Phase)
  /-- Something was observed of a run. -/
  | observed (run time : Nat) (event : Event)
  /-- A run was over. -/
  | ended (run : Nat) (report : Report)
  /-- The report of a run was filed. -/
  | filed (run : Nat) (report : Report)
  /-- The final phase of a run was shown. -/
  | concluded (run : Nat) (report : Report)
deriving DecidableEq

namespace Occurrence

/-- The run to which something happened. -/
def run? : Occurrence → Option Nat
  | called _ _ => none
  | observed run _ _ | ended run _ | filed run _ | concluded run _ => some run

/-- The run whose final phase was shown. -/
def concluded? : Occurrence → Option Nat
  | concluded run _ => some run
  | _ => none

/-- What was observed of a run, with its time. -/
def event? : Occurrence → Option (Nat × Event)
  | observed _ time event => some (time, event)
  | _ => none

/-- A caller who starts the first run found that there was none and claimed it. -/
def isFirstClaim : Occurrence → Bool
  | called .acquire seen | called .begin seen => seen = .notStarted
  | _ => false

/-- A caller who starts another run after a failure found one and claimed a run. -/
def isRetryClaim : Occurrence → Bool
  | called .retry seen => seen.isFailed
  | _ => false

end Occurrence

/-- What has happened to a run, in a history. -/
def storyOf (history : List Occurrence) (run : Nat) : List Occurrence :=
  history.filter fun o => o.run? = some run

/-- What callers, runs and those who settle runs find. -/
structure Scene (σ : Type) where
  /-- The board. -/
  board : Board := {}
  /-- All runs that were ever claimed. -/
  runs : List (Stage σ) := []
  /-- The time in milliseconds. -/
  clock : Nat := 0
  /-- The surroundings. -/
  surroundings : σ
  /-- What has happened, in order. -/
  history : List Occurrence := []

namespace Scene

/-- The runs whose final phases were shown, in the order in which that happened. -/
def concluded (s : Scene σ) : List Nat :=
  s.history.filterMap Occurrence.concluded?

/-- What was observed of a run, in order. -/
def eventsOf (s : Scene σ) (run : Nat) : List Event :=
  (storyOf s.history run).filterMap fun o => o.event?.map Prod.snd

/-- A run was claimed and its final phase was not shown yet. -/
def inFlight (s : Scene σ) (run : Nat) : Prop :=
  ∃ stage, s.runs[run]? = some stage ∧ stage.isSettled = false

/-! ### Single steps -/

/-- A caller looks at the phase and claims a run if that is admitted. -/
def call (chain : Chain σ) (s : Scene σ) (caller : Caller) : Scene σ :=
  let s' := { s with history := s.history ++ [.called caller s.board.phase] }
  match s.board.claim caller.admits with
  | some board => { s' with board := board, runs := s.runs ++ [.working s.clock chain.run] }
  | none => s'

/-- The board after an event of a run. -/
def hear (board : Board) : Event → Board
  | .published phase => board.publish phase
  | _ => board

/-- A run goes on to what it does next, which it will do at a time. -/
def proceed (s : Scene σ) (run wake : Nat) (next : Routine σ Report) : Scene σ :=
  { s with runs := s.runs.set run (.working wake next) }

/-- Something is observed of a run. -/
def observe (s : Scene σ) (run : Nat) (event : Event) : Scene σ :=
  { s with
    board := hear s.board event
    history := s.history ++ [.observed run s.clock event] }

/-- A run is over. -/
def finish (s : Scene σ) (run : Nat) (report : Report) : Scene σ :=
  { s with runs := s.runs.set run (.ended report), history := s.history ++ [.ended run report] }

/-- The surroundings are changed. -/
def change (s : Scene σ) (f : Nat → σ → σ) : Scene σ :=
  { s with surroundings := f s.clock s.surroundings }

/-- The next step of a run that is awake. -/
def work (probe : Probe σ) (s : Scene σ) (run : Nat) : Routine σ Report → Scene σ
  | .done report => s.finish run report
  | .breakdown message => s.finish run (.aborted (breakdownMessage (run + 1) message))
  | .hang => s
  | .sleep length next => (s.observe run (.slept length)).proceed run (s.clock + length) next
  | .ask who next =>
    let reply := probe s.clock s.surroundings
    ((s.change fun _ _ => reply.2).observe run (.asked who reply.1)).proceed run s.clock
      (next reply.1)
  | .note event next => (s.observe run event).proceed run s.clock next
  | .act f next => (s.change f).proceed run s.clock (next s.clock s.surroundings)

/-- The report of a run that is over is filed. -/
def file (s : Scene σ) (run : Nat) (report : Report) : Scene σ :=
  { s with
    board := s.board.fileReport report
    runs := s.runs.set run (.filed report)
    history := s.history ++ [.filed run report] }

/-- The final phase of a run whose report is filed is shown. -/
def conclude (s : Scene σ) (run : Nat) (report : Report) : Scene σ :=
  { s with
    board := s.board.conclude report
    runs := s.runs.set run (.settled report)
    history := s.history ++ [.concluded run report] }

end Scene

/-! ### Moves -/

/-- Who moves next. -/
inductive Move (σ : Type) where
  /-- A caller. -/
  | call (caller : Caller)
  /-- A run. -/
  | work (run : Nat)
  /-- Whoever settles a run. -/
  | settle (run : Nat)
  /-- Time passes. -/
  | wait (length : Nat)
  /-- The surroundings change on their own. -/
  | disturb (f : Nat → σ → σ)

namespace Scene

/-- The scene after a move; whoever has nothing to do leaves it as it is. -/
def move (chain : Chain σ) (probe : Probe σ) (s : Scene σ) : Move σ → Scene σ
  | .call caller => s.call chain caller
  | .work run =>
    match s.runs[run]? with
    | some (.working wake rest) => if wake ≤ s.clock then s.work probe run rest else s
    | _ => s
  | .settle run =>
    match s.runs[run]? with
    | some (.ended report) => s.file run report
    | some (.filed report) => s.conclude run report
    | _ => s
  | .wait length => { s with clock := s.clock + length }
  | .disturb f => s.change f

/-- The scene after moves. -/
def moves (chain : Chain σ) (probe : Probe σ) (s : Scene σ) (ms : List (Move σ)) : Scene σ :=
  ms.foldl (move chain probe) s

/-- The scene that moves lead to from the beginning, when there was no run yet. -/
def after (chain : Chain σ) (probe : Probe σ) (surroundings : σ) (ms : List (Move σ)) : Scene σ :=
  moves chain probe { surroundings := surroundings } ms

end Scene

/-! ### What a move can do -/

/-- What a move can do to the board, to the runs and to the history; the time and the surroundings
are left open. -/
inductive Changes (chain : Chain σ) (s : Scene σ) : Board → List (Stage σ) → List Occurrence → Prop
  | nothing : Changes chain s s.board s.runs s.history
  | claimed (caller : Caller) (admitted : caller.admits s.board.phase = true) :
      Changes chain s { s.board.publish .claimed with claims := s.board.claims + 1 }
        (s.runs ++ [.working s.clock chain.run]) (s.history ++ [.called caller s.board.phase])
  | refused (caller : Caller) (h : caller.admits s.board.phase = false) :
      Changes chain s s.board s.runs (s.history ++ [.called caller s.board.phase])
  | observed {run wake wake' : Nat} {rest next : Routine σ Report} {event : Event}
      (found : s.runs[run]? = some (.working wake rest)) (leads : Leads rest [event] next) :
      Changes chain s (Scene.hear s.board event) (s.runs.set run (.working wake' next))
        (s.history ++ [.observed run s.clock event])
  | unobserved {run wake wake' : Nat} {rest next : Routine σ Report}
      (found : s.runs[run]? = some (.working wake rest)) (leads : Leads rest [] next) :
      Changes chain s s.board (s.runs.set run (.working wake' next)) s.history
  | completed {run wake : Nat} {report : Report}
      (found : s.runs[run]? = some (.working wake (.done report))) :
      Changes chain s s.board (s.runs.set run (.ended report)) (s.history ++ [.ended run report])
  | brokenDown {run wake : Nat} {message : String}
      (found : s.runs[run]? = some (.working wake (.breakdown message))) :
      Changes chain s s.board
        (s.runs.set run (.ended (.aborted (breakdownMessage (run + 1) message))))
        (s.history ++ [.ended run (.aborted (breakdownMessage (run + 1) message))])
  | filed {run : Nat} {report : Report} (found : s.runs[run]? = some (.ended report)) :
      Changes chain s (s.board.fileReport report) (s.runs.set run (.filed report))
        (s.history ++ [.filed run report])
  | concluded {run : Nat} {report : Report} (found : s.runs[run]? = some (.filed report)) :
      Changes chain s (s.board.conclude report) (s.runs.set run (.settled report))
        (s.history ++ [.concluded run report])

theorem call_changes (chain : Chain σ) (s : Scene σ) (caller : Caller) :
    Changes chain s (s.call chain caller).board (s.call chain caller).runs
      (s.call chain caller).history := by
  unfold Scene.call Board.claim
  by_cases h : caller.admits s.board.phase = true
  · rw [if_pos h]
    exact .claimed caller h
  · rw [if_neg h]
    exact .refused caller (Bool.eq_false_iff.2 h)

theorem work_changes (chain : Chain σ) (probe : Probe σ) {s : Scene σ} {run wake : Nat}
    {rest : Routine σ Report} (found : s.runs[run]? = some (.working wake rest)) :
    Changes chain s (s.work probe run rest).board (s.work probe run rest).runs
      (s.work probe run rest).history := by
  cases rest with
  | done report => exact .completed found
  | breakdown message => exact .brokenDown found
  | hang => exact .nothing
  | sleep length next => exact .observed found (.sleep (.here next))
  | ask who next => exact .observed found (.ask _ (.here _))
  | note event next => exact .observed found (.note (.here next))
  | act f next => exact .unobserved found (.act _ _ (.here _))

/-- **What a move can do**, said once for all that is preserved by moves. -/
theorem move_changes (chain : Chain σ) (probe : Probe σ) (s : Scene σ) (m : Move σ) :
    Changes chain s (s.move chain probe m).board (s.move chain probe m).runs
      (s.move chain probe m).history := by
  cases m with
  | call caller => exact call_changes chain s caller
  | work run =>
    unfold Scene.move
    dsimp only
    split
    · rename_i wake rest found
      split
      · exact work_changes chain probe found
      · exact .nothing
    · exact .nothing
  | settle run =>
    unfold Scene.move
    dsimp only
    split
    · rename_i report found
      exact .filed found
    · rename_i report found
      exact .concluded found
    · exact .nothing
  | wait length => exact .nothing
  | disturb f => exact .nothing

theorem moves_append (chain : Chain σ) (probe : Probe σ) (s : Scene σ) (ms ms' : List (Move σ)) :
    s.moves chain probe (ms ++ ms') = (s.moves chain probe ms).moves chain probe ms' :=
  List.foldl_append

/-- Whatever holds at the beginning and is preserved by moves holds of every scene. -/
theorem after_induction {chain : Chain σ} {probe : Probe σ} {surroundings : σ}
    {P : Scene σ → Prop} (start : P { surroundings := surroundings })
    (step : ∀ s m, P s → P (s.move chain probe m)) (ms : List (Move σ)) :
    P (Scene.after chain probe surroundings ms) := by
  suffices h : ∀ s, P s → P (s.moves chain probe ms) from h _ start
  induction ms with
  | nil => exact fun s hs => hs
  | cons m ms ih => exact fun s hs => ih _ (step s m hs)

end CodePermit
