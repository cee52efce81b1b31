/-
Waiting for a process, with or without a bound on its time.

The process may end at any moment between two moves of the runner.  Without a bound the
runner waits for the end.  With one it looks whether the process has ended, then at the
clock, then sleeps and looks again; once the time is over it kills the process and
collects its end, which is the process's own if it came before the kill.
-/

import FixtureRunner.Process.Output

namespace FixtureRunner.Waiting

inductive Phase where
  | looking
  | checkingClock
  | sleeping
  /-- Waits for the end; `killed` if the runner has killed the process. -/
  | collecting (killed : Bool)
  | finished (ending : Ending) (timedOut : Bool)
deriving DecidableEq

structure State where
  phase : Phase
  child : Option Ending := none
deriving DecidableEq

inductive Event where
  /-- The process ends where the runner can see it. -/
  | childEnds (ending : Ending)
  /-- The runner makes a move; `isOver` is what the clock says if it is looked at. -/
  | runnerMoves (isOver : Bool)
deriving DecidableEq

def killSignal : Nat := 9

def start (isBounded : Bool) : State :=
  { phase := if isBounded then .looking else .collecting false }

def State.move (state : State) (isOver : Bool) : State :=
  match state.phase, state.child with
  | .looking, some ending => { state with phase := .finished ending false }
  | .looking, none => { state with phase := .checkingClock }
  | .checkingClock, child =>
      if isOver then
        { phase := .collecting true, child := child.or (some (.signalled killSignal)) }
      else
        { state with phase := .sleeping }
  | .sleeping, _ => { state with phase := .looking }
  | .collecting killed, some ending => { state with phase := .finished ending killed }
  | .collecting _, none => state
  | .finished _ _, _ => state

/-- A process ends once. -/
def State.step (state : State) : Event → State
  | .childEnds ending => { state with child := state.child.or (some ending) }
  | .runnerMoves isOver => state.move isOver

def run (state : State) (events : List Event) : State :=
  events.foldl State.step state

/-- The end that was collected, and whether the time was over. -/
def State.result? (state : State) : Option (Ending × Bool) :=
  match state.phase with
  | .finished ending timedOut => some (ending, timedOut)
  | _ => none

/-! ### Time -/

def pollIntervalMs : Nat := 5

/-- The first look at or after the end of the time allowed, which is at least a millisecond. -/
def killTimeMs (timeoutMs : Nat) : Nat :=
  (max timeoutMs 1 + pollIntervalMs - 1) / pollIntervalMs * pollIntervalMs

/-- What happens around a process that ends in time, or of which a runner with a bound sees no end
until its time is over; then it ends before the kill, unless it is the kill that ends it. -/
def eventsOf (isBounded : Bool) (ending : Option Ending) (late : Ending) : List Event :=
  if isBounded && ending.isNone then
    let own : List Event := if late = .signalled killSignal then [] else [.childEnds late]
    .runnerMoves false :: own ++ [.runnerMoves true, .runnerMoves true]
  else
    [.childEnds (ending.getD late), .runnerMoves false]

theorem isSome_result? (isBounded : Bool) (ending : Option Ending) (late : Ending) :
    (run (start isBounded) (eventsOf isBounded ending late)).result?.isSome = true := by
  by_cases isKilled : late = .signalled killSignal <;> cases isBounded <;> cases ending <;>
    simp [eventsOf, isKilled, run, start, State.step, State.move, State.result?]

/-- The result of waiting for a process of which the end is known. -/
def verdict (isBounded : Bool) (ending : Option Ending) (late : Ending) : Ending × Bool :=
  (run (start isBounded) (eventsOf isBounded ending late)).result?.get
    (isSome_result? isBounded ending late)

end FixtureRunner.Waiting
