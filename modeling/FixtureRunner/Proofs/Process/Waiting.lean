/-
What comes of waiting for a process.

The process may end at any moment between two moves of the runner.  Whatever the order of these
events, a result in time is the process's own.  A result after a timeout is never a success, but it
is the status of the kill only if the process did not end between the last look and the kill.
-/

import FixtureRunner.Process.Host
import Mathlib.Data.List.Induction

namespace FixtureRunner

theorem Ending.status_eq_zero_iff (ending : Ending) : ending.status = 0 ↔ ending = .exited 0 := by
  cases ending <;> simp [status]

namespace Waiting

/-! ### Events in order -/

def Event.ending? : Event → Option Ending
  | .childEnds ending => some ending
  | .runnerMoves _ => none

/-- How the process ends by itself, if it does; it ends once. -/
def ownEnding? (events : List Event) : Option Ending :=
  events.findSome? Event.ending?

/-- How a process has ended that was killed after some events. -/
def endingBy (between : List Event) : Ending :=
  (ownEnding? between).getD (.signalled killSignal)

section Events

variable (isBounded : Bool)

/-- The last look finds the process running.  Before the runner moves on, some events pass, and its
next move is the kill. -/
inductive KilledAfter : List Event → List Event → Prop
  | intro {before between after : List Event} {isOver : Bool}
      (looks : run (start isBounded) before = { phase := .looking })
      (isStill : ∀ event ∈ between, event.ending?.isSome = true) :
      KilledAfter (before ++ .runnerMoves isOver :: between ++ .runnerMoves true :: after) between

/-- What the events so far have to do with the state. -/
inductive Story : List Event → State → Prop
  | waiting {events : List Event} {phase : Phase}
      (isWaiting : phase = .looking ∨ phase = .sleeping ∨ phase = .collecting false) :
      Story events { phase, child := ownEnding? events }
  | looked {before between : List Event} {isOver : Bool}
      (looks : run (start isBounded) before = { phase := .looking })
      (isRunning : ownEnding? before = none)
      (isStill : ∀ event ∈ between, event.ending?.isSome = true) :
      Story (before ++ .runnerMoves isOver :: between)
        { phase := .checkingClock, child := ownEnding? between }
  | seen {events : List Event} {ending : Ending} (isOwn : ownEnding? events = some ending) :
      Story events { phase := .finished ending false, child := some ending }
  | killed {events between : List Event} {phase : Phase}
      (kills : KilledAfter isBounded events between)
      (isKilled : phase = .collecting true ∨ phase = .finished (endingBy between) true) :
      Story events { phase, child := some (endingBy between) }

end Events

theorem ownEnding?_append (events later : List Event) :
    ownEnding? (events ++ later) = (ownEnding? events).or (ownEnding? later) :=
  List.findSome?_append

theorem ownEnding?_move (events : List Event) (isOver : Bool) :
    ownEnding? (events ++ [.runnerMoves isOver]) = ownEnding? events := by
  rw [ownEnding?_append]
  exact Option.or_none

theorem run_concat (state : State) (events : List Event) (event : Event) :
    run state (events ++ [event]) = (run state events).step event :=
  List.foldl_append

section Steps

variable {isBounded : Bool} {events between : List Event} {state : State}

theorem KilledAfter.concat (kills : KilledAfter isBounded events between) (event : Event) :
    KilledAfter isBounded (events ++ [event]) between := by
  cases kills with
  | intro looks isStill =>
      rw [List.append_assoc, List.cons_append]
      exact .intro looks isStill

theorem Story.childEnds (story : Story isBounded events state) (ending : Ending) :
    Story isBounded (events ++ [.childEnds ending]) (state.step (.childEnds ending)) := by
  have isLater (events : List Event) :
      (ownEnding? events).or (some ending) = ownEnding? (events ++ [.childEnds ending]) :=
    (ownEnding?_append events [.childEnds ending]).symm
  rw [State.step]
  cases story with
  | waiting isWaiting =>
      rw [isLater]
      exact .waiting isWaiting
  | looked looks isRunning isStill =>
      rw [isLater, List.append_assoc, List.cons_append]
      refine .looked looks isRunning fun event isThere => ?_
      rcases List.mem_append.mp isThere with isBefore | isLast
      · exact isStill event isBefore
      · rw [List.mem_singleton.mp isLast]
        rfl
  | seen isOwn =>
      refine .seen ?_
      rw [← isLater, isOwn]
      rfl
  | killed kills isKilled => exact .killed (kills.concat _) isKilled

theorem Story.runnerMoves (story : Story isBounded events state)
    (isState : run (start isBounded) events = state) (isOver : Bool) :
    Story isBounded (events ++ [.runnerMoves isOver]) (state.step (.runnerMoves isOver)) := by
  have isSame := ownEnding?_move events isOver
  rw [State.step]
  cases story with
  | waiting isWaiting =>
      cases isOwn : ownEnding? events with
      | some ending =>
          rw [isOwn] at isSame
          rcases isWaiting with rfl | rfl | rfl
          · exact .seen isSame
          · rw [← isSame]
            exact .waiting (Or.inl rfl)
          · exact .seen isSame
      | none =>
          have isWaitingStill (phase : Phase)
              (isPhase : phase = .looking ∨ phase = .sleeping ∨ phase = .collecting false) :
              Story isBounded (events ++ [.runnerMoves isOver]) { phase, child := none } := by
            rw [← isOwn, ← isSame]
            exact .waiting isPhase
          rw [isOwn] at isState
          rcases isWaiting with rfl | rfl | rfl
          · exact .looked isState isOwn (by simp)
          · exact isWaitingStill .looking (Or.inl rfl)
          · exact isWaitingStill (.collecting false) (Or.inr (Or.inr rfl))
  | @looked before between wasOver looks isRunning isStill =>
      cases isOver with
      | false =>
          -- The runner sleeps, and what has passed since the look is all that has passed.
          have isAll : ownEnding? between =
              ownEnding? (before ++ .runnerMoves wasOver :: between ++ [.runnerMoves false]) := by
            rw [isSame, ownEnding?_append, isRunning]
            rfl
          rw [isAll]
          exact .waiting (Or.inr (Or.inl rfl))
      | true =>
          have isEnding : (ownEnding? between).or (some (.signalled killSignal)) =
              some (endingBy between) := by
            rw [endingBy]
            cases ownEnding? between <;> rfl
          have isKilled : State.move { phase := .checkingClock, child := ownEnding? between } true =
              { phase := .collecting true,
                child := (ownEnding? between).or (some (.signalled killSignal)) } := rfl
          rw [isKilled, isEnding]
          exact .killed (.intro looks isStill) (Or.inl rfl)
  | seen isOwn => exact .seen (isSame.trans isOwn)
  | killed kills isKilled =>
      rcases isKilled with rfl | rfl
      · exact .killed (kills.concat _) (Or.inr rfl)
      · exact .killed (kills.concat _) (Or.inr rfl)

theorem story_run (isBounded : Bool) (events : List Event) :
    Story isBounded events (run (start isBounded) events) := by
  induction events using List.reverseRecOn with
  | nil => cases isBounded <;> exact .waiting (by decide)
  | append_singleton events event story =>
      rw [run_concat]
      cases event with
      | childEnds ending => exact story.childEnds ending
      | runnerMoves isOver => exact story.runnerMoves rfl isOver

end Steps

/-- A result in time has the process's own status.  A result after a timeout is no success, and its
status is zero if and only if the process exited with zero between the last look and the kill. -/
theorem result_of_waiting (invocation : Invocation) (performance : Performance)
    {events : List Event} {ending : Ending} {timedOut : Bool}
    (isResult : (run (start invocation.timeoutMs.isSome) events).result? =
      some (ending, timedOut)) :
    (timedOut = true →
      (invocation.outputAfter performance ending timedOut).success = false ∧
      ∃ between, KilledAfter invocation.timeoutMs.isSome events between ∧
        ending = endingBy between ∧
        ((invocation.outputAfter performance ending timedOut).exitStatus = 0 ↔
          ownEnding? between = some (.exited 0))) ∧
    (timedOut = false → ownEnding? events = some ending ∧
      (∀ code, ending = .exited code →
        (invocation.outputAfter performance ending timedOut).exitStatus = code) ∧
      ∀ signal, ending = .signalled signal →
        (invocation.outputAfter performance ending timedOut).exitStatus = 128 + signal) := by
  have story := story_run invocation.timeoutMs.isSome events
  generalize run (start invocation.timeoutMs.isSome) events = state at story isResult
  cases story with
  | waiting isWaiting => rcases isWaiting with rfl | rfl | rfl <;> cases isResult
  | looked => cases isResult
  | seen isOwn =>
      obtain ⟨rfl, rfl⟩ := Prod.mk.inj (Option.some.inj isResult)
      refine ⟨by simp, fun _ => ⟨isOwn, ?_, ?_⟩⟩
      · rintro code rfl
        rfl
      · rintro signal rfl
        rfl
  | @killed _ between _ kills isKilled =>
      rcases isKilled with rfl | rfl
      · cases isResult
      · obtain ⟨rfl, rfl⟩ := Prod.mk.inj (Option.some.inj isResult)
        refine ⟨fun _ => ⟨Bool.and_false _, between, kills, rfl, ?_⟩, by simp⟩
        refine (Ending.status_eq_zero_iff _).trans ?_
        rw [endingBy]
        cases ownEnding? between <;> simp [killSignal]

def lateExit : List Event :=
  [.runnerMoves false, .childEnds (.exited 0), .runnerMoves true, .runnerMoves true]

theorem result_of_waiting_lateExit :
    (run (start true) lateExit).result? = some (.exited 0, true) ∧
    ∃ between, KilledAfter true lateExit between ∧ ownEnding? between = some (.exited 0) := by
  have isResult : (run (start true) lateExit).result? = some (.exited 0, true) := by decide
  let invocation : Invocation := { program := "cc", arguments := [], timeoutMs := some 500 }
  obtain ⟨_, between, kills, _, isZero⟩ :=
    (result_of_waiting invocation { ending := none, late := .exited 0 } isResult).1 rfl
  exact ⟨isResult, between, kills, isZero.mp rfl⟩

end Waiting
end FixtureRunner
