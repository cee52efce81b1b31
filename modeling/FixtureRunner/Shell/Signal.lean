/-
Signals: their names, and what they do to a shell.
-/

import FixtureRunner.Shell.Machine

namespace FixtureRunner.Shell

def signalNames : List (String × Nat) :=
  let plain :=
    [("EXIT", 0), ("HUP", 1), ("INT", 2), ("QUIT", 3), ("ILL", 4), ("TRAP", 5), ("ABRT", 6),
      ("BUS", 7), ("FPE", 8), ("KILL", 9), ("USR1", 10), ("SEGV", 11), ("USR2", 12), ("PIPE", 13),
      ("ALRM", 14), ("TERM", 15), ("CHLD", 17), ("CONT", 18), ("STOP", 19), ("TSTP", 20),
      ("TTIN", 21), ("TTOU", 22), ("URG", 23), ("XCPU", 24), ("XFSZ", 25), ("VTALRM", 26),
      ("PROF", 27), ("WINCH", 28), ("IO", 29), ("PWR", 30), ("SYS", 31), ("RTMIN", 34), ("RTMAX", 64)]
  let rising := (List.range 15).map fun step => (s!"RTMIN+{step + 1}", 35 + step)
  let falling := (List.range 14).map fun step => (s!"RTMAX-{step + 1}", 63 - step)
  plain ++ rising ++ falling

def signalBound : Nat := 65

def numberedSignal? (text : Raw) : Option Nat :=
  match Raw.nat? text with
  | some number => if number < signalBound then some number else none
  | none => none

def signal? (text : Raw) : Option Nat :=
  match numberedSignal? text with
  | some number => some number
  | none =>
      let upper := text.map Char.toUpper
      (signalNames.find? (·.1.toList = upper)).map (·.2)

def signalName (signal : Nat) : Raw :=
  ((signalNames.find? (·.2 = signal)).map (·.1.toList)).getD (Raw.ofNat signal)

def isHarmless (signal : Nat) : Bool :=
  [0, 17, 18, 23, 28].contains signal

inductive Reaction where
  | nothing
  | run (command : Raw)
  | die

def reaction (process : Process) (signal : Nat) : Reaction :=
  if signal = 9 then
    .die
  else
    match process.traps.lookup signal with
    | some [] => .nothing
    | some command => .run command
    | none => if isHarmless signal then .nothing else .die

def receive (signal : Nat) : Eval Unit := do
  let process ← Eval.process
  match reaction process signal with
  | .nothing => return ()
  | .die => throw (.signalled signal process.identity)
  | .run command =>
      Eval.modifyProcess fun held => { held with pending := held.pending ++ [command] }

def runnerIdentity : Nat := 999

def firstIdentity : Nat := 1000

/-- A runner that is stopped neither looks nor kills; once it goes on, it looks at once. -/
def signalRunner (signal : Nat) : Eval Unit :=
  modify fun machine =>
    match signal, machine.isRunnerStopped with
    | 19, false => { machine with isRunnerStopped := true, killTime := none }
    | 18, true =>
        { machine with isRunnerStopped := false, killTime := machine.bound.map (max machine.clock) }
    | _, _ => machine

/-- Until the tracer ends or lets go, a runner does not see the end of a traced program. -/
def traceProcess (identity : Nat) : Eval Unit :=
  modify fun machine =>
    if identity = firstIdentity && machine.endTime.any (machine.clock < ·) then
      { machine with killTime := machine.bound }
    else machine

def receiveSent : Eval Unit := do
  let sent := (← get).sent
  unless sent.isEmpty do
    let identity := (← Eval.process).identity
    let (own, others) := sent.partition (·.1 = identity)
    modify fun machine => { machine with sent := others }
    own.forM fun (_, signal) => receive signal

end FixtureRunner.Shell
