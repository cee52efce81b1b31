/-
Starting programs and keeping what they leave.  A host runs a program against a disk.
-/

import FixtureRunner.Process.Invocation
import FixtureRunner.Process.Waiting
import FixtureRunner.Workspace

namespace FixtureRunner

structure Command where
  program : String
  arguments : List String
  killTimeMs : Option Nat := none
deriving DecidableEq

/-- What a started program did: its output in chunks and its end, if that is seen in time.
Otherwise it ends `late`: it is killed, or the last look before the kill does not see its own end.
No end is late for a runner without a bound. -/
structure Performance where
  stdout : List Bytes := []
  stderr : List Bytes := []
  ending : Option Ending
  late : Ending := .signalled Waiting.killSignal
deriving DecidableEq

/-- Runs a command against a disk to its end, unless it cannot be started or waited for. -/
abbrev Host := Command → Disk → Except ProcessError Performance × Disk

namespace Invocation

def command (invocation : Invocation) : Command :=
  { program := invocation.program
    arguments := invocation.arguments
    killTimeMs := invocation.timeoutMs.map Waiting.killTimeMs }

def hasNul (invocation : Invocation) : Bool :=
  (invocation.program :: invocation.arguments).any (·.toList.contains '\x00')

/-- What is kept of a performance and of the end that was waited for. -/
def outputAfter (invocation : Invocation) (performance : Performance) (ending : Ending)
    (timedOut : Bool) : ProcessOutput :=
  let stdout := Capture.collect invocation.maxOutputBytes performance.stdout
  let stderr := Capture.collect invocation.maxOutputBytes performance.stderr
  { exitStatus := ending.status
    timedOut
    stdout := stdout.text
    stderr := stderr.text
    stdoutTruncated := stdout.truncated
    stderrTruncated := stderr.truncated }

def output (invocation : Invocation) (performance : Performance) : ProcessOutput :=
  let (ending, timedOut) :=
    Waiting.verdict invocation.timeoutMs.isSome performance.ending performance.late
  invocation.outputAfter performance ending timedOut

def event (invocation : Invocation) (level : Log.Level) (message : String)
    (fields : List (String × Log.Value)) : Log.Event :=
  { level
    source := .process
    message
    fields := ("command", .plain invocation.display) :: fields }

def run (host : Host) (invocation : Invocation) : Action ProcessOutput := do
  Action.record (invocation.event .debug "invoking" [])
  if invocation.hasNul then
    throw (.launch invocation.program (.start .nulInCommand))
  else do
    let (result, disk) := host invocation.command (← Action.disk)
    Action.setDisk disk
    match result with
    | .error error => throw (.launch invocation.program error)
    | .ok performance => do
        let output := invocation.output performance
        if output.timedOut then
          Action.record (invocation.event .warn "killed after timeout" [])
        if output.stdoutTruncated || output.stderrTruncated then
          Action.record (invocation.event .warn "captured output truncated" [])
        Action.record
          (invocation.event .debug "exited" [("exit_status", .number output.exitStatus)])
        return output

end Invocation
end FixtureRunner
