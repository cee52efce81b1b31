/-
A host that needs nothing but the disk: programs are the installed tools, the shell and
scripts on the disk.
-/

import FixtureRunner.Process.Host
import FixtureRunner.Shell.Evaluate

namespace FixtureRunner.Sandbox

open Shell

def depth : Nat := 3000

abbrev Environment := List (String × String)

namespace Environment

def standard : Environment :=
  [("HOME", "/root"), ("PATH", String.ofList defaultSearchPath), ("LC_ALL", "C")]

def overriddenBy (environment others : Environment) : Environment :=
  (environment.filter fun held => (others.lookup held.1).isNone) ++ others

end Environment

def machine (environment : Environment) (killTime : Option Nat) (disk : Disk) : Machine :=
  let bindings := environment.map fun (name, value) =>
    ({ name := Raw.ofString name, value := some (Raw.ofString value), exported := true } : Variable)
  { disk
    channels := #[.null, .stream {}, .stream {}]
    killTime
    bound := killTime
    process :=
      { descriptors := [(0, 0), (1, 1), (2, 2)]
        identity := firstIdentity
        ancestors := [runnerIdentity]
        shellIdentity := firstIdentity
        bindings := bindings.reverse } }

def endingOf : Except Stop Nat → Option Ending
  | .ok status => some (.exited (status % 256))
  | .error (.exit status) => some (.exited (status % 256))
  | .error .fault => some (.exited 2)
  | .error (.signalled signal _) => some (.signalled signal)
  | .error (.return status) => some (.exited (status % 256))
  | .error (.leave _) => some (.exited 0)
  | .error (.again _) => some (.exited 0)
  | .error .outlived => none

def streamOf (machine : Machine) (number : Nat) : Bytes :=
  match machine.channels.getD number .null with
  | .stream stream => stream.content
  | _ => []

def perform (program : FoundProgram) (name : Raw) (arguments : List Raw) (start : Machine) :
    Performance × Disk :=
  let (result, ended) := (evaluate depth (.program program name arguments)).run start
  let own := endingOf result
  let (rest, final) := (finishJobs (evaluate depth) jobBound).run
    { ended with
      isRunnerStopped := false
      endTime := some ended.clock
      killTime := if own.isSome then none else ended.killTime }
  ({ stdout := [streamOf final 1]
     stderr := [streamOf final 2]
     ending := if rest matches .error .outlived then none else own
     late := own.getD (.signalled Waiting.killSignal) },
    { final.disk with here := start.disk.here })

/-- The file to run, or why it cannot be started: a text that names no interpreter cannot. -/
def startable (disk : Disk) (searchPath name : Raw) : Except SystemError FoundProgram := do
  let program ← findProgram disk searchPath name
  program.check disk
  match disk.entryAt? program.location with
  | some (.file content _) =>
      match Executable.ofContent content with
      | .unmarked => throw .badFormat
      | _ => return program
  | _ => throw .denied

def host (environment : Environment) : Host := fun command disk =>
  let name := Raw.ofString command.program
  let searchPath := ((environment.lookup "PATH").map Raw.ofString).getD plainSearchPath
  match startable disk searchPath name with
  | .error cause => (.error (.start cause), disk)
  | .ok program =>
      let (performance, after) :=
        perform program name (command.arguments.map Raw.ofString)
          (machine environment command.killTimeMs disk)
      (.ok performance, after)

end FixtureRunner.Sandbox
