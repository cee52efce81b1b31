/-
What a run can touch, and actions on it.  An action that fails leaves what it has done
so far.
-/

import FixtureRunner.Console
import FixtureRunner.Disk.Access
import FixtureRunner.Failure
import FixtureRunner.Log.Event

namespace FixtureRunner

structure Workspace where
  disk : Disk
  log : List Log.Event := []
  console : Console := {}

abbrev Action := ExceptT Failure (StateM Workspace)

namespace Action

def record (event : Log.Event) : Action Unit :=
  modify fun workspace => { workspace with log := workspace.log ++ [event] }

def disk : Action Disk :=
  return (← get).disk

def setDisk (disk : Disk) : Action Unit :=
  modify fun workspace => { workspace with disk }

def atPath {α : Type} (path : Path) (result : Except SystemError α) : Action α :=
  match result with
  | .ok value => return value
  | .error cause => throw (.access path cause)

def readBytes (path : Path) : Action Bytes := do
  atPath path ((← disk).read path)

/-- Bytes that are no text are replaced, not refused. -/
def readText (path : Path) : Action Text := do
  return Text.decode (← readBytes path)

def writeBytes (path : Path) (content : Bytes) : Action Unit := do
  setDisk (← atPath path ((← disk).write path content))

def writeText (path : Path) (text : Text) : Action Unit :=
  writeBytes path (Text.encode text)

/-- Removes a file; one that is missing needs no removal. -/
def removeIfPresent (path : Path) : Action Unit := do
  match (← disk).remove path with
  | .ok smaller => setDisk smaller
  | .error cause => if cause = .missing then return () else throw (.access path cause)

def makeFolders (path : Path) : Action Unit := do
  let (refusal, made) := (← disk).makeFolders path
  setDisk made
  match refusal with
  | none => return ()
  | some cause => throw (.access path cause)

/-- The path under which failures of the console are reported. -/
def consolePath : Path := ⟨"<stdout>"⟩

def emit (line : String) : Action Unit := do
  let (refusal, console) := (← get).console.writeLine line.toList
  modify fun workspace => { workspace with console }
  match refusal with
  | none => return ()
  | some cause => throw (.access consolePath cause)

end Action
end FixtureRunner
