/-
Finding and loading configuration files.
-/

import FixtureRunner.Config.Settings
import FixtureRunner.Workspace

namespace FixtureRunner.Config

def fileName : String := "tstrun.json"

/-- A path and the paths above it; `room` bounds their number. -/
def upwardsFrom : Nat → Path → List Path
  | 0, path => [path]
  | room + 1, path =>
      path :: (path.parent?.map (upwardsFrom room)).getD []

def upwards (path : Path) : List Path :=
  upwardsFrom path.components.length path

/-- The nearest configuration file in a folder or above it. -/
def findUpwards (disk : Disk) (start : Path) : Option Path :=
  let start := ((disk.canonical start).toOption).getD start
  ((upwards start).map (·.join ⟨fileName⟩)).find? disk.isFile

def refuse {α : Type} (path : Path) (problem : ConfigProblem) : Action α :=
  throw (.config path problem)

def loadDocument (path : Path) : Action Document := do
  match Document.read (← Action.readBytes path) with
  | .error fault => refuse path (.unreadable fault)
  | .ok document =>
      if document.isCurrent then return document
      else refuse path (.otherVersion document.schemaVersion)

def loadSettings (path : Path) (compile : Pattern.Compiler := Pattern.compile) :
    Action Settings := do
  match Settings.ofDocument path (← loadDocument path) compile with
  | .error bad => refuse path (.badPattern bad)
  | .ok settings => return settings

end FixtureRunner.Config
