/-
Finding the fixtures below a folder.
-/

import FixtureRunner.Discovery.Selection
import FixtureRunner.Fixture.Artifacts
import FixtureRunner.Workspace

namespace FixtureRunner.Discovery

/-- Folders that are not searched, except as the root of a search. -/
def prunedNames : List String := [".git", "target"]

/-- The regular files below a folder, as names from it; links are not followed and
`depth` bounds the nesting. -/
def filesBelow (disk : Disk) : Nat → Location → List (List String)
  | 0, _ => []
  | depth + 1, folder =>
      (disk.names folder).flatMap fun name =>
        match disk.entryAt? (folder ++ [name]) with
        | some (.file _ _) => [[name]]
        | some .folder =>
            if prunedNames.contains name then []
            else (filesBelow disk depth (folder ++ [name])).map (name :: ·)
        | _ => []

def extend (root : Path) (names : List String) : Path :=
  names.foldl (fun path name => path.join ⟨name⟩) root

def fixturesBelow (disk : Disk) (root : Path) (folder : Location) : List Path :=
  sorted (((filesBelow disk disk.depth folder).map (extend root)).filter Path.isFixture)

def findFixtures (root : Path) : Action (List Path) := do
  let disk ← Action.disk
  match disk.find root with
  | .ok (folder, .folder) => return fixturesBelow disk root folder
  | _ => throw (.discovery root)

def discover (root : Path) (fragments : List String) : Action (List Path) := do
  let candidates ← findFixtures root
  (claimEach root candidates fragments).forM fun claim =>
    Action.record
      { level := .debug
        source := .discover
        message := "fragment"
        fields := [("fragment", .plain claim.fragment), ("matched", .number claim.paths.length)] }
  return select root candidates fragments

end FixtureRunner.Discovery
