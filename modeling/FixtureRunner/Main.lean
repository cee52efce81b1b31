/-
The program on a real file system.

The files below the working directory are taken into memory, the command line runs
there with its collaborators in a sandbox, and what it changed is written back.
-/

import FixtureRunner.CommandLine.Run
import FixtureRunner.Sandbox.Host

namespace FixtureRunner.Outside

def isScript (content : Bytes) : Bool :=
  (Text.toBytes "#!").isPrefixOf content

def loadFile (disk : Disk) (location : Location) : IO Disk := do
  try
    let content := (← IO.FS.readBinFile (Disk.pathTo location).text).toList
    return disk.put location (.file content (isScript content))
  catch _ => return disk

/-- Takes everything below a folder into memory; links are followed once, as files. -/
partial def loadFolder (disk : Disk) (location : Location) : IO Disk := do
  let folder : IO.FS.DirEntry := { root := (Disk.pathTo location).text, fileName := "." }
  let mut held := disk.put location .folder
  for entry in ← folder.path.readDir do
    let place := location ++ [entry.fileName]
    match (← entry.path.symlinkMetadata).type with
    | .dir => held ← loadFolder held place
    | _ => held ← loadFile held place
  return held

/-- What a run may look at above the working directory. -/
def namesAbove : List String :=
  [Config.fileName, (Path.mk ({} : Settings).compiler).components.getLast?.elim "" (·.text)]

def load (here : Location) : IO Disk := do
  let below ← loadFolder (Disk.empty here) here
  (List.range here.length).foldlM (fun disk depth =>
    namesAbove.foldlM (fun held name => loadFile held (here.take depth ++ [name])) disk) below

def store (before after : Disk) : IO Unit := do
  for (location, entry) in after.entries.toList do
    if before.here.isPrefixOf location && before.entryAt? location ≠ some entry then
      match entry with
      | .folder => IO.FS.createDirAll (Disk.pathTo location).text
      | .file content _ => IO.FS.writeBinFile (Disk.pathTo location).text ⟨content.toArray⟩
      | .link _ => pure ()
  for (location, entry) in before.entries.toList do
    if before.here.isPrefixOf location && (after.entryAt? location).isNone && entry ≠ .folder then
      IO.FS.removeFile (Disk.pathTo location).text

def variableNames : List String :=
  [Settings.compilerVariable, Settings.diffVariable, CommandLine.filterVariable, "PATH"]

def environment : IO CommandLine.Environment :=
  variableNames.filterMapM fun name => do return (← IO.getEnv name).map fun value => (name, value)

end FixtureRunner.Outside

open FixtureRunner in
def main (arguments : List String) : IO UInt32 := do
  let here := ((← IO.currentDir).toString.splitOn "/").filter (· ≠ "")
  let disk ← Outside.load here
  let environment ← Outside.environment
  let finish := CommandLine.run (Sandbox.host environment) arguments environment (Shell.install disk)
  Outside.store disk finish.disk
  IO.print (String.ofList finish.stdout)
  IO.eprint (String.ofList finish.stderr)
  return finish.code.toUInt32
