/-
Requests to the disk: reading, writing, removing and making folders.
-/

import FixtureRunner.Disk.Route

namespace FixtureRunner.Disk

def find (disk : Disk) (path : Path) : Except SystemError (Location × Entry) := do
  match ← disk.route .look path with
  | .folder location => return (location, .folder)
  | .name folder name closed =>
      match disk.entryAt? (folder ++ [name]) with
      | none => throw .missing
      | some (.file content executable) =>
          if closed then throw .notFolder
          else return (folder ++ [name], .file content executable)
      | some found => return (folder ++ [name], found)

def isFile (disk : Disk) (path : Path) : Bool :=
  match disk.find path with
  | .ok (_, .file _ _) => true
  | _ => false

def isFolder (disk : Disk) (path : Path) : Bool :=
  match disk.find path with
  | .ok (_, .folder) => true
  | _ => false

def pathTo (location : Location) : Path :=
  ⟨"/" ++ String.intercalate "/" location⟩

/-- The path without links and dots, if it leads to something. -/
def canonical (disk : Disk) (path : Path) : Except SystemError Path := do
  let (location, _) ← disk.find path
  return pathTo location

def read (disk : Disk) (path : Path) : Except SystemError Bytes := do
  match ← disk.find path with
  | (_, .file content _) => return content
  | _ => throw .isFolder

/-- The location of the file that a write to a path replaces or makes, and whether that
file can be executed. -/
def writable (disk : Disk) (path : Path) : Except SystemError (Location × Bool) := do
  match ← disk.route .write path with
  | .folder _ => throw .isFolder
  | .name folder name _ =>
      match disk.entryAt? (folder ++ [name]) with
      | some .folder => throw .isFolder
      | some (.file _ executable) => return (folder ++ [name], executable)
      | _ => return (folder ++ [name], false)

def write (disk : Disk) (path : Path) (content : Bytes) : Except SystemError Disk := do
  let (location, executable) ← disk.writable path
  return disk.put location (.file content executable)

def removable (disk : Disk) (path : Path) : Except SystemError Location := do
  match ← disk.route .edit path with
  | .folder _ => throw .isFolder
  | .name folder name closed =>
      match disk.entryAt? (folder ++ [name]) with
      | none => throw .missing
      | some .folder => throw .isFolder
      | some _ => if closed then throw .notFolder else return folder ++ [name]

def remove (disk : Disk) (path : Path) : Except SystemError Disk := do
  return disk.erase (← disk.removable path)

def makeFolder (disk : Disk) (path : Path) : Except SystemError Disk := do
  match ← disk.route .edit path with
  | .folder _ => throw .alreadyExists
  | .name folder name _ =>
      match disk.entryAt? (folder ++ [name]) with
      | some _ => throw .alreadyExists
      | none => return disk.put (folder ++ [name]) .folder

/-- Makes a folder that may be there already: what refuses it, and the disk it leaves. -/
def ensureFolder (disk : Disk) (path : Path) : Option SystemError × Disk :=
  match disk.makeFolder path with
  | .ok made => (none, made)
  | .error error => (if disk.isFolder path then none else some error, disk)

/-- Makes a folder and those above it that are missing; `room` bounds their number.  What
has been made stays if a folder is refused. -/
def makeFoldersFrom : Nat → Disk → Path → Option SystemError × Disk
  | 0, disk, _ => (some .missing, disk)
  | room + 1, disk, path =>
      match disk.ensureFolder path with
      | (some .missing, _) =>
          match path.parent? with
          | none => (none, disk)
          | some above =>
              if above.text = "" then
                (some .missing, disk)
              else
                match makeFoldersFrom room disk above with
                | (some error, prepared) => (some error, prepared)
                | (none, prepared) => prepared.ensureFolder path
      | done => done

def makeFolders (disk : Disk) (path : Path) : Option SystemError × Disk :=
  makeFoldersFrom (path.components.length + 1) disk path

end FixtureRunner.Disk
