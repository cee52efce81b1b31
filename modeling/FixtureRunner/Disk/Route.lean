/-
Where a path leads.

A path is followed segment by segment from the root or the working directory.  A link
on the way is replaced by its target; at most forty links are replaced.  What happens
at the last name depends on what the path is wanted for.
-/

import FixtureRunner.Disk.Basic
import FixtureRunner.Disk.SystemError
import FixtureRunner.Path.Basic

namespace FixtureRunner.Disk

inductive Purpose where
  /-- To look at what is there; a link at the end is followed. -/
  | look
  /-- To change the name itself; a link at the end is kept. -/
  | edit
  /-- To write a file, which a name with a final separator cannot be. -/
  | write
deriving DecidableEq

inductive Spot where
  | folder (location : Location)
  /-- A name in a folder, which may be free; `closed` if separators follow it. -/
  | name (folder : Location) (name : String) (closed : Bool)
deriving DecidableEq

inductive Stop where
  | folder (location : Location)
  | last (folder : Location) (name : String) (closed : Bool)
  /-- At a link inside the path: where it stands, its target and what follows it. -/
  | link (folder : Location) (target : String) (rest : List String)
  | failed (error : SystemError)

def nameLimit : Nat := 255

def pathLimit : Nat := 4096

def linkLimit : Nat := 40

/-- Walks through folders up to a link, the last name or an obstacle. -/
def advance (disk : Disk) : Location → List String → Stop
  | location, [] => .folder location
  | location, segment :: rest =>
      if segment = "" ∨ segment = "." then advance disk location rest
      else if segment = ".." then advance disk location.dropLast rest
      else if rest.all (· = "") then .last location segment (!rest.isEmpty)
      else if nameLimit < segment.utf8ByteSize then .failed .nameTooLong
      else
        match disk.entryAt? (location ++ [segment]) with
        | none => .failed .missing
        | some .folder => advance disk (location ++ [segment]) rest
        | some (.file _ _) => .failed .notFolder
        | some (.link target) => .link location target rest

def segmentsOf (text : String) : List String :=
  (Path.segments ⟨text⟩).map String.ofList

/-- Where a path that stands in a folder starts. -/
def origin (folder : Location) (text : String) : Location :=
  if Path.isAbsolute ⟨text⟩ then [] else folder

/-- Follows segments and the links met on the way, as many as `links` allows. -/
def settle (disk : Disk) (purpose : Purpose) :
    Nat → Location → List String → Except SystemError Spot
  | 0, _, _ => .error .tooManyLinks
  | links + 1, location, segments =>
      match disk.advance location segments with
      | .folder reached => .ok (.folder reached)
      | .failed error => .error error
      | .link folder target rest =>
          settle disk purpose links (origin folder target) (segmentsOf target ++ rest)
      | .last folder name closed =>
          if purpose = .write ∧ closed then
            .error .isFolder
          else if nameLimit < name.utf8ByteSize then
            .error .nameTooLong
          else
            match disk.entryAt? (folder ++ [name]) with
            | some (.link target) =>
                if purpose = .edit then
                  .ok (.name folder name closed)
                else
                  settle disk purpose links (origin folder target)
                    (segmentsOf target ++ (if closed then [""] else []))
            | _ => .ok (.name folder name closed)

def route (disk : Disk) (purpose : Purpose) (path : Path) : Except SystemError Spot :=
  if path.text.toList.contains '\x00' then .error .nulInPath
  else if path.text = "" then .error .missing
  else if pathLimit ≤ path.text.utf8ByteSize then .error .nameTooLong
  else settle disk purpose (linkLimit + 1) (origin disk.here path.text) (segmentsOf path.text)

end FixtureRunner.Disk
