/-
A file tree with a working directory.

A location is the list of names from the root; it names an entry without regard to
links.  Two disks are equal when they have the same entries and the same working
directory.
-/

import FixtureRunner.Text.Bytes
import Std.Data.ExtTreeMap

namespace FixtureRunner

/-- The names that lead from the root to an entry. -/
abbrev Location := List String

inductive Entry where
  | file (content : Bytes) (executable : Bool)
  | folder
  | link (target : String)
deriving DecidableEq

structure Disk where
  entries : Std.ExtTreeMap Location Entry
  here : Location

namespace Disk

/-- A disk with nothing but the working directory and the folders above it. -/
def empty (here : Location) : Disk :=
  { entries := (List.range here.length).foldl
      (fun entries above => entries.insert (here.take (above + 1)) .folder) ∅
    here }

/-- The root is always a folder. -/
def entryAt? (disk : Disk) (location : Location) : Option Entry :=
  if location = [] then some .folder else disk.entries[location]?

def put (disk : Disk) (location : Location) (entry : Entry) : Disk :=
  { disk with entries := disk.entries.insert location entry }

def erase (disk : Disk) (location : Location) : Disk :=
  { disk with entries := disk.entries.erase location }

/-- Removes an entry with everything below it. -/
def eraseTree (disk : Disk) (location : Location) : Disk :=
  { disk with entries := disk.entries.filter fun place _ => !location.isPrefixOf place }

def names (disk : Disk) (folder : Location) : List String :=
  disk.entries.keys.filterMap fun location =>
    if location.dropLast = folder then location.getLast? else none

/-- Above the length of every location. -/
def depth (disk : Disk) : Nat :=
  disk.entries.keys.foldl (fun most location => max most location.length) 0 + 1

end Disk
end FixtureRunner
