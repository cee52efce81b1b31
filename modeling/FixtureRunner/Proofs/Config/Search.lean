/-
The search for a configuration file.

The search looks into the folder where it starts, into its parent and so on, up to a path that
has no parent.  It takes the first configuration file, which is the nearest.
-/

import FixtureRunner.Proofs.Config.Loading
import FixtureRunner.Proofs.Disk.Tree

namespace FixtureRunner.Config

/-! ### Climbing -/

/-- A path, its parent, the parent of its parent and so on, up to the last one. -/
inductive Ascends : Path → List Path → Prop
  | top {path : Path} (isTop : path.parent? = none) : Ascends path [path]
  | step {path above : Path} {rest : List Path} (isParent : path.parent? = some above)
      (ascends : Ascends above rest) : Ascends path (path :: rest)

theorem upwards_of_top {path : Path} (isTop : path.parent? = none) : upwards path = [path] := by
  rw [upwards]
  cases path.components.length with
  | zero => rfl
  | succ room => rw [upwardsFrom, isTop, Option.map_none, Option.getD_none]

theorem upwards_of_parent {path above : Path} (isParent : path.parent? = some above) :
    upwards path = path :: upwards above := by
  obtain ⟨last, areComponents⟩ := Path.components_parent? isParent
  rw [upwards, areComponents, List.length_append, List.length_singleton, upwardsFrom, isParent,
    Option.map_some, Option.getD_some, upwards]

/-- Nothing is left out, for a path has more components than its parent. -/
theorem ascends_upwards (path : Path) : Ascends path (upwards path) := by
  cases isParent : path.parent? with
  | none =>
      rw [upwards_of_top isParent]
      exact .top isParent
  | some above =>
      obtain ⟨last, areComponents⟩ := Path.components_parent? isParent
      rw [upwards_of_parent isParent]
      exact .step isParent (ascends_upwards above)
termination_by path.components.length
decreasing_by simp [areComponents]

/-! ### The nearest file -/

/-- The configuration file in the first of the folders that has one. -/
def Nearest (disk : Disk) (folders : List Path) (path : Path) : Prop :=
  ∃ before folder after, folders = before ++ folder :: after ∧
    (∀ other ∈ before, isConfigured disk other = false) ∧ isConfigured disk folder = true ∧
    path = folder.join ⟨fileName⟩

section Search

variable {disk : Disk} {folders : List Path} {start folder above path : Path}

theorem nearest_iff :
    Nearest disk folders path ↔
      (folders.find? (isConfigured disk)).map (·.join ⟨fileName⟩) = some path := by
  rw [Nearest, Option.map_eq_some_iff]
  simp only [List.find?_eq_some_iff_append, Bool.not_eq_true']
  constructor
  · rintro ⟨before, folder, after, areFolders, areNot, isFirst, rfl⟩
    exact ⟨folder, ⟨isFirst, before, after, areFolders, areNot⟩, rfl⟩
  · rintro ⟨folder, ⟨isFirst, before, after, areFolders, areNot⟩, rfl⟩
    exact ⟨before, folder, after, areFolders, areNot, isFirst, rfl⟩

theorem isConfigured_of_folder (isFolder : disk.isFolder (folder.join ⟨fileName⟩) = true) :
    isConfigured disk folder = false := by
  rw [Disk.isFolder] at isFolder
  rw [isConfigured, Disk.isFile]
  cases isFound : disk.find (folder.join ⟨fileName⟩) with
  | error cause => rfl
  | ok found =>
      obtain ⟨location, entry⟩ := found
      rw [isFound] at isFolder
      cases entry with
      | file content executable => cases isFolder
      | folder => rfl
      | link target => rfl

theorem find_of_canonical (isFolder : disk.isFolder start = true)
    (isCanonical : disk.canonical start = .ok folder) :
    ∃ location, disk.find start = .ok (location, .folder) ∧ folder = Disk.pathTo location := by
  rw [Disk.isFolder] at isFolder
  rw [Disk.canonical] at isCanonical
  cases isFound : disk.find start with
  | error cause => simp [isFound] at isFolder
  | ok found =>
      obtain ⟨location, entry⟩ := found
      rw [isFound] at isFolder isCanonical
      cases entry with
      | file content executable => cases isFolder
      | link target => cases isFolder
      | folder => exact ⟨location, rfl, (Except.ok.inj isCanonical).symm⟩

/-- A search from the parent of a canonical path starts there, even if that is too long to be
found. -/
theorem searchStart_parent (isTree : disk.IsTree) (isFolder : disk.isFolder start = true)
    (isCanonical : disk.canonical start = .ok folder) (isParent : folder.parent? = some above) :
    searchStart disk above = above := by
  obtain ⟨location, isFound, rfl⟩ := find_of_canonical isFolder isCanonical
  have isThere := isTree.isFolder_of_find isFound
  rcases List.eq_nil_or_concat' location with rfl | ⟨higher, name, rfl⟩
  · cases isParent
  · have areOrdinary : ∀ other ∈ higher ++ [name], Path.IsOrdinary other :=
      fun other isIn => (isTree.areProper isThere other isIn).isOrdinary
    rw [Disk.parent?_pathTo areOrdinary, Option.some.injEq] at isParent
    subst isParent
    rw [searchStart, Disk.canonical]
    rcases isTree.find_pathTo (isTree.hasFolder higher name .folder isThere) with
      isFoundAbove | ⟨cause, isRefused⟩
    · rw [isFoundAbove]
      rfl
    · rw [isRefused]
      rfl

/-- The search from a folder that has no configuration file is that from its parent. -/
theorem findUpwards_parent (isTree : disk.IsTree) (isFolder : disk.isFolder start = true)
    (isCanonical : disk.canonical start = .ok folder) (isNot : isConfigured disk folder = false)
    (isParent : folder.parent? = some above) :
    findUpwards disk start = findUpwards disk above := by
  have isStart : searchStart disk start = folder := by
    rw [searchStart, isCanonical]
    rfl
  rw [findUpwards_eq, findUpwards_eq, isStart, upwards_of_parent isParent,
    List.find?_cons_of_neg (by simp [isNot]),
    searchStart_parent isTree isFolder isCanonical isParent]

end Search

/-- The search ends, and finds the nearest configuration file among a path and its parents. -/
theorem findUpwards_nearest (disk : Disk) (start : Path) :
    ∃ folders, Ascends (searchStart disk start) folders ∧
      (∀ path, findUpwards disk start = some path ↔ Nearest disk folders path) ∧
      (findUpwards disk start = none ↔ ∀ folder ∈ folders, isConfigured disk folder = false) ∧
      (∀ before folder after, folders = before ++ folder :: after →
        disk.isFolder (folder.join ⟨fileName⟩) = true →
        ∀ path, findUpwards disk start = some path ↔ Nearest disk (before ++ after) path) ∧
      (disk.IsTree → disk.isFolder start = true → ∀ folder above,
        disk.canonical start = .ok folder → isConfigured disk folder = false →
        folder.parent? = some above → findUpwards disk start = findUpwards disk above) := by
  refine ⟨_, ascends_upwards _, ?_, ?_, ?_, ?_⟩
  · intro path
    rw [findUpwards_eq, nearest_iff]
  · rw [findUpwards_eq, Option.map_eq_none_iff, List.find?_eq_none]
    simp only [Bool.not_eq_true]
  · intro before folder after areFolders isFolder path
    rw [findUpwards_eq, nearest_iff, areFolders, List.find?_append, List.find?_append,
      List.find?_cons_of_neg (by simp [isConfigured_of_folder isFolder])]
  · intro isTree isFolder folder above isCanonical isNot isParent
    exact findUpwards_parent isTree isFolder isCanonical isNot isParent

def shadowedDisk : Disk :=
  (((Disk.empty ["work", "cases"]).put ["work", "tstrun.json"] (.file [] false)).put
    ["work", "cases", "tstrun.json"] .folder).put ["work", "cases", "here"] (.link "../cases")

theorem findUpwards_nearest_shadowed :
    findUpwards shadowedDisk ⟨"here"⟩ = findUpwards shadowedDisk ⟨"/work"⟩ ∧
      findUpwards shadowedDisk ⟨"here"⟩ = some ⟨"/work/tstrun.json"⟩ := by
  have isTree : shadowedDisk.IsTree :=
    Disk.isTree_of_keys (by decide) (by decide) (by decide)
  obtain ⟨_, _, _, _, _, isSame⟩ := findUpwards_nearest shadowedDisk ⟨"here"⟩
  have isAbove := isSame isTree (by decide) ⟨"/work/cases"⟩ ⟨"/work"⟩
  exact ⟨isAbove (by decide) (by decide) (by decide), by decide⟩

end FixtureRunner.Config
