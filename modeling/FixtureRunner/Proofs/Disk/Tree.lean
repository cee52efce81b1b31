/-
Canonical paths.

On a disk that is a file tree, what a path leads to has a canonical path, which leads there
without dots and links.  The parent of the canonical path is that of the folder above.
-/

import FixtureRunner.Proofs.Discovery.Walk
import FixtureRunner.Proofs.Path.Parents

namespace FixtureRunner.Disk

/-! ### Trees -/

/-- Everything is in a folder, and so is the working directory. -/
structure IsTree (disk : Disk) : Prop where
  isSound : disk.IsSound
  hasFolder : ∀ (folder : Location) (name : String) (entry : Entry),
    disk.entryAt? (folder ++ [name]) = some entry → disk.entryAt? folder = some .folder
  isHere : disk.entryAt? disk.here = some .folder

theorem isTree_of_keys {disk : Disk}
    (areProper : ∀ location ∈ disk.entries.keys, ∀ name ∈ location.getLast?, IsProper name)
    (haveFolders : ∀ location ∈ disk.entries.keys,
      disk.entryAt? location.dropLast = some .folder)
    (isHere : disk.entryAt? disk.here = some .folder) : disk.IsTree := by
  refine ⟨isSound_of_keys areProper, fun folder name entry isThere => ?_, isHere⟩
  have isKey : folder ++ [name] ∈ disk.entries.keys :=
    (mem_keys_iff (by simp)).mpr ⟨entry, isThere⟩
  simpa using haveFolders _ isKey

section Tree

variable {disk : Disk} {links : Nat} {start reached location : Location} {segments : List String}
  {path : Path} {entry : Entry} (isTree : disk.IsTree)

include isTree

theorem IsTree.areProper (isThere : disk.entryAt? location = some entry) :
    ∀ name ∈ location, IsProper name := by
  induction location using List.reverseRecOn generalizing entry with
  | nil => simp
  | append_singleton above last ih =>
      intro name isName
      rcases List.mem_append.mp isName with isAbove | isLast
      · exact ih (isTree.hasFolder above last entry isThere) name isAbove
      · rw [List.mem_singleton.mp isLast]
        exact isTree.isSound above last entry isThere

theorem IsTree.isFolder_of_reaches (reaches : disk.Reaches links start segments reached)
    (isFolder : disk.entryAt? start = some .folder) : disk.entryAt? reached = some .folder := by
  induction reaches with
  | arrived folder => exact isFolder
  | stay _ _ ih => exact ih isFolder
  | @up _ folder _ _ _ ih =>
      refine ih ?_
      rcases List.eq_nil_or_concat' folder with rfl | ⟨above, last, rfl⟩
      · exact isFolder
      · rw [List.dropLast_concat]
        exact isTree.hasFolder above last .folder isFolder
  | down _ _ isEntered _ ih => exact ih isEntered
  | follow _ _ _ _ ih =>
      refine ih ?_
      rw [origin]
      split
      · rfl
      · exact isFolder

theorem IsTree.isFolder_of_find (isFound : disk.find path = .ok (location, .folder)) :
    disk.entryAt? location = some .folder := by
  obtain ⟨links, _, reaches⟩ := (enters_of_find isFound).reaches
  refine isTree.isFolder_of_reaches reaches ?_
  rw [origin]
  split
  · rfl
  · exact isTree.isHere

end Tree

/-! ### Canonical paths -/

section Canonical

variable {location above : Location} {name : String}

theorem pathTo_concat (areOrdinary : ∀ name ∈ above, Path.IsOrdinary name)
    (isOrdinary : Path.IsOrdinary name) :
    pathTo (above ++ [name]) = (pathTo above).join ⟨name⟩ := by
  rw [Path.join_eq (by simp [pathTo]) (Path.isAbsolute_of_free isOrdinary.isFree)]
  rcases List.eq_nil_or_concat' above with rfl | ⟨higher, last, rfl⟩
  · rfl
  · have isLast := areOrdinary last (by simp)
    have isOpen : (pathTo (higher ++ [last])).text.toList.getLast? ≠ some '/' := by
      obtain ⟨front, isText⟩ := Path.intercalate_concat higher last
      rw [pathTo, isText, ← String.append_assoc]
      exact Path.getLast?_append_free _ isLast.isNonempty isLast.isFree
    rw [if_neg isOpen, pathTo, pathTo, String.intercalate_append_of_ne_nil (by simp) (by simp),
      String.intercalate_singleton, String.append_assoc, String.append_assoc, String.append_assoc]

theorem endsNamed_pathTo (areOrdinary : ∀ name ∈ location, Path.IsOrdinary name) :
    (pathTo location).EndsNamed := by
  induction location using List.reverseRecOn with
  | nil => exact Or.inl rfl
  | append_singleton above name ih =>
      have areAbove : ∀ other ∈ above, Path.IsOrdinary other :=
        fun other isThere => areOrdinary other (List.mem_append_left _ isThere)
      have isOrdinary := areOrdinary name (by simp)
      rw [pathTo_concat areAbove isOrdinary]
      exact (ih areAbove).join isOrdinary

/-- The folder above has the parent's path. -/
theorem parent?_pathTo (areOrdinary : ∀ other ∈ above ++ [name], Path.IsOrdinary other) :
    (pathTo (above ++ [name])).parent? = some (pathTo above) := by
  have areAbove : ∀ other ∈ above, Path.IsOrdinary other :=
    fun other isThere => areOrdinary other (List.mem_append_left _ isThere)
  have isOrdinary := areOrdinary name (by simp)
  rw [pathTo_concat areAbove isOrdinary]
  exact (endsNamed_pathTo areAbove).parent?_join isOrdinary

variable {disk : Disk} (isTree : disk.IsTree)

include isTree

theorem IsTree.enters_pathTo (isFolder : disk.entryAt? location = some .folder) :
    disk.Enters (pathTo location) location := by
  induction location using List.reverseRecOn with
  | nil =>
      refine ⟨by decide, by decide, 0, Nat.zero_le _, ?_⟩
      exact reaches_blanks disk [] (by decide)
  | append_singleton above name ih =>
      have areProper := isTree.areProper isFolder
      have isProper := areProper name (by simp)
      rw [pathTo_concat (fun other isThere =>
        (areProper other (List.mem_append_left _ isThere)).isOrdinary) isProper.isOrdinary]
      exact (ih (isTree.hasFolder above name .folder isFolder)).join isProper isFolder

/-- The canonical path of a folder leads there unless it is too long. -/
theorem IsTree.find_pathTo (isFolder : disk.entryAt? location = some .folder) :
    disk.find (pathTo location) = .ok (location, .folder) ∨
      ∃ cause, disk.find (pathTo location) = .error cause := by
  rcases List.eq_nil_or_concat' location with rfl | ⟨above, name, rfl⟩
  · exact Or.inl rfl
  · have areProper := isTree.areProper isFolder
    have isProper := areProper name (by simp)
    have enters := isTree.enters_pathTo (isTree.hasFolder above name .folder isFolder)
    rw [pathTo_concat (fun other isThere =>
      (areProper other (List.mem_append_left _ isThere)).isOrdinary) isProper.isOrdinary]
    by_cases fits : ((pathTo above).join ⟨name⟩).text.utf8ByteSize < pathLimit
    · refine Or.inl ?_
      rw [((enters.leads isProper fits).routesTo (by simp [isFolder]) .look).find_eq, isFolder]
    · obtain ⟨cause, _, isRefused⟩ := find_of_long (Nat.le_of_not_lt fits)
      exact Or.inr ⟨cause, isRefused⟩

end Canonical

end FixtureRunner.Disk
