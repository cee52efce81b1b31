/-
Files that come, go and change while folders and links stay.

Between two disks some paths may name files that are in one of them only, and the files
that some other paths lead to may have got new contents.  Alterations of this kind follow
one another, and they are undone by removing what the first paths name, but for the new
contents.
-/

import FixtureRunner.Proofs.Disk.Removal

namespace FixtureRunner.Disk

/-! ### New contents -/

/-- The path leads to a file at a location, and that file has got new contents. -/
def Refills (path : Path) (location : Location) (before after : Disk) : Prop :=
  ∃ content other executable, before.find path = .ok (location, .file content executable) ∧
    after.entryAt? location = some (.file other executable)

/-- The disks agree but for the contents of the files that some paths lead to. -/
structure SameButContents (paths : List Path) (before after : Disk) : Prop where
  here : after.here = before.here
  entry : ∀ location, after.entryAt? location = before.entryAt? location ∨
    ∃ path ∈ paths, Refills path location before after

theorem SameButContents.sameExcept {before after : Disk} (same : SameButContents [] before after) :
    SameExcept [] before after :=
  ⟨same.here, fun location _ => (same.entry location).resolve_right (by simp)⟩

section Find

variable {disk before after : Disk} {path : Path} {location : Location} {content other : Bytes}
  {executable flag : Bool}

theorem route_of_find (isFound : disk.find path = .ok (location, .file content executable)) :
    ∃ folder name, location = folder ++ [name] ∧
      disk.entryAt? location = some (.file content executable) ∧
      ∀ purpose, purpose ≠ .edit → disk.route purpose path = .ok (.name folder name false) := by
  have isRead : disk.read path = .ok content := by
    rw [read, isFound]
    rfl
  obtain ⟨folder, name, held, isFile, routed⟩ := route_of_read isRead
  rw [RoutesTo.find_eq ⟨folder, name, rfl, routed .look (by decide)⟩, isFile] at isFound
  obtain ⟨rfl, isSame⟩ := Prod.mk.inj (Except.ok.inj isFound)
  rw [isSame] at isFile
  exact ⟨folder, name, rfl, isFile, routed⟩

theorem SameFrame.find_of_file (same : SameFrame before after)
    (isFound : before.find path = .ok (location, .file content executable))
    (isFile : after.entryAt? location = some (.file other flag)) :
    after.find path = .ok (location, .file other flag) := by
  obtain ⟨folder, name, rfl, _, routed⟩ := route_of_find isFound
  rw [RoutesTo.find_eq ⟨_, _, rfl, same.route_eq_ok_iff.mpr (routed .look (by decide))⟩, isFile]

end Find

/-! ### Alterations -/

/-- The disks differ at most in a file at the place that a path names. -/
abbrev Revises (path : Path) (before after : Disk) : Prop :=
  before.SameExcept [path] after ∧ SameFrame before after

/-- Folders and links are the same.  Everything else is the same too, but for the files that
some paths name, and for the contents of the files that some other paths lead to. -/
structure Alters (named refilled : List Path) (before after : Disk) : Prop
    extends SameFrame before after where
  entry : ∀ location, (∀ path ∈ named, before.placeOf? path ≠ some location) →
    after.entryAt? location = before.entryAt? location ∨
      ∃ path ∈ refilled, Refills path location before after

namespace Alters

variable {named refilled more others : List Path} {before between after : Disk}

theorem refl (disk : Disk) : Alters named refilled disk disk :=
  ⟨.refl disk, fun _ _ => Or.inl rfl⟩

theorem mono (alters : Alters named refilled before after)
    (isWithin : ∀ path ∈ named, path ∈ more) (areWithin : ∀ path ∈ refilled, path ∈ others) :
    Alters more others before after := by
  refine ⟨alters.toSameFrame, fun location isElsewhere => ?_⟩
  rcases alters.entry location fun path member => isElsewhere path (isWithin path member) with
    isSame | ⟨path, member, refills⟩
  · exact Or.inl isSame
  · exact Or.inr ⟨path, areWithin path member, refills⟩

theorem trans (first : Alters named refilled before between)
    (second : Alters named refilled between after) : Alters named refilled before after := by
  refine ⟨first.toSameFrame.trans second.toSameFrame, fun location isElsewhere => ?_⟩
  have isElsewhereStill (path : Path) (member : path ∈ named) :
      between.placeOf? path ≠ some location := by
    rw [first.placeOf?_eq]
    exact isElsewhere path member
  rcases first.entry location isElsewhere with
    isSame | ⟨path, member, content, other, executable, isFound, isFile⟩
  · rcases second.entry location isElsewhereStill with
      isSameStill | ⟨path, member, content, other, executable, isFound, isFile⟩
    · exact Or.inl (isSameStill.trans isSame)
    · obtain ⟨_, _, _, wasFile, _⟩ := route_of_find isFound
      rw [isSame] at wasFile
      exact Or.inr ⟨path, member, content, other, executable,
        first.toSameFrame.symm.find_of_file isFound wasFile, isFile⟩
  · rcases second.entry location isElsewhereStill with
      isSameStill | ⟨_, _, _, again, _, isFoundStill, isFileStill⟩
    · rw [isFile] at isSameStill
      exact Or.inr ⟨path, member, content, other, executable, isFound, isSameStill⟩
    · obtain ⟨_, _, _, wasFile, _⟩ := route_of_find isFoundStill
      rw [isFile] at wasFile
      cases wasFile
      exact Or.inr ⟨path, member, content, again, executable, isFound, isFileStill⟩

theorem step {path : Path} {disk : Disk} (alters : Alters named refilled before disk)
    (noLinks : ∀ path ∈ named, before.isLink path = false) (member : path ∈ named)
    (revises : disk.isLink path = false → Revises path disk after) :
    Alters named refilled before after := by
  obtain ⟨elsewhere, same⟩ := revises (alters.isLink_eq_false noLinks member)
  refine alters.trans ⟨same, fun location isElsewhere => Or.inl (elsewhere.elsewhere location ?_)⟩
  intro other isPath
  rw [List.mem_singleton.mp isPath]
  exact isElsewhere path member

end Alters

/-! ### Requests -/

section Requests

variable {named refilled : List Path} {before disk after : Disk} {path : Path} {content : Bytes}

theorem sameFrame_store {place : Location} (content : Bytes) (isBelow : place ≠ [])
    (isPlain : ∀ entry, disk.entryAt? place = some entry → entry.isPassage = false) :
    SameFrame disk (disk.store place content) := by
  refine ⟨rfl, fun location entry isPassage => ?_⟩
  rw [entryAt?_store _ _ _ _ isBelow]
  split
  · rename_i isPlace
    subst isPlace
    refine iff_of_false ?_ fun isThere => ?_
    · intro isFile
      cases Option.some.inj isFile
      cases isPassage
    · rw [isPlain entry isThere] at isPassage
      cases isPassage
  · exact Iff.rfl

theorem revises_of_write (isNoLink : disk.isLink path = false)
    (isWritten : disk.write path content = .ok after) : Revises path disk after := by
  refine ⟨(sameExcept_of_write isNoLink isWritten).1, ?_⟩
  obtain ⟨folder, name, leads, _, rfl⟩ := eq_store_of_write isNoLink isWritten
  refine sameFrame_store content (by simp) fun entry isThere => ?_
  cases entry with
  | file held executable => rfl
  | folder =>
      rw [(leads.routesTo (by simp [isThere]) .write).write_eq, isThere] at isWritten
      cases isWritten
  | link target => exact absurd isThere (leads.isLink_eq_false_iff.mp isNoLink target)

theorem Removes.revises (removes : disk.Removes path after) (isNoLink : disk.isLink path = false) :
    Revises path disk after :=
  ⟨⟨removes.here, fun location isElsewhere =>
    (removes.entry location).2 (isElsewhere path (by simp))⟩, removes.sameFrame isNoLink⟩

/-- A file that was there is written where it was. -/
theorem SameFrame.store_of_write {place : Location} {held : Bytes} {executable : Bool}
    (same : SameFrame before disk)
    (wasFile : before.entryAt? place = some (.file held executable))
    (routes : before.RoutesTo .write path place) (isWritten : disk.write path content = .ok after) :
    after = disk.store place content ∧ SameFrame before after := by
  obtain ⟨folder, name, rfl, routed⟩ := routes
  have isPlain (entry : Entry) (isThere : disk.entryAt? (folder ++ [name]) = some entry) :
      entry.isPassage = false := by
    cases isPassage : entry.isPassage with
    | false => rfl
    | true =>
        have wasPassage := (same.frame _ entry isPassage).mp isThere
        rw [wasFile] at wasPassage
        cases wasPassage
        cases isPassage
  rw [RoutesTo.write_eq ⟨_, _, rfl, same.route_eq_ok_iff.mpr routed⟩] at isWritten
  split at isWritten
  · cases isWritten
  · obtain rfl := Except.ok.inj isWritten
    exact ⟨rfl, same.trans (sameFrame_store content (by simp) isPlain)⟩

theorem Alters.refill {held : Bytes} (alters : Alters named [] before disk)
    (wasRead : before.read path = .ok held)
    (isWritten : disk.write path content = .ok after) : Alters named [path] before after := by
  obtain ⟨folder, name, executable, wasFile, routed⟩ := route_of_read wasRead
  obtain ⟨isStored, same⟩ := alters.store_of_write wasFile
    ⟨_, _, rfl, routed .write (by decide)⟩ isWritten
  refine ⟨same, fun location isElsewhere => ?_⟩
  have unchanged := (alters.entry location isElsewhere).resolve_right (by simp)
  rw [isStored, entryAt?_store _ _ _ _ (by simp)]
  split
  · rename_i isPlace
    subst isPlace
    have sameFlag : disk.executableAt (folder ++ [name]) = executable := by
      rw [executableAt, unchanged, wasFile]
    have wasFound : before.find path = .ok (folder ++ [name], .file held executable) := by
      rw [RoutesTo.find_eq ⟨_, _, rfl, routed .look (by decide)⟩, wasFile]
    refine Or.inr ⟨path, by simp, held, content, executable, wasFound, ?_⟩
    rw [entryAt?_store _ _ _ _ (by simp), if_pos rfl, sameFlag]
  · exact Or.inl unchanged

end Requests

/-! ### Removing what was altered -/

section Removal

variable {named refilled : List Path} {before after smaller : Disk}

theorem Alters.sameButContents {smallerAfter : Disk} (alters : Alters named refilled before after)
    (noLinks : ∀ path ∈ named, before.isLink path = false)
    (removal : Removal named before smaller) (removalAfter : Removal named after smallerAfter) :
    SameButContents refilled smaller smallerAfter := by
  obtain ⟨elsewhere, areGone⟩ := removal.entry noLinks
  obtain ⟨elsewhereAfter, areGoneAfter⟩ := removalAfter.entry fun path member =>
    alters.isLink_eq_false noLinks member
  refine ⟨by rw [elsewhereAfter.here, alters.here, elsewhere.here], fun location => ?_⟩
  by_cases isNamed : ∃ path ∈ named, before.placeOf? path = some location
  · obtain ⟨path, member, isPlace⟩ := isNamed
    have isPlaceAfter : after.placeOf? path = some location := by rw [alters.placeOf?_eq, isPlace]
    rw [areGone path member location isPlace, areGoneAfter path member location isPlaceAfter]
    exact Or.inl rfl
  · have isElsewhere (path : Path) (member : path ∈ named) :
        before.placeOf? path ≠ some location := fun isPlace => isNamed ⟨path, member, isPlace⟩
    have same := elsewhere.elsewhere location isElsewhere
    have sameAfter := elsewhereAfter.elsewhere location fun path member => by
      rw [alters.placeOf?_eq]
      exact isElsewhere path member
    rcases alters.entry location isElsewhere with
      isSame | ⟨path, member, content, other, executable, isFound, isFile⟩
    · exact Or.inl (sameAfter.trans (isSame.trans same.symm))
    · obtain ⟨_, _, _, wasFile, _⟩ := route_of_find isFound
      refine Or.inr ⟨path, member, content, other, executable,
        (removal.sameFrame noLinks).find_of_file isFound (same.trans wasFile),
        sameAfter.trans isFile⟩

/-- Paths that could be removed can be removed after files were altered, if no file has come in
their way. -/
theorem Alters.exists_removal (alters : Alters named refilled before after)
    (noLinks : ∀ path ∈ named, before.isLink path = false)
    (areOpen : ∀ path ∈ named, ∃ folder name,
      before.route .edit path = .ok (.name folder name false) ∧
        before.entryAt? (folder ++ [name]) ≠ some .folder) :
    ∃ smallerAfter, Removal named after smallerAfter := by
  refine Removal.exists_of_open (fun path member => ?_) fun path member =>
    alters.isLink_eq_false noLinks member
  obtain ⟨folder, name, routed, isOpen⟩ := areOpen path member
  exact ⟨folder, name, alters.route_eq_ok_iff.mpr routed, fun isFolder =>
    isOpen ((alters.frame _ .folder rfl).mp isFolder)⟩

end Removal

end FixtureRunner.Disk
