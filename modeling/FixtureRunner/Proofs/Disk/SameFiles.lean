/-
Disks with the same files.

What is in the files does not matter here, only where they are.  Between two disks folders and
links are the same, and so are the places of files, but for the places that some paths name.
-/

import FixtureRunner.Proofs.Disk.Alteration

namespace FixtureRunner.Disk

def HasFile (disk : Disk) (location : Location) : Prop :=
  ∃ content executable, disk.entryAt? location = some (.file content executable)

/-- Folders and links are the same, and files are in the same places, but for those that some
paths name. -/
structure SameFiles (named : List Path) (before after : Disk) : Prop
    extends SameFrame before after where
  files : ∀ location, (∀ path ∈ named, before.placeOf? path ≠ some location) →
    (after.HasFile location ↔ before.HasFile location)

namespace SameFiles

variable {named more : List Path} {before between after : Disk}

theorem refl (disk : Disk) : SameFiles named disk disk :=
  ⟨.refl disk, fun _ _ => Iff.rfl⟩

theorem mono (same : SameFiles named before after) (isWithin : ∀ path ∈ named, path ∈ more) :
    SameFiles more before after :=
  ⟨same.toSameFrame, fun location isElsewhere => same.files location fun path member =>
    isElsewhere path (isWithin path member)⟩

theorem trans (first : SameFiles named before between) (second : SameFiles named between after) :
    SameFiles named before after := by
  refine ⟨first.toSameFrame.trans second.toSameFrame, fun location isElsewhere => ?_⟩
  refine (second.files location fun path member => ?_).trans (first.files location isElsewhere)
  rw [first.placeOf?_eq]
  exact isElsewhere path member

variable {disk : Disk} {path : Path}

theorem step (same : SameFiles named before disk)
    (noLinks : ∀ path ∈ named, before.isLink path = false) (member : path ∈ named)
    (revises : disk.isLink path = false → Revises path disk after) :
    SameFiles named before after := by
  obtain ⟨elsewhere, frame⟩ := revises (same.isLink_eq_false noLinks member)
  refine same.trans ⟨frame, fun location isElsewhere => ?_⟩
  rw [HasFile, HasFile, elsewhere.elsewhere location (by simpa using isElsewhere path member)]

theorem rewrite {folder : Location} {name : String} {content : Bytes}
    (same : SameFiles named before disk) (leads : before.Leads path folder name)
    (wasFile : before.HasFile (folder ++ [name])) (isWritten : disk.write path content = .ok after) :
    SameFiles named before after := by
  obtain ⟨held, executable, wasThere⟩ := wasFile
  obtain ⟨isStored, frame⟩ := same.store_of_write wasThere
    (leads.routesTo (by simp [wasThere]) .write) isWritten
  refine ⟨frame, fun location isElsewhere => ?_⟩
  rw [isStored, HasFile, entryAt?_store _ _ _ _ (by simp)]
  split
  · rename_i isPlace
    rw [isPlace]
    exact iff_of_true ⟨_, _, rfl⟩ ⟨held, executable, wasThere⟩
  · exact same.files location isElsewhere

end SameFiles

end FixtureRunner.Disk
