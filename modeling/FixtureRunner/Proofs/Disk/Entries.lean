/-
The entries of a disk after a change.

A change at one location is seen there and nowhere else.  The root cannot be changed.
-/

import FixtureRunner.Disk.Basic

namespace FixtureRunner.Disk

variable (disk : Disk) (location other : Location) (entry : Entry)

@[simp] theorem here_put : (disk.put location entry).here = disk.here := rfl

@[simp] theorem here_erase : (disk.erase location).here = disk.here := rfl

theorem entryAt?_put (isBelow : location ≠ []) :
    (disk.put location entry).entryAt? other =
      if other = location then some entry else disk.entryAt? other := by
  by_cases isRoot : other = []
  · rw [if_neg (fun same => isBelow (same.symm.trans isRoot))]
    simp [entryAt?, isRoot]
  · simp only [entryAt?, put, isRoot, if_false, Std.ExtTreeMap.getElem?_insert,
      Std.LawfulEqCmp.compare_eq_iff_eq]
    by_cases isSame : other = location
    · simp [isSame]
    · simp [isSame, Ne.symm isSame]

theorem entryAt?_erase (isBelow : location ≠ []) :
    (disk.erase location).entryAt? other =
      if other = location then none else disk.entryAt? other := by
  by_cases isRoot : other = []
  · rw [if_neg (fun same => isBelow (same.symm.trans isRoot))]
    simp [entryAt?, isRoot]
  · simp only [entryAt?, erase, isRoot, if_false, Std.ExtTreeMap.getElem?_erase,
      Std.LawfulEqCmp.compare_eq_iff_eq]
    by_cases isSame : other = location
    · simp [isSame]
    · simp [isSame, Ne.symm isSame]

variable {disk location entry}

theorem put_eq_self (isBelow : location ≠ []) (isThere : disk.entryAt? location = some entry) :
    disk.put location entry = disk := by
  have present : disk.entries[location]? = some entry := by
    simpa [entryAt?, isBelow] using isThere
  have same : disk.entries.insert location entry = disk.entries := by
    apply Std.ExtTreeMap.ext_getElem?
    intro key
    rw [Std.ExtTreeMap.getElem?_insert]
    by_cases isSame : compare location key = .eq
    · rw [if_pos isSame, ← Std.LawfulEqCmp.eq_of_compare isSame, present]
    · rw [if_neg isSame]
  rw [put, same]

theorem erase_eq_self (isBelow : location ≠ []) (isFree : disk.entryAt? location = none) :
    disk.erase location = disk := by
  have absent : disk.entries[location]? = none := by
    simpa [entryAt?, isBelow] using isFree
  have same : disk.entries.erase location = disk.entries := by
    apply Std.ExtTreeMap.ext_getElem?
    intro key
    rw [Std.ExtTreeMap.getElem?_erase]
    by_cases isSame : compare location key = .eq
    · rw [if_pos isSame, ← Std.LawfulEqCmp.eq_of_compare isSame, absent]
    · rw [if_neg isSame]
  rw [erase, same]

/-! ### Files -/

/-- Whether a file written at a location can be executed: one that takes the place of a
file that can be, can be too. -/
def executableAt (disk : Disk) (location : Location) : Bool :=
  match disk.entryAt? location with
  | some (.file _ executable) => executable
  | _ => false

/-- The disk with a file of the given content at a location. -/
def store (disk : Disk) (location : Location) (content : Bytes) : Disk :=
  disk.put location (.file content (disk.executableAt location))

@[simp] theorem here_store (disk : Disk) (location : Location) (content : Bytes) :
    (disk.store location content).here = disk.here := rfl

theorem entryAt?_store (disk : Disk) (location other : Location) (content : Bytes)
    (isBelow : location ≠ []) :
    (disk.store location content).entryAt? other =
      if other = location then some (.file content (disk.executableAt location))
      else disk.entryAt? other :=
  entryAt?_put disk location other _ isBelow

theorem executableAt_congr {before after : Disk} {location : Location}
    (same : after.entryAt? location = before.entryAt? location) :
    after.executableAt location = before.executableAt location := by
  rw [executableAt, executableAt, same]

theorem store_eq_self {content : Bytes} {executable : Bool} (isBelow : location ≠ [])
    (isFile : disk.entryAt? location = some (.file content executable)) :
    disk.store location content = disk := by
  have flag : disk.executableAt location = executable := by
    simp [executableAt, isFile]
  rw [store, flag]
  exact put_eq_self isBelow isFile

end FixtureRunner.Disk
