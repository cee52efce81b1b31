/-
Actions on the files of a housed fixture.

At its home each file of a fixture is read, written and removed on its own: a request
succeeds unless a folder is in the way, and it touches its own place only.
-/

import FixtureRunner.Fixture.Files
import FixtureRunner.Proofs.Fixture.Home
import FixtureRunner.Proofs.Text.Encoding
import FixtureRunner.Proofs.Workspace

namespace FixtureRunner

/-! ### Touching places -/

structure Home.Touches (home : Home) (roles : List Role) (before after : Disk) : Prop where
  here : after.here = before.here
  elsewhere : ∀ location, (∀ role ∈ roles, location ≠ home.place role) →
    after.entryAt? location = before.entryAt? location

namespace Home.Touches

variable {home : Home} {roles : List Role} {before between after : Disk}

theorem refl (home : Home) (roles : List Role) (disk : Disk) : home.Touches roles disk disk :=
  ⟨rfl, fun _ _ => rfl⟩

theorem mono {more : List Role} (touches : home.Touches roles before after)
    (isWithin : ∀ role ∈ roles, role ∈ more) : home.Touches more before after :=
  ⟨touches.here, fun location isElsewhere => touches.elsewhere location
    fun role member => isElsewhere role (isWithin role member)⟩

theorem trans (first : home.Touches roles before between)
    (second : home.Touches roles between after) : home.Touches roles before after := by
  refine ⟨second.here.trans first.here, ?_⟩
  intro location isElsewhere
  rw [second.elsewhere location isElsewhere, first.elsewhere location isElsewhere]

theorem entry (touches : home.Touches roles before after) {role : Role}
    (isOther : role ∉ roles) :
    after.entryAt? (home.place role) = before.entryAt? (home.place role) := by
  apply touches.elsewhere
  intro touched member same
  rw [home.place_inj.mp same] at isOther
  exact isOther member

theorem isOpen (touches : home.Touches roles before after) {role : Role} (isOther : role ∉ roles)
    (isOpen : home.IsOpen before role) : home.IsOpen after role := by
  rw [IsOpen, touches.entry isOther]
  exact isOpen

theorem store (home : Home) (disk : Disk) (role : Role) (content : Bytes) :
    home.Touches [role] disk (disk.store (home.place role) content) := by
  refine ⟨rfl, ?_⟩
  intro location isElsewhere
  rw [Disk.entryAt?_store _ _ _ _ (home.place_ne_nil role),
    if_neg (isElsewhere role (List.mem_singleton.mpr rfl))]

theorem erase (home : Home) (disk : Disk) (role : Role) :
    home.Touches [role] disk (disk.erase (home.place role)) := by
  refine ⟨rfl, ?_⟩
  intro location isElsewhere
  rw [Disk.entryAt?_erase _ _ _ (home.place_ne_nil role),
    if_neg (isElsewhere role (List.mem_singleton.mpr rfl))]

end Home.Touches

namespace Home

variable (home : Home) (disk : Disk) (role other : Role) (content : Bytes)

@[simp] theorem entryAt?_store :
    (disk.store (home.place role) content).entryAt? (home.place other) =
      if other = role then some (.file content (disk.executableAt (home.place role)))
      else disk.entryAt? (home.place other) := by
  rw [Disk.entryAt?_store _ _ _ _ (home.place_ne_nil role)]
  simp only [place_inj]

@[simp] theorem entryAt?_erase :
    (disk.erase (home.place role)).entryAt? (home.place other) =
      if other = role then none else disk.entryAt? (home.place other) := by
  rw [Disk.entryAt?_erase _ _ _ (home.place_ne_nil role)]
  simp only [place_inj]

end Home

namespace Disk.Houses

variable {disk after : Disk} {artifacts : Artifacts} {home : Home} {roles : List Role}
  (houses : disk.Houses artifacts home)

include houses

theorem keepsRoutes (touches : home.Touches roles disk after)
    (isNoFolder : ∀ role ∈ roles, home.IsOpen disk role) : KeepsRoutes disk after := by
  have kept (location : Location) (entry : Entry) (isThere : disk.entryAt? location = some entry)
      (isRoute : ∀ role ∈ roles, disk.entryAt? (home.place role) ≠ some entry) :
      after.entryAt? location = some entry := by
    rw [touches.elsewhere location, isThere]
    rintro role member rfl
    exact isRoute role member isThere
  exact ⟨touches.here, fun location isFolder => kept location _ isFolder isNoFolder,
    fun location target isLink => kept location _ isLink
      fun role _member => houses.isNoLink role target⟩

theorem touch (touches : home.Touches roles disk after)
    (isNoFolder : ∀ role ∈ roles, home.IsOpen disk role)
    (isNoLink : ∀ role ∈ roles, ∀ target, after.entryAt? (home.place role) ≠ some (.link target)) :
    after.Houses artifacts home := by
  have keeps := houses.keepsRoutes touches isNoFolder
  refine ⟨fun role => (houses.leads role).mono keeps, ?_⟩
  intro role target isLink
  by_cases isTouched : role ∈ roles
  · exact isNoLink role isTouched target isLink
  · rw [touches.entry isTouched] at isLink
    exact houses.isNoLink role target isLink

theorem isLink_eq_false (role : Role) : disk.isLink (artifacts.path role) = false :=
  (houses.leads role).isLink_eq_false_iff.mpr (houses.isNoLink role)

theorem store {role : Role} (content : Bytes) (isOpen : home.IsOpen disk role) :
    (disk.store (home.place role) content).Houses artifacts home := by
  refine houses.touch (.store home disk role content) ?_ ?_
  · simpa using isOpen
  · simp

theorem erase {role : Role} (isOpen : home.IsOpen disk role) :
    (disk.erase (home.place role)).Houses artifacts home := by
  refine houses.touch (.erase home disk role) ?_ ?_
  · simpa using isOpen
  · simp

theorem placeOf? (role : Role) : disk.placeOf? (artifacts.path role) = some (home.place role) :=
  (houses.leads role).placeOf?

theorem sameExcept (touches : home.Touches roles disk after) :
    disk.SameExcept (roles.map artifacts.path) after := by
  refine ⟨touches.here, ?_⟩
  intro location isElsewhere
  apply touches.elsewhere
  rintro role member rfl
  exact isElsewhere _ (List.mem_map_of_mem member) (houses.placeOf? role)

theorem touches (same : disk.SameExcept (roles.map artifacts.path) after) :
    home.Touches roles disk after := by
  refine ⟨same.here, ?_⟩
  intro location isElsewhere
  apply same.elsewhere
  intro path member isPlace
  obtain ⟨role, isRole, rfl⟩ := List.mem_map.mp member
  rw [houses.placeOf? role] at isPlace
  exact isElsewhere role isRole (Option.some.inj isPlace).symm

/-! ### Requests -/

variable (role : Role)

theorem routesTo (purpose : Disk.Purpose) :
    disk.RoutesTo purpose (artifacts.path role) (home.place role) :=
  (houses.leads role).routesTo (houses.isNoLink role) purpose

/-- Requests see nothing of a disk but the entry at the place. -/
theorem find_congr (housesAfter : after.Houses artifacts home) (role : Role)
    (same : after.entryAt? (home.place role) = disk.entryAt? (home.place role)) :
    after.find (artifacts.path role) = disk.find (artifacts.path role) := by
  rw [(houses.routesTo role .look).find_eq, (housesAfter.routesTo role .look).find_eq, same]

theorem read_congr (housesAfter : after.Houses artifacts home) (role : Role)
    (same : after.entryAt? (home.place role) = disk.entryAt? (home.place role)) :
    after.read (artifacts.path role) = disk.read (artifacts.path role) := by
  rw [(houses.routesTo role .look).read_eq, (housesAfter.routesTo role .look).read_eq, same]

theorem read_eq_ok_iff (content : Bytes) :
    disk.read (artifacts.path role) = .ok content ↔
      ∃ executable, disk.entryAt? (home.place role) = some (.file content executable) := by
  rw [(houses.routesTo role .look).read_eq]
  cases disk.entryAt? (home.place role) with
  | none => simp
  | some entry => cases entry <;> simp

theorem isFile_iff :
    disk.isFile (artifacts.path role) = true ↔
      ∃ content executable, disk.entryAt? (home.place role) = some (.file content executable) := by
  rw [(houses.routesTo role .look).isFile_eq]
  cases disk.entryAt? (home.place role) with
  | none => simp
  | some entry => cases entry <;> simp

theorem find_eq_missing_iff :
    disk.find (artifacts.path role) = .error .missing ↔
      disk.entryAt? (home.place role) = none := by
  rw [(houses.routesTo role .look).find_eq]
  cases disk.entryAt? (home.place role) <;> simp

theorem write_of_open (content : Bytes) (isOpen : home.IsOpen disk role) :
    disk.write (artifacts.path role) content = .ok (disk.store (home.place role) content) :=
  (houses.routesTo role .write).write_open content isOpen

theorem read_of_entry {content : Bytes} {executable : Bool}
    (isFile : disk.entryAt? (home.place role) = some (.file content executable)) :
    disk.read (artifacts.path role) = .ok content :=
  (houses.read_eq_ok_iff role content).mpr ⟨executable, isFile⟩

theorem open_of_write {content : Bytes}
    (isWritten : disk.write (artifacts.path role) content = .ok after) : home.IsOpen disk role := by
  intro isFolder
  rw [(houses.routesTo role .write).write_eq, isFolder] at isWritten
  cases isWritten

theorem write_eq_ok_iff (content : Bytes) (after : Disk) :
    disk.write (artifacts.path role) content = .ok after ↔
      home.IsOpen disk role ∧
        after = disk.store (home.place role) content := by
  constructor
  · intro isWritten
    have isOpen := houses.open_of_write role isWritten
    rw [houses.write_of_open role content isOpen] at isWritten
    exact ⟨isOpen, (Except.ok.inj isWritten).symm⟩
  · rintro ⟨isOpen, rfl⟩
    exact houses.write_of_open role content isOpen

theorem remove_iff (after : Disk) :
    (disk.remove (artifacts.path role) = .ok after ∨
        disk.remove (artifacts.path role) = .error .missing ∧ after = disk) ↔
      home.IsOpen disk role ∧
        after = disk.erase (home.place role) := by
  rw [(houses.routesTo role .edit).remove_eq]
  cases found : disk.entryAt? (home.place role) with
  | none => simp [found, Disk.erase_eq_self (home.place_ne_nil role) found]
  | some entry =>
      cases entry with
      | folder => simp [found]
      | file content executable => simp [found, eq_comm]
      | link target => exact absurd found (houses.isNoLink role target)

theorem open_of_find
    (isNoFolder : ∀ location, disk.find (artifacts.path role) ≠ .ok (location, .folder)) :
    home.IsOpen disk role := by
  intro isFolder
  apply isNoFolder (home.place role)
  rw [(houses.routesTo role .look).find_eq, isFolder]

theorem folder_of_find {location : Location}
    (found : disk.find (artifacts.path role) = .ok (location, .folder)) :
    disk.entryAt? (home.place role) = some .folder := by
  rw [(houses.routesTo role .look).find_eq] at found
  split at found
  · cases found
  · rename_i entry isThere
    obtain ⟨_, rfl⟩ := Prod.mk.inj (Except.ok.inj found)
    exact isThere

end Disk.Houses

/-! ### Single steps -/

namespace Artifacts

open FixtureRunner.Action

theorem run_removeIfPresent_at {workspace : Workspace} {path : Path} {place : Location}
    (routes : workspace.disk.RoutesTo .edit path place) :
    (removeIfPresent path).run workspace =
      if workspace.disk.entryAt? place = some .folder then
        (.error (.access path .isFolder), workspace)
      else (.ok (), { workspace with disk := workspace.disk.erase place }) := by
  rw [run_removeIfPresent, routes.remove_eq]
  cases found : workspace.disk.entryAt? place with
  | none =>
      obtain ⟨folder, name, rfl, _⟩ := routes
      rw [Disk.erase_eq_self (by simp) found]
      rfl
  | some entry => cases entry <;> rfl

variable {artifacts : Artifacts} {home : Home} {disk : Disk} {role : Role}
  (houses : disk.Houses artifacts home)

include houses

theorem ends_write (content : Bytes) (isOpen : home.IsOpen disk role) :
    (writeBytes (artifacts.path role) content).Ends disk (.ok ())
      (disk.store (home.place role) content) [] :=
  ends_writeBytes (houses.write_of_open role content isOpen)

theorem ends_write_folder (content : Bytes)
    (isFolder : disk.entryAt? (home.place role) = some .folder) :
    (writeBytes (artifacts.path role) content).Ends disk
      (.error (.access (artifacts.path role) .isFolder)) disk [] := by
  refine ends_writeBytes_error ?_
  rw [(houses.routesTo role .write).write_eq, isFolder]

theorem ends_remove (isOpen : home.IsOpen disk role) :
    (removeIfPresent (artifacts.path role)).Ends disk (.ok ())
      (disk.erase (home.place role)) [] := by
  refine ends_of_run ?_
  rintro workspace rfl
  rw [run_removeIfPresent_at (houses.routesTo role .edit)]
  exact if_neg isOpen

theorem ends_remove_folder (isFolder : disk.entryAt? (home.place role) = some .folder) :
    (removeIfPresent (artifacts.path role)).Ends disk
      (.error (.access (artifacts.path role) .isFolder)) disk [] := by
  refine ends_of_run ?_
  rintro workspace rfl
  rw [run_removeIfPresent_at (houses.routesTo role .edit)]
  exact if_pos isFolder

end Artifacts

end FixtureRunner
