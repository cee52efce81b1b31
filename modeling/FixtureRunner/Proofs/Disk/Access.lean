/-
Requests at a place of their own.

A path that leads to a name which is no link is read, written and removed at that place
alone.  What a request can change is said by the paths it is given: everything else is
the same before and after.
-/

import FixtureRunner.Proofs.Disk.Route

namespace FixtureRunner.Disk

/-! ### Places -/

/-- The place that a path names; a link there is not followed. -/
def placeOf? (disk : Disk) (path : Path) : Option Location :=
  match disk.route .edit path with
  | .ok (.name folder name _) => some (folder ++ [name])
  | _ => none

def isLink (disk : Disk) (path : Path) : Bool :=
  match (disk.placeOf? path).bind disk.entryAt? with
  | some (.link _) => true
  | _ => false

variable {disk : Disk} {path : Path} {place : Location}

theorem placeOf?_eq_some_iff :
    disk.placeOf? path = some place ↔
      ∃ folder name closed, disk.route .edit path = .ok (.name folder name closed) ∧
        place = folder ++ [name] := by
  rw [placeOf?]
  constructor
  · intro isPlace
    split at isPlace
    · rename_i folder name closed routed
      exact ⟨folder, name, closed, routed, (Option.some.inj isPlace).symm⟩
    · cases isPlace
  · rintro ⟨folder, name, closed, routed, rfl⟩
    rw [routed]

theorem isLink_iff :
    disk.isLink path = true ↔
      ∃ place target, disk.placeOf? path = some place ∧
        disk.entryAt? place = some (.link target) := by
  rw [isLink]
  constructor
  · intro isLink
    split at isLink
    · rename_i target isThere
      obtain ⟨place, isPlace, isEntry⟩ := Option.bind_eq_some_iff.mp isThere
      exact ⟨place, target, isPlace, isEntry⟩
    · cases isLink
  · rintro ⟨place, target, isPlace, isEntry⟩
    rw [isPlace, Option.bind_some, isEntry]

/-- The disks agree everywhere but at the places that some paths name. -/
structure SameExcept (paths : List Path) (before after : Disk) : Prop where
  here : after.here = before.here
  elsewhere : ∀ location, (∀ path ∈ paths, before.placeOf? path ≠ some location) →
    after.entryAt? location = before.entryAt? location

section Leads

variable {disk : Disk} {path : Path} {folder : Location} {name : String}

theorem Leads.placeOf? (leads : disk.Leads path folder name) :
    disk.placeOf? path = some (folder ++ [name]) := by
  rw [Disk.placeOf?, leads.route_edit]

theorem Leads.isLink_eq_false_iff (leads : disk.Leads path folder name) :
    disk.isLink path = false ↔
      ∀ target, disk.entryAt? (folder ++ [name]) ≠ some (.link target) := by
  rw [Bool.eq_false_iff, Ne, Disk.isLink_iff, leads.placeOf?]
  simp

end Leads

/-- The place that a path names has the last name of the path. -/
theorem placeOf?_concat {leading : List String} {name : String}
    (segments : segmentsOf path.text = leading ++ [name]) (isName : IsName name)
    (isPlace : disk.placeOf? path = some place) : ∃ folder, place = folder ++ [name] := by
  obtain ⟨reached, found, closed, routed, rfl⟩ := placeOf?_eq_some_iff.mp isPlace
  obtain ⟨_, _, _, settled⟩ := route_eq_ok_iff.mp routed
  rw [segments] at settled
  obtain ⟨links, folder, left, reaches, count⟩ := reaches_of_settle disk .edit isName settled
  rw [count, settle_of_reaches disk .edit _ isName.1 reaches] at settled
  obtain ⟨rfl, rfl⟩ := eq_of_settle_edit isName settled
  exact ⟨reached, rfl⟩

/-! ### Requests -/

/-- For this purpose the path is followed to a name at the place, which is not followed as a link
nor has to be a folder. -/
def RoutesTo (disk : Disk) (purpose : Purpose) (path : Path) (place : Location) : Prop :=
  ∃ folder name, place = folder ++ [name] ∧
    disk.route purpose path = .ok (.name folder name false)

namespace RoutesTo

theorem find_eq (routes : disk.RoutesTo .look path place) :
    disk.find path =
      match disk.entryAt? place with
      | none => .error .missing
      | some entry => .ok (place, entry) := by
  obtain ⟨folder, name, rfl, routed⟩ := routes
  rw [find, routed]
  simp only [bind, Except.bind]
  cases disk.entryAt? (folder ++ [name]) with
  | none => rfl
  | some entry => cases entry <;> rfl

theorem read_eq (routes : disk.RoutesTo .look path place) :
    disk.read path =
      match disk.entryAt? place with
      | none => .error .missing
      | some (.file content _) => .ok content
      | some _ => .error .isFolder := by
  rw [read, routes.find_eq]
  cases disk.entryAt? place with
  | none => rfl
  | some entry => cases entry <;> rfl

theorem isFile_eq (routes : disk.RoutesTo .look path place) :
    disk.isFile path =
      match disk.entryAt? place with
      | some (.file _ _) => true
      | _ => false := by
  rw [isFile, routes.find_eq]
  cases disk.entryAt? place with
  | none => rfl
  | some entry => cases entry <;> rfl

theorem write_eq (routes : disk.RoutesTo .write path place) (content : Bytes) :
    disk.write path content =
      match disk.entryAt? place with
      | some .folder => .error .isFolder
      | _ => .ok (disk.store place content) := by
  obtain ⟨folder, name, rfl, routed⟩ := routes
  rw [write, writable, routed]
  simp only [bind, Except.bind, store, executableAt]
  cases found : disk.entryAt? (folder ++ [name]) with
  | none => rfl
  | some entry => cases entry <;> rfl

theorem write_open (routes : disk.RoutesTo .write path place) (content : Bytes)
    (isOpen : disk.entryAt? place ≠ some .folder) :
    disk.write path content = .ok (disk.store place content) := by
  rw [routes.write_eq]
  split
  · contradiction
  · rfl

theorem remove_eq (routes : disk.RoutesTo .edit path place) :
    disk.remove path =
      match disk.entryAt? place with
      | none => .error .missing
      | some .folder => .error .isFolder
      | some _ => .ok (disk.erase place) := by
  obtain ⟨folder, name, rfl, routed⟩ := routes
  rw [remove, removable, routed]
  simp only [bind, Except.bind]
  cases found : disk.entryAt? (folder ++ [name]) with
  | none => rfl
  | some entry => cases entry <;> rfl

end RoutesTo

theorem Leads.routesTo {folder : Location} {name : String} (leads : disk.Leads path folder name)
    (isNoLink : ∀ target, disk.entryAt? (folder ++ [name]) ≠ some (.link target))
    (purpose : Purpose) : disk.RoutesTo purpose path (folder ++ [name]) :=
  ⟨folder, name, rfl, leads.route_of_no_link purpose isNoLink⟩

/-! ### Where requests succeed -/

variable {disk after : Disk} {path : Path} {location : Location} {content : Bytes}

theorem route_of_read (isRead : disk.read path = .ok content) :
    ∃ folder name executable,
      disk.entryAt? (folder ++ [name]) = some (.file content executable) ∧
        ∀ purpose, purpose ≠ .edit →
          disk.route purpose path = .ok (.name folder name false) := by
  have routed : ∃ folder name, disk.route .look path = .ok (.name folder name false) := by
    rw [read, find] at isRead
    cases routed : disk.route .look path with
    | error cause => simp [routed, bind, Except.bind] at isRead
    | ok spot =>
        cases spot with
        | folder location =>
            simp [routed, bind, Except.bind, pure, Except.pure, throw, throwThe,
              MonadExceptOf.throw] at isRead
        | name folder name closed =>
            cases closed with
            | false => exact ⟨folder, name, rfl⟩
            | true =>
                simp only [routed, bind, Except.bind] at isRead
                cases found : disk.entryAt? (folder ++ [name]) with
                | none =>
                    simp [found, throw, throwThe, MonadExceptOf.throw] at isRead
                | some entry =>
                    cases entry <;>
                      simp [found, throw, throwThe, MonadExceptOf.throw, pure, Except.pure] at isRead
  obtain ⟨folder, name, routed⟩ := routed
  rw [RoutesTo.read_eq ⟨folder, name, rfl, routed⟩] at isRead
  split at isRead
  · cases isRead
  · rename_i found executable isFile
    cases isRead
    refine ⟨folder, name, executable, isFile, fun purpose isFollowing => ?_⟩
    cases purpose with
    | look => exact routed
    | edit => exact absurd rfl isFollowing
    | write =>
        obtain ⟨hasNoNul, isNonempty, fits, settled⟩ := route_eq_ok_iff.mp routed
        exact route_eq_ok_iff.mpr ⟨hasNoNul, isNonempty, fits, settle_write_of_look settled⟩
  · cases isRead

theorem leads_of_read (isRead : disk.read path = .ok content) :
    ∃ folder name, disk.Leads path folder name := by
  obtain ⟨_, _, _, _, routed⟩ := route_of_read isRead
  exact leads_of_route (routed .look (by decide))

/-- A path that is written is read where it is written, and has no final separator. -/
theorem settle_look_of_write {room : Nat} {folder reached : Location} {segments : List String}
    {name : String} {closed : Bool}
    (settled : disk.settle .write room folder segments = .ok (.name reached name closed)) :
    closed = false ∧ disk.settle .look room folder segments = .ok (.name reached name closed) := by
  rw [settle_eq_ok_iff] at settled ⊢
  generalize isSpot : Spot.name reached name closed = spot at settled ⊢
  induction settled with
  | folder _ => cases isSpot
  | name stops isAllowed fits isEnd =>
      cases isSpot
      exact ⟨by simpa using isAllowed, .name stops (by simp) fits fun _ => isEnd (by decide)⟩
  | follow stops _ fits _ isLink _ ih =>
      exact ⟨(ih isSpot).1, .follow stops (by simp) fits (by decide) isLink (ih isSpot).2⟩
  | pass stops _ ih => exact ⟨(ih isSpot).1, .pass stops (ih isSpot).2⟩

theorem route_of_write (isWritten : disk.write path content = .ok after) :
    ∃ folder name, disk.route .write path = .ok (.name folder name false) ∧
      disk.route .look path = .ok (.name folder name false) := by
  rw [write, writable] at isWritten
  cases routed : disk.route .write path with
  | error cause => simp [routed, bind, Except.bind] at isWritten
  | ok spot =>
      cases spot with
      | folder location =>
          simp [routed, bind, Except.bind, throw, throwThe, MonadExceptOf.throw] at isWritten
      | name folder name closed =>
          obtain ⟨hasNoNul, isNonempty, fits, settled⟩ := route_eq_ok_iff.mp routed
          obtain ⟨rfl, looks⟩ := settle_look_of_write settled
          exact ⟨folder, name, rfl, route_eq_ok_iff.mpr ⟨hasNoNul, isNonempty, fits, looks⟩⟩

theorem leads_of_write (isWritten : disk.write path content = .ok after) :
    ∃ folder name, disk.Leads path folder name := by
  obtain ⟨folder, name, routed, _⟩ := route_of_write isWritten
  exact leads_of_route routed

theorem find_of_folder (routed : disk.route .look path = .ok (.folder location)) :
    disk.find path = .ok (location, .folder) := by
  rw [find, routed]
  rfl

theorem write_of_folder (content : Bytes) (routed : disk.route .write path = .ok (.folder location)) :
    disk.write path content = .error .isFolder := by
  rw [write, writable, routed]
  rfl

theorem keepsRoutes_store (content : Bytes) (isBelow : place ≠ [])
    (isNoFolder : disk.entryAt? place ≠ some .folder)
    (isNoLink : ∀ target, disk.entryAt? place ≠ some (.link target)) :
    KeepsRoutes disk (disk.store place content) := by
  refine keepsRoutes_of_change (here_store disk _ content) (fun location isElsewhere => ?_)
    isNoFolder isNoLink
  rw [entryAt?_store _ _ _ _ isBelow, if_neg isElsewhere]

theorem eq_store_of_write (isNoLink : disk.isLink path = false)
    (isWritten : disk.write path content = .ok after) :
    ∃ folder name, disk.Leads path folder name ∧ after.Leads path folder name ∧
      after = disk.store (folder ++ [name]) content := by
  obtain ⟨folder, name, leads⟩ := leads_of_write isWritten
  have isPlain := leads.isLink_eq_false_iff.mp isNoLink
  rw [(leads.routesTo isPlain .write).write_eq] at isWritten
  split at isWritten
  · cases isWritten
  · rename_i isOpen
    obtain rfl := Except.ok.inj isWritten
    have keeps := keepsRoutes_store content (by simp) isOpen isPlain
    exact ⟨folder, name, leads, leads.mono keeps, rfl⟩

theorem sameExcept_of_write (isNoLink : disk.isLink path = false)
    (isWritten : disk.write path content = .ok after) :
    disk.SameExcept [path] after ∧ after.isLink path = false := by
  obtain ⟨folder, name, leads, leadsStill, rfl⟩ := eq_store_of_write isNoLink isWritten
  constructor
  · refine ⟨rfl, fun location isElsewhere => ?_⟩
    have isOther : location ≠ folder ++ [name] := by
      rintro rfl
      exact isElsewhere path (by simp) leads.placeOf?
    rw [entryAt?_store _ _ _ _ (by simp), if_neg isOther]
  · rw [leadsStill.isLink_eq_false_iff, entryAt?_store _ _ _ _ (by simp), if_pos rfl]
    simp

/-- What is written can be read, through links as well. -/
theorem read_of_write (isWritten : disk.write path content = .ok after) :
    after.read path = .ok content := by
  obtain ⟨folder, name, routed, looks⟩ := route_of_write isWritten
  have isPlain := not_link_of_settle (by decide) (route_eq_ok_iff.mp routed).2.2.2
  rw [RoutesTo.write_eq ⟨folder, name, rfl, routed⟩] at isWritten
  split at isWritten
  · cases isWritten
  · rename_i isOpen
    obtain rfl := Except.ok.inj isWritten
    have stored (location : Location) :=
      entryAt?_store disk (folder ++ [name]) location content (by simp)
    have looksStill : (disk.store (folder ++ [name]) content).route .look path =
        .ok (.name folder name false) := by
      refine route_mono (keepsRoutes_store content (by simp) isOpen isPlain) ?_ looks
      intro location target isLink
      rw [stored] at isLink
      split at isLink
      · cases isLink
      · exact isLink
    rw [RoutesTo.read_eq ⟨folder, name, rfl, looksStill⟩, stored, if_pos rfl]

end FixtureRunner.Disk
