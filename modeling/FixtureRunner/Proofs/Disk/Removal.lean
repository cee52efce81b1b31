/-
Taking files away, one path after another.

Where a path leads depends on folders and links only, so files may come and go on the way.
Removing what some paths name, none of them a link, leaves the disk without the files at
their places, and removing it again changes nothing.
-/

import FixtureRunner.Proofs.Disk.Access

namespace FixtureRunner

/-- Folders and links are what routes are made of. -/
def Entry.isPassage : Entry → Bool
  | .file _ _ => false
  | .folder => true
  | .link _ => true

namespace Disk

/-! ### Disks with the same routes -/

/-- The disks have the same folders and the same links. -/
structure SameFrame (before after : Disk) : Prop where
  here : after.here = before.here
  frame : ∀ location entry, entry.isPassage = true →
    (after.entryAt? location = some entry ↔ before.entryAt? location = some entry)

namespace SameFrame

variable {before between after : Disk}

theorem refl (disk : Disk) : SameFrame disk disk :=
  ⟨rfl, fun _ _ _ => Iff.rfl⟩

theorem symm (same : SameFrame before after) : SameFrame after before :=
  ⟨same.here.symm, fun location entry isPassage => (same.frame location entry isPassage).symm⟩

theorem trans (first : SameFrame before between) (second : SameFrame between after) :
    SameFrame before after :=
  ⟨second.here.trans first.here, fun location entry isPassage =>
    (second.frame location entry isPassage).trans (first.frame location entry isPassage)⟩

variable (same : SameFrame before after)

include same

theorem keepsRoutes : KeepsRoutes before after :=
  ⟨same.here, fun location => (same.frame location .folder rfl).mpr,
    fun location target => (same.frame location (.link target) rfl).mpr⟩

theorem route_eq_ok_iff {purpose : Purpose} {path : Path} {spot : Spot} :
    after.route purpose path = .ok spot ↔ before.route purpose path = .ok spot :=
  ⟨route_mono same.symm.keepsRoutes fun location target =>
      (same.frame location (.link target) rfl).mpr,
    route_mono same.keepsRoutes fun location target =>
      (same.frame location (.link target) rfl).mp⟩

theorem placeOf?_eq (path : Path) : after.placeOf? path = before.placeOf? path := by
  apply Option.ext
  intro place
  rw [placeOf?_eq_some_iff, placeOf?_eq_some_iff]
  simp only [same.route_eq_ok_iff]

theorem isLink_eq (path : Path) : after.isLink path = before.isLink path := by
  rw [Bool.eq_iff_iff, isLink_iff, isLink_iff]
  simp only [same.placeOf?_eq, same.frame _ (.link _) rfl]

theorem isLink_eq_false {named : List Path} {path : Path}
    (noLinks : ∀ path ∈ named, before.isLink path = false) (member : path ∈ named) :
    after.isLink path = false :=
  (same.isLink_eq path).trans (noLinks path member)

end SameFrame

/-! ### Disks that cannot be told apart -/

section Same

variable {first second : Disk} (same : SameExcept [] first second)

include same

theorem advance_congr (folder : Location) (segments : List String) :
    second.advance folder segments = first.advance folder segments := by
  induction segments generalizing folder with
  | nil => rfl
  | cons segment rest ih =>
      simp only [advance, ih, same.elsewhere _ (by simp)]

theorem route_congr (purpose : Purpose) (path : Path) :
    second.route purpose path = first.route purpose path := by
  have settle_congr (room : Nat) (folder : Location) (segments : List String) :
      second.settle purpose room folder segments = first.settle purpose room folder segments := by
    induction room generalizing folder segments with
    | zero => rfl
    | succ room ih =>
        simp only [settle, advance_congr same, ih, same.elsewhere _ (by simp)]
  rw [route, route, same.here, settle_congr]

end Same

/-! ### Disks with less on them -/

/-- Nothing but files has been taken away. -/
structure Sheds (before after : Disk) : Prop extends SameFrame before after where
  entry : ∀ location, after.entryAt? location = before.entryAt? location ∨
    after.entryAt? location = none

section Sheds

variable {before after : Disk} (sheds : Sheds before after)

include sheds

theorem Sheds.advance_missing {folder : Location} {segments : List String}
    (isMissing : before.advance folder segments = .failed .missing) :
    after.advance folder segments = .failed .missing := by
  induction segments generalizing folder with
  | nil => simp [advance] at isMissing
  | cons segment rest ih =>
      simp only [advance] at isMissing ⊢
      split
      · rename_i isNone
        rw [if_pos isNone] at isMissing
        exact ih isMissing
      · rename_i isSome
        rw [if_neg isSome] at isMissing
        split
        · rename_i isUp
          rw [if_pos isUp] at isMissing
          exact ih isMissing
        · rename_i isDown
          rw [if_neg isDown] at isMissing
          split
          · rename_i isLast
            simp [isLast] at isMissing
          · rename_i isInner
            rw [if_neg isInner] at isMissing
            split
            · rename_i isLong
              simp [isLong] at isMissing
            · rename_i fits
              rw [if_neg fits] at isMissing
              cases found : before.entryAt? (folder ++ [segment]) with
              | none =>
                  have isFree : after.entryAt? (folder ++ [segment]) = none := by
                    rcases sheds.entry (folder ++ [segment]) with same | isFree
                    · rw [same, found]
                    · exact isFree
                  rw [isFree]
              | some entry =>
                  rw [found] at isMissing
                  cases entry with
                  | file content executable => cases isMissing
                  | folder =>
                      rw [sheds.keepsRoutes.folders _ found]
                      exact ih isMissing
                  | link target => cases isMissing

/-- A path that leads nowhere still leads nowhere. -/
theorem Sheds.settle_missing {purpose : Purpose} {room : Nat} {folder : Location}
    {segments : List String}
    (isMissing : before.settle purpose room folder segments = .error .missing) :
    after.settle purpose room folder segments = .error .missing := by
  induction room generalizing folder segments with
  | zero => simp [settle] at isMissing
  | succ room ih =>
      rw [settle] at isMissing ⊢
      rcases advance_mono sheds.keepsRoutes folder segments with ⟨error, failed⟩ | same
      · rw [failed] at isMissing
        obtain rfl := Except.error.inj isMissing
        rw [sheds.advance_missing failed]
      · rw [same]
        cases stop : before.advance folder segments with
        | folder location => simp [stop] at isMissing
        | failed error => simpa [stop] using isMissing
        | link place target rest =>
            simp only [stop] at isMissing
            exact ih isMissing
        | last place name closed =>
            simp only [stop] at isMissing ⊢
            split at isMissing
            · cases isMissing
            · rename_i isAllowed
              rw [if_neg isAllowed]
              split at isMissing
              · cases isMissing
              · rename_i fits
                rw [if_neg fits]
                split at isMissing
                · rename_i target isLink
                  rw [sheds.keepsRoutes.links _ _ isLink]
                  split at isMissing
                  · cases isMissing
                  · rename_i isFollowing
                    simp only [if_neg isFollowing]
                    exact ih isMissing
                · cases isMissing

theorem Sheds.route_missing {purpose : Purpose} {path : Path}
    (isMissing : before.route purpose path = .error .missing) :
    after.route purpose path = .error .missing := by
  rw [route] at isMissing ⊢
  rw [sheds.here]
  split
  · rename_i hasNul
    rw [if_pos hasNul] at isMissing
    cases isMissing
  · rename_i hasNoNul
    rw [if_neg hasNoNul] at isMissing
    split
    · rfl
    · rename_i isNonempty
      rw [if_neg isNonempty] at isMissing
      split
      · rename_i isLong
        simp [isLong] at isMissing
      · rename_i fits
        rw [if_neg fits] at isMissing
        exact sheds.settle_missing isMissing

end Sheds

/-! ### Removals -/

def NoFolder (disk : Disk) (path : Path) : Prop :=
  ∀ spot, disk.route .edit path = .ok spot → ∃ folder name closed,
    spot = .name folder name closed ∧ disk.entryAt? (folder ++ [name]) ≠ some .folder

theorem NoFolder.isOpen {disk : Disk} {path : Path} {place : Location}
    (noFolder : disk.NoFolder path) (isPlace : disk.placeOf? path = some place) :
    disk.entryAt? place ≠ some .folder := by
  obtain ⟨folder, name, closed, routed, rfl⟩ := placeOf?_eq_some_iff.mp isPlace
  obtain ⟨_, _, _, isSpot, isOpen⟩ := noFolder _ routed
  cases isSpot
  exact isOpen

theorem NoFolder.mono {before after : Disk} {path : Path} (same : SameFrame before after)
    (noFolder : before.NoFolder path) : after.NoFolder path := by
  intro spot routed
  obtain ⟨folder, name, closed, rfl, isOpen⟩ := noFolder spot (same.route_eq_ok_iff.mp routed)
  exact ⟨folder, name, closed, rfl, fun isFolder => isOpen ((same.frame _ .folder rfl).mp isFolder)⟩

/-- Removing what a path names, if anything, leaves another disk. -/
def Removes (disk : Disk) (path : Path) (smaller : Disk) : Prop :=
  disk.remove path = .ok smaller ∨ disk.remove path = .error .missing ∧ smaller = disk

section Removes

variable {disk smaller : Disk} {path : Path} (removes : disk.Removes path smaller)

include removes

/-- A removal finds a name, which is no folder and is free afterwards, or it finds that nothing
leads there. -/
theorem Removes.cases :
    (∃ folder name closed, disk.route .edit path = .ok (.name folder name closed) ∧
        disk.entryAt? (folder ++ [name]) ≠ some .folder ∧
        smaller = disk.erase (folder ++ [name])) ∨
      disk.route .edit path = .error .missing ∧ smaller = disk := by
  cases routed : disk.route .edit path with
  | error cause =>
      have isRefused : disk.remove path = .error cause := by
        rw [remove, removable, routed]
        rfl
      rw [Removes, isRefused] at removes
      simpa using removes
  | ok spot =>
      cases spot with
      | folder location =>
          have isRefused : disk.remove path = .error .isFolder := by
            rw [remove, removable, routed]
            rfl
          simp [Removes, isRefused] at removes
      | name folder name closed =>
          refine Or.inl ⟨folder, name, closed, rfl, ?_⟩
          have refuses (cause : SystemError) (isOther : cause ≠ .missing)
              (isRefused : disk.remove path = .error cause) : False := by
            simp [Removes, isRefused, isOther] at removes
          have isGone (isErased : disk.remove path = .ok (disk.erase (folder ++ [name]))) :
              smaller = disk.erase (folder ++ [name]) := by
            simpa [Removes, isErased, eq_comm] using removes
          cases found : disk.entryAt? (folder ++ [name]) with
          | none =>
              have isMissing : disk.remove path = .error .missing := by
                rw [remove, removable, routed]
                simp only [bind, Except.bind, found]
                rfl
              have isSame : smaller = disk := by simpa [Removes, isMissing] using removes
              exact ⟨by simp, isSame.trans (erase_eq_self (by simp) found).symm⟩
          | some entry =>
              have isNoFolder (isFolder : entry = .folder) : False := by
                refine refuses .isFolder (by decide) ?_
                rw [remove, removable, routed]
                simp only [bind, Except.bind, found, isFolder]
                rfl
              refine ⟨fun isFolder => isNoFolder (Option.some.inj isFolder), ?_⟩
              have isAnswer : disk.remove path =
                  if closed then .error .notFolder else .ok (disk.erase (folder ++ [name])) := by
                rw [remove, removable, routed]
                simp only [bind, Except.bind, found]
                cases entry with
                | folder => exact (isNoFolder rfl).elim
                | file content executable => cases closed <;> rfl
                | link target => cases closed <;> rfl
              cases closed with
              | true => exact (refuses .notFolder (by decide) isAnswer).elim
              | false => exact isGone isAnswer

theorem Removes.entry (location : Location) :
    (disk.placeOf? path = some location → smaller.entryAt? location = none) ∧
      (disk.placeOf? path ≠ some location →
        smaller.entryAt? location = disk.entryAt? location) := by
  rcases removes.cases with ⟨folder, name, closed, routed, _, rfl⟩ | ⟨routed, rfl⟩
  · have isPlace : disk.placeOf? path = some (folder ++ [name]) :=
      placeOf?_eq_some_iff.mpr ⟨folder, name, closed, routed, rfl⟩
    rw [isPlace, entryAt?_erase _ _ _ (by simp)]
    refine ⟨fun isThere => if_pos (Option.some.inj isThere).symm, fun isElsewhere => if_neg ?_⟩
    exact fun isThere => isElsewhere (congrArg some isThere.symm)
  · rw [placeOf?, routed]
    exact ⟨by simp, fun _ => rfl⟩

theorem Removes.noFolder : disk.NoFolder path := by
  intro spot routed
  rcases removes.cases with ⟨folder, name, closed, isName, isOpen, _⟩ | ⟨isMissing, _⟩
  · rw [isName] at routed
    exact ⟨folder, name, closed, (Except.ok.inj routed).symm, isOpen⟩
  · rw [isMissing] at routed
    cases routed

theorem Removes.here : smaller.here = disk.here := by
  rcases removes.cases with ⟨_, _, _, _, _, rfl⟩ | ⟨_, rfl⟩ <;> rfl

theorem Removes.sameFrame (isNoLink : disk.isLink path = false) : SameFrame disk smaller := by
  refine ⟨removes.here, fun location entry isPassage => ?_⟩
  by_cases isPlace : disk.placeOf? path = some location
  · rw [(removes.entry location).1 isPlace]
    refine iff_of_false nofun fun isThere => ?_
    cases entry with
    | file content executable => cases isPassage
    | folder => exact removes.noFolder.isOpen isPlace isThere
    | link target =>
        rw [isLink_iff.mpr ⟨location, target, isPlace, isThere⟩] at isNoLink
        cases isNoLink
  · rw [(removes.entry location).2 isPlace]

/-- A path that has been removed is found missing, whatever else is taken away. -/
theorem Removes.idle {after : Disk} (same : SameFrame disk smaller) (sheds : Sheds smaller after) :
    after.Removes path after := by
  have isGone (place : Location) (isFree : smaller.entryAt? place = none) :
      after.entryAt? place = none := by
    rcases sheds.entry place with unchanged | isFree'
    · rw [unchanged, isFree]
    · exact isFree'
  have isMissing : after.remove path = .error .missing := by
    rcases removes.cases with ⟨folder, name, closed, routed, _, rfl⟩ | ⟨routed, rfl⟩
    · have routedStill := (same.trans sheds.toSameFrame).route_eq_ok_iff.mpr routed
      have isFree := isGone (folder ++ [name]) (by rw [entryAt?_erase _ _ _ (by simp), if_pos rfl])
      rw [remove, removable, routedStill]
      simp only [bind, Except.bind, isFree]
      rfl
    · rw [remove, removable, sheds.route_missing routed]
      rfl
  exact Or.inr ⟨isMissing, rfl⟩

omit removes in
theorem ne_nil_of_removable {place : Location} (isRemovable : disk.removable path = .ok place) :
    place ≠ [] := by
  have removes : disk.Removes path (disk.erase place) := by
    rw [Removes, remove, isRemovable]
    exact Or.inl rfl
  rw [removable] at isRemovable
  rcases removes.cases with ⟨folder, name, closed, routed, _, _⟩ | ⟨routed, _⟩
  · rw [routed] at isRemovable
    simp only [bind, Except.bind] at isRemovable
    split at isRemovable
    · cases isRemovable
    · cases isRemovable
    · split at isRemovable
      · cases isRemovable
      · obtain rfl := Except.ok.inj isRemovable
        simp
  · rw [routed] at isRemovable
    cases isRemovable

theorem Removes.congr {other : Disk} (same : SameExcept [] disk other) :
    ∃ left, other.Removes path left ∧ SameExcept [] smaller left := by
  have sameRemovable : other.removable path = disk.removable path := by
    rw [removable, removable, route_congr same]
    simp only [same.elsewhere _ (by simp)]
  rw [Removes, remove] at removes
  cases answer : disk.removable path with
  | error cause =>
      rw [answer] at removes
      obtain ⟨isMissing, rfl⟩ := removes.resolve_left fun isErased => by cases isErased
      refine ⟨other, Or.inr ⟨?_, rfl⟩, same⟩
      rw [remove, sameRemovable, answer]
      exact isMissing
  | ok place =>
      rw [answer] at removes
      obtain rfl := Except.ok.inj (removes.resolve_right fun isMissing => by cases isMissing.1)
      have isBelow := ne_nil_of_removable answer
      refine ⟨other.erase place, Or.inl ?_, same.here, fun location _ => ?_⟩
      · rw [remove, sameRemovable, answer]
        rfl
      · rw [entryAt?_erase _ _ _ isBelow, entryAt?_erase _ _ _ isBelow,
          same.elsewhere location (by simp)]

omit removes in
theorem removes_of_open {place : Location} (routes : disk.RoutesTo .edit path place)
    (isOpen : disk.entryAt? place ≠ some .folder) : disk.Removes path (disk.erase place) := by
  rw [Removes, routes.remove_eq]
  cases found : disk.entryAt? place with
  | none =>
      obtain ⟨folder, name, rfl, _⟩ := routes
      exact Or.inr ⟨rfl, erase_eq_self (by simp) found⟩
  | some entry =>
      cases entry with
      | folder => exact absurd found isOpen
      | file content executable => exact Or.inl rfl
      | link target => exact Or.inl rfl

end Removes

/-- Paths are removed one after another. -/
inductive Removal : List Path → Disk → Disk → Prop
  | done (disk : Disk) : Removal [] disk disk
  | step {path : Path} {rest : List Path} {disk smaller final : Disk}
      (removes : disk.Removes path smaller) (further : Removal rest smaller final) :
      Removal (path :: rest) disk final

namespace Removal

variable {paths first second : List Path} {before after final : Disk}

theorem append (begins : Removal first before after) (goesOn : Removal second after final) :
    Removal (first ++ second) before final := by
  induction begins with
  | done disk => exact goesOn
  | step removes _ ih => exact .step removes (ih goesOn)

theorem split (removal : Removal (first ++ second) before final) :
    ∃ after, Removal first before after ∧ Removal second after final := by
  induction first generalizing before with
  | nil => exact ⟨before, .done before, removal⟩
  | cons path rest ih =>
      cases removal with
      | step removes further =>
          obtain ⟨after, begins, goesOn⟩ := ih further
          exact ⟨after, .step removes begins, goesOn⟩

section NoLinks

variable (removal : Removal paths before after)
  (noLinks : ∀ path ∈ paths, before.isLink path = false)

include removal noLinks

theorem sameFrame : SameFrame before after := by
  induction removal with
  | done disk => exact .refl disk
  | step removes _ ih =>
      have same := removes.sameFrame (noLinks _ (by simp))
      exact same.trans (ih fun path member => by
        rw [same.isLink_eq]
        exact noLinks path (by simp [member]))

theorem noFolder {path : Path} (member : path ∈ paths) : before.NoFolder path := by
  induction removal with
  | done disk => cases member
  | step removes _ ih =>
      have same := removes.sameFrame (noLinks _ (by simp))
      rcases List.mem_cons.mp member with rfl | member
      · exact removes.noFolder
      · refine NoFolder.mono same.symm (ih (fun other isOther => ?_) member)
        rw [same.isLink_eq]
        exact noLinks other (by simp [isOther])

theorem entry :
    before.SameExcept paths after ∧
      ∀ path ∈ paths, ∀ place, before.placeOf? path = some place →
        after.entryAt? place = none := by
  induction removal with
  | done disk => exact ⟨⟨rfl, fun _ _ => rfl⟩, by simp⟩
  | @step path rest disk smaller final removes _ ih =>
      have same := removes.sameFrame (noLinks _ (by simp))
      obtain ⟨elsewhere, areGone⟩ := ih fun other member => by
        rw [same.isLink_eq]
        exact noLinks other (by simp [member])
      have unchanged (location : Location)
          (isElsewhere : ∀ other ∈ rest, disk.placeOf? other ≠ some location) :
          final.entryAt? location = smaller.entryAt? location :=
        elsewhere.elsewhere location fun other member => by
          rw [same.placeOf?_eq]
          exact isElsewhere other member
      have restGone (other : Path) (member : other ∈ rest) (place : Location)
          (isPlace : disk.placeOf? other = some place) : final.entryAt? place = none :=
        areGone other member place (by rw [same.placeOf?_eq, isPlace])
      refine ⟨⟨elsewhere.here.trans removes.here, fun location isElsewhere => ?_⟩, ?_⟩
      · rw [unchanged location fun other member => isElsewhere other (by simp [member]),
          (removes.entry location).2 (isElsewhere path (by simp))]
      · intro other member place isPlace
        rcases List.mem_cons.mp member with rfl | member
        · by_cases isRest : ∃ later ∈ rest, disk.placeOf? later = some place
          · obtain ⟨later, isLater, samePlace⟩ := isRest
            exact restGone later isLater place samePlace
          · rw [unchanged place fun later isLater samePlace => isRest ⟨later, isLater, samePlace⟩]
            exact (removes.entry place).1 isPlace
        · exact restGone other member place isPlace

theorem sheds : Sheds before after := by
  obtain ⟨elsewhere, areGone⟩ := removal.entry noLinks
  refine ⟨removal.sameFrame noLinks, fun location => ?_⟩
  by_cases isPlace : ∃ path ∈ paths, before.placeOf? path = some location
  · obtain ⟨path, member, isPlace⟩ := isPlace
    exact Or.inr (areGone path member location isPlace)
  · exact Or.inl (elsewhere.elsewhere location fun path member same =>
      isPlace ⟨path, member, same⟩)

theorem idle : Removal paths after after := by
  induction removal with
  | done disk => exact .done disk
  | @step path rest disk smaller final removes further ih =>
      have same := removes.sameFrame (noLinks _ (by simp))
      have noLinksStill : ∀ other ∈ rest, smaller.isLink other = false := fun other member => by
        rw [same.isLink_eq]
        exact noLinks other (by simp [member])
      exact .step (removes.idle same (further.sheds noLinksStill)) (ih noLinksStill)

end NoLinks

theorem congr (removal : Removal paths before after) {other : Disk}
    (same : SameExcept [] before other) :
    ∃ left, Removal paths other left ∧ SameExcept [] after left := by
  induction removal generalizing other with
  | done disk => exact ⟨other, .done other, same⟩
  | step removes _ ih =>
      obtain ⟨smaller, removesToo, sameStill⟩ := removes.congr same
      obtain ⟨left, further, sameLeft⟩ := ih sameStill
      exact ⟨left, .step removesToo further, sameLeft⟩

theorem exists_of_open (areOpen : ∀ path ∈ paths, ∃ folder name,
      before.route .edit path = .ok (.name folder name false) ∧
        before.entryAt? (folder ++ [name]) ≠ some .folder)
    (noLinks : ∀ path ∈ paths, before.isLink path = false) :
    ∃ after, Removal paths before after := by
  induction paths generalizing before with
  | nil => exact ⟨before, .done before⟩
  | cons path rest ih =>
      obtain ⟨folder, name, routed, isOpen⟩ := areOpen path (by simp)
      have removes := removes_of_open ⟨_, _, rfl, routed⟩ isOpen
      have same := removes.sameFrame (noLinks path (by simp))
      obtain ⟨after, further⟩ : ∃ after, Removal rest (before.erase (folder ++ [name])) after := by
        apply ih
        · intro other member
          obtain ⟨otherFolder, otherName, otherRouted, otherOpen⟩ := areOpen other (by simp [member])
          exact ⟨otherFolder, otherName, same.route_eq_ok_iff.mpr otherRouted, fun isFolder =>
            otherOpen ((same.frame _ .folder rfl).mp isFolder)⟩
        · intro other member
          rw [same.isLink_eq]
          exact noLinks other (by simp [member])
      exact ⟨after, .step removes further⟩

end Removal

end Disk

end FixtureRunner
