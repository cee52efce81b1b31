/-
What a search finds depends on where files are, not on what is in them.

Two disks with the same folders, and with the same files but for some whose names are no names of
fixtures, have the same fixtures, in the same order.
-/

import FixtureRunner.Proofs.Discovery.Places
import FixtureRunner.Proofs.Disk.SameFiles
import Mathlib.Data.List.Sort

namespace FixtureRunner

open FixtureRunner.Action

namespace Disk

/-! ### Names in a folder -/

variable {disk : Disk} {location folder : Location}

theorem mem_keys_iff (isBelow : location ≠ []) :
    location ∈ disk.entries.keys ↔ ∃ entry, disk.entryAt? location = some entry := by
  rw [Std.ExtTreeMap.mem_keys, Std.ExtTreeMap.mem_iff_isSome_getElem?, Option.isSome_iff_exists,
    entryAt?, if_neg isBelow]

def nameIn (folder location : Location) : Option String :=
  if location.dropLast = folder then location.getLast? else none

theorem nameIn_eq_some_iff {name : String} :
    nameIn folder location = some name ↔ location = folder ++ [name] := by
  unfold nameIn
  constructor
  · intro isName
    split at isName
    · rename_i isFolder
      obtain ⟨others, rfl⟩ := List.getLast?_eq_some_iff.mp isName
      rw [List.dropLast_concat] at isFolder
      rw [isFolder]
    · cases isName
  · rintro rfl
    simp

theorem mem_names_iff {name : String} :
    name ∈ disk.names folder ↔ ∃ entry, disk.entryAt? (folder ++ [name]) = some entry := by
  have members : name ∈ disk.names folder ↔
      ∃ location ∈ disk.entries.keys, nameIn folder location = some name :=
    List.mem_filterMap
  rw [members]
  simp only [nameIn_eq_some_iff, exists_eq_right]
  exact mem_keys_iff (by simp)

/-- Keys are in order, so those that two disks share are the same list. -/
theorem filter_keys_eq {first second : Disk} {isKept : Location → Bool}
    (areShared : ∀ location, isKept location = true →
      (location ∈ first.entries.keys ↔ location ∈ second.entries.keys)) :
    first.entries.keys.filter isKept = second.entries.keys.filter isKept := by
  have isIrrefl : Std.Irrefl fun left right : Location => compare left right = .lt := by
    refine ⟨fun location isLess => ?_⟩
    have isSelf : compare location location = .eq := Std.ReflCmp.compare_self
    rw [isSelf] at isLess
    cases isLess
  have isAntisymm : Std.Antisymm fun left right : Location => compare left right = .lt := by
    refine ⟨fun left right isLess isMore => ?_⟩
    have isGreater : compare right left = .gt := Std.OrientedCmp.gt_of_lt isLess
    rw [isGreater] at isMore
    cases isMore
  refine (first.entries.ordered_keys.filter _).eq_of_mem_iff
    (second.entries.ordered_keys.filter _) fun location => ?_
  rw [List.mem_filter, List.mem_filter]
  exact and_congr_left (areShared location)

/-- The share of an entry of the folder in a result, by its name. -/
def shareAt {α : Type} (folder : Location) (share : String → List α) (location : Location) : List α :=
  (nameIn folder location).toList.flatMap share

theorem flatMap_names {α : Type} (disk : Disk) (folder : Location) (share : String → List α) :
    (disk.names folder).flatMap share =
      (disk.entries.keys.filter fun location =>
        !(shareAt folder share location).isEmpty).flatMap (shareAt folder share) := by
  have byKeys : (disk.names folder).flatMap share =
      disk.entries.keys.flatMap (shareAt folder share) := by
    have isFlat : disk.names folder = disk.entries.keys.flatMap fun location =>
        (nameIn folder location).toList := List.filterMap_eq_flatMap_toList _ _
    rw [isFlat, List.flatMap_assoc]
    rfl
  rw [byKeys]
  induction disk.entries.keys with
  | nil => rfl
  | cons location rest ih =>
      rw [List.flatMap_cons, List.filter_cons, ih]
      cases isShare : (shareAt folder share location).isEmpty with
      | false => rfl
      | true =>
          rw [List.isEmpty_iff.mp isShare]
          rfl

/-- Names that have no share in a result need not be in both folders. -/
theorem flatMap_names_eq {α : Type} {first second : Disk} {share : String → List α}
    (areShared : ∀ name, share name ≠ [] → name ∈ first.names folder ∧ name ∈ second.names folder) :
    (first.names folder).flatMap share = (second.names folder).flatMap share := by
  rw [flatMap_names, flatMap_names, filter_keys_eq]
  intro location isKept
  cases isName : nameIn folder location with
  | none => simp [shareAt, isName] at isKept
  | some name =>
      obtain rfl := nameIn_eq_some_iff.mp isName
      have isShare : share name ≠ [] := by simpa [shareAt, isName] using isKept
      rw [mem_keys_iff (by simp), mem_keys_iff (by simp), ← mem_names_iff, ← mem_names_iff]
      exact iff_of_true (areShared name isShare).1 (areShared name isShare).2

/-! ### Depth -/

theorem length_lt_depth {entry : Entry} (isThere : disk.entryAt? location = some entry) :
    location.length < disk.depth := by
  have isMost : (0 :: disk.entries.keys.map List.length).max? = some (disk.depth - 1) := by
    rw [List.max?_cons', List.foldl_map]
    rfl
  obtain ⟨_, areShorter⟩ := List.max?_eq_some_iff.mp isMost
  have isShorter : location.length ≤ disk.depth - 1 := by
    by_cases isRoot : location = []
    · rw [isRoot]
      exact Nat.zero_le _
    · exact areShorter _ (List.mem_cons_of_mem _
        (List.mem_map_of_mem ((mem_keys_iff isRoot).mpr ⟨entry, isThere⟩)))
  have isPositive : 0 < disk.depth := Nat.succ_pos _
  omega

end Disk

namespace Discovery

def filesAt (disk : Disk) (depth : Nat) (folder : Location) (name : String) : List (List String) :=
  match disk.entryAt? (folder ++ [name]) with
  | some (.file _ _) => [[name]]
  | some .folder =>
      if prunedNames.contains name then []
      else (filesBelow disk depth (folder ++ [name])).map (name :: ·)
  | _ => []

theorem filesBelow_succ (disk : Disk) (depth : Nat) (folder : Location) :
    filesBelow disk (depth + 1) folder =
      (disk.names folder).flatMap (filesAt disk depth folder) := rfl

variable {path root : Path} {disk : Disk}

theorem filesBelow_add {depth : Nat} {folder : Location}
    (isDeep : disk.depth ≤ folder.length + depth) (more : Nat) :
    filesBelow disk (depth + more) folder = filesBelow disk depth folder := by
  induction depth generalizing folder with
  | zero =>
      cases more with
      | zero => rfl
      | succ more =>
          have isBare : disk.names folder = [] := by
            rw [List.eq_nil_iff_forall_not_mem]
            intro name member
            obtain ⟨entry, isThere⟩ := Disk.mem_names_iff.mp member
            have isShort := Disk.length_lt_depth isThere
            rw [List.length_append, List.length_singleton] at isShort
            omega
          rw [Nat.zero_add, filesBelow_succ, isBare]
          rfl
  | succ depth ih =>
      rw [Nat.succ_add, filesBelow_succ, filesBelow_succ]
      congr 1
      funext name
      have isDeepBelow : disk.depth ≤ (folder ++ [name]).length + depth := by
        rw [List.length_append, List.length_singleton]
        omega
      rw [filesAt, filesAt, ih isDeepBelow]

/-- No path that ends in the name is that of a fixture. -/
def NamesNoFixture (name : String) : Prop :=
  ∀ parent : Path, parent.text ≠ "" → (parent.join ⟨name⟩).isFixture = false

def fixturesAt (disk : Disk) (depth : Nat) (folder : Location) (parent : Path) (name : String) :
    List Path :=
  ((filesAt disk depth folder name).map (extend parent)).filter Path.isFixture

theorem fixtures_succ (disk : Disk) (depth : Nat) (folder : Location) (parent : Path) :
    ((filesBelow disk (depth + 1) folder).map (extend parent)).filter Path.isFixture =
      (disk.names folder).flatMap (fixturesAt disk depth folder parent) := by
  rw [filesBelow_succ, List.map_flatMap, List.filter_flatMap]
  rfl

section FixturesAt

variable {disk : Disk} {depth : Nat} {folder : Location} {parent : Path} {name : String}

theorem fixturesAt_of_file (isFile : disk.HasFile (folder ++ [name])) :
    fixturesAt disk depth folder parent name = [parent.join ⟨name⟩].filter Path.isFixture := by
  obtain ⟨content, executable, isThere⟩ := isFile
  rw [fixturesAt, filesAt, isThere]
  rfl

theorem fixturesAt_of_folder (isFolder : disk.entryAt? (folder ++ [name]) = some .folder) :
    fixturesAt disk depth folder parent name =
      if prunedNames.contains name then []
      else ((filesBelow disk depth (folder ++ [name])).map (extend (parent.join ⟨name⟩))).filter
        Path.isFixture := by
  rw [fixturesAt, filesAt, isFolder]
  simp only
  split
  · rfl
  · rw [List.map_map]
    rfl

theorem fixturesAt_of_other (isNoFile : ¬ disk.HasFile (folder ++ [name]))
    (isNoFolder : disk.entryAt? (folder ++ [name]) ≠ some .folder) :
    fixturesAt disk depth folder parent name = [] := by
  rw [fixturesAt, filesAt]
  split
  · exact absurd ⟨_, _, by assumption⟩ isNoFile
  · exact absurd (by assumption) isNoFolder
  · rfl

theorem mem_names_of_fixturesAt (isSome : fixturesAt disk depth folder parent name ≠ []) :
    name ∈ disk.names folder := by
  rw [Disk.mem_names_iff]
  cases isThere : disk.entryAt? (folder ++ [name]) with
  | some entry => exact ⟨entry, rfl⟩
  | none => exact absurd (by rw [fixturesAt, filesAt, isThere]; rfl) isSome

end FixturesAt

theorem run_findFixtures_of_other {workspace : Workspace}
    (isNoRoot : ∀ folder, workspace.disk.find root ≠ .ok (folder, .folder)) :
    (findFixtures root).run workspace = (.error (.discovery root), workspace) := by
  rw [findFixtures, run_bind_ok _ _ (run_disk workspace)]
  split
  · exact absurd (by assumption) (isNoRoot _)
  · rfl

section Stable

variable {named : List Path} {before after : Disk}
  (same : before.SameFiles named after)
  (areOther : ∀ path ∈ named, ∀ folder name, before.placeOf? path = some (folder ++ [name]) →
    NamesNoFixture name)

include same areOther

theorem fixtures_eq (depth : Nat) (folder : Location) {parent : Path}
    (isNonempty : parent.text ≠ "") :
    ((filesBelow after depth folder).map (extend parent)).filter Path.isFixture =
      ((filesBelow before depth folder).map (extend parent)).filter Path.isFixture := by
  induction depth generalizing folder parent with
  | zero => rfl
  | succ depth ih =>
      have sameAt (name : String) : fixturesAt after depth folder parent name =
          fixturesAt before depth folder parent name := by
        by_cases isFolder : before.entryAt? (folder ++ [name]) = some .folder
        · rw [fixturesAt_of_folder isFolder,
            fixturesAt_of_folder ((same.frame _ .folder rfl).mpr isFolder),
            ih _ (Path.join_nonempty isNonempty ⟨name⟩)]
        · have isFolderStill : after.entryAt? (folder ++ [name]) ≠ some .folder := fun found =>
            isFolder ((same.frame _ .folder rfl).mp found)
          -- A name that is no fixture's has no share, whether there is a file or not.
          have byFile (disk : Disk) (isNoFolder : disk.entryAt? (folder ++ [name]) ≠ some .folder)
              (isNone : NamesNoFixture name) : fixturesAt disk depth folder parent name = [] := by
            by_cases isFile : disk.HasFile (folder ++ [name])
            · rw [fixturesAt_of_file isFile]
              simp [isNone parent isNonempty]
            · exact fixturesAt_of_other isFile isNoFolder
          by_cases isNamed : ∃ path ∈ named, before.placeOf? path = some (folder ++ [name])
          · obtain ⟨path, member, isPlace⟩ := isNamed
            have isNone := areOther path member folder name isPlace
            rw [byFile after isFolderStill isNone, byFile before isFolder isNone]
          · have files := same.files (folder ++ [name]) fun path member isPlace =>
              isNamed ⟨path, member, isPlace⟩
            by_cases isFile : before.HasFile (folder ++ [name])
            · rw [fixturesAt_of_file isFile, fixturesAt_of_file (files.mpr isFile)]
            · rw [fixturesAt_of_other isFile isFolder,
                fixturesAt_of_other (fun found => isFile (files.mp found)) isFolderStill]
      rw [fixtures_succ, fixtures_succ, funext sameAt]
      refine Disk.flatMap_names_eq fun name isSome => ⟨?_, mem_names_of_fixturesAt isSome⟩
      rw [← sameAt name] at isSome
      exact mem_names_of_fixturesAt isSome

theorem fixturesBelow_eq (folder : Location) {root : Path} (isNonempty : root.text ≠ "") :
    fixturesBelow after root folder = fixturesBelow before root folder := by
  have deeper (disk : Disk) (more : Nat) :
      filesBelow disk (disk.depth + more) folder = filesBelow disk disk.depth folder :=
    filesBelow_add (by omega) more
  have sameDepth : after.depth + before.depth = before.depth + after.depth := Nat.add_comm _ _
  rw [fixturesBelow, fixturesBelow, ← deeper after before.depth, ← deeper before after.depth,
    sameDepth, fixtures_eq same areOther _ folder isNonempty]

end Stable

theorem find_folder_iff {before after : Disk} (same : before.SameFrame after)
    {location : Location} :
    after.find path = .ok (location, .folder) ↔ before.find path = .ok (location, .folder) := by
  -- It does so on each disk by its own route, and the disks have the same routes.
  have kept {first second : Disk} (sameFrame : first.SameFrame second)
      (found : first.find path = .ok (location, .folder)) :
      second.find path = .ok (location, .folder) := by
    rw [Disk.find] at found ⊢
    cases routed : first.route .look path with
    | error cause =>
        rw [routed] at found
        cases found
    | ok spot =>
        rw [sameFrame.route_eq_ok_iff.mpr routed]
        rw [routed] at found
        simp only [bind, Except.bind] at found ⊢
        cases spot with
        | folder reached => exact found
        | name folder name closed =>
            simp only at found ⊢
            split at found
            · cases found
            · split at found
              · cases found
              · cases (Prod.mk.inj (Except.ok.inj found)).2
            · rename_i entry isNoFile isThere
              obtain ⟨rfl, rfl⟩ := Prod.mk.inj (Except.ok.inj found)
              rw [(sameFrame.frame _ .folder rfl).mpr isThere]
              rfl
  exact ⟨kept same.symm, kept same⟩

/-- A search has the same result on disks with the same folders and fixtures. -/
theorem findFixtures_eq {named : List Path} {first second : Workspace}
    (same : first.disk.SameFiles named second.disk)
    (areOther : ∀ path ∈ named, ∀ folder name,
      first.disk.placeOf? path = some (folder ++ [name]) → NamesNoFixture name) (root : Path) :
    ((findFixtures root).run second).1 = ((findFixtures root).run first).1 := by
  by_cases isRoot : ∃ folder, first.disk.find root = .ok (folder, .folder)
  · obtain ⟨folder, isRoot⟩ := isRoot
    have isRootStill := (find_folder_iff same.toSameFrame).mpr isRoot
    have isNonempty := (Disk.enters_of_find isRoot).isNonempty
    rw [run_findFixtures isRoot, run_findFixtures isRootStill,
      fixturesBelow_eq same areOther folder isNonempty]
  · have isNoRoot (folder : Location) : first.disk.find root ≠ .ok (folder, .folder) :=
      fun found => isRoot ⟨folder, found⟩
    have isNoRootStill (folder : Location) : second.disk.find root ≠ .ok (folder, .folder) :=
      fun found => isRoot ⟨folder, (find_folder_iff same.toSameFrame).mp found⟩
    rw [run_findFixtures_of_other isNoRoot, run_findFixtures_of_other isNoRootStill]

/-! ### Names of derived files -/

theorem isFixture_of_role {leading : List Text} {stem : Text} {role : Role}
    (isDerived : role ≠ .fixture) (isNonempty : stem ≠ [])
    (segments : path.segments = leading ++ [stem ++ '.' :: role.extension.toList]) :
    path.isFixture = false := by
  rw [← Bool.not_eq_true]
  intro isFixture
  have isName := Home.isName_name [] role isNonempty
  rw [Home.name_ofList] at isName
  obtain ⟨other, _, same⟩ :=
    Path.ends_in_extension isFixture segments (Path.isSome_component? isName)
  exact isDerived (Home.role_of_name same)

theorem namesNoFixture_of_role (folder : Location) {stem : Text} {role : Role}
    (isDerived : role ≠ .fixture) (isNonempty : stem ≠ []) (isFree : '/' ∉ stem) :
    NamesNoFixture (Home.name ⟨folder, String.ofList stem⟩ role) := by
  intro parent isParent
  rw [Home.name_ofList]
  have isFreeName : '/' ∉ (String.ofList (stem ++ '.' :: role.extension.toList)).toList := by
    rw [String.toList_ofList]
    exact Home.separator_notMem_name role isFree
  obtain ⟨leading, segments, _⟩ := Path.segments_join isParent isFreeName
  rw [String.toList_ofList] at segments
  exact isFixture_of_role isDerived isNonempty segments

structure Shape (disk : Disk) (path : Path) (front : List Text) (stem : Text) : Prop where
  path_eq : path = Path.ofSegments (front ++ [stem ++ '.' :: Role.fixture.extension.toList])
  isNonempty : stem ≠ []
  areFree : ∀ segment ∈ front ++ [stem ++ '.' :: Role.fixture.extension.toList], '/' ∉ segment
  hasNoNul : path.text.toList.contains '\x00' = false
  reaches : ∃ links folder, links ≤ Disk.linkLimit ∧
    disk.Reaches links (Disk.origin disk.here path.text) (front.map String.ofList) folder

theorem Finds.shape {folder : Location} {names : List String} (isSound : disk.IsSound)
    (finds : Finds disk root path folder names) : ∃ front stem, Shape disk path front stem := by
  have isFixture := finds.2.2.2
  obtain ⟨parent, inner, last, rfl, _, enters, isProper, _⟩ := finds.file isSound
  obtain ⟨_, hasNoNul, walked, links, segments, isFew, reaches⟩ := enters.walks isProper
  obtain ⟨front, stem, isPath, isNonempty, areFree⟩ :=
    Path.fixture_shape isFixture segments isProper.isName
  refine ⟨front, stem, isPath, isNonempty, areFree, hasNoNul, links, inner, isFew, ?_⟩
  have isWalked : walked = front.map String.ofList := by
    rw [isPath, Disk.segmentsOf_ofSegments _ (by simp) areFree, List.map_append] at segments
    exact (List.append_inj_left' segments rfl).symm
  rw [← isWalked]
  exact reaches

section Shape

variable {disk : Disk} {path : Path} {front : List Text} {stem : Text} {role : Role}
  (shape : Shape disk path front stem) (isDerived : role ≠ .fixture)

include shape

theorem Shape.stem_free : '/' ∉ stem := fun member =>
  shape.areFree (stem ++ '.' :: Role.fixture.extension.toList) (by simp)
    (List.mem_append_left _ member)

theorem Shape.last_free {last : Text} (isFree : '/' ∉ last) :
    ∀ segment ∈ front ++ [last], '/' ∉ segment := by
  intro segment member
  rcases List.mem_append.mp member with inFront | isLast
  · exact shape.areFree segment (List.mem_append_left _ inFront)
  · rw [List.mem_singleton.mp isLast]
    exact isFree

include isDerived

/-- A derived file shares the stem of the fixture, unless that is a dot; then its path ends in
two dots. -/
theorem Shape.derived_eq :
    (Artifacts.ofFixture path).path role =
      if stem = ['.'] then Path.ofSegments (front ++ [['.', '.']])
      else Path.ofSegments (front ++ [stem ++ '.' :: role.extension.toList]) := by
  have areFree := shape.areFree
  rw [shape.path_eq]
  split
  · rename_i isDot
    subst isDot
    rw [Artifacts.path_ofFixture _ _ isDerived,
      Path.withExtension_dots role.extension (by decide) (by decide) areFree]
  · rename_i isDot
    exact Artifacts.path_ofSegments shape.isNonempty isDot areFree role

theorem Shape.derived_isFixture : ((Artifacts.ofFixture path).path role).isFixture = false := by
  rw [shape.derived_eq isDerived]
  split
  · rw [← Bool.not_eq_true]
    intro isFixture
    have isFree : '/' ∉ ['.', '.'] := by decide
    have segments := Path.segments_ofSegments _ (by simp) (shape.last_free isFree)
    obtain ⟨other, _, same⟩ := Path.ends_in_extension isFixture segments (by decide)
    have isLong := congrArg List.length same
    simp [Role.extension] at isLong
  · have isFree := Home.separator_notMem_name role shape.stem_free
    exact isFixture_of_role isDerived shape.isNonempty
      (Path.segments_ofSegments _ (by simp) (shape.last_free isFree))

theorem Shape.namesNoFixture {folder : Location} {name : String}
    (isPlace : disk.placeOf? ((Artifacts.ofFixture path).path role) = some (folder ++ [name])) :
    NamesNoFixture name := by
  rw [shape.derived_eq isDerived] at isPlace
  split at isPlace
  · -- The path leads to a folder then, and names no place.
    rename_i isDot
    obtain ⟨links, reached, isFew, reaches⟩ := shape.reaches
    obtain ⟨_, _, _, routed, _⟩ := Disk.placeOf?_eq_some_iff.mp isPlace
    obtain ⟨_, _, fits, _⟩ := Disk.route_eq_ok_iff.mp routed
    have areFree := shape.areFree
    have hasNoNul := shape.hasNoNul
    rw [shape.path_eq, isDot] at reaches hasNoNul
    rw [isDot] at areFree
    rw [Disk.route_dots areFree isFew reaches hasNoNul fits .edit] at routed
    cases routed
  · have isFree := Home.separator_notMem_name role shape.stem_free
    have segments := Disk.segmentsOf_ofSegments _ (by simp) (shape.last_free isFree)
    rw [List.map_append, List.map_singleton, ← Home.name_ofList folder] at segments
    obtain ⟨parent, place⟩ :=
      Disk.placeOf?_concat segments (Home.isName_name folder role shape.isNonempty) isPlace
    rw [(List.cons.inj (List.append_inj_right' place rfl)).1]
    exact namesNoFixture_of_role folder isDerived shape.isNonempty shape.stem_free

end Shape

/-- What was found is neither a derived file of a fixture nor in the place of one. -/
theorem Finds.ne_derived {other derived : Path} {start otherStart : Location}
    {names otherNames : List String} (isSound : disk.IsSound)
    (finds : Finds disk root path start names)
    (findsOther : Finds disk root other otherStart otherNames)
    (isDerived : derived ∈ (Artifacts.ofFixture other).derived) :
    path ≠ derived ∧
      ∀ place, disk.placeOf? derived = some place → disk.placeOf? path ≠ some place := by
  have isFixture := finds.2.2.2
  obtain ⟨front, stem, shape⟩ := findsOther.shape isSound
  obtain ⟨role, isDerivedRole, rfl⟩ := Artifacts.mem_derived_iff.mp isDerived
  constructor
  · rintro rfl
    rw [shape.derived_isFixture isDerivedRole] at isFixture
    cases isFixture
  · intro place isPlace isPlaceToo
    obtain ⟨parent, folder, name, rfl, _, enters, isProper, _⟩ := finds.file isSound
    obtain ⟨_, _, _, _, segments, _⟩ := enters.walks isProper
    obtain ⟨reached, rfl⟩ := Disk.placeOf?_concat segments isProper.isName isPlaceToo
    rw [shape.namesNoFixture isDerivedRole isPlace parent enters.isNonempty] at isFixture
    cases isFixture

end Discovery

end FixtureRunner
