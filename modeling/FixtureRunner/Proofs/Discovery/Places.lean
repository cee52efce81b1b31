/-
Where discovered fixtures are.

A search walks through folders and follows no links.  The path it makes for a file leads to
the place where the file was found, so different fixtures have different homes.
-/

import FixtureRunner.Discovery.Walk
import FixtureRunner.Proofs.Disk.Entering
import FixtureRunner.Proofs.Fixture.Actions

namespace FixtureRunner

open FixtureRunner.Action

/-- Everything on the disk has a name that the system lets a file have. -/
def Disk.IsSound (disk : Disk) : Prop :=
  ∀ (folder : Location) (name : String) (entry : Entry),
    disk.entryAt? (folder ++ [name]) = some entry → IsProper name

theorem Disk.IsSound.put {disk : Disk} (isSound : disk.IsSound) (folder : Location) {name : String}
    (isProper : Disk.IsProper name) (entry : Entry) : (disk.put (folder ++ [name]) entry).IsSound := by
  intro other last found isThere
  rw [Disk.entryAt?_put _ _ _ _ (by simp)] at isThere
  split at isThere
  · rename_i same
    rw [(List.cons.inj (List.append_inj_right' same rfl)).1]
    exact isProper
  · exact isSound other last found isThere

/-- At the path of each derived file there is a regular file, or it is free for one. -/
def Artifacts.AreRegular (artifacts : Artifacts) (disk : Disk) : Prop :=
  ∀ path ∈ artifacts.derived, disk.isLink path = false ∧
    (disk.find path = .error .missing ∨ disk.isFile path = true)

namespace Discovery

variable {disk : Disk} {root path : Path} {folder : Location} {workspace : Workspace}
  {names fragments : List String} {candidates found : List Path}

theorem extend_concat (path : Path) (names : List String) (last : String) :
    extend path (names ++ [last]) = (extend path names).join ⟨last⟩ := by
  simp [extend]

/-! ### What a search finds -/

theorem filesBelow_enters {depth : Nat} {path : Path} (isSound : disk.IsSound)
    (enters : disk.Enters path folder) (member : names ∈ filesBelow disk depth folder) :
    ∃ leading last content executable, names = leading ++ [last] ∧
      disk.entryAt? (folder ++ names) = some (.file content executable) ∧
      disk.Enters (extend path leading) (folder ++ leading) := by
  induction depth generalizing path folder names with
  | zero => cases member
  | succ depth ih =>
      rw [filesBelow, List.mem_flatMap] at member
      obtain ⟨name, _, member⟩ := member
      split at member
      · rename_i content executable isFile
        obtain rfl := List.mem_singleton.mp member
        refine ⟨[], name, content, executable, rfl, isFile, ?_⟩
        rw [List.append_nil]
        exact enters
      · rename_i isFolder
        split at member
        · cases member
        · obtain ⟨below, isBelow, rfl⟩ := List.mem_map.mp member
          have isProper := isSound folder name .folder isFolder
          obtain ⟨leading, last, content, executable, rfl, isFile, entersBelow⟩ :=
            ih (enters.join isProper isFolder) isBelow
          rw [List.append_assoc] at isFile entersBelow
          exact ⟨name :: leading, last, content, executable, rfl, isFile, entersBelow⟩
      · cases member

theorem mem_of_mem_claimEach {claim : Claim} {pool : List Path}
    (isClaim : claim ∈ claimEach root pool fragments) (member : path ∈ claim.paths) :
    path ∈ pool := by
  induction fragments generalizing pool with
  | nil => cases isClaim
  | cons fragment rest ih =>
      rw [claimEach, List.partition_eq_filter_filter] at isClaim
      rcases List.mem_cons.mp isClaim with rfl | isLater
      · exact (List.mem_filter.mp member).1
      · exact (List.mem_filter.mp (ih isLater)).1

theorem mem_of_mem_select (member : path ∈ select root candidates fragments) :
    path ∈ candidates := by
  rw [select] at member
  split at member
  · exact member
  · rw [sorted, List.mem_mergeSort, List.mem_flatMap] at member
    obtain ⟨claim, isClaim, isClaimed⟩ := member
    exact mem_of_mem_claimEach isClaim isClaimed

theorem mem_fixturesBelow :
    path ∈ fixturesBelow disk root folder ↔
      path ∈ ((filesBelow disk disk.depth folder).map (extend root)).filter Path.isFixture := by
  rw [fixturesBelow, sorted, List.mem_mergeSort]

theorem run_findFixtures (isRoot : workspace.disk.find root = .ok (folder, .folder)) :
    (findFixtures root).run workspace =
      (.ok (fixturesBelow workspace.disk root folder), workspace) := by
  rw [findFixtures, run_bind_ok _ _ (run_disk workspace), isRoot]
  rfl

theorem discover_all (isRoot : workspace.disk.find root = .ok (folder, .folder)) :
    ((discover root []).run workspace).1 = .ok (fixturesBelow workspace.disk root folder) := by
  rw [discover, run_bind_ok _ _ (run_findFixtures isRoot)]
  rfl

/-- A fixture was found below the folder of a search. -/
def Finds (disk : Disk) (root path : Path) (folder : Location) (names : List String) : Prop :=
  disk.find root = .ok (folder, .folder) ∧ names ∈ filesBelow disk disk.depth folder ∧
    path = extend root names ∧ path.isFixture = true

theorem Finds.file {start : Location} (isSound : disk.IsSound)
    (finds : Finds disk root path start names) :
    ∃ parent folder name, path = parent.join ⟨name⟩ ∧ start ++ names = folder ++ [name] ∧
      disk.Enters parent folder ∧ Disk.IsProper name ∧
      ∃ content executable, disk.entryAt? (folder ++ [name]) = some (.file content executable) := by
  obtain ⟨isRoot, isBelow, rfl, _⟩ := finds
  obtain ⟨leading, last, content, executable, rfl, isFile, enters⟩ :=
    filesBelow_enters isSound (Disk.enters_of_find isRoot) isBelow
  rw [← List.append_assoc] at isFile ⊢
  exact ⟨extend root leading, start ++ leading, last, extend_concat .., rfl, enters,
    isSound _ _ _ isFile, content, executable, isFile⟩

theorem finds_of_findFixtures (isFound : ((findFixtures root).run workspace).1 = .ok candidates)
    (member : path ∈ candidates) : ∃ folder names, Finds workspace.disk root path folder names := by
  have ranFind := Action.run_eq_of_result workspace isFound
  rw [findFixtures, run_bind_ok _ _ (run_disk workspace)] at ranFind
  cases isRoot : workspace.disk.find root with
  | error cause =>
      rw [isRoot] at ranFind
      cases (Prod.mk.inj ranFind).1
  | ok pair =>
      obtain ⟨folder, entry⟩ := pair
      rw [isRoot] at ranFind
      cases entry with
      | file content executable => cases (Prod.mk.inj ranFind).1
      | link target => cases (Prod.mk.inj ranFind).1
      | folder =>
          have areBelow : fixturesBelow workspace.disk root folder = candidates :=
            Except.ok.inj (Prod.mk.inj ranFind).1
          rw [← areBelow, mem_fixturesBelow, List.mem_filter, List.mem_map] at member
          obtain ⟨⟨names, isBelow, rfl⟩, isFixture⟩ := member
          exact ⟨folder, names, isRoot, isBelow, rfl, isFixture⟩

theorem candidates_of_discover
    (isDiscovered : ((discover root fragments).run workspace).1 = .ok found) :
    ∃ candidates, ((findFixtures root).run workspace).1 = .ok candidates ∧
      ∀ path ∈ found, path ∈ candidates := by
  obtain ⟨candidates, between, ranFind, ranOn⟩ :=
    run_bind_eq_ok _ (Action.run_eq_of_result workspace isDiscovered)
  obtain ⟨_, _, _, returned⟩ := run_bind_eq_ok _ ranOn
  have isFound : select root candidates fragments = found :=
    Except.ok.inj (Prod.mk.inj returned).1
  refine ⟨candidates, by rw [ranFind], fun path member => ?_⟩
  rw [← isFound] at member
  exact mem_of_mem_select member

theorem finds_of_discover (isDiscovered : ((discover root fragments).run workspace).1 = .ok found)
    (member : path ∈ found) : ∃ folder names, Finds workspace.disk root path folder names := by
  obtain ⟨candidates, isFound, areCandidates⟩ := candidates_of_discover isDiscovered
  exact finds_of_findFixtures isFound (areCandidates path member)

end Discovery

/-! ### Homes of what was found -/

section Homes

variable {disk : Disk} {path : Path}

theorem Disk.find_of_long (isLong : Disk.pathLimit ≤ path.text.utf8ByteSize) :
    ∃ cause, cause ≠ .missing ∧ disk.find path = .error cause := by
  have isNonempty : path.text ≠ "" := by
    intro isEmpty
    rw [isEmpty] at isLong
    exact absurd isLong (by decide)
  by_cases hasNul : path.text.toList.contains '\x00' = true
  · refine ⟨.nulInPath, by decide, ?_⟩
    rw [find, route, if_pos hasNul]
    rfl
  · refine ⟨.nameTooLong, by decide, ?_⟩
    rw [find, route, if_neg hasNul, if_neg isNonempty, if_pos isLong]
    rfl

theorem Artifacts.path_mem_derived (artifacts : Artifacts) {role : Role}
    (isDerived : role ≠ .fixture) : artifacts.path role ∈ artifacts.derived :=
  mem_derived_iff.mpr ⟨role, isDerived, rfl⟩

theorem Artifacts.AreRegular.find_ne_folder {artifacts : Artifacts}
    (areRegular : artifacts.AreRegular disk) (role : Role) (isDerived : role ≠ .fixture)
    (location : Location) : disk.find (artifacts.path role) ≠ .ok (location, .folder) := by
  intro isFolder
  obtain ⟨_, isMissing | isFile⟩ := areRegular _ (artifacts.path_mem_derived isDerived)
  · rw [isFolder] at isMissing
    cases isMissing
  · rw [Disk.isFile, isFolder] at isFile
    cases isFile

theorem Artifacts.AreRegular.eq_missing {artifacts : Artifacts} {cause : SystemError}
    (areRegular : artifacts.AreRegular disk) (role : Role) (isDerived : role ≠ .fixture)
    (isRefused : disk.find (artifacts.path role) = .error cause) : cause = .missing := by
  obtain ⟨_, isMissing | isFile⟩ := areRegular _ (artifacts.path_mem_derived isDerived)
  · rw [isRefused] at isMissing
    exact Except.error.inj isMissing
  · rw [Disk.isFile, isRefused] at isFile
    cases isFile

/-- The path of a fixture is as long as that of its source, unless its source is a folder. -/
theorem Disk.fits_of_regular {walked : List String} {name : String} {folder : Location}
    {links : Nat} (isFixture : path.isFixture = true)
    (segments : Disk.segmentsOf path.text = walked ++ [name]) (isName : Disk.IsName name)
    (hasNoNul : path.text.toList.contains '\x00' = false) (isFew : links ≤ Disk.linkLimit)
    (reaches : disk.Reaches links (Disk.origin disk.here path.text) walked folder)
    (areRegular : (Artifacts.ofFixture path).AreRegular disk) :
    path.text.utf8ByteSize < Disk.pathLimit := by
  have isNoFolder := areRegular.find_ne_folder .source (by decide)
  have sourceFits : ((Artifacts.ofFixture path).path .source).text.utf8ByteSize <
      Disk.pathLimit := by
    refine Nat.lt_of_not_le fun isLong => ?_
    obtain ⟨cause, isOther, isRefused⟩ := disk.find_of_long isLong
    exact isOther (areRegular.eq_missing .source (by decide) isRefused)
  rw [Artifacts.path_ofFixture path .source (by decide)] at isNoFolder sourceFits
  clear areRegular
  obtain ⟨leading, stem, rfl, isNonempty, areFree⟩ := Path.fixture_shape isFixture segments isName
  by_cases isDot : stem = ['.']
  · subst isDot
    have walkedLeading : walked = leading.map String.ofList := by
      rw [segmentsOf_ofSegments _ (by simp) areFree, List.map_append] at segments
      exact (List.append_inj_left' segments rfl).symm
    rw [walkedLeading] at reaches
    rw [Path.withExtension_dots Role.source.extension (by decide) (by decide) areFree]
      at sourceFits isNoFolder
    refine absurd ?_ (isNoFolder folder.dropLast)
    rw [find, route_dots areFree isFew reaches hasNoNul sourceFits .look]
    rfl
  · have size (role : Role) :
        (Path.ofSegments (leading ++ [stem ++ '.' :: role.extension.toList])).text.utf8ByteSize =
          (Path.ofSegments (leading ++ [stem])).text.utf8ByteSize +
            (String.ofList ('.' :: role.extension.toList)).utf8ByteSize := by
      rw [Path.text_ofSegments_append, String.utf8ByteSize_append]
    have sameSize : (String.ofList ('.' :: Role.fixture.extension.toList)).utf8ByteSize =
        (String.ofList ('.' :: Role.source.extension.toList)).utf8ByteSize := by
      decide
    rw [Path.withExtension_ofSegments Role.source.extension isNonempty isDot (by decide)
      (by decide) areFree, size, ← sameSize, ← size] at sourceFits
    exact sourceFits

theorem Discovery.Finds.readies {root : Path} {folder : Location} {names : List String}
    (isSound : disk.IsSound) (finds : Finds disk root path folder names)
    (areRegular : (Artifacts.ofFixture path).AreRegular disk) :
    ∃ home, disk.Readies path home ∧ home.place .fixture = folder ++ names := by
  have isFixture := finds.2.2.2
  obtain ⟨parent, inner, last, rfl, isPlace, enters, isProper, content, executable, isFile⟩ :=
    finds.file isSound
  obtain ⟨_, hasNoNul, walked, links, segments, isFew, reaches⟩ := enters.walks isProper
  have leads := enters.leads isProper
    (Disk.fits_of_regular isFixture segments isProper.isName hasNoNul isFew reaches areRegular)
  have noLinks : (Artifacts.ofFixture (parent.join ⟨last⟩)).NoLinks disk := by
    intro role
    by_cases isDerived : role = .fixture
    · rw [isDerived]
      exact leads.isLink_eq_false_iff.mpr (by simp [isFile])
    · exact (areRegular _ (Artifacts.path_mem_derived _ isDerived)).1
  rcases Disk.houses_or_folders isFixture leads noLinks with ⟨home, houses⟩ | areFolders
  · have samePlace : home.place .fixture = inner ++ [last] :=
      Option.some.inj ((houses.leads .fixture).placeOf?.symm.trans leads.placeOf?)
    refine ⟨home, ⟨houses, ⟨content, executable, ?_⟩, ?_⟩, ?_⟩
    · rw [samePlace]
      exact isFile
    · intro role isDerived isFolder
      refine areRegular.find_ne_folder role isDerived (home.place role) ?_
      rw [(houses.routesTo role .look).find_eq, isFolder]
    · rw [samePlace, isPlace]
  · obtain ⟨location, routed⟩ := areFolders .source (by decide)
    refine absurd ?_ (areRegular.find_ne_folder .source (by decide) location)
    rw [Disk.find, routed .look]
    rfl

end Homes

end FixtureRunner
