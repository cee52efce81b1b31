/-
Where the files of a fixture are.

The five paths of a fixture differ in their extensions only.  They lead to five places in
one folder, the home of the fixture, unless the stem of its name is a dot: then the other
four paths all lead to a folder.
-/

import FixtureRunner.Fixture.Artifacts
import FixtureRunner.Proofs.Disk.Access
import FixtureRunner.Proofs.Path.Extension

namespace FixtureRunner

open Artifacts (ofFixture)

/-- What a file of a fixture is for. -/
inductive Role where
  | fixture
  | source
  | expected
  | generated
  | errorLog
deriving DecidableEq

def Role.extension : Role → String
  | .fixture => "tst"
  | .source => "syp"
  | .expected => "exp"
  | .generated => "ll"
  | .errorLog => "err"

def Artifacts.path (artifacts : Artifacts) : Role → Path
  | .fixture => artifacts.fixture
  | .source => artifacts.source
  | .expected => artifacts.expected
  | .generated => artifacts.generated
  | .errorLog => artifacts.errorLog

/-- No file of the fixture is a link. -/
def Artifacts.NoLinks (artifacts : Artifacts) (disk : Disk) : Prop :=
  ∀ role, disk.isLink (artifacts.path role) = false

theorem Artifacts.path_ofFixture (fixture : Path) (role : Role) (isDerived : role ≠ .fixture) :
    (ofFixture fixture).path role = fixture.withExtension role.extension := by
  cases role with
  | fixture => exact absurd rfl isDerived
  | source => rfl
  | expected => rfl
  | generated => rfl
  | errorLog => rfl

/-- The folder of a fixture and the stem that its files share. -/
structure Home where
  folder : Location
  stem : String

namespace Home

def name (home : Home) (role : Role) : String :=
  home.stem ++ "." ++ role.extension

def place (home : Home) (role : Role) : Location :=
  home.folder ++ [home.name role]

theorem place_ne_nil (home : Home) (role : Role) : home.place role ≠ [] := by
  simp [place]

/-- Homes have no place in common, and no place twice. -/
theorem eq_of_place {first second : Home} {role other : Role}
    (same : first.place role = second.place other) : first = second ∧ role = other := by
  obtain ⟨sameFolder, sameName⟩ := List.append_inj' same rfl
  -- The last letters of the extensions tell them apart.
  have letters := congrArg List.reverse (congrArg String.toList (List.cons.inj sameName).1)
  obtain ⟨folder, firstStem⟩ := first
  obtain ⟨_, secondStem⟩ := second
  obtain rfl : folder = _ := sameFolder
  suffices firstStem = secondStem ∧ role = other by simpa using this
  revert letters
  cases role <;> cases other <;> simp [name, Role.extension, String.toList_inj]

@[simp] theorem place_inj (home : Home) {first second : Role} :
    home.place first = home.place second ↔ first = second := by
  constructor
  · intro same
    exact (eq_of_place same).2
  · rintro rfl
    rfl

/-- No folder is in the way of the file. -/
abbrev IsOpen (home : Home) (disk : Disk) (role : Role) : Prop :=
  disk.entryAt? (home.place role) ≠ some .folder

end Home

/-! ### Names of the files -/

theorem Disk.isName_of_length {text : Text} (isLong : 2 < text.length) :
    IsName (String.ofList text) := by
  have differs (short : Text) (isShort : short.length ≤ 2) :
      String.ofList text ≠ String.ofList short := by
    intro same
    rw [String.ofList_injective same] at isLong
    omega
  exact ⟨differs [] (by simp), differs ['.'] (by simp), differs ['.', '.'] (by simp)⟩

theorem Path.isSome_component? {segment : Text} (isName : Disk.IsName (String.ofList segment)) :
    (component? segment).isSome = true := by
  rw [component?_isSome_iff]
  refine ⟨?_, ?_⟩
  · rintro rfl
    exact isName.1 rfl
  · rintro rfl
    exact isName.2.1 rfl

namespace Home

variable (folder : Location) {stem : Text} (role : Role)

theorem name_ofList (stem : Text) :
    name ⟨folder, String.ofList stem⟩ role =
      String.ofList (stem ++ '.' :: role.extension.toList) := by
  rw [name, ← String.toList_inj]
  simp

/-- The extension of a file tells its role, whatever the stem is. -/
theorem role_of_name {stem other : Text} {role another : Role}
    (same : stem ++ '.' :: role.extension.toList = other ++ '.' :: another.extension.toList) :
    role = another := by
  have samePlace : place ⟨[], String.ofList stem⟩ role = place ⟨[], String.ofList other⟩ another := by
    rw [place, place, name_ofList, name_ofList, same]
  exact (eq_of_place samePlace).2

theorem isName_name (isNonempty : stem ≠ []) :
    Disk.IsName (name ⟨folder, String.ofList stem⟩ role) := by
  have stemLength : 0 < stem.length := List.length_pos_iff.mpr isNonempty
  have extensionLength : 1 < role.extension.toList.length := by cases role <;> decide
  rw [name_ofList]
  apply Disk.isName_of_length
  simp only [List.length_append, List.length_cons]
  omega

theorem separator_notMem_name (isFree : '/' ∉ stem) :
    '/' ∉ stem ++ '.' :: role.extension.toList := by
  have extensionFree : '/' ∉ role.extension.toList := by cases role <;> decide
  simp [isFree, extensionFree]

end Home

/-! ### Siblings -/

namespace Disk

variable {disk : Disk} {folder : Location} {leading : List Text}

theorem segmentsOf_ofSegments (segments : List Text) (isNonempty : segments ≠ [])
    (areFree : ∀ segment ∈ segments, '/' ∉ segment) :
    segmentsOf (Path.ofSegments segments).text = segments.map String.ofList :=
  congrArg (List.map String.ofList) (Path.segments_ofSegments segments isNonempty areFree)

theorem Leads.reaches_leading {last : Text} {name : String}
    (areFree : ∀ segment ∈ leading ++ [last], '/' ∉ segment)
    (leads : disk.Leads (Path.ofSegments (leading ++ [last])) folder name) :
    name = String.ofList last ∧ ∃ links, links ≤ linkLimit ∧
      disk.Reaches links (origin disk.here (Path.ofSegments (leading ++ [last])).text)
        (leading.map String.ofList) folder := by
  obtain ⟨walked, links, segments, isFew, reaches⟩ := leads.reaches
  rw [segmentsOf_ofSegments _ (by simp) areFree, List.map_append, List.map_singleton] at segments
  obtain ⟨sameLeading, sameName⟩ := List.append_inj' segments rfl
  rw [← sameLeading] at reaches
  exact ⟨(List.cons.inj sameName).1.symm, links, isFew, reaches⟩

theorem origin_ofSegments (first second : Text)
    (firstFree : '/' ∉ first) (secondFree : '/' ∉ second) :
    origin disk.here (Path.ofSegments (leading ++ [first])).text =
      origin disk.here (Path.ofSegments (leading ++ [second])).text := by
  have same := Path.isAbsolute_ofSegments leading first second firstFree secondFree
  unfold origin
  change (if (Path.ofSegments (leading ++ [first])).isAbsolute then _ else _) =
    (if (Path.ofSegments (leading ++ [second])).isAbsolute then _ else _)
  rw [same]

theorem Leads.sibling {front old new : Text} {name : String}
    (areFree : ∀ segment ∈ leading ++ [front ++ old], '/' ∉ segment)
    (leads : disk.Leads (Path.ofSegments (leading ++ [front ++ old])) folder name)
    (isFree : '/' ∉ front ++ new) (hasNoNul : '\x00' ∉ new)
    (isName : IsName (String.ofList (front ++ new)))
    (isShort : (String.ofList new).utf8ByteSize ≤ (String.ofList old).utf8ByteSize) :
    disk.Leads (Path.ofSegments (leading ++ [front ++ new])) folder
      (String.ofList (front ++ new)) := by
  obtain ⟨nameEq, links, isFew, reaches⟩ := leads.reaches_leading areFree
  have oldFree : '/' ∉ front ++ old := areFree _ (by simp)
  have areFreeNew : ∀ segment ∈ leading ++ [front ++ new], '/' ∉ segment := by
    intro segment member
    rcases List.mem_append.mp member with inLeading | isLast
    · exact areFree segment (List.mem_append_left _ inLeading)
    · rw [List.mem_singleton.mp isLast]
      exact isFree
  refine ⟨isName, ?_, ?_, ?_, leading.map String.ofList, links, ?_, isFew, ?_⟩
  · have fits := leads.nameFits
    rw [nameEq, String.ofList_append, String.utf8ByteSize_append] at fits
    rw [String.ofList_append, String.utf8ByteSize_append]
    omega
  · have isClear := leads.hasNoNul
    rw [Path.text_ofSegments_append] at isClear ⊢
    simp only [String.toList_append, String.toList_ofList, List.contains_append,
      Bool.or_eq_false_iff] at isClear ⊢
    exact ⟨isClear.1, by simpa using hasNoNul⟩
  · have fits := leads.pathFits
    rw [Path.text_ofSegments_append, String.utf8ByteSize_append] at fits ⊢
    omega
  · rw [segmentsOf_ofSegments _ (by simp) areFreeNew, List.map_append, List.map_singleton]
  · rw [origin_ofSegments _ _ isFree oldFree]
    exact reaches

end Disk

/-- The five paths of a fixture lead to the places of its home, and no link is there. -/
structure Disk.Houses (disk : Disk) (artifacts : Artifacts) (home : Home) : Prop where
  leads : ∀ role, disk.Leads (artifacts.path role) home.folder (home.name role)
  isNoLink : ∀ role target, disk.entryAt? (home.place role) ≠ some (.link target)

/-- A fixture is at home and can be run: it is a file, and no folder is where its derived files
belong. -/
structure Disk.Readies (disk : Disk) (path : Path) (home : Home) : Prop where
  houses : disk.Houses (ofFixture path) home
  isFile : ∃ content executable,
    disk.entryAt? (home.place .fixture) = some (.file content executable)
  areOpen : ∀ role, role ≠ .fixture → disk.entryAt? (home.place role) ≠ some .folder

/-! ### Finding the home of a fixture -/

theorem Path.ends_in_extension {path : Path} {leading : List Text} {last : Text}
    (isFixture : path.isFixture = true) (segments : path.segments = leading ++ [last])
    (isNamed : (component? last).isSome = true) :
    ∃ stem, stem ≠ [] ∧ last = stem ++ '.' :: Role.fixture.extension.toList := by
  have hasExtension : path.extension? = some Role.fixture.extension.toList :=
    of_decide_eq_true isFixture
  obtain ⟨_, stem, trailing, extended, isNonempty, _isDotless, areNameless⟩ :=
    extension?_eq_some hasExtension
  rw [segments] at extended
  cases ends : trailing.getLast? with
  | none =>
      rw [List.getLast?_eq_none_iff.mp ends] at extended
      exact ⟨stem, isNonempty, (List.cons.inj (List.append_inj_right' extended rfl)).1⟩
  | some nameless =>
      obtain ⟨others, rfl⟩ := List.getLast?_eq_some_iff.mp ends
      have sameLast := congrArg List.getLast? extended
      rw [← List.cons_append, ← List.append_assoc, List.getLast?_concat,
        List.getLast?_concat] at sameLast
      rw [Option.some.inj sameLast, areNameless nameless (by simp)] at isNamed
      cases isNamed

theorem Path.fixture_shape {path : Path} {walked : List String} {name : String}
    (isFixture : path.isFixture = true) (walkedSegments : Disk.segmentsOf path.text = walked ++ [name])
    (isName : Disk.IsName name) :
    ∃ leading stem,
      path = ofSegments (leading ++ [stem ++ '.' :: Role.fixture.extension.toList]) ∧ stem ≠ [] ∧
        ∀ segment ∈ leading ++ [stem ++ '.' :: Role.fixture.extension.toList], '/' ∉ segment := by
  have allSegments : path.segments.map String.ofList = walked ++ [name] := walkedSegments
  obtain ⟨leading, ending, segments, _, isLast⟩ := List.map_eq_append_iff.mp allSegments
  obtain ⟨last, rfl, rfl⟩ := List.map_eq_singleton_iff.mp isLast
  obtain ⟨stem, isNonempty, rfl⟩ :=
    ends_in_extension isFixture segments (isSome_component? isName)
  refine ⟨leading, stem, ?_, isNonempty, ?_⟩
  · rw [← segments, ofSegments_segments]
  · rw [← segments]
    intro segment member
    exact separator_not_mem_segment member

theorem Artifacts.path_ofSegments {leading : List Text} {stem : Text}
    (isNonempty : stem ≠ []) (isNoDot : stem ≠ ['.'])
    (areFree : ∀ segment ∈ leading ++ [stem ++ '.' :: Role.fixture.extension.toList],
      '/' ∉ segment) (role : Role) :
    (ofFixture (Path.ofSegments
        (leading ++ [stem ++ '.' :: Role.fixture.extension.toList]))).path role =
      Path.ofSegments (leading ++ [stem ++ '.' :: role.extension.toList]) := by
  by_cases isDerived : role = .fixture
  · rw [isDerived]
    rfl
  · rw [path_ofFixture _ _ isDerived]
    exact Path.withExtension_ofSegments role.extension isNonempty isNoDot (by decide) (by decide)
      areFree

namespace Disk

variable {disk : Disk} {path : Path}

variable {folder : Location} {name : String}

theorem route_dots {leading : List Text} {old : Text} {links : Nat}
    (areFree : ∀ segment ∈ leading ++ [['.', '.'] ++ old], '/' ∉ segment)
    (isFew : links ≤ linkLimit)
    (reaches : disk.Reaches links (origin disk.here
      (Path.ofSegments (leading ++ [['.', '.'] ++ old])).text) (leading.map String.ofList) folder)
    (hasNoNul : (Path.ofSegments (leading ++ [['.', '.'] ++ old])).text.toList.contains '\x00' =
      false) (pathFits : (Path.ofSegments (leading ++ [['.', '.']])).text.utf8ByteSize < pathLimit)
    (purpose : Purpose) :
    disk.route purpose (Path.ofSegments (leading ++ [['.', '.']])) =
      .ok (.folder folder.dropLast) := by
  have areFreeDots : ∀ segment ∈ leading ++ [['.', '.']], '/' ∉ segment := by
    intro segment member
    rcases List.mem_append.mp member with inLeading | isLast
    · exact areFree segment (List.mem_append_left _ inLeading)
    · rw [List.mem_singleton.mp isLast]
      decide
  have segments := segmentsOf_ofSegments (leading ++ [['.', '.']]) (by simp) areFreeDots
  rw [List.map_append, List.map_singleton] at segments
  have hasNoNulDots :
      (Path.ofSegments (leading ++ [['.', '.']])).text.toList.contains '\x00' = false := by
    rw [Path.text_ofSegments_append, String.toList_append, List.contains_append,
      Bool.or_eq_false_iff] at hasNoNul
    exact hasNoNul.1
  have isNonempty : (Path.ofSegments (leading ++ [['.', '.']])).text ≠ "" := by
    intro isEmpty
    rw [isEmpty, segmentsOf_empty] at segments
    have last := congrArg List.getLast? segments
    rw [List.getLast?_concat] at last
    exact absurd (Option.some.inj last) (by decide)
  have count : linkLimit + 1 = links + (linkLimit - links + 1) := by omega
  rw [route, hasNoNulDots, if_neg (by decide), if_neg isNonempty, if_neg (Nat.not_le.mpr pathFits),
    segments, origin_ofSegments _ (['.', '.'] ++ old) (areFreeDots _ (by simp))
      (areFree _ (by simp)), count,
    settle_of_reaches disk purpose _ (by decide) reaches]
  rfl

private theorem leads_path {leading : List Text} {stem : Text} (isNonempty : stem ≠ [])
    (isNoDot : stem ≠ ['.'])
    (areFree : ∀ segment ∈ leading ++ [stem ++ '.' :: Role.fixture.extension.toList], '/' ∉ segment)
    (leads : disk.Leads (Path.ofSegments (leading ++
      [stem ++ '.' :: Role.fixture.extension.toList])) folder name) (role : Role) :
    disk.Leads ((ofFixture (Path.ofSegments
        (leading ++ [stem ++ '.' :: Role.fixture.extension.toList]))).path role) folder
      (Home.name ⟨folder, String.ofList stem⟩ role) := by
  have split (extension : Text) : stem ++ '.' :: extension = (stem ++ ['.']) ++ extension := by
    simp
  have stemFree : '/' ∉ stem := fun member =>
    areFree (stem ++ '.' :: Role.fixture.extension.toList) (by simp)
      (List.mem_append_left _ member)
  have isFree := Home.separator_notMem_name role stemFree
  have isName := Home.isName_name folder role isNonempty
  rw [Artifacts.path_ofSegments isNonempty isNoDot areFree role]
  rw [Home.name_ofList] at isName ⊢
  rw [split] at leads areFree isFree isName ⊢
  refine leads.sibling areFree isFree ?_ isName ?_
  · cases role <;> decide
  · cases role <;> decide

/-- The files of a fixture at which a file can be are beside it, unless the stem of its name
is a dot; then all its other paths lead to a folder. -/
theorem leads_or_folders (isFixture : path.isFixture = true) (leads : disk.Leads path folder name) :
    (∃ home : Home, ∀ role, disk.Leads ((ofFixture path).path role) home.folder
      (home.name role)) ∨
      ∀ role, role ≠ .fixture → ∃ location, ∀ purpose,
        disk.route purpose ((ofFixture path).path role) = .ok (.folder location) := by
  obtain ⟨walked, _, segments, _⟩ := leads.reaches
  obtain ⟨leading, stem, rfl, isNonempty, areFree⟩ :=
    Path.fixture_shape isFixture segments leads.isName
  by_cases isDot : stem = ['.']
  · right
    intro role isDerived
    subst isDot
    refine ⟨folder.dropLast, fun purpose => ?_⟩
    rw [Artifacts.path_ofFixture _ _ isDerived,
      Path.withExtension_dots role.extension (by decide) (by decide) areFree]
    obtain ⟨_, links, isFew, reaches⟩ := leads.reaches_leading areFree
    refine route_dots areFree isFew reaches leads.hasNoNul ?_ purpose
    have fits := leads.pathFits
    have text := Path.text_ofSegments_append leading ['.', '.'] Role.fixture.extension.toList
    rw [show ['.'] ++ '.' :: Role.fixture.extension.toList =
      ['.', '.'] ++ Role.fixture.extension.toList from rfl, text, String.utf8ByteSize_append] at fits
    omega
  · exact Or.inl ⟨⟨folder, String.ofList stem⟩, leads_path isNonempty isDot areFree leads⟩

/-- A fixture at which a file can be has a home, or all its other paths lead to a folder. -/
theorem houses_or_folders (isFixture : path.isFixture = true) (leads : disk.Leads path folder name)
    (noLinks : (ofFixture path).NoLinks disk) :
    (∃ home, disk.Houses (ofFixture path) home) ∨
      ∀ role, role ≠ .fixture → ∃ location, ∀ purpose,
        disk.route purpose ((ofFixture path).path role) = .ok (.folder location) := by
  rcases leads_or_folders isFixture leads with ⟨home, leadsAll⟩ | folders
  · exact Or.inl ⟨home, leadsAll, fun role =>
      (leadsAll role).isLink_eq_false_iff.mp (noLinks role)⟩
  · exact Or.inr folders

theorem houses_of_leads {siblingFolder : Location} {siblingName : String} {role : Role}
    (isFixture : path.isFixture = true) (leads : disk.Leads path folder name)
    (noLinks : (ofFixture path).NoLinks disk) (isDerived : role ≠ .fixture)
    (derivedLeads : disk.Leads ((ofFixture path).path role) siblingFolder siblingName) :
    ∃ home, disk.Houses (ofFixture path) home := by
  rcases houses_or_folders isFixture leads noLinks with houses | folders
  · exact houses
  · obtain ⟨location, routed⟩ := folders role isDerived
    have isFolder := routed .edit
    rw [derivedLeads.route_edit] at isFolder
    cases isFolder

end Disk

theorem sampleIsFixture : Path.isFixture ⟨"a.tst"⟩ = true := by decide +kernel

end FixtureRunner
