/-
What a walk through folders finds.

A search finds exactly the regular files that real folders lead to and whose names are those of
fixtures.  Every one is found once, and the order in which folders list their entries does not show
in the result.
-/

import FixtureRunner.Proofs.Discovery.Naming
import FixtureRunner.Proofs.Discovery.Stability
import Mathlib.Data.List.Nodup
import Mathlib.Data.List.Perm.Basic

namespace FixtureRunner

theorem Disk.IsProper.isOrdinary {name : String} (isProper : Disk.IsProper name) :
    Path.IsOrdinary name :=
  ⟨isProper.isName.1, isProper.isName.2.1, isProper.isName.2.2, isProper.isFree⟩

theorem Disk.nodup_names (disk : Disk) (folder : Location) : (disk.names folder).Nodup := by
  refine Std.ExtTreeMap.nodup_keys.filterMap fun first second name isFirst isSecond => ?_
  rw [nameIn_eq_some_iff.mp isFirst, nameIn_eq_some_iff.mp isSecond]

instance (name : String) : Decidable (Disk.IsProper name) :=
  decidable_of_iff (Path.IsOrdinary name ∧ name.utf8ByteSize ≤ Disk.nameLimit ∧
      '\x00' ∉ name.toList)
    ⟨fun ⟨⟨isNonempty, isNoDot, isNoDots, isFree⟩, fits, hasNoNul⟩ =>
        ⟨⟨isNonempty, isNoDot, isNoDots⟩, fits, isFree, hasNoNul⟩,
      fun isProper => ⟨isProper.isOrdinary, isProper.fits, isProper.hasNoNul⟩⟩

theorem Disk.isSound_of_keys {disk : Disk}
    (areProper : ∀ location ∈ disk.entries.keys, ∀ name ∈ location.getLast?, IsProper name) :
    disk.IsSound := by
  intro folder name entry isThere
  have isKey : folder ++ [name] ∈ disk.entries.keys :=
    (mem_keys_iff (by simp)).mpr ⟨entry, isThere⟩
  exact areProper _ isKey name List.getLast?_concat

namespace Discovery

/-- From the folder, the names lead through real folders, none of which a search leaves out, to a
regular file. -/
inductive LeadsToFile (disk : Disk) : Location → List String → Prop
  | file {folder : Location} {name : String} {content : Bytes} {executable : Bool}
      (isFile : disk.entryAt? (folder ++ [name]) = some (.file content executable)) :
      LeadsToFile disk folder [name]
  | inside {folder : Location} {name : String} {rest : List String}
      (isFolder : disk.entryAt? (folder ++ [name]) = some .folder)
      (isNoGit : name ≠ ".git") (isNoTarget : name ≠ "target")
      (leads : LeadsToFile disk (folder ++ [name]) rest) :
      LeadsToFile disk folder (name :: rest)

section Leads

variable {disk : Disk} {folder : Location} {names : List String}
  (leads : LeadsToFile disk folder names)

include leads

theorem LeadsToFile.hasFile : disk.HasFile (folder ++ names) := by
  induction leads with
  | file isFile => exact ⟨_, _, isFile⟩
  | inside _ _ _ _ ih =>
      rw [List.append_assoc] at ih
      exact ih

theorem LeadsToFile.length_le_depth : names.length ≤ disk.depth := by
  obtain ⟨content, executable, isFile⟩ := leads.hasFile
  have isShort := Disk.length_lt_depth isFile
  rw [List.length_append] at isShort
  omega

theorem LeadsToFile.isRelative (isSound : disk.IsSound) : IsRelative names := by
  induction leads with
  | @file folder name content executable isFile =>
      refine ⟨List.cons_ne_nil _ _, fun other isThere => ?_⟩
      rw [List.mem_singleton.mp isThere]
      exact (isSound folder name _ isFile).isOrdinary
  | @inside folder name rest isFolder _ _ _ ih =>
      refine ⟨List.cons_ne_nil _ _, fun other isThere => ?_⟩
      rcases List.mem_cons.mp isThere with rfl | isLater
      · exact (isSound folder other _ isFolder).isOrdinary
      · exact ih.areOrdinary other isLater

end Leads

/-! ### The files below a folder -/

section Files

variable {disk : Disk} {depth : Nat} {folder : Location} {name : String} {names : List String}

theorem mem_filesAt_iff :
    names ∈ filesAt disk depth folder name ↔
      (names = [name] ∧ disk.HasFile (folder ++ [name])) ∨
      (disk.entryAt? (folder ++ [name]) = some .folder ∧ name ≠ ".git" ∧ name ≠ "target" ∧
        ∃ rest ∈ filesBelow disk depth (folder ++ [name]), names = name :: rest) := by
  rw [filesAt, Disk.HasFile]
  split
  · rename_i content executable isFile
    simp [isFile]
  · rename_i isFolder
    by_cases isPruned : prunedNames.contains name = true
    · have isLeftOut : name = ".git" ∨ name = "target" := by simpa [prunedNames] using isPruned
      simp only [isPruned, if_true, List.not_mem_nil, false_iff]
      rintro (⟨_, content, executable, isFile⟩ | ⟨_, isNoGit, isNoTarget, _⟩)
      · rw [isFolder] at isFile
        cases isFile
      · exact isLeftOut.elim isNoGit isNoTarget
    · have isKept : name ≠ ".git" ∧ name ≠ "target" := by simpa [prunedNames] using isPruned
      rw [if_neg isPruned]
      simp [isFolder, isKept, eq_comm]
  · rename_i isNoFile isNoFolder
    simp only [List.not_mem_nil, false_iff]
    rintro (⟨_, content, executable, isFile⟩ | ⟨isFolder, _⟩)
    · exact isNoFile content executable isFile
    · exact isNoFolder isFolder

theorem mem_names_of_filesAt (isAt : names ∈ filesAt disk depth folder name) :
    name ∈ disk.names folder := by
  rw [Disk.mem_names_iff]
  rcases mem_filesAt_iff.mp isAt with ⟨_, content, executable, isFile⟩ | ⟨isFolder, _⟩
  · exact ⟨_, isFile⟩
  · exact ⟨_, isFolder⟩

theorem mem_filesBelow_succ :
    names ∈ filesBelow disk (depth + 1) folder ↔
      ∃ name, names ∈ filesAt disk depth folder name := by
  rw [filesBelow_succ, List.mem_flatMap]
  exact ⟨fun ⟨name, _, isAt⟩ => ⟨name, isAt⟩,
    fun ⟨name, isAt⟩ => ⟨name, mem_names_of_filesAt isAt, isAt⟩⟩

theorem leads_of_mem (isBelow : names ∈ filesBelow disk depth folder) :
    LeadsToFile disk folder names := by
  induction depth generalizing folder names with
  | zero => cases isBelow
  | succ depth ih =>
      obtain ⟨name, isAt⟩ := mem_filesBelow_succ.mp isBelow
      rcases mem_filesAt_iff.mp isAt with
        ⟨rfl, _, _, isFile⟩ | ⟨isFolder, isNoGit, isNoTarget, rest, isRest, rfl⟩
      · exact .file isFile
      · exact .inside isFolder isNoGit isNoTarget (ih isRest)

theorem LeadsToFile.mem (leads : LeadsToFile disk folder names) (isShort : names.length ≤ depth) :
    names ∈ filesBelow disk depth folder := by
  induction leads generalizing depth with
  | file isFile =>
      obtain ⟨depth, rfl⟩ := Nat.exists_eq_add_of_le' isShort
      exact mem_filesBelow_succ.mpr ⟨_, mem_filesAt_iff.mpr (.inl ⟨rfl, _, _, isFile⟩)⟩
  | inside isFolder isNoGit isNoTarget _ ih =>
      rw [List.length_cons] at isShort
      obtain ⟨depth, rfl⟩ := Nat.exists_eq_add_of_le' (Nat.le_of_add_left_le isShort)
      exact mem_filesBelow_succ.mpr ⟨_, mem_filesAt_iff.mpr
        (.inr ⟨isFolder, isNoGit, isNoTarget, _, ih (by omega), rfl⟩)⟩

theorem mem_filesBelow_iff :
    names ∈ filesBelow disk disk.depth folder ↔ LeadsToFile disk folder names :=
  ⟨leads_of_mem, fun leads => leads.mem leads.length_le_depth⟩

theorem head?_of_filesAt (isAt : names ∈ filesAt disk depth folder name) :
    names.head? = some name := by
  rcases mem_filesAt_iff.mp isAt with ⟨rfl, _⟩ | ⟨_, _, _, _, _, rfl⟩
  · rfl
  · rfl

theorem nodup_filesBelow (disk : Disk) (depth : Nat) (folder : Location) :
    (filesBelow disk depth folder).Nodup := by
  induction depth generalizing folder with
  | zero => exact List.nodup_nil
  | succ depth ih =>
      rw [filesBelow_succ, List.nodup_flatMap]
      constructor
      · intro name _
        rw [filesAt]
        split
        · exact List.nodup_singleton _
        · split
          · exact List.nodup_nil
          · exact (ih _).map List.cons_injective
        · exact List.nodup_nil
      · -- Files at different names differ in their first names.
        refine (disk.nodup_names folder).imp fun {first second} isOther names isFirst isSecond => ?_
        have isHead := head?_of_filesAt isFirst
        rw [head?_of_filesAt isSecond] at isHead
        exact isOther (Option.some.inj isHead).symm

end Files

/-! ### Listing folders in any order -/

/-- The files below a folder, if folders list their entries in the given order. -/
def filesListed (disk : Disk) (listing : Location → List String) :
    Nat → Location → List (List String)
  | 0, _ => []
  | depth + 1, folder =>
      (listing folder).flatMap fun name =>
        match disk.entryAt? (folder ++ [name]) with
        | some (.file _ _) => [[name]]
        | some .folder =>
            if prunedNames.contains name then []
            else (filesListed disk listing depth (folder ++ [name])).map (name :: ·)
        | _ => []

theorem filesListed_names (disk : Disk) (depth : Nat) (folder : Location) :
    filesListed disk disk.names depth folder = filesBelow disk depth folder := by
  induction depth generalizing folder with
  | zero => rfl
  | succ depth ih =>
      have sameBelow : filesListed disk disk.names depth = filesBelow disk depth := funext ih
      rw [filesListed, sameBelow]
      rfl

theorem filesListed_perm (disk : Disk) {listing other : Location → List String}
    (areListed : ∀ place, (listing place).Perm (other place)) (depth : Nat) (folder : Location) :
    (filesListed disk listing depth folder).Perm (filesListed disk other depth folder) := by
  induction depth generalizing folder with
  | zero => exact .refl []
  | succ depth ih =>
      refine (areListed folder).flatMap fun name _ => ?_
      cases disk.entryAt? (folder ++ [name]) with
      | none => exact .refl _
      | some entry =>
          cases entry with
          | file content executable => exact .refl _
          | link target => exact .refl _
          | folder =>
              simp only
              split
              · exact .refl _
              · exact (ih _).map _

/-! ### Fixtures -/

theorem extend_nonempty {root : Path} (isNonempty : root.text ≠ "") (names : List String) :
    (extend root names).text ≠ "" := by
  induction names generalizing root with
  | nil => exact isNonempty
  | cons name rest ih => exact ih (Path.join_nonempty isNonempty ⟨name⟩)

/-- The path of a fixture ends in a name with something before the extension. -/
theorem isFixture_join_iff {path : Path} {name : String} (isNonempty : path.text ≠ "")
    (isOrdinary : Path.IsOrdinary name) :
    (path.join ⟨name⟩).isFixture = true ↔ ∃ stem, stem ≠ "" ∧ name = stem ++ ".tst" := by
  obtain ⟨isFilled, isNoDot, isNoDots⟩ := isOrdinary.toList_ne
  have isNamed : (Path.component? name.toList).isSome = true :=
    (Path.component?_isSome_iff _).mpr ⟨isFilled, isNoDot⟩
  obtain ⟨leading, segments, _⟩ := Path.segments_join isNonempty isOrdinary.isFree
  constructor
  · intro isFixture
    obtain ⟨stem, isStem, isName⟩ := Path.ends_in_extension isFixture segments isNamed
    refine ⟨String.ofList stem, mt String.ofList_eq_empty_iff.mp isStem, ?_⟩
    rw [← String.toList_inj, isName]
    simp [Role.extension]
  · rintro ⟨stem, isStem, rfl⟩
    have isText : (stem ++ ".tst").toList =
        stem.toList ++ '.' :: Artifacts.fixtureExtension.toList := by
      rw [String.toList_append]
      rfl
    have isFileName : (path.join ⟨stem ++ ".tst"⟩).fileName? = some (stem ++ ".tst").toList := by
      rw [Path.fileName?, segments, Path.named_concat leading _ isNamed, List.getLast?_concat]
      simp only [isNoDot, isNoDots, or_self, if_false]
    rw [Path.isFixture, Path.extension?, isFileName, Option.bind_some, isText,
      Path.cutName_concat _ _ (by simpa using isStem) (by decide)]
    exact decide_eq_true rfl

theorem isFixture_extend_iff {root : Path} {names : List String} (isNonempty : root.text ≠ "")
    (isRelative : IsRelative names) :
    (extend root names).isFixture = true ↔
      ∃ stem, stem ≠ "" ∧ names.getLast? = some (stem ++ ".tst") := by
  obtain ⟨leading, last, rfl⟩ := (List.eq_nil_or_concat' names).resolve_left isRelative.isNonempty
  rw [extend_concat, isFixture_join_iff (extend_nonempty isNonempty leading)
    (isRelative.areOrdinary last (by simp)), List.getLast?_concat]
  simp only [Option.some.injEq]

section Found

variable {disk : Disk} {root : Path} {folder : Location} (isSound : disk.IsSound)

include isSound

theorem mem_fixturesBelow_iff (isNonempty : root.text ≠ "") {path : Path} :
    path ∈ fixturesBelow disk root folder ↔
      ∃ names stem, LeadsToFile disk folder names ∧
        names.getLast? = some (stem ++ ".tst") ∧ stem ≠ "" ∧ path = extend root names := by
  rw [mem_fixturesBelow, List.mem_filter, List.mem_map]
  constructor
  · rintro ⟨⟨names, isBelow, rfl⟩, isFixture⟩
    have leads := mem_filesBelow_iff.mp isBelow
    obtain ⟨stem, isStem, isLast⟩ :=
      (isFixture_extend_iff isNonempty (leads.isRelative isSound)).mp isFixture
    exact ⟨names, stem, leads, isLast, isStem, rfl⟩
  · rintro ⟨names, stem, leads, isLast, isStem, rfl⟩
    exact ⟨⟨names, mem_filesBelow_iff.mpr leads, rfl⟩,
      (isFixture_extend_iff isNonempty (leads.isRelative isSound)).mpr ⟨stem, isStem, isLast⟩⟩

theorem eq_of_found {names others : List String}
    (isBelow : names ∈ filesBelow disk disk.depth folder)
    (isBelowToo : others ∈ filesBelow disk disk.depth folder)
    (same : (extend root names).components = (extend root others).components) : names = others :=
  eq_of_components_extend ((leads_of_mem isBelow).isRelative isSound).areOrdinary
    ((leads_of_mem isBelowToo).isRelative isSound).areOrdinary same

theorem eq_of_mem_fixturesBelow {left right : Path} (isLeft : left ∈ fixturesBelow disk root folder)
    (isRight : right ∈ fixturesBelow disk root folder)
    (same : left.components = right.components) : left = right := by
  rw [mem_fixturesBelow, List.mem_filter, List.mem_map] at isLeft isRight
  obtain ⟨⟨names, isBelow, rfl⟩, _⟩ := isLeft
  obtain ⟨⟨others, isBelowToo, rfl⟩, _⟩ := isRight
  rw [eq_of_found isSound isBelow isBelowToo same]

theorem nodup_fixturesBelow : (fixturesBelow disk root folder).Nodup := by
  rw [fixturesBelow, (sorted_perm _).nodup_iff]
  refine List.Nodup.filter _ ((nodup_filesBelow disk disk.depth folder).map_on ?_)
  intro names isBelow others isBelowToo same
  exact eq_of_found isSound isBelow isBelowToo (congrArg Path.components same)

theorem pairwise_fixturesBelow :
    (fixturesBelow disk root folder).Pairwise fun left right =>
      compare left.components right.components = .lt := by
  have areSorted : (fixturesBelow disk root folder).Pairwise fun left right =>
      left.le right = true := pairwise_sorted _
  refine (areSorted.and (nodup_fixturesBelow isSound)).imp_of_mem ?_
  intro left right isLeft isRight ⟨isLess, isOther⟩
  cases isOrder : compare left.components right.components with
  | lt => rfl
  | eq =>
      exact absurd (eq_of_mem_fixturesBelow isSound isLeft isRight
        (Std.LawfulEqOrd.eq_of_compare isOrder)) isOther
  | gt =>
      rw [Path.le, isOrder] at isLess
      cases isLess

theorem sorted_filesListed {listing : Location → List String}
    (areListed : ∀ place, (listing place).Perm (disk.names place)) :
    sorted (((filesListed disk listing disk.depth folder).map (extend root)).filter
      Path.isFixture) = fixturesBelow disk root folder := by
  have isPerm := ((filesListed_perm disk areListed disk.depth folder).map (extend root)).filter
    Path.isFixture
  rw [filesListed_names] at isPerm
  refine (eq_of_sorted (pairwise_sorted _) (pairwise_sorted _) ?_ ?_).symm
  · exact (sorted_perm _).trans (isPerm.symm.trans (sorted_perm _).symm)
  · intro left isLeft right isRight same
    exact eq_of_mem_fixturesBelow isSound isLeft isRight same

end Found

/-- A search finds exactly the fixtures below its root, in strict order, however folders list their
entries. -/
theorem findFixtures_exact {root : Path} {folder : Location} {workspace : Workspace}
    (isSound : workspace.disk.IsSound)
    (isRoot : workspace.disk.find root = .ok (folder, .folder)) :
    ∃ found, (findFixtures root).run workspace = (.ok found, workspace) ∧
      (∀ path, path ∈ found ↔
        ∃ names stem, LeadsToFile workspace.disk folder names ∧
          names.getLast? = some (stem ++ ".tst") ∧ stem ≠ "" ∧ path = extend root names) ∧
      found.Pairwise (fun left right => compare left.components right.components = .lt) ∧
      ∀ listing : Location → List String,
        (∀ place, (listing place).Perm (workspace.disk.names place)) →
        sorted (((filesListed workspace.disk listing workspace.disk.depth folder).map
          (extend root)).filter Path.isFixture) = found :=
  ⟨fixturesBelow workspace.disk root folder, run_findFixtures isRoot,
    fun _ => mem_fixturesBelow_iff isSound (Disk.enters_of_find isRoot).isNonempty,
    pairwise_fixturesBelow isSound, fun _ areListed => sorted_filesListed isSound areListed⟩

/-- In a folder whose name is left out elsewhere: a fixture, one that is left out, one with hardly a
stem in a folder named like a fixture, one with no stem, and a link. -/
def targetDisk : Disk :=
  (((((((Disk.empty ["target"]).put ["target", "a.tst"] (.file [] false)).put
    ["target", ".git"] .folder).put ["target", ".git", "b.tst"] (.file [] false)).put
      ["target", "c.tst"] .folder).put ["target", "c.tst", "..tst"] (.file [] false)).put
        ["target", ".tst"] (.file [] false)).put ["target", "d.tst"] (.link "a.tst")

theorem findFixtures_exact_in_target :
    (findFixtures ⟨"."⟩).run { disk := targetDisk } =
      (.ok [⟨"./a.tst"⟩, ⟨"./c.tst/..tst"⟩], { disk := targetDisk }) ∧
    ∀ path, path ∈ [⟨"./a.tst"⟩, ⟨"./c.tst/..tst"⟩] ↔
      ∃ names stem, LeadsToFile targetDisk ["target"] names ∧
        names.getLast? = some (stem ++ ".tst") ∧ stem ≠ "" ∧ path = extend ⟨"."⟩ names := by
  have isSound : targetDisk.IsSound := Disk.isSound_of_keys (by decide)
  have isRoot : targetDisk.find ⟨"."⟩ = .ok (["target"], .folder) := by decide
  have areFound : ((filesListed targetDisk targetDisk.names targetDisk.depth ["target"]).map
      (extend ⟨"."⟩)).filter Path.isFixture = [⟨"./a.tst"⟩, ⟨"./c.tst/..tst"⟩] := by
    decide
  have areSorted : [(⟨"./a.tst"⟩ : Path), ⟨"./c.tst/..tst"⟩].Pairwise
      fun left right => left.le right = true := by
    decide
  obtain ⟨found, isRun, members, _, anyOrder⟩ :=
    @findFixtures_exact ⟨"."⟩ ["target"] { disk := targetDisk } isSound isRoot
  have isFound := anyOrder targetDisk.names fun _ => .refl _
  rw [areFound, sorted, List.mergeSort_of_pairwise areSorted] at isFound
  rw [isFound]
  exact ⟨isRun, members⟩

end Discovery

end FixtureRunner
