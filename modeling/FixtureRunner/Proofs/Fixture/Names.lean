/-
The names of the files of a fixture.

The five paths of a fixture differ in their extensions and in nothing else, so a file that is
written or removed by one of them never has the name of another one.  The exception is a path that
ends in two dots and the extension: its derived paths all are the folder above, where no file can be
written or removed.
-/

import FixtureRunner.Proofs.Ensures
import FixtureRunner.Proofs.Fixture.Siblings

namespace FixtureRunner

/-! ### Requests by name -/

namespace Disk

variable {disk after smaller : Disk} {path : Path} {folder : Location} {name : String}

theorem Leads.fileName? (leads : disk.Leads path folder name) :
    path.fileName? = some name.toList := by
  obtain ⟨leading, _, areSegments, _⟩ := leads.reaches
  obtain ⟨front, last, isSplit, _, isLast⟩ := List.map_eq_append_iff.mp areSegments
  obtain ⟨segment, rfl, rfl⟩ := List.map_eq_singleton_iff.mp isLast
  have isName := leads.isName
  have isNoDots : ¬(segment = ['.'] ∨ segment = ['.', '.']) := by
    rintro (rfl | rfl)
    · exact isName.2.1 rfl
    · exact isName.2.2 rfl
  rw [Path.fileName?, isSplit, Path.named_concat front _ (Path.isSome_component? isName),
    List.getLast?_concat, String.toList_ofList]
  exact if_neg isNoDots

theorem leads_of_remove (isRemoved : disk.remove path = .ok smaller) :
    ∃ folder name, disk.Leads path folder name ∧ smaller = disk.erase (folder ++ [name]) := by
  have removes : disk.Removes path smaller := Or.inl isRemoved
  rw [remove, removable] at isRemoved
  rcases removes.cases with ⟨folder, name, closed, routed, _, rfl⟩ | ⟨routed, _⟩
  · cases closed with
    | false =>
        obtain ⟨place, last, leads⟩ := leads_of_route routed
        have isPlace := leads.placeOf?.symm.trans
          (placeOf?_eq_some_iff.mpr ⟨folder, name, false, routed, rfl⟩)
        exact ⟨place, last, leads, by rw [Option.some.inj isPlace]⟩
    | true =>
        rw [routed] at isRemoved
        rcases found : disk.entryAt? (folder ++ [name]) with _ | _ | _ | _ <;>
          simp [found, bind, Except.bind, throw, throwThe, MonadExceptOf.throw] at isRemoved
  · rw [routed] at isRemoved
    cases isRemoved

end Disk

namespace Artifacts

open FixtureRunner.Action

variable {artifacts : Artifacts} {fixture : Path}

/-- The five paths differ in their extensions, and in nothing else. -/
structure AreSiblings (artifacts : Artifacts) : Prop where
  areDistinct : ∀ role other, role ≠ other →
    (artifacts.path role).same (artifacts.path other) = false
  haveParent : ∀ role, (artifacts.path role).parent? = artifacts.fixture.parent?
  haveStem : ∀ role, (artifacts.path role).stem? = artifacts.fixture.stem?
  haveExtension : ∀ role, (artifacts.path role).extension? = some role.extension.toList

theorem Spells.areSiblings {leading : List Text} {stem : Text}
    (spells : artifacts.Spells leading stem) : artifacts.AreSiblings := by
  have haveStem (role : Role) : (artifacts.path role).stem? = some stem := by
    rw [Path.stem?, spells.fileName? role, Option.map_some,
      Path.cutName_concat stem _ spells.isNonempty role.dot_notMem_extension]
  have areAbsolute (role : Role) :
      (artifacts.path role).isAbsolute = true ↔ leading.head? = some [] := by
    obtain ⟨trailing, _, areSegments⟩ := spells.segments role
    rw [Path.isAbsolute_iff, areSegments]
    cases leading <;> simp [and_comm]
  have haveParent (role : Role) :
      (artifacts.path role).parent? = (artifacts.path .fixture).parent? := by
    rw [Path.parent?_of_named (spells.named role), Path.parent?_of_named (spells.named .fixture)]
    simp only [areAbsolute]
  refine ⟨?_, haveParent, fun role => (haveStem role).trans (haveStem .fixture).symm,
    spells.extension?⟩
  intro role other isOther
  rw [Path.same, decide_eq_false_iff_not, spells.components, spells.components]
  intro same
  have sameName := Component.name.inj (List.cons.inj (List.append_inj_right' same rfl)).1
  exact isOther (Home.role_of_name (String.ofList_injective sameName))

theorem fileName?_ne (isFixture : fixture.isFixture = true) {role other : Role}
    (isOther : role ≠ other) {name : Text}
    (isName : ((ofFixture fixture).path role).fileName? = some name) :
    ((ofFixture fixture).path other).fileName? ≠ some name := by
  intro isOtherName
  obtain ⟨leading, stem, ⟨_, spells⟩ | ⟨areSegments, areDots⟩⟩ := spells_or_dots isFixture
  · rw [spells.fileName?] at isName isOtherName
    exact isOther (Home.role_of_name (Option.some.inj (isName.trans isOtherName.symm)))
  · have areNameless (role : Role) (isDerived : role ≠ .fixture) :
        ((ofFixture fixture).path role).fileName? = none := by
      rw [areDots role isDerived, fileName?_dots (dots_free areSegments)]
    by_cases isDerived : role = .fixture
    · rw [areNameless other (isDerived ▸ isOther.symm)] at isOtherName
      cases isOtherName
    · rw [areNameless role isDerived] at isName
      cases isName

theorem purge_spares {folder : Location} {name : String}
    (areOthers : ∀ path ∈ artifacts.derived, path.fileName? ≠ some name.toList) (workspace : Workspace) :
    (artifacts.purge.run workspace).2.disk.entryAt? (folder ++ [name]) =
      workspace.disk.entryAt? (folder ++ [name]) := by
  have spares (path : Path) (isThere : path ∈ artifacts.derived) :
      Maintains (fun disk => disk.entryAt? (folder ++ [name]) =
        workspace.disk.entryAt? (folder ++ [name])) (removeIfPresent path) := by
    refine maintains_removeIfPresent fun disk smaller held removes => ?_
    rcases removes with isRemoved | ⟨_, rfl⟩
    · obtain ⟨place, last, leads, rfl⟩ := Disk.leads_of_remove isRemoved
      rw [Disk.entryAt?_erase _ _ _ (by simp), if_neg, held]
      intro same
      rw [(List.cons.inj (List.append_inj_right' same rfl)).1] at areOthers
      exact areOthers path isThere leads.fileName?
    · exact held
  have sparesAll (paths : List Path) (areDerived : ∀ path ∈ paths, path ∈ artifacts.derived) :
      Maintains (fun disk => disk.entryAt? (folder ++ [name]) =
        workspace.disk.entryAt? (folder ++ [name])) (paths.forM removeIfPresent) := by
    induction paths with
    | nil => exact maintains_pure _
    | cons path rest ih =>
        obtain ⟨isDerived, areRest⟩ := List.forall_mem_cons.mp areDerived
        exact (spares path isDerived).bind fun _ => ih areRest
  exact ((sparesAll _ fun _ isThere => isThere).bind fun _ => maintains_record _) workspace rfl

/-- The paths of a fixture are siblings exactly if it does not end in two dots and the extension.
Whatever they are, a file is neither written nor purged by the path of another one. -/
theorem areSiblings_iff (isFixture : fixture.isFixture = true) :
    ((ofFixture fixture).AreSiblings ↔
      fixture.segments.getLast? ≠ some ['.', '.', 't', 's', 't']) ∧
    (fixture.segments.getLast? = some ['.', '.', 't', 's', 't'] → ∀ role, role ≠ .fixture →
      (ofFixture fixture).path role =
        Path.ofSegments (fixture.segments.dropLast ++ [['.', '.']])) ∧
    (∀ role other, role ≠ other → ∀ name : String,
      ((ofFixture fixture).path other).fileName? = some name.toList →
      ∀ (disk after : Disk) content, disk.isLink ((ofFixture fixture).path role) = false →
        disk.write ((ofFixture fixture).path role) content = .ok after →
        ∀ folder, after.entryAt? (folder ++ [name]) = disk.entryAt? (folder ++ [name])) ∧
    ∀ name : String, fixture.fileName? = some name.toList → ∀ workspace folder,
      ((ofFixture fixture).purge.run workspace).2.disk.entryAt? (folder ++ [name]) =
        workspace.disk.entryAt? (folder ++ [name]) := by
  refine ⟨?_, ?_, ?_, ?_⟩
  · obtain ⟨leading, stem, ⟨isNamed, spells⟩ | ⟨areSegments, areDots⟩⟩ := spells_or_dots isFixture
    · exact iff_of_true spells.areSiblings isNamed
    · refine iff_of_false (fun siblings => ?_) fun isNamed => isNamed ?_
      · have areDistinct := siblings.areDistinct .source .expected (by decide)
        rw [areDots .source (by decide), areDots .expected (by decide), Path.same] at areDistinct
        simp at areDistinct
      · rw [areSegments, List.getLast?_concat]
  · intro isLast role isDerived
    obtain ⟨leading, stem, ⟨isNamed, _⟩ | ⟨areSegments, areDots⟩⟩ := spells_or_dots isFixture
    · exact absurd isLast isNamed
    · rw [areDots role isDerived, areSegments, List.dropLast_concat]
  · intro role other isOther name isName disk after content isNoLink isWritten folder
    obtain ⟨place, last, leads, _, rfl⟩ := Disk.eq_store_of_write isNoLink isWritten
    rw [Disk.entryAt?_store _ _ _ _ (by simp), if_neg]
    intro same
    rw [(List.cons.inj (List.append_inj_right' same rfl)).1] at isName
    exact fileName?_ne isFixture isOther leads.fileName? isName
  · intro name isName workspace folder
    refine purge_spares (fun path isThere => ?_) workspace
    obtain ⟨role, isDerived, rfl⟩ := mem_derived_iff.mp isThere
    exact fileName?_ne isFixture (Ne.symm isDerived) isName

theorem areSiblings_iff_dots :
    ¬(ofFixture ⟨"ops/..tst"⟩).AreSiblings ∧ (ofFixture ⟨"ops/..tst"⟩).source = ⟨"ops/.."⟩ ∧
      (ofFixture ⟨"ops/..tst/"⟩).AreSiblings ∧ (ofFixture ⟨"ops/...tst"⟩).AreSiblings := by
  obtain ⟨areSiblings, areDots, _⟩ := areSiblings_iff (by decide : Path.isFixture ⟨"ops/..tst"⟩ = true)
  exact ⟨fun siblings => areSiblings.mp siblings (by decide),
    areDots (by decide) .source (by decide), (areSiblings_iff (by decide)).1.mpr (by decide),
    (areSiblings_iff (by decide)).1.mpr (by decide)⟩

end Artifacts
end FixtureRunner
