/-
The paths beside a fixture.

All paths of a fixture have the same components but the last, which is its stem with the extension
of their role.  If the stem is a dot, the last component of the derived paths may be two dots
instead.  Either way they tell which fixture they belong to.
-/

import FixtureRunner.Proofs.Fixture.Actions
import FixtureRunner.Proofs.Path.Parents

namespace FixtureRunner

theorem Role.dot_notMem_extension (role : Role) : '.' ∉ role.extension.toList := by
  cases role <;> decide

namespace Artifacts

variable {fixture : Path}

theorem exists_role {path : Path} (isThere : path ∈ (ofFixture fixture).derived) :
    ∃ role : Role, role ≠ .fixture ∧ path = fixture.withExtension role.extension := by
  obtain ⟨role, isDerived, rfl⟩ := mem_derived_iff.mp isThere
  exact ⟨role, isDerived, path_ofFixture fixture role isDerived⟩

/-! ### The last component -/

/-- The components of a fixture that others stand behind, and the stem of its name. -/
@[ext] structure Branch where
  front : List Component
  stem : Text

namespace Branch

def components (branch : Branch) (role : Role) : List Component :=
  branch.front ++ [.name (String.ofList (branch.stem ++ '.' :: role.extension.toList))]

theorem eq_of_components {left right : Branch} {role other : Role}
    (same : left.components role = right.components other) : left = right := by
  obtain ⟨sameFront, sameName⟩ := List.append_inj' same rfl
  have isName := String.ofList_injective (Component.name.inj (List.cons.inj sameName).1)
  obtain rfl : role = other := Home.role_of_name isName
  exact Branch.ext sameFront (List.append_cancel_right isName)

end Branch

/-- The derived paths of a fixture branch off where it does, with a name or with two dots. -/
structure BranchesAt (fixture : Path) (branch : Branch) : Prop where
  isFixture : fixture.components = branch.components .fixture
  areDerived :
    (∀ role : Role, role ≠ .fixture →
      (fixture.withExtension role.extension).components = branch.components role) ∨
    branch.stem = ['.'] ∧ ∀ role : Role, role ≠ .fixture →
      (fixture.withExtension role.extension).components = branch.front ++ [.up]
  isNoFixture : ∀ role : Role, role ≠ .fixture →
    (fixture.withExtension role.extension).isFixture = false

section Name

variable {stem : Text} (isNonempty : stem ≠ [])

include isNonempty

theorem name_ne (role : Role) :
    stem ++ '.' :: role.extension.toList ≠ [] ∧ stem ++ '.' :: role.extension.toList ≠ ['.'] ∧
      stem ++ '.' :: role.extension.toList ≠ ['.', '.'] := by
  have isName := Home.isName_name [] role isNonempty
  rw [Home.name_ofList] at isName
  refine ⟨?_, ?_, ?_⟩
  · exact fun same => isName.1 (congrArg String.ofList same)
  · exact fun same => isName.2.1 (congrArg String.ofList same)
  · exact fun same => isName.2.2 (congrArg String.ofList same)

theorem firstComponent_name (role : Role) :
    Path.firstComponent (stem ++ '.' :: role.extension.toList) =
      .name (String.ofList (stem ++ '.' :: role.extension.toList)) := by
  obtain ⟨isFilled, isNoDot, isNoDots⟩ := name_ne isNonempty role
  rw [Path.firstComponent, if_neg isFilled, if_neg isNoDot, if_neg isNoDots]

end Name

section Dots

variable {leading : List Text} (areFree : ∀ segment ∈ leading ++ [['.', '.']], '/' ∉ segment)

include areFree

theorem fileName?_dots : (Path.ofSegments (leading ++ [['.', '.']])).fileName? = none := by
  rw [Path.fileName?, Path.segments_ofSegments _ (by simp) areFree,
    Path.named_concat leading _ (by decide)]
  simp

theorem isFixture_dots : (Path.ofSegments (leading ++ [['.', '.']])).isFixture = false := by
  rw [Path.isFixture, Path.extension?, fileName?_dots areFree]
  rfl

end Dots

/-- The paths are spelled with the stem behind some segments, and nothing is named behind that. -/
structure Spells (artifacts : Artifacts) (leading : List Text) (stem : Text) : Prop where
  isNonempty : stem ≠ []
  segments : ∀ role : Role, ∃ trailing, Path.AreNameless trailing ∧
    (artifacts.path role).segments = leading ++ (stem ++ '.' :: role.extension.toList) :: trailing

section Spells

variable {artifacts : Artifacts} {leading : List Text} {stem : Text}
  (spells : artifacts.Spells leading stem)

include spells

theorem Spells.components (role : Role) :
    (artifacts.path role).components =
      Branch.components ⟨Path.componentsBefore leading, stem⟩ role := by
  obtain ⟨isFilled, isNoDot, _⟩ := name_ne spells.isNonempty role
  obtain ⟨trailing, areNameless, areSegments⟩ := spells.segments role
  rw [Path.components_of_name areSegments isFilled (fun _ => isNoDot) areNameless,
    firstComponent_name spells.isNonempty role]
  rfl

theorem Spells.named (role : Role) :
    Path.named (artifacts.path role).segments =
      leading ++ [stem ++ '.' :: role.extension.toList] := by
  obtain ⟨isFilled, isNoDot, _⟩ := name_ne spells.isNonempty role
  obtain ⟨trailing, areNameless, areSegments⟩ := spells.segments role
  rw [areSegments, Path.named_of_name leading
    ((Path.component?_isSome_iff _).mpr ⟨isFilled, isNoDot⟩) areNameless]

theorem Spells.fileName? (role : Role) :
    (artifacts.path role).fileName? = some (stem ++ '.' :: role.extension.toList) := by
  obtain ⟨_, isNoDot, isNoDots⟩ := name_ne spells.isNonempty role
  rw [Path.fileName?, spells.named role]
  simp [isNoDot, isNoDots]

theorem Spells.extension? (role : Role) :
    (artifacts.path role).extension? = some role.extension.toList := by
  rw [Path.extension?, spells.fileName? role, Option.bind_some,
    Path.cutName_concat stem _ spells.isNonempty role.dot_notMem_extension]

end Spells

/-- The derived paths have the stem of the fixture, unless it ends in two dots and the
extension. -/
theorem spells_or_dots (isFixture : fixture.isFixture = true) :
    ∃ leading stem, fixture.segments.getLast? ≠ some ['.', '.', 't', 's', 't'] ∧
        (ofFixture fixture).Spells leading stem ∨
      fixture.segments = leading ++ [['.', '.', 't', 's', 't']] ∧ ∀ role, role ≠ .fixture →
        (ofFixture fixture).path role = Path.ofSegments (leading ++ [['.', '.']]) := by
  have hasExtension : fixture.extension? = some Role.fixture.extension.toList :=
    of_decide_eq_true isFixture
  obtain ⟨leading, stem, trailing, areSegments, isNonempty, areNameless, isReplaced⟩ :=
    Path.withExtension_cases hasExtension (by decide)
  refine ⟨leading, stem, ?_⟩
  rcases isReplaced with ⟨isNotBare, isReplaced⟩ | ⟨⟨rfl, rfl⟩, isReplaced⟩
  · refine Or.inl ⟨fun isLast => isNotBare ?_, isNonempty, fun role => ?_⟩
    · rw [areSegments] at isLast
      rcases List.eq_nil_or_concat' trailing with rfl | ⟨others, last, rfl⟩
      · rw [List.getLast?_concat] at isLast
        exact ⟨rfl, List.append_cancel_right (Option.some.inj isLast : _ = ['.'] ++ _)⟩
      · rw [← List.cons_append, ← List.append_assoc, List.getLast?_concat] at isLast
        have isNameless := areNameless last (by simp)
        rw [Option.some.inj isLast] at isNameless
        cases isNameless
    · by_cases isDerived : role = .fixture
      · exact ⟨trailing, areNameless, isDerived ▸ areSegments⟩
      · refine ⟨[], Path.areNameless_nil, ?_⟩
        have areFree : ∀ segment ∈ fixture.segments, '/' ∉ segment :=
          fun _ => Path.separator_not_mem_segment
        simp only [areSegments, List.forall_mem_append, List.forall_mem_cons] at areFree
        have stemFree : '/' ∉ stem := fun isThere => areFree.2.1 (List.mem_append_left _ isThere)
        rw [path_ofFixture fixture role isDerived, isReplaced, Path.segments_ofSegments _ (by simp)]
        simp only [List.forall_mem_append, List.forall_mem_singleton]
        exact ⟨areFree.1, Home.separator_notMem_name role stemFree⟩
  · refine Or.inr ⟨areSegments, fun role isDerived => ?_⟩
    rw [path_ofFixture fixture role isDerived, isReplaced]

theorem dots_free {leading : List Text} {last : Text} (areSegments : fixture.segments = leading ++ [last]) :
    ∀ segment ∈ leading ++ [['.', '.']], '/' ∉ segment := by
  have areFree : ∀ segment ∈ fixture.segments, '/' ∉ segment :=
    fun _ => Path.separator_not_mem_segment
  simp only [areSegments, List.forall_mem_append, List.forall_mem_singleton] at areFree ⊢
  exact ⟨areFree.1, by decide⟩

theorem branchesAt (isFixture : fixture.isFixture = true) : ∃ branch, BranchesAt fixture branch := by
  obtain ⟨leading, stem, ⟨_, spells⟩ | ⟨areSegments, areDots⟩⟩ := spells_or_dots isFixture
  · refine ⟨⟨Path.componentsBefore leading, stem⟩, spells.components .fixture, Or.inl ?_, ?_⟩
    · intro role isDerived
      rw [← path_ofFixture fixture role isDerived]
      exact spells.components role
    · intro role isDerived
      rw [← path_ofFixture fixture role isDerived, Path.isFixture, spells.extension?]
      cases role with
      | fixture => exact absurd rfl isDerived
      | source => decide
      | expected => decide
      | generated => decide
      | errorLog => decide
  · have areFreeDots := dots_free areSegments
    refine ⟨⟨Path.componentsBefore leading, ['.']⟩, ?_, Or.inr ⟨rfl, ?_⟩, ?_⟩
    · exact Path.components_of_name areSegments (by decide) (fun _ => by decide) Path.areNameless_nil
    · intro role isDerived
      rw [← path_ofFixture fixture role isDerived, areDots role isDerived]
      exact Path.components_of_name (Path.segments_ofSegments _ (by simp) areFreeDots) (by decide)
        (fun _ => by decide) Path.areNameless_nil
    · intro role isDerived
      rw [← path_ofFixture fixture role isDerived, areDots role isDerived]
      exact isFixture_dots areFreeDots

/-! ### Different fixtures -/

theorem BranchesAt.components_eq {first second : Path} {left right : Branch} {role other : Role}
    (isFirst : BranchesAt first left) (isSecond : BranchesAt second right)
    (isDerived : role ≠ .fixture) (isOther : other ≠ .fixture)
    (same : (first.withExtension role.extension).components =
      (second.withExtension other.extension).components) :
    first.components = second.components := by
  have isBranch : left = right := by
    rcases isFirst.areDerived with areNamed | ⟨isDot, areDots⟩
    · rcases isSecond.areDerived with areOthers | ⟨_, areOthers⟩
      · rw [areNamed role isDerived, areOthers other isOther] at same
        exact Branch.eq_of_components same
      · rw [areNamed role isDerived, areOthers other isOther] at same
        cases (List.cons.inj (List.append_inj_right' same rfl)).1
    · rcases isSecond.areDerived with areOthers | ⟨isOtherDot, areOthers⟩
      · rw [areDots role isDerived, areOthers other isOther] at same
        cases (List.cons.inj (List.append_inj_right' same rfl)).1
      · rw [areDots role isDerived, areOthers other isOther] at same
        exact Branch.ext (List.append_inj_left' same rfl) (isDot.trans isOtherDot.symm)
  rw [isFirst.isFixture, isSecond.isFixture, isBranch]

/-- Different fixtures have no derived path in common, and no derived path is a fixture. -/
theorem derived_disjoint {first second : Path} (isFirst : first.isFixture = true)
    (isSecond : second.isFixture = true) (areDifferent : first.same second = false) :
    (∀ left ∈ (ofFixture first).derived, ∀ right ∈ (ofFixture second).derived,
      left.same right = false) ∧
    (∀ path ∈ (ofFixture first).derived, path.isFixture = false) ∧
    ∀ path ∈ (ofFixture second).derived, path.isFixture = false := by
  obtain ⟨_, firstBranches⟩ := branchesAt isFirst
  obtain ⟨_, secondBranches⟩ := branchesAt isSecond
  refine ⟨?_, ?_, ?_⟩
  · intro left isLeft right isRight
    obtain ⟨role, isDerived, rfl⟩ := exists_role isLeft
    obtain ⟨other, isOther, rfl⟩ := exists_role isRight
    rw [Path.same, decide_eq_false_iff_not] at areDifferent ⊢
    exact fun same =>
      areDifferent (firstBranches.components_eq secondBranches isDerived isOther same)
  · intro path isThere
    obtain ⟨role, isDerived, rfl⟩ := exists_role isThere
    exact firstBranches.isNoFixture role isDerived
  · intro path isThere
    obtain ⟨role, isDerived, rfl⟩ := exists_role isThere
    exact secondBranches.isNoFixture role isDerived

theorem derived_disjoint_nested :
    Path.isFixture ⟨"ops/a.syp.tst"⟩ = true ∧ Path.isFixture ⟨"ops//a.tst/."⟩ = true ∧
      (∀ left ∈ (ofFixture ⟨"ops/a.syp.tst"⟩).derived,
        ∀ right ∈ (ofFixture ⟨"ops//a.tst/."⟩).derived, left.same right = false) ∧
      ∀ path ∈ (ofFixture ⟨"ops/a.syp.tst"⟩).derived, path.isFixture = false := by
  have isFirst : Path.isFixture ⟨"ops/a.syp.tst"⟩ = true := by decide
  have isSecond : Path.isFixture ⟨"ops//a.tst/."⟩ = true := by decide
  have areDisjoint := derived_disjoint isFirst isSecond (by decide)
  exact ⟨isFirst, isSecond, areDisjoint.1, areDisjoint.2.1⟩

end Artifacts
end FixtureRunner
