/-
When a split is all or nothing.

The source is written before the expectation, and nothing takes it back.  So a split either
writes both sections or changes nothing, but for one case: a folder stands where the
expectation belongs, and the source can be written.
-/

import FixtureRunner.Proofs.Fixture.RoundTrip

namespace FixtureRunner

open FixtureRunner.Action

namespace Artifacts

/-- Both sections of the fixture are in their files, and everything else is as before. -/
structure HoldsSections (artifacts : Artifacts) (before after : Disk) : Prop where
  sections : ∃ content source expected, before.read artifacts.fixture = .ok content ∧
    Fixture.sections (Text.decode content) = [source, expected] ∧
    after.read artifacts.source = .ok (Text.encode source) ∧
    after.read artifacts.expected = .ok (Text.encode expected)
  elsewhere : before.SameExcept [artifacts.source, artifacts.expected] after

/-- A split succeeds and both sections are written, or the disk is what it was. -/
def AllOrNothing (artifacts : Artifacts) (before : Disk) (result : Except Failure Split)
    (after : Disk) : Prop :=
  result = .ok .written ∧ artifacts.HoldsSections before after ∨
    result ≠ .ok .written ∧ after = before

/-- The fixture has two sections.  The source can be written, and its file does not hold it yet,
but a folder is where the expectation belongs. -/
structure IsHalfBlocked (artifacts : Artifacts) (disk : Disk) (source : Text) : Prop where
  sections : ∃ content expected, disk.read artifacts.fixture = .ok content ∧
    Fixture.sections (Text.decode content) = [source, expected]
  isOpen : ∀ location, disk.find artifacts.source ≠ .ok (location, .folder)
  isNew : disk.read artifacts.source ≠ .ok (Text.encode source)
  isBlocked : ∃ location, disk.find artifacts.expected = .ok (location, .folder)

variable {artifacts : Artifacts} {home : Home} {workspace : Workspace}

section Blocked

variable {disk : Disk} {source : Text}

theorem IsHalfBlocked.entries (houses : disk.Houses artifacts home)
    (blocked : artifacts.IsHalfBlocked disk source) :
    home.IsOpen disk .source ∧ disk.entryAt? (home.place .expected) = some .folder := by
  obtain ⟨location, isFolder⟩ := blocked.isBlocked
  exact ⟨houses.open_of_find .source blocked.isOpen, houses.folder_of_find .expected isFolder⟩

theorem IsHalfBlocked.text (houses : disk.Houses artifacts home)
    (blocked : artifacts.IsHalfBlocked disk source) :
    ∃ text expected, home.text? disk .fixture = some text ∧
      Fixture.sections text = [source, expected] := by
  obtain ⟨content, expected, isRead, isPair⟩ := blocked.sections
  exact ⟨_, expected, (houses.text?_iff .fixture _).mpr ⟨content, isRead, rfl⟩, isPair⟩

end Blocked

/-! ### Fixtures at home -/

theorem SplitFails.unchanged_or_blocked {before left : Disk} (houses : before.Houses artifacts home)
    (fails : SplitFails home before left) :
    left = before ∨ ∃ source, artifacts.IsHalfBlocked before source := by
  cases fails with
  | unreadable isNoFile => exact Or.inl rfl
  | sourceBlocked isText isPair isFolder => exact Or.inl rfl
  | @expectedBlocked text source expected isText isPair isOpen isFolder =>
      obtain ⟨content, isRead, rfl⟩ := (houses.text?_iff .fixture text).mp isText
      by_cases isSame : before.read artifacts.source = .ok (Text.encode source)
      · left
        obtain ⟨executable, isFile⟩ := (houses.read_eq_ok_iff .source _).mp isSame
        exact Disk.store_eq_self (home.place_ne_nil .source) isFile
      · right
        refine ⟨source, ⟨content, expected, isRead, isPair⟩, ?_, isSame, home.place .expected, ?_⟩
        · intro location found
          exact isOpen (houses.folder_of_find .source found)
        · have found := (houses.routesTo .expected .look).find_eq
          rw [isFolder] at found
          exact found

theorem Splitting.allOrNothing {before left : Disk} {result : Except Failure Split}
    (houses : before.Houses artifacts home) (splitting : Splitting home before result left)
    (isClear : ∀ source, ¬ artifacts.IsHalfBlocked before source) :
    artifacts.AllOrNothing before result left := by
  cases splitting with
  | @written text source expected isText isPair sourceOpen expectedOpen =>
      obtain ⟨content, isRead, rfl⟩ := (houses.text?_iff .fixture text).mp isText
      obtain ⟨isSource, isExpected⟩ :=
        read_split (houses.split source expected sourceOpen expectedOpen)
      have elsewhere : before.SameExcept ([Role.source, .expected].map artifacts.path)
          (home.split before source expected) :=
        houses.sameExcept (home.touches_split before source expected)
      exact Or.inl ⟨rfl, ⟨content, source, expected, isRead, isPair, isSource, isExpected⟩, elsewhere⟩
  | malformed isText isNoPair => exact Or.inr ⟨by simp, rfl⟩
  | failed fails =>
      rcases fails.unchanged_or_blocked houses with unchanged | ⟨source, blocked⟩
      · exact Or.inr ⟨by simp, unchanged⟩
      · exact absurd blocked (isClear source)

theorem IsHalfBlocked.split_run {source : Text} (houses : workspace.disk.Houses artifacts home)
    (blocked : artifacts.IsHalfBlocked workspace.disk source) :
    ∃ after, artifacts.split.run workspace =
        (.error (.access artifacts.expected .isFolder), after) ∧
      after.disk.read artifacts.source = .ok (Text.encode source) ∧
      workspace.disk.SameExcept [artifacts.source] after.disk := by
  obtain ⟨isOpen, isFolder⟩ := blocked.entries houses
  obtain ⟨text, expected, isText, isPair⟩ := blocked.text houses
  obtain ⟨log, ran, _⟩ := split_ends_expectedBlocked houses isText isPair isOpen isFolder _ rfl
  refine ⟨_, ran, ?_, ?_⟩
  · exact ((houses.store _ isOpen).read_eq_ok_iff .source _).mpr
      ⟨workspace.disk.executableAt (home.place .source), by simp⟩
  · have elsewhere : workspace.disk.SameExcept ([Role.source].map artifacts.path)
        (workspace.disk.store (home.place .source) (Text.encode source)) :=
      houses.sameExcept (.store home workspace.disk .source _)
    exact elsewhere

/-! ### Fixtures without a home -/

/-- A fixture has a home, or splitting it changes nothing, and its source cannot be written. -/
theorem houses_or_unsplit {path : Path} (isFixture : path.isFixture = true)
    (noLinks : (ofFixture path).NoLinks workspace.disk) :
    (∃ home, workspace.disk.Houses (ofFixture path) home) ∨
      (ofFixture path).AllOrNothing workspace.disk ((ofFixture path).split.run workspace).1
        ((ofFixture path).split.run workspace).2.disk ∧
      ∀ source, ¬ (ofFixture path).IsHalfBlocked workspace.disk source := by
  cases isRead : workspace.disk.read (ofFixture path).fixture with
  | error cause =>
      right
      rw [split_unreadable isRead]
      refine ⟨Or.inr ⟨by simp, rfl⟩, fun source blocked => ?_⟩
      obtain ⟨content, _, isReadAfterAll, _⟩ := blocked.sections
      rw [isRead] at isReadAfterAll
      cases isReadAfterAll
  | ok content =>
      obtain ⟨folder, name, leads⟩ := Disk.leads_of_read isRead
      rcases Disk.houses_or_folders isFixture leads noLinks with houses | folders
      · exact Or.inl houses
      · right
        obtain ⟨location, routed⟩ := folders .source (by decide)
        refine ⟨?_, fun source blocked =>
          blocked.isOpen location (Disk.find_of_folder (routed .look))⟩
        by_cases isPair : (Fixture.sections (Text.decode content)).length = 2
        · obtain ⟨source, expected, isPair⟩ := List.length_eq_two.mp isPair
          have isUnwritten := Disk.write_of_folder (Text.encode source) (routed .write)
          rw [split_unwritable isRead isPair isUnwritten]
          exact Or.inr ⟨by simp, rfl⟩
        · obtain ⟨log, ran, _⟩ := split_ends_malformed isRead isPair _ rfl
          rw [ran]
          exact Or.inr ⟨by simp, rfl⟩

/-- A split writes both sections or changes nothing, unless a folder stands in the place of the
expectation only; then it fails there, and leaves the source without the expectation. -/
theorem split_allOrNothing_iff {path : Path} {before : Workspace}
    (isFixture : path.isFixture = true) (noLinks : (ofFixture path).NoLinks before.disk) :
    ((ofFixture path).AllOrNothing before.disk ((ofFixture path).split.run before).1
        ((ofFixture path).split.run before).2.disk ↔
      ∀ source, ¬ (ofFixture path).IsHalfBlocked before.disk source) ∧
    ∀ source, (ofFixture path).IsHalfBlocked before.disk source →
      ∃ after, (ofFixture path).split.run before =
          (.error (.access (ofFixture path).expected .isFolder), after) ∧
        after.disk.read (ofFixture path).source = .ok (Text.encode source) ∧
        before.disk.SameExcept [(ofFixture path).source] after.disk := by
  rcases houses_or_unsplit isFixture noLinks with ⟨home, houses⟩ | ⟨isAtomic, isClear⟩
  · refine ⟨⟨?_, ?_⟩, fun source blocked => blocked.split_run houses⟩
    · intro isAtomic source blocked
      obtain ⟨after, ran, isSource, _⟩ := blocked.split_run houses
      rw [ran] at isAtomic
      rcases isAtomic with ⟨isWritten, _⟩ | ⟨_, unchanged⟩
      · cases isWritten
      · rw [unchanged] at isSource
        exact blocked.isNew isSource
    · intro isClear
      obtain ⟨result, left, splitting, ends⟩ := split_ends houses
      obtain ⟨log, ran, _⟩ := ends _ rfl
      rw [ran]
      exact splitting.allOrNothing houses isClear
  · exact ⟨iff_of_true isAtomic isClear, fun source blocked => absurd blocked (isClear source)⟩

def blockedExpectation : Disk :=
  ((Disk.empty ["work"]).put ["work", "a.tst"]
      (.file (Text.toBytes "x\n========\ny\n") false)).put ["work", "a.exp"] .folder

theorem split_allOrNothing_blockedExpectation :
    ∃ after, (ofFixture ⟨"a.tst"⟩).split.run { disk := blockedExpectation } =
        (.error (.access ⟨"a.exp"⟩ .isFolder), after) ∧
      blockedExpectation.find ⟨"a.syp"⟩ = .error .missing ∧
      after.disk.read ⟨"a.syp"⟩ = .ok (Text.toBytes "x\n") ∧
      ¬ (ofFixture ⟨"a.tst"⟩).AllOrNothing blockedExpectation
        (.error (.access ⟨"a.exp"⟩ .isFolder)) after.disk := by
  have noLinks : (ofFixture ⟨"a.tst"⟩).NoLinks { disk := blockedExpectation : Workspace }.disk := by
    intro role
    cases role <;> decide +kernel
  have isMissing : blockedExpectation.find ⟨"a.syp"⟩ = .error .missing := by decide +kernel
  have isFolder : blockedExpectation.find ⟨"a.exp"⟩ = .ok (["work", "a.exp"], .folder) := by
    decide +kernel
  have blocked : (ofFixture ⟨"a.tst"⟩).IsHalfBlocked blockedExpectation "x\n".toList := by
    refine ⟨⟨Text.toBytes "x\n========\ny\n", "\ny\n".toList, ?_, ?_⟩, ?_, ?_, _, isFolder⟩
    · decide +kernel
    · decide +kernel
    · intro location found
      rw [show blockedExpectation.find (ofFixture ⟨"a.tst"⟩).source = .error .missing from
        isMissing] at found
      cases found
    · decide +kernel
  obtain ⟨isExact, stops⟩ :=
    @split_allOrNothing_iff ⟨"a.tst"⟩ { disk := blockedExpectation } sampleIsFixture noLinks
  obtain ⟨after, ran, isSource, _⟩ := stops _ blocked
  refine ⟨after, ran, isMissing, isSource, fun isAtomic => ?_⟩
  rw [ran] at isExact
  exact isExact.mp isAtomic _ blocked

end Artifacts

end FixtureRunner
